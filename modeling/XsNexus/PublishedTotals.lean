import XsNexus.PeerTelemetry

namespace XsNexus

open BigOperators ByteCodec Checks FiniteMap MachineWords Relation Runs

/-- The peers stay where they are, whatever becomes of each, and nothing retires. -/
structure PeersStay (dp dp' : UdpDataPlane) : Prop where
  retired : dp'.retiredTelemetry = dp.retiredTelemetry
  peers : ∀ ip ∈ dp.peersByVirtualIp, ip ∈ dp'.peersByVirtualIp

namespace PeersStay

variable {dp dp' dp'' : UdpDataPlane}

theorem refl (dp : UdpDataPlane) : PeersStay dp dp := ⟨rfl, fun _ h => h⟩

theorem trans (h : PeersStay dp dp') (h' : PeersStay dp' dp'') : PeersStay dp dp'' :=
  ⟨h'.retired.trans h.retired, fun ip hip => h'.peers ip (h.peers ip hip)⟩

theorem same (hretired : dp'.retiredTelemetry = dp.retiredTelemetry)
    (hpeers : dp'.peersByVirtualIp = dp.peersByVirtualIp) : PeersStay dp dp' :=
  ⟨hretired, fun _ h => hpeers ▸ h⟩

theorem putPeer (dp : UdpDataPlane) (ip : Ipv4Addr) (peer : Peer) :
    PeersStay dp (dp.putPeer ip peer) := by
  refine ⟨rfl, fun other h => ?_⟩
  unfold UdpDataPlane.putPeer
  exact (AList.mem_insert dp.peersByVirtualIp).mpr (Or.inr h)

end PeersStay

namespace UdpDataPlane

variable {c : Crypto} {f : Formats}

theorem sendXsp_stays (dp : UdpDataPlane) (transmission : Transmission) (reads : SendReads) :
    PeersStay dp (dp.sendXsp transmission reads).dataPlane := by
  unfold sendXsp
  dsimp only
  split
  next =>
    split
    next => exact .refl dp
    next => split <;> exact .same rfl rfl
  next => exact .refl dp

theorem sendAll_stays (dp : UdpDataPlane) (transmissions : List Transmission)
    (reads : Nat → SendReads) : PeersStay dp (dp.sendAll transmissions reads).dataPlane := by
  induction transmissions generalizing dp reads with
  | nil => exact .refl dp
  | cons transmission transmissions ih =>
    unfold sendAll
    dsimp only
    split
    next => exact sendXsp_stays dp transmission (reads 0)
    next => exact (sendXsp_stays dp transmission (reads 0)).trans (ih _ _)

theorem rebuildEndpointIndex_stays (dp : UdpDataPlane) : PeersStay dp dp.rebuildEndpointIndex.2 := by
  unfold rebuildEndpointIndex
  split
  next => exact .refl dp
  next => exact .same rfl rfl

theorem mem_failRelayPaths {peers : Map Ipv4Addr Peer} {failedEndpoints : List SocketAddr} {now : Nat}
    {ip : Ipv4Addr} (h : ip ∈ peers) : ip ∈ failRelayPaths peers failedEndpoints now := by
  obtain ⟨peer, hl⟩ := mem_iff_lookup.mp h
  refine mem_iff_lookup.mpr ⟨peer.failRelayPaths failedEndpoints now, ?_⟩
  rw [lookup_failRelayPaths, hl]
  rfl

theorem failRelayPaths_stays (dp : UdpDataPlane) (manager : RelayManager)
    (failedEndpoints : List SocketAddr) (now : Nat) :
    PeersStay dp { dp with
      relayManager := manager
      peersByVirtualIp := failRelayPaths dp.peersByVirtualIp failedEndpoints now } :=
  ⟨rfl, fun _ h => mem_failRelayPaths h⟩

theorem pruneExpiredCandidates_stays (dp : UdpDataPlane) (now : Int) :
    PeersStay dp (dp.pruneExpiredCandidates now).2 := by
  have hpruned : PeersStay dp { dp with
      peersByVirtualIp := mapWithKey (fun _ peer => peer.pruneExpiredCandidates now)
        dp.peersByVirtualIp } := by
    refine ⟨rfl, fun ip h => ?_⟩
    obtain ⟨peer, hl⟩ := mem_iff_lookup.mp h
    refine mem_iff_lookup.mpr ⟨peer.pruneExpiredCandidates now, ?_⟩
    rw [lookup_mapWithKey, hl]
    rfl
  exact hpruned.trans (rebuildEndpointIndex_stays _)

theorem maintainPeers_stays (dp : UdpDataPlane) (now : Nat) (reads : Ipv4Addr → MaintainReads) :
    PeersStay dp (dp.maintainPeers c now reads).2 :=
  ⟨rfl, fun _ h => mem_visit.mpr h⟩

theorem forwardPrepared_stays (dp : UdpDataPlane) (packet : Bytes) (reads : ForwardReads) :
    PeersStay dp (dp.forwardPrepared c packet reads).2 := by
  unfold forwardPrepared
  split
  next => exact .refl dp
  next =>
    split
    next => exact .refl dp
    next =>
      split
      next => exact .refl dp
      next =>
        split
        next => exact .refl dp
        next =>
          split
          next => exact .refl dp
          next => exact .putPeer dp _ _

theorem receivePrepared_stays (dp : UdpDataPlane) (source : SocketAddr) (datagram : Bytes)
    (reads : ReceiveReads) : PeersStay dp (dp.receivePrepared c source datagram reads).2 := by
  unfold receivePrepared
  dsimp only
  split
  next => exact .refl dp
  next =>
    split
    next => exact .refl dp
    next unixNow _ =>
      have hresolved : PeersStay dp (dp.resolveInboundPeer c (normalizeEndpoint source) datagram
          reads.instant unixNow).2 := by
        rw [resolveInboundPeer_snd]
        exact .same rfl rfl
      split
      next h =>
        rw [h] at hresolved
        exact hresolved
      next inbound resolved h =>
        rw [h] at hresolved
        split
        next => exact hresolved
        next =>
          dsimp only
          split
          next =>
            exact hresolved.trans ((PeersStay.putPeer resolved inbound.virtualIp _).trans
              (.same rfl rfl))
          next => exact hresolved.trans (.putPeer resolved inbound.virtualIp _)

theorem maintainPrepared_stays (dp : UdpDataPlane) (reads : UpkeepReads) :
    PeersStay dp (dp.maintainPrepared c reads).dataPlane := by
  have hpruned := pruneExpiredCandidates_stays dp reads.pruneUtc
  unfold maintainPrepared
  split
  next h =>
    rw [h] at hpruned
    exact hpruned
  next pruned h =>
    rw [h] at hpruned
    split
    next => exact hpruned
    next =>
      dsimp only
      split
      next => exact hpruned.trans (.same rfl rfl)
      next maintenance _ =>
        exact (hpruned.trans (failRelayPaths_stays _ _ _ _)).trans (maintainPeers_stays _ _ _)

theorem forwardTun_stays (dp : UdpDataPlane) (packet : Bytes) (reads : ForwardReads) :
    PeersStay dp (dp.forwardTun c packet reads).dataPlane := by
  have hprepared := forwardPrepared_stays (c := c) dp packet reads
  rw [forwardTun_eq]
  rcases hcall : dp.forwardPrepared c packet reads with ⟨outcome, prepared⟩
  rw [hcall] at hprepared
  cases outcome with
  | error e => exact hprepared
  | ok outcome =>
    cases outcome with
    | dropped => exact hprepared
    | queued => exact hprepared
    | sent established transmission =>
      exact hprepared.trans (sendXsp_stays prepared transmission reads.send)

theorem receive_stays (dp : UdpDataPlane) (source : SocketAddr) (datagram : Bytes)
    (reads : ReceiveReads) : PeersStay dp (dp.receive c source datagram reads).dataPlane := by
  have hprepared := receivePrepared_stays (c := c) dp source datagram reads
  rw [receive_eq]
  rcases hcall : dp.receivePrepared c source datagram reads with ⟨result, prepared⟩
  rw [hcall] at hprepared
  cases result with
  | error e => exact hprepared
  | ok received =>
    have hsent := hprepared.trans (sendAll_stays prepared received.transmissions reads.sends)
    dsimp only
    split
    next => exact hsent
    next =>
      split
      next => exact hsent.trans (rebuildEndpointIndex_stays _)
      next => exact hsent

theorem maintain_stays (dp : UdpDataPlane) (reads : UpkeepReads) :
    PeersStay dp (dp.maintain c reads).dataPlane := by
  have hprepared := maintainPrepared_stays (c := c) dp reads
  rw [maintain_eq]
  dsimp only
  split
  next => exact hprepared
  next =>
    split
    next => exact hprepared.trans (sendAll_stays _ _ _)
    next => exact hprepared.trans (sendAll_stays _ _ _)

theorem startManualPathProbe_stays (dp : UdpDataPlane) (virtualIp : Ipv4Addr) (now : Nat)
    (reads : ProbeReads) (send : SendReads) :
    PeersStay dp (dp.startManualPathProbe c virtualIp now reads send).dataPlane := by
  unfold startManualPathProbe
  split
  next => exact .refl dp
  next peer _ =>
    obtain ⟨probe, after, hprobe⟩ : ∃ probe after,
      peer.startManualPathProbe c now reads = (probe, after) := ⟨_, _, rfl⟩
    have hput := PeersStay.putPeer dp virtualIp after
    rw [hprobe]
    dsimp only
    split
    next => exact hput
    next transmission =>
      have hsent := hput.trans (sendXsp_stays (dp.putPeer virtualIp after) transmission send)
      split
      next => exact hsent
      next => exact hsent
      next => exact hsent.trans (.putPeer _ virtualIp _)

end UdpDataPlane

/-- Where the peers stay, each with more behind it, no total goes back. -/
theorem telemetryTotals_le {c : Crypto} {f : Formats} {dp dp' : UdpDataPlane}
    (hstay : PeersStay dp dp') (hevolves : Evolves c f (fun _ _ => False) dp dp') :
    dp.telemetryTotals ≤ dp'.telemetryTotals := by
  rw [telemetryTotals_eq, telemetryTotals_eq, hstay.retired]
  refine TelemetryCounters.add_le_add_left ?_ dp.retiredTelemetry
  refine total_le_total (fun _ peer => TelemetryCounters.zero_le peer.telemetry) fun ip peer hl => ?_
  obtain ⟨peer', hl'⟩ := mem_iff_lookup.mp (hstay.peers ip (mem_iff_lookup.mpr ⟨peer, hl⟩))
  refine ⟨peer', hl', ?_⟩
  obtain ⟨first, hfirst, hchanges⟩ := hevolves.peers hl'
  have hsame : first = peer := by
    rcases hfirst with hfirst | hfirst
    · exact Option.some.inj (hfirst.symm.trans hl)
    · exact hfirst.elim
  rw [hsame] at hchanges
  clear hl'
  induction hchanges with
  | refl => exact le_refl _
  | tail _ hchange ih =>
    cases hchange with
    | call op => exact ih.trans (Peer.apply_telemetry c dp.material _ op)
    | counted plaintext => exact ih.trans (Peer.countReceived_telemetry _ plaintext)

/-- What an update retires for a virtual address: the peer there, when another node takes its place. -/
def replacedAt (dp : UdpDataPlane) (peers : Map Ipv4Addr Peer) (ip : Ipv4Addr) : TelemetryCounters :=
  (((peers.lookup ip).bind fun replacement => (dp.peersByVirtualIp.lookup ip).filter fun existing =>
    existing.nodeId ≠ replacement.nodeId).map Peer.telemetry).getD 0

/-- The counters of an address are in one place after an update: with the peer that was replaced,
with the one that was left out, or with the one that stays. -/
theorem replacePeers_weightAt (dp : UdpDataPlane) (desired : Map SocketAddr RelayClient)
    (peers : Map Ipv4Addr Peer) (changed : Bool) (reads : ConfigurationReads) (ip : Ipv4Addr)
    (hnew : ∀ peer, peers.lookup ip = some peer → peer.telemetry = 0) :
    replacedAt dp peers ip +
        weightAt (fun _ peer => peer.telemetry) (eraseAll dp.peersByVirtualIp peers.keys) ip +
        weightAt (fun _ peer => peer.telemetry)
          (dp.replacePeers desired peers changed reads).peersByVirtualIp ip =
      weightAt (fun _ peer => peer.telemetry) dp.peersByVirtualIp ip := by
  unfold replacedAt weightAt
  rw [lookup_replacePeers, lookup_eraseAll]
  cases hreplacement : peers.lookup ip with
  | none =>
    have hkey : ip ∉ peers.keys := fun h => by
      have hmem := AList.mem_keys.mpr h
      rw [← AList.lookup_isSome, hreplacement] at hmem
      simp at hmem
    rw [if_neg hkey]
    simp
  | some replacement =>
    have hkey : ip ∈ peers.keys := AList.mem_keys.mp (mem_iff_lookup.mpr ⟨_, hreplacement⟩)
    have hzero := hnew replacement hreplacement
    rw [if_pos hkey]
    cases dp.peersByVirtualIp.lookup ip with
    | none =>
      simp [UdpDataPlane.adoptPeer, Peer.failRelayPaths_telemetry, hzero]
    | some existing =>
      by_cases hnode : existing.nodeId = replacement.nodeId
      · simp [UdpDataPlane.adoptPeer, Peer.failRelayPaths_telemetry,
          Peer.applyConfiguration_telemetry, Option.filter_some, hnode]
      · simp [UdpDataPlane.adoptPeer, Peer.failRelayPaths_telemetry, Option.filter_some, hnode, hzero]

/-- An update moves the counters of every peer that is replaced or left out, and of no other: the
totals are what they were. -/
theorem replacePeers_telemetryTotals (dp : UdpDataPlane) (desired : Map SocketAddr RelayClient)
    (peers : Map Ipv4Addr Peer) (changed : Bool) (reads : ConfigurationReads)
    (hnew : ∀ ip peer, peers.lookup ip = some peer → peer.telemetry = 0) :
    (dp.replacePeers desired peers changed reads).telemetryTotals = dp.telemetryTotals := by
  let after := (dp.replacePeers desired peers changed reads).peersByVirtualIp
  let keys := dp.peersByVirtualIp.keys.toFinset ∪ peers.keys.toFinset
  have hbefore : ∀ ip ∈ dp.peersByVirtualIp, ip ∈ keys := fun ip h =>
    Finset.mem_union_left _ (List.mem_toFinset.mpr (AList.mem_keys.mp h))
  have hpeers : ∀ ip ∈ peers, ip ∈ keys := fun ip h =>
    Finset.mem_union_right _ (List.mem_toFinset.mpr (AList.mem_keys.mp h))
  have hafter : ∀ ip ∈ after, ip ∈ keys := by
    intro ip h
    obtain ⟨peer, hl⟩ := mem_iff_lookup.mp h
    rw [lookup_replacePeers] at hl
    obtain ⟨replacement, hreplacement, _⟩ := Option.map_eq_some_iff.mp hl
    exact hpeers ip (mem_iff_lookup.mpr ⟨replacement, hreplacement⟩)
  have hdropped : ∀ ip ∈ eraseAll dp.peersByVirtualIp peers.keys, ip ∈ keys := by
    intro ip h
    obtain ⟨peer, hl⟩ := mem_iff_lookup.mp h
    rw [lookup_eraseAll] at hl
    split at hl
    next => simp at hl
    next => exact hbefore ip (mem_iff_lookup.mpr ⟨peer, hl⟩)
  have hretired : (dp.replacePeers desired peers changed reads).retiredTelemetry =
      dp.retiredTelemetry + (∑ ip ∈ keys, replacedAt dp peers ip + ∑ ip ∈ keys,
        weightAt (fun _ peer => peer.telemetry) (eraseAll dp.peersByVirtualIp peers.keys) ip) := by
    show dp.retireTelemetry peers = _
    unfold UdpDataPlane.retireTelemetry replacedAt
    rw [foldl_addPeer, List.map_append, List.sum_append]
    rw [sum_filterMap_entries Peer.telemetry (fun ip replacement =>
      (dp.peersByVirtualIp.lookup ip).filter fun existing => existing.nodeId ≠ replacement.nodeId)
        hpeers]
    rw [← total_eq_sum (fun _ peer => peer.telemetry) hdropped, List.map_map]
    rfl
  rw [telemetryTotals_eq, telemetryTotals_eq, hretired, total_eq_sum _ hafter, total_eq_sum _ hbefore,
    add_assoc, ← Finset.sum_add_distrib, ← Finset.sum_add_distrib]
  refine congrArg (dp.retiredTelemetry + ·) (Finset.sum_congr rfl fun ip _ => ?_)
  exact replacePeers_weightAt dp desired peers changed reads ip (hnew ip)

theorem rebuildEndpointIndex_telemetryTotals (dp : UdpDataPlane) :
    dp.rebuildEndpointIndex.2.telemetryTotals = dp.telemetryTotals := by
  unfold UdpDataPlane.rebuildEndpointIndex
  split
  next => rfl
  next => rfl

theorem applyConfiguration_telemetryTotals (c : Crypto) (f : Formats) (dp : UdpDataPlane)
    (state : NodeState) (reads : ConfigurationReads) :
    (dp.applyConfiguration c f state reads).2.telemetryTotals = dp.telemetryTotals := by
  by_cases hparts : ∃ aclPolicy subnetRoutes desired, compileAcl f state = .ok aclPolicy ∧
    compileSubnetRoutes f state = .ok subnetRoutes ∧
    relayClients c f state.configurationPayload.relays reads.relayInstant reads.relayUtc = .ok desired
  case neg => rw [(applyConfiguration_refused dp hparts).2]
  obtain ⟨aclPolicy, subnetRoutes, desired, hacl, hroutes, hdesired⟩ := hparts
  have hreplaced : ∀ directory, dp.newDirectory f state desired reads = .ok directory →
      (dp.replacePeers desired directory.peers (policyChanged dp state) reads).telemetryTotals =
        dp.telemetryTotals := by
    intro directory hdirectory
    refine replacePeers_telemetryTotals dp desired directory.peers _ reads fun ip peer hl => ?_
    obtain ⟨node, _, henters⟩ := ((buildPeerDirectory_contents hdirectory).2 ip peer).mp hl
    obtain ⟨directEndpoints, _, hnew⟩ := henters.entered
    rw [hnew]
    rfl
  rcases applyConfiguration_cases dp hacl hroutes hdesired with
    ⟨e, _, h⟩ | ⟨directory, hdirectory, ⟨e, _, h⟩ | ⟨_, h⟩⟩
  · rw [h]
    rfl
  · rw [h]
    exact hreplaced directory hdirectory
  · rw [h]
    exact (rebuildEndpointIndex_telemetryTotals _).trans (hreplaced directory hdirectory)

theorem apply_telemetryTotals (c : Crypto) (f : Formats) (dp : UdpDataPlane) (op : DataPlaneOp) :
    dp.telemetryTotals ≤ (dp.apply c f op).2.telemetryTotals := by
  cases op with
  | forwardTun packet reads =>
    exact telemetryTotals_le (f := f) (UdpDataPlane.forwardTun_stays dp packet reads)
      (UdpDataPlane.forwardTun_evolves dp packet reads)
  | receive source datagram reads =>
    exact telemetryTotals_le (f := f) (UdpDataPlane.receive_stays dp source datagram reads)
      (UdpDataPlane.receive_evolves dp source datagram reads)
  | maintain reads =>
    exact telemetryTotals_le (f := f) (UdpDataPlane.maintain_stays dp reads)
      (UdpDataPlane.maintain_evolves dp reads)
  | startManualPathProbe virtualIp now reads send =>
    exact telemetryTotals_le (f := f)
      (UdpDataPlane.startManualPathProbe_stays dp virtualIp now reads send)
      (UdpDataPlane.startManualPathProbe_evolves dp virtualIp now reads send)
  | applyConfiguration state reads =>
    exact (applyConfiguration_telemetryTotals c f dp state reads).ge

/-- In every run of a data plane, what `synchronize_status` publishes after more of the run is in no
total behind what it published before. -/
theorem published_totals_monotone (c : Crypto) (f : Formats) (dp : UdpDataPlane)
    (earlier later : List DataPlaneOp) :
    let before := (final (UdpDataPlane.apply c f) dp earlier).telemetryTotals
    let after := (final (UdpDataPlane.apply c f) dp (earlier ++ later)).telemetryTotals
    before.txBytes ≤ after.txBytes ∧ before.rxBytes ≤ after.rxBytes ∧
      before.handshakeAttempts ≤ after.handshakeAttempts ∧
      before.handshakeSuccesses ≤ after.handshakeSuccesses ∧
      before.latencySamples ≤ after.latencySamples ∧
      before.latencyMicroseconds ≤ after.latencyMicroseconds := by
  intro before after
  have hgrows : before ≤ after := by
    show _ ≤ (final (UdpDataPlane.apply c f) dp (earlier ++ later)).telemetryTotals
    rw [final_append]
    have hstart := le_refl before
    exact run_keeps (P := fun reached => before ≤ reached.telemetryTotals)
      (fun reached op h _ => h.trans (apply_telemetryTotals c f reached op)) later hstart
      (along_true _ _ later)
  exact ⟨hgrows.txBytes, hgrows.rxBytes, hgrows.handshakeAttempts, hgrows.handshakeSuccesses,
    hgrows.latencySamples, hgrows.latencyMicroseconds⟩

end XsNexus
