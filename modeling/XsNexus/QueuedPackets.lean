import XsNexus.DataPlaneRuns

namespace XsNexus

open ByteCodec FiniteMap

namespace Peer

variable {c : Crypto} {peer peer' : Peer}

/-- The session a peer comes to share while it handles a datagram. -/
def finishedSession (c : Crypto) (peer : Peer) (datagram : Bytes) : Option EstablishedSession :=
  match peer.state with
  | .serverHello pending =>
    if datagram[5]? = some clientFinishType then
      (pending.machine.acceptClientFinish c datagram).map Prod.fst
    else none
  | .clientFinish pending =>
    if datagram[5]? = some serverFinishType then pending.machine.acceptServerFinish c datagram
    else none
  | _ => none

/-- The packets of its queue that `install_session` takes up while a peer handles a datagram. -/
def sealedPackets (c : Crypto) (peer : Peer) (datagram : Bytes) : List QueuedPacket :=
  if (peer.finishedSession c datagram).isSome then peer.queuedPackets else []

theorem installSession_queue (c : Crypto) (peer : Peer) (session : EstablishedSession)
    (instant : Nat) : (peer.installSession c session instant).2.queuedPackets = [] := by
  obtain ⟨_, _, h⟩ | ⟨_, _, _, _, _, _, _, _, _, h⟩ :=
    installSession_cases (Prod.mk.eta (p := peer.installSession c session instant)).symm
  · rw [h]
    rfl
  · rw [h]

/-- The last message of a handshake that a peer finishes as its server. -/
def finishAnswer (c : Crypto) (peer : Peer) (datagram : Bytes) : List Bytes :=
  match peer.state with
  | .serverHello pending => ((pending.machine.acceptClientFinish c datagram).map Prod.snd).toList
  | _ => []

/-- A peer that finishes a handshake answers with its queue, sealed for the new session. -/
theorem processDatagram_finishes (material : LocalMaterial) {datagram : Bytes}
    {session : EstablishedSession} (h : peer.finishedSession c datagram = some session)
    (source : SocketAddr) (now : Nat) (allowRoutedData : Bool) (reads : DatagramReads) :
    (peer.processDatagram c material source datagram now allowRoutedData reads).1.outbound =
        peer.finishAnswer c datagram ++ ({ peer with state := .idle }.installSession c session reads.instant).1 ∧
      (peer.processDatagram c material source datagram now allowRoutedData reads).2 =
        ({ peer with state := .idle }.installSession c session reads.instant).2 := by
  unfold finishedSession at h
  split at h
  next pending hstate =>
    split at h
    next htype =>
      obtain ⟨⟨_, serverFinish⟩, haccept, heq⟩ := Option.map_eq_some_iff.mp h
      cases heq
      have hprocess : peer.processDatagram c material source datagram now allowRoutedData reads =
          peer.handleClientFinish c datagram reads.instant := by
        unfold processDatagram
        rw [htype]
        rfl
      rw [hprocess]
      unfold handleClientFinish finishAnswer
      rw [hstate]
      dsimp only
      rw [haccept]
      exact ⟨rfl, rfl⟩
    next => simp at h
  next pending hstate =>
    split at h
    next htype =>
      have hprocess : peer.processDatagram c material source datagram now allowRoutedData reads =
          peer.handleServerFinish c datagram reads.instant := by
        unfold processDatagram
        rw [htype]
        rfl
      rw [hprocess]
      unfold handleServerFinish finishAnswer
      rw [hstate]
      dsimp only
      rw [h]
      exact ⟨rfl, rfl⟩
    next => simp at h
  next => simp at h

theorem processDatagram_finished (material : LocalMaterial) {datagram : Bytes}
    {session : EstablishedSession} (h : peer.finishedSession c datagram = some session)
    (source : SocketAddr) (now : Nat) (allowRoutedData : Bool) (reads : DatagramReads) :
    ∃ control,
      (peer.processDatagram c material source datagram now allowRoutedData reads).1.outbound =
        control ++ ({ peer with state := .idle }.installSession c session reads.instant).1 ∧
      (peer.processDatagram c material source datagram now allowRoutedData reads).2 =
        ({ peer with state := .idle }.installSession c session reads.instant).2 :=
  ⟨_, processDatagram_finishes material h source now allowRoutedData reads⟩

/-- Without a handshake that finishes, no session is installed. -/
theorem processDatagram_unfinished {material : LocalMaterial} {source : SocketAddr}
    {datagram : Bytes} {now : Nat} {allowRoutedData : Bool} {reads : DatagramReads} {result : ProcessResult}
    (h : peer.processDatagram c material source datagram now allowRoutedData reads =
      (result, peer')) (hfinished : peer.finishedSession c datagram = none)
    (hsession : peer'.state.isEstablished = true) : peer.state.isEstablished = true := by
  rcases processDatagram_cases h with ⟨_, hh⟩ | ⟨_, hh⟩ | ⟨htype, hh⟩ | ⟨htype, hh⟩ | ⟨_, hh⟩
  · rcases handleClientHello_cases hh with ⟨_, _, _, hp⟩ | ⟨_, _, hp⟩ | ⟨_, _, _, _, _, hp⟩
    · rw [hp] at hsession
      exact hsession
    · rw [hp] at hsession
      exact hsession
    · rw [hp] at hsession
      exact absurd hsession (by simp [startServerHandshake, PeerState.isEstablished])
  · rcases handleServerHello_cases hh with ⟨_, _, _, hp⟩ | ⟨_, _, _, _, _, _, _, hp⟩ |
      ⟨_, _, _, hp | ⟨_, hp⟩⟩ | ⟨_, _, _, hp⟩
    · rw [hp] at hsession
      exact hsession
    · rw [hp] at hsession
      exact absurd hsession (by simp [PeerState.isEstablished])
    · rw [hp] at hsession
      exact absurd hsession (by simp [clearQueue, PeerState.isEstablished])
    · rw [hp] at hsession
      exact absurd hsession (by simp [PeerState.isEstablished])
    · rw [hp] at hsession
      exact hsession
  · rcases handleClientFinish_cases hh with ⟨_, session, _, hs, ha, _⟩ | ⟨_, _, _, hp⟩ | ⟨_, _, hp⟩
    · have hfinish : peer.finishedSession c datagram = some session := by
        unfold finishedSession
        rw [hs]
        dsimp only
        rw [if_pos htype, ha]
        rfl
      rw [hfinish] at hfinished
      cases hfinished
    · rw [hp] at hsession
      exact absurd hsession (by simp [clearQueue, PeerState.isEstablished])
    · rw [hp] at hsession
      exact hsession
  · rcases handleServerFinish_cases hh with ⟨_, session, hs, ha, _⟩ | ⟨_, _, _, hp⟩ | ⟨_, _, hp⟩
    · have hfinish : peer.finishedSession c datagram = some session := by
        unfold finishedSession
        rw [hs]
        dsimp only
        rw [if_pos htype, ha]
      rw [hfinish] at hfinished
      cases hfinished
    · rw [hp] at hsession
      exact absurd hsession (by simp [clearQueue, PeerState.isEstablished])
    · rw [hp] at hsession
      exact hsession
  · rcases hh with hh | ⟨_, hp⟩
    · rcases handleData_cases hh with ⟨_, _, hp⟩ | ⟨_, _, _, _, hp⟩ | ⟨_, _, _, _, hs, _⟩
      · rw [hp] at hsession
        exact hsession
      · rw [hp] at hsession
        exact hsession
      · rw [hs]
        rfl
    · rw [hp] at hsession
      exact hsession

/-- No datagram adds to the queue of a peer. -/
theorem processDatagram_queue {material : LocalMaterial} {source : SocketAddr}
    {datagram : Bytes} {now : Nat} {allowRoutedData : Bool} {reads : DatagramReads} {result : ProcessResult}
    (h : peer.processDatagram c material source datagram now allowRoutedData reads =
      (result, peer')) : peer'.queuedPackets ⊆ peer.queuedPackets := by
  have hsame : peer' = peer → peer'.queuedPackets ⊆ peer.queuedPackets := by
    intro heq
    rw [heq]
    exact List.Subset.refl _
  have hempty : peer'.queuedPackets = [] → peer'.queuedPackets ⊆ peer.queuedPackets := by
    intro heq
    rw [heq]
    exact List.nil_subset _
  rcases processDatagram_cases h with ⟨_, hh⟩ | ⟨_, hh⟩ | ⟨_, hh⟩ | ⟨_, hh⟩ | ⟨_, hh⟩
  · rcases handleClientHello_cases hh with ⟨_, _, _, hp⟩ | ⟨_, _, hp⟩ | ⟨_, _, _, _, _, hp⟩
    · exact hsame hp
    · rw [hp]
      exact List.Subset.refl _
    · rw [hp]
      exact List.Subset.refl _
  · rcases handleServerHello_cases hh with ⟨_, _, _, hp⟩ | ⟨_, _, _, _, _, _, _, hp⟩ |
      ⟨_, _, _, hp | ⟨_, hp⟩⟩ | ⟨_, _, _, hp⟩
    · exact hsame hp
    · rw [hp]
      exact List.Subset.refl _
    · exact hempty (by rw [hp]; rfl)
    · rw [hp]
      exact List.Subset.refl _
    · exact hsame hp
  · rcases handleClientFinish_cases hh with ⟨_, _, _, _, _, _, _, hp⟩ | ⟨_, _, _, hp⟩ | ⟨_, _, hp⟩
    · exact hempty (by rw [hp, installSession_queue])
    · exact hempty (by rw [hp]; rfl)
    · exact hsame hp
  · rcases handleServerFinish_cases hh with ⟨_, _, _, _, _, _, hp⟩ | ⟨_, _, _, hp⟩ | ⟨_, _, hp⟩
    · exact hempty (by rw [hp, installSession_queue])
    · exact hempty (by rw [hp]; rfl)
    · exact hsame hp
  · rcases hh with hh | ⟨_, hp⟩
    · rcases handleData_cases hh with ⟨_, _, hp⟩ | ⟨_, _, _, _, hp⟩ |
        ⟨_, _, _, _, _, _, hp | ⟨pending, _, _, _, hp⟩, _⟩
      · exact hsame hp
      · exact hsame hp
      · rw [hp]
        exact List.Subset.refl _
      · rw [hp]
        unfold completePathProbe
        dsimp only
        split <;> exact List.Subset.refl _
    · exact hsame hp

theorem failRelayPaths_queue (peer : Peer) (failedEndpoints : List SocketAddr) (now : Nat) :
    (peer.failRelayPaths failedEndpoints now).queuedPackets ⊆ peer.queuedPackets := by
  induction failedEndpoints generalizing peer with
  | nil => exact List.Subset.refl _
  | cons endpoint failedEndpoints ih =>
    exact List.Subset.trans (ih _) (failRelayPath_keepsQueue peer endpoint now).remembers.queuedPackets

/-- Only a packet of the TUN adds to the queue of a peer. -/
theorem apply_queue (c : Crypto) (material : LocalMaterial) (peer : Peer) (op : PeerOp)
    (hop : ∀ packet routedPacket now reads, op ≠ .forwardTun packet routedPacket now reads) :
    (peer.apply c material op).2.queuedPackets ⊆ peer.queuedPackets := by
  cases op with
  | datagram source packet now allowRoutedData throughRelay reads =>
    have hreceive := (receive_keepsQueue c material peer source packet now allowRoutedData
      throughRelay reads).remembers.queuedPackets
    exact List.Subset.trans hreceive (processDatagram_queue Prod.mk.eta.symm)
  | maintain now counters reads =>
    exact (maintain_keepsQueue c material peer now counters reads).remembers.queuedPackets
  | forwardTun packet routedPacket now reads => exact absurd rfl (hop packet routedPacket now reads)
  | startManualPathProbe now reads =>
    exact (startManualPathProbe_keepsQueue c peer now reads).remembers.queuedPackets
  | manualPathProbeUnsent => exact List.Subset.refl _
  | pruneExpiredCandidates now => exact (pruneExpiredCandidates_keepsQueue peer now).remembers.queuedPackets
  | applyConfiguration candidates policyChanged now =>
    exact (applyConfiguration_keepsQueue peer candidates policyChanged now).1.remembers.queuedPackets
  | failRelayPath failedEndpoint now =>
    exact (failRelayPath_keepsQueue peer failedEndpoint now).remembers.queuedPackets

end Peer

namespace UdpDataPlane

/-- The packets in the queues of the peers, each with the address of its peer. -/
def queued (dp : UdpDataPlane) : List (Ipv4Addr × QueuedPacket) :=
  dp.peersByVirtualIp.entries.flatMap fun entry =>
    entry.2.queuedPackets.map fun packet => (entry.1, packet)

/-- All that decides over packets is as it was, and only `fresh` packets have joined the queues. -/
structure KeepsQueues (fresh : Ipv4Addr → QueuedPacket → Prop) (dp dp' : UdpDataPlane) : Prop where
  material : dp'.material = dp.material
  aclPolicy : dp'.aclPolicy = dp.aclPolicy
  subnetRoutes : dp'.subnetRoutes = dp.subnetRoutes
  localNodeIdBase64 : dp'.localNodeIdBase64 = dp.localNodeIdBase64
  peers : ∀ ip, ip ∈ dp'.peersByVirtualIp ↔ ip ∈ dp.peersByVirtualIp
  queues : ∀ {ip packet}, (ip, packet) ∈ dp'.queued → (ip, packet) ∈ dp.queued ∨ fresh ip packet

theorem mem_queued {dp : UdpDataPlane} {ip : Ipv4Addr} {packet : QueuedPacket} :
    (ip, packet) ∈ dp.queued ↔
      ∃ peer, dp.peersByVirtualIp.lookup ip = some peer ∧ packet ∈ peer.queuedPackets := by
  unfold queued
  rw [List.mem_flatMap]
  constructor
  · rintro ⟨entry, hentry, hmem⟩
    obtain ⟨packet, hpacket, heq⟩ := List.mem_map.mp hmem
    cases heq
    exact ⟨entry.2, lookup_eq_some.mpr hentry, hpacket⟩
  · rintro ⟨peer, hl, hpacket⟩
    exact ⟨⟨ip, peer⟩, lookup_eq_some.mp hl, List.mem_map_of_mem hpacket⟩

namespace KeepsQueues

variable {fresh : Ipv4Addr → QueuedPacket → Prop} {dp dp' dp'' : UdpDataPlane}

theorem refl (dp : UdpDataPlane) : KeepsQueues fresh dp dp :=
  ⟨rfl, rfl, rfl, rfl, fun _ => Iff.rfl, Or.inl⟩

theorem trans (h : KeepsQueues fresh dp dp') (h' : KeepsQueues fresh dp' dp'') : KeepsQueues fresh dp dp'' where
  material := h'.material.trans h.material
  aclPolicy := h'.aclPolicy.trans h.aclPolicy
  subnetRoutes := h'.subnetRoutes.trans h.subnetRoutes
  localNodeIdBase64 := h'.localNodeIdBase64.trans h.localNodeIdBase64
  peers ip := (h'.peers ip).trans (h.peers ip)
  queues hmem := (h'.queues hmem).elim h.queues Or.inr

theorem relayManager (dp : UdpDataPlane) (manager : RelayManager) :
    KeepsQueues fresh dp { dp with relayManager := manager } :=
  ⟨rfl, rfl, rfl, rfl, fun _ => Iff.rfl, Or.inl⟩

/-- Every peer may give up packets. -/
theorem withPeers {peers : Map Ipv4Addr Peer}
    (hmem : ∀ ip, ip ∈ peers ↔ ip ∈ dp.peersByVirtualIp)
    (hqueue : ∀ ip peer', peers.lookup ip = some peer' →
      ∃ peer, dp.peersByVirtualIp.lookup ip = some peer ∧ peer'.queuedPackets ⊆ peer.queuedPackets) :
    KeepsQueues fresh dp { dp with peersByVirtualIp := peers } := by
  refine ⟨rfl, rfl, rfl, rfl, hmem, fun {ip packet} hpacket => ?_⟩
  obtain ⟨peer', hl', hpacket⟩ := mem_queued.mp hpacket
  obtain ⟨peer, hl, hsubset⟩ := hqueue ip peer' hl'
  exact Or.inl (mem_queued.mpr ⟨peer, hl, hsubset hpacket⟩)

theorem mapPeers {peers : Map Ipv4Addr Peer} (g : Ipv4Addr → Peer → Peer)
    (hpeers : ∀ ip, peers.lookup ip = (dp.peersByVirtualIp.lookup ip).map (g ip))
    (hqueue : ∀ ip peer, (g ip peer).queuedPackets ⊆ peer.queuedPackets) :
    KeepsQueues fresh dp { dp with peersByVirtualIp := peers } := by
  refine withPeers (fun ip => ?_) fun ip peer' hl' => ?_
  · rw [← AList.lookup_isSome, ← AList.lookup_isSome, hpeers, Option.isSome_map]
  · rw [hpeers] at hl'
    obtain ⟨peer, hl, heq⟩ := Option.map_eq_some_iff.mp hl'
    exact ⟨peer, hl, heq ▸ hqueue ip peer⟩

theorem putPeer {ip : Ipv4Addr} {peer peer' : Peer} (hl : dp.peersByVirtualIp.lookup ip = some peer)
    (hqueue : ∀ packet ∈ peer'.queuedPackets, packet ∈ peer.queuedPackets ∨ fresh ip packet) :
    KeepsQueues fresh dp (dp.putPeer ip peer') := by
  have hpresent : ip ∈ dp.peersByVirtualIp := mem_iff_lookup.mpr ⟨peer, hl⟩
  refine ⟨rfl, rfl, rfl, rfl, fun other => ?_, fun {other packet} hpacket => ?_⟩
  · show other ∈ dp.peersByVirtualIp.insert ip peer' ↔ other ∈ dp.peersByVirtualIp
    rw [AList.mem_insert]
    exact ⟨fun h => h.elim (fun heq => heq ▸ hpresent) id, Or.inr⟩
  · obtain ⟨after, hafter, hpacket⟩ := mem_queued.mp hpacket
    unfold UdpDataPlane.putPeer at hafter
    rw [lookup_insert_eq] at hafter
    split at hafter
    next heq =>
      cases hafter
      rw [heq]
      refine (hqueue packet hpacket).imp_left fun hbefore => mem_queued.mpr ⟨peer, hl, hbefore⟩
    next => exact Or.inl (mem_queued.mpr ⟨after, hafter, hpacket⟩)

end KeepsQueues

section Calls

variable {c : Crypto} {fresh : Ipv4Addr → QueuedPacket → Prop}

theorem sendXsp_keepsQueues (dp : UdpDataPlane) (transmission : Transmission) (reads : SendReads) :
    KeepsQueues fresh dp (dp.sendXsp transmission reads).dataPlane := by
  unfold sendXsp
  dsimp only
  split
  next =>
    split
    next => exact .refl dp
    next => split <;> exact .relayManager dp _
  next => exact .refl dp

theorem sendXsp_peers (dp : UdpDataPlane) (transmission : Transmission) (reads : SendReads) :
    (dp.sendXsp transmission reads).dataPlane.peersByVirtualIp = dp.peersByVirtualIp := by
  unfold sendXsp
  dsimp only
  split
  next =>
    split
    next => rfl
    next => split <;> rfl
  next => rfl

theorem sendAll_keepsQueues (dp : UdpDataPlane) (transmissions : List Transmission)
    (reads : Nat → SendReads) : KeepsQueues fresh dp (dp.sendAll transmissions reads).dataPlane := by
  induction transmissions generalizing dp reads with
  | nil => exact .refl dp
  | cons transmission transmissions ih =>
    have hfirst : KeepsQueues fresh dp (dp.sendXsp transmission (reads 0)).dataPlane :=
      sendXsp_keepsQueues dp transmission (reads 0)
    unfold sendAll
    dsimp only
    split
    next => exact hfirst
    next => exact hfirst.trans (ih _ _)

theorem rebuildEndpointIndex_keepsQueues (dp : UdpDataPlane) :
    KeepsQueues fresh dp dp.rebuildEndpointIndex.2 := by
  unfold rebuildEndpointIndex
  split
  next => exact .refl dp
  next => exact ⟨rfl, rfl, rfl, rfl, fun _ => Iff.rfl, Or.inl⟩

theorem pruneExpiredCandidates_keepsQueues (dp : UdpDataPlane) (now : Int) :
    KeepsQueues fresh dp (dp.pruneExpiredCandidates now).2 := by
  have hpruned : KeepsQueues fresh dp { dp with
      peersByVirtualIp := mapWithKey (fun _ peer => peer.pruneExpiredCandidates now)
        dp.peersByVirtualIp } :=
    .mapPeers (fun _ peer => peer.pruneExpiredCandidates now) (fun ip => lookup_mapWithKey _ _ ip)
      fun _ peer => (peer.pruneExpiredCandidates_keepsQueue now).remembers.queuedPackets
  exact hpruned.trans (rebuildEndpointIndex_keepsQueues _)

theorem maintainPeers_keepsQueues (dp : UdpDataPlane) (now : Nat) (reads : Ipv4Addr → MaintainReads) :
    KeepsQueues fresh dp (dp.maintainPeers c now reads).2 := by
  refine .withPeers (fun ip => mem_visit) fun ip peer' hl' => ?_
  obtain ⟨peer, hl, hvisited⟩ := lookup_visit hl'
  refine ⟨peer, hl, ?_⟩
  rcases hvisited with rfl | ⟨reached, rfl⟩
  · exact List.Subset.refl _
  · have hmaintain := (peer.maintain_keepsQueue c dp.material now reached.2 (reads ip)).remembers.queuedPackets
    rcases heq : peer.maintain c dp.material now reached.2 (reads ip) with ⟨result, after⟩
    rw [heq] at hmaintain
    cases result with
    | error e => exact hmaintain
    | ok progress => exact hmaintain

theorem receivePrepared_keepsQueues (dp : UdpDataPlane) (source : SocketAddr) (datagram : Bytes)
    (reads : ReceiveReads) : KeepsQueues fresh dp (dp.receivePrepared c source datagram reads).2 := by
  unfold receivePrepared
  dsimp only
  split
  next => exact .refl dp
  next =>
    split
    next => exact .refl dp
    next unixNow _ =>
      have hresolved : KeepsQueues fresh dp (dp.resolveInboundPeer c (normalizeEndpoint source)
          datagram reads.instant unixNow).2 := by
        rw [resolveInboundPeer_snd]
        exact .relayManager dp _
      split
      next h =>
        rw [h] at hresolved
        exact hresolved
      next inbound resolved h =>
        rw [h] at hresolved
        split
        next => exact hresolved
        next peer hl =>
          obtain ⟨result, after, hreceive⟩ : ∃ result after, peer.receive c resolved.material
              (normalizeEndpoint source) (inbound.relayPayload.getD datagram) reads.instant
              (resolved.subnetRoutes.permitsRoutedSession resolved.localNodeIdBase64
                peer.nodeIdBase64) inbound.throughRelay reads.datagram = (result, after) :=
            ⟨_, _, rfl⟩
          have hqueue : after.queuedPackets ⊆ peer.queuedPackets := by
            have hcall := peer.apply_queue c resolved.material (.datagram
              (normalizeEndpoint source) (inbound.relayPayload.getD datagram) reads.instant
                (resolved.subnetRoutes.permitsRoutedSession resolved.localNodeIdBase64
                  peer.nodeIdBase64) inbound.throughRelay reads.datagram) (by simp)
            simp only [Peer.apply, hreceive] at hcall
            exact hcall
          dsimp only
          rw [hreceive]
          dsimp only
          obtain ⟨plaintext, hplaintext⟩ : ∃ plaintext, plaintext =
            result.plaintext.filter (resolved.admits inbound.virtualIp after.nodeIdBase64) := ⟨_, rfl⟩
          rw [← hplaintext]
          have hput : KeepsQueues fresh resolved (resolved.putPeer inbound.virtualIp
              (plaintext.elim after after.countReceived)) := by
            refine .putPeer hl fun packet hpacket => Or.inl (hqueue ?_)
            cases plaintext with
            | none => exact hpacket
            | some plaintext => exact hpacket
          split
          next => exact (hresolved.trans hput).trans (.relayManager _ _)
          next => exact hresolved.trans hput

theorem maintainPrepared_keepsQueues (dp : UdpDataPlane) (reads : UpkeepReads) :
    KeepsQueues fresh dp (dp.maintainPrepared c reads).dataPlane := by
  have hpruned : KeepsQueues fresh dp (dp.pruneExpiredCandidates reads.pruneUtc).2 :=
    pruneExpiredCandidates_keepsQueues dp reads.pruneUtc
  unfold maintainPrepared
  split
  next h =>
    rw [h] at hpruned
    exact hpruned
  next pruned h =>
    rw [h] at hpruned
    split
    next => exact hpruned
    next unixNow _ =>
      dsimp only
      split
      next => exact hpruned.trans (.relayManager _ _)
      next maintenance _ =>
        have hrelays : KeepsQueues fresh pruned { pruned with
            relayManager := (pruned.relayManager.maintain c reads.instant unixNow reads.relays).2 } :=
          .relayManager _ _
        have hfailed := hrelays.trans (.mapPeers
          (fun _ peer => peer.failRelayPaths maintenance.failedEndpoints reads.failoverInstant)
          (fun ip => lookup_failRelayPaths _ _ _ ip)
          fun _ peer => peer.failRelayPaths_queue maintenance.failedEndpoints reads.failoverInstant)
        exact (hpruned.trans hfailed).trans (maintainPeers_keepsQueues _ _ _)

theorem receive_keepsQueues (dp : UdpDataPlane) (source : SocketAddr) (datagram : Bytes)
    (reads : ReceiveReads) : KeepsQueues fresh dp (dp.receive c source datagram reads).dataPlane := by
  have hprepared : KeepsQueues fresh dp (dp.receivePrepared c source datagram reads).2 :=
    receivePrepared_keepsQueues dp source datagram reads
  rw [receive_eq]
  rcases hcall : dp.receivePrepared c source datagram reads with ⟨result, prepared⟩
  rw [hcall] at hprepared
  cases result with
  | error e => exact hprepared
  | ok received =>
    have hsent : KeepsQueues fresh dp
        (prepared.sendAll received.transmissions reads.sends).dataPlane :=
      hprepared.trans (sendAll_keepsQueues _ _ _)
    dsimp only
    split
    next => exact hsent
    next =>
      split
      next => exact hsent.trans (rebuildEndpointIndex_keepsQueues _)
      next => exact hsent

theorem maintain_keepsQueues (dp : UdpDataPlane) (reads : UpkeepReads) :
    KeepsQueues fresh dp (dp.maintain c reads).dataPlane := by
  have hprepared : KeepsQueues fresh dp (dp.maintainPrepared c reads).dataPlane :=
    maintainPrepared_keepsQueues dp reads
  rw [maintain_eq]
  dsimp only
  split
  next => exact hprepared
  next =>
    split
    next => exact hprepared.trans (sendAll_keepsQueues _ _ _)
    next => exact hprepared.trans (sendAll_keepsQueues _ _ _)

theorem startManualPathProbe_keepsQueues (dp : UdpDataPlane) (virtualIp : Ipv4Addr) (now : Nat)
    (reads : ProbeReads) (send : SendReads) :
    KeepsQueues fresh dp (dp.startManualPathProbe c virtualIp now reads send).dataPlane := by
  unfold startManualPathProbe
  split
  next => exact .refl dp
  next peer hl =>
    have hprobe := (peer.startManualPathProbe_keepsQueue c now reads).remembers.queuedPackets
    rcases heq : peer.startManualPathProbe c now reads with ⟨probe, after⟩
    rw [heq] at hprobe
    have hput : KeepsQueues fresh dp (dp.putPeer virtualIp after) :=
      .putPeer hl fun packet hpacket => Or.inl (hprobe hpacket)
    dsimp only
    split
    next => exact hput
    next transmission =>
      have hsent : KeepsQueues fresh dp
          ((dp.putPeer virtualIp after).sendXsp transmission send).dataPlane :=
        hput.trans (sendXsp_keepsQueues _ transmission send)
      split
      next => exact hsent
      next => exact hsent
      next =>
        have hl' : ((dp.putPeer virtualIp after).sendXsp transmission
            send).dataPlane.peersByVirtualIp.lookup virtualIp = some after := by
          rw [sendXsp_peers]
          exact AList.lookup_insert _
        exact hsent.trans (.putPeer hl' fun packet hpacket => Or.inl hpacket)

end Calls

end UdpDataPlane

end XsNexus
