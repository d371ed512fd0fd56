import XsNexus.ConfigurationUpdate
import XsNexus.PeerRuns

namespace XsNexus

open ByteCodec Checks FiniteMap Relation Runs

/-- The calls the Agent makes of its data plane. -/
inductive DataPlaneOp
  | forwardTun (packet : Bytes) (reads : ForwardReads)
  | receive (source : SocketAddr) (datagram : Bytes) (reads : ReceiveReads)
  | maintain (reads : UpkeepReads)
  | startManualPathProbe (virtualIp : Ipv4Addr) (now : Nat) (reads : ProbeReads) (send : SendReads)
  | applyConfiguration (state : NodeState) (reads : ConfigurationReads)

inductive DataPlaneOutput
  | forwarded (result : Except AgentError Bool)
  | received (result : Except AgentError (Option Bytes))
  | maintained (result : Except AgentError Unit)
  | probed (result : Except Peer.ManualProbeError Unit)
  | configured (result : Except AgentError Unit)

/-- What `receive` has of a datagram once it begins to answer. -/
structure Received where
  transmissions : List Transmission
  plaintext : Option Bytes
  endpointIndexChanged : Bool

namespace UdpDataPlane

def apply (c : Crypto) (f : Formats) (dp : UdpDataPlane) : DataPlaneOp → DataPlaneOutput × UdpDataPlane
  | .forwardTun packet reads =>
    let outcome := dp.forwardTun c packet reads
    (.forwarded outcome.result, outcome.dataPlane)
  | .receive source datagram reads =>
    let outcome := dp.receive c source datagram reads
    (.received outcome.result, outcome.dataPlane)
  | .maintain reads =>
    let outcome := dp.maintain c reads
    (.maintained outcome.result, outcome.dataPlane)
  | .startManualPathProbe virtualIp now reads send =>
    let outcome := dp.startManualPathProbe c virtualIp now reads send
    (.probed outcome.result, outcome.dataPlane)
  | .applyConfiguration state reads =>
    Prod.map .configured id (dp.applyConfiguration c f state reads)

/-- `forward_tun` up to its call of `send_xsp`. -/
def forwardPrepared (c : Crypto) (dp : UdpDataPlane) (packet : Bytes) (reads : ForwardReads) :
    Except AgentError ForwardOutcome × UdpDataPlane :=
  if packet.length > maxEncryptedPayloadLength then (.ok .dropped, dp)
  else
    match ipv4Flow packet with
    | none => (.ok .dropped, dp)
    | some flow =>
      if !dp.flowAllowed flow then (.ok .dropped, dp)
      else
        match dp.tunDestination flow reads.routeUtc with
        | none => (.ok .dropped, dp)
        | some (destinationPeerIp, routedPacket) =>
          match dp.peersByVirtualIp.lookup destinationPeerIp with
          | none => (.ok .dropped, dp)
          | some peer =>
            let (outcome, peer) :=
              peer.forwardTun c dp.material packet routedPacket reads.instant reads.hello
            (outcome, dp.putPeer destinationPeerIp peer)

/-- `receive` up to its answers. -/
def receivePrepared (c : Crypto) (dp : UdpDataPlane) (source : SocketAddr) (datagram : Bytes)
    (reads : ReceiveReads) : Except AgentError Received × UdpDataPlane :=
  let source := normalizeEndpoint source
  if CandidateManager.handlesDiscoveryResponse datagram then (.ok ⟨[], none, false⟩, dp)
  else
    match reads.unixTime with
    | none => (.error .dataPlane, dp)
    | some unixNow =>
      match dp.resolveInboundPeer c source datagram reads.instant unixNow with
      | (none, dp) => (.ok ⟨[], none, false⟩, dp)
      | (some inbound, dp) =>
        let packet := inbound.relayPayload.getD datagram
        match dp.peersByVirtualIp.lookup inbound.virtualIp with
        | none => (.ok ⟨[], none, false⟩, dp)
        | some peer =>
          let allowRoutedData :=
            dp.subnetRoutes.permitsRoutedSession dp.localNodeIdBase64 peer.nodeIdBase64
          let (result, peer) := peer.receive c dp.material source packet reads.instant
            allowRoutedData inbound.throughRelay reads.datagram
          let endpointIndexChanged := !inbound.throughRelay && !inbound.sourceIsKnown &&
            result.pathAuthenticated && decide (peer.activeEndpoint = some source)
          let plaintext :=
            result.plaintext.filter (dp.admits inbound.virtualIp peer.nodeIdBase64)
          let peer := plaintext.elim peer peer.countReceived
          let dp := dp.putPeer inbound.virtualIp peer
          let dp :=
            if inbound.throughRelay && result.pathAuthenticated then
              { dp with relayManager := dp.relayManager.authenticateActivity source reads.instant }
            else dp
          (.ok ⟨result.outbound.map fun outbound => (source, peer.nodeId, outbound), plaintext,
            endpointIndexChanged⟩, dp)

/-- `maintain` up to the transmissions of its peers. -/
def maintainPrepared (c : Crypto) (dp : UdpDataPlane) (reads : UpkeepReads) :
    Outcome AgentError (List Transmission) :=
  match dp.pruneExpiredCandidates reads.pruneUtc with
  | (.error e, dp) => ⟨.error e, [], dp⟩
  | (.ok (), dp) =>
    match reads.unixTime with
    | none => ⟨.error .dataPlane, [], dp⟩
    | some unixNow =>
      let (maintained, relayManager) :=
        dp.relayManager.maintain c reads.instant unixNow reads.relays
      let dp := { dp with relayManager := relayManager }
      match maintained with
      | .error e => ⟨.error e, [], dp⟩
      | .ok maintenance =>
        let dp := { dp with
          peersByVirtualIp :=
            failRelayPaths dp.peersByVirtualIp maintenance.failedEndpoints reads.failoverInstant }
        let (retransmissions, dp) := dp.maintainPeers c reads.instant reads.peers
        ⟨retransmissions, maintenance.outbound, dp⟩

theorem forwardTun_eq (c : Crypto) (dp : UdpDataPlane) (packet : Bytes) (reads : ForwardReads) :
    dp.forwardTun c packet reads =
      match dp.forwardPrepared c packet reads with
      | (.error e, dp) => ⟨.error e, [], dp⟩
      | (.ok .dropped, dp) => ⟨.ok true, [], dp⟩
      | (.ok .queued, dp) => ⟨.ok false, [], dp⟩
      | (.ok (.sent establishedPath transmission), dp) =>
        let sending := dp.sendXsp transmission reads.send
        ⟨sending.result.map fun sent => establishedPath && !sent, sending.sent, sending.dataPlane⟩ := by
  unfold forwardTun forwardPrepared
  by_cases hlong : packet.length > maxEncryptedPayloadLength
  · rw [if_pos hlong, if_pos hlong]
  · rw [if_neg hlong, if_neg hlong]
    cases ipv4Flow packet with
    | none => rfl
    | some flow =>
      dsimp only
      by_cases hallowed : (!dp.flowAllowed flow) = true
      · rw [if_pos hallowed, if_pos hallowed]
      · rw [if_neg hallowed, if_neg hallowed]
        cases dp.tunDestination flow reads.routeUtc with
        | none => rfl
        | some destination =>
          dsimp only
          cases dp.peersByVirtualIp.lookup destination.1 with
          | none => rfl
          | some peer =>
            dsimp only
            rcases peer.forwardTun c dp.material packet destination.2 reads.instant reads.hello with
              ⟨outcome, after⟩
            cases outcome with
            | error e => rfl
            | ok outcome => cases outcome <;> rfl

theorem receive_eq (c : Crypto) (dp : UdpDataPlane) (source : SocketAddr) (datagram : Bytes)
    (reads : ReceiveReads) :
    dp.receive c source datagram reads =
      match dp.receivePrepared c source datagram reads with
      | (.error e, dp) => ⟨.error e, [], dp⟩
      | (.ok received, dp) =>
        let sending := dp.sendAll received.transmissions reads.sends
        match sending.result with
        | .error e => ⟨.error e, sending.sent, sending.dataPlane⟩
        | .ok () =>
          if received.endpointIndexChanged then
            let rebuilt := sending.dataPlane.rebuildEndpointIndex
            ⟨rebuilt.1.map fun _ => received.plaintext, sending.sent, rebuilt.2⟩
          else ⟨.ok received.plaintext, sending.sent, sending.dataPlane⟩ := by
  unfold receive receivePrepared
  dsimp only
  by_cases hdiscovery : CandidateManager.handlesDiscoveryResponse datagram = true
  · rw [if_pos hdiscovery, if_pos hdiscovery]
    rfl
  · rw [if_neg hdiscovery, if_neg hdiscovery]
    cases reads.unixTime with
    | none => rfl
    | some unixNow =>
      dsimp only
      rcases dp.resolveInboundPeer c (normalizeEndpoint source) datagram reads.instant unixNow with
        ⟨inbound, dp⟩
      cases inbound with
      | none => rfl
      | some inbound =>
        dsimp only
        cases dp.peersByVirtualIp.lookup inbound.virtualIp with
        | none => rfl
        | some peer => rfl

theorem maintain_eq (c : Crypto) (dp : UdpDataPlane) (reads : UpkeepReads) :
    dp.maintain c reads =
      let prepared := dp.maintainPrepared c reads
      match prepared.result with
      | .error e => ⟨.error e, prepared.sent, prepared.dataPlane⟩
      | .ok retransmissions =>
        let sending := prepared.dataPlane.sendAll retransmissions reads.sends
        match sending.result with
        | .error e => ⟨.error e, prepared.sent ++ sending.sent, sending.dataPlane⟩
        | .ok () => ⟨reads.refresh, prepared.sent ++ sending.sent, sending.dataPlane⟩ := by
  unfold maintain maintainPrepared
  rcases dp.pruneExpiredCandidates reads.pruneUtc with ⟨pruned, dp⟩
  cases pruned with
  | error e => rfl
  | ok _ =>
    dsimp only
    cases reads.unixTime with
    | none => rfl
    | some unixNow =>
      dsimp only
      rcases dp.relayManager.maintain c reads.instant unixNow reads.relays with
        ⟨maintained, relayManager⟩
      cases maintained with
      | error e => rfl
      | ok maintenance =>
        dsimp only
        rcases maintainPeers c _ reads.instant reads.peers with ⟨retransmissions, dp⟩
        cases retransmissions <;> rfl

end UdpDataPlane

/-- One change the data plane makes to a peer. -/
inductive PeerChange (c : Crypto) (material : LocalMaterial) (peer : Peer) : Peer → Prop
  | call (op : PeerOp) : PeerChange c material peer (peer.apply c material op).2
  | counted (plaintext : Bytes) : PeerChange c material peer (peer.countReceived plaintext)

/-- One change the data plane makes to its relays. -/
def RelayChange (c : Crypto) (f : Formats) (manager manager' : RelayManager) : Prop :=
  ∃ op, (manager.step c f op).2 = manager'

/-- A peer as a configuration brings it in. -/
def NewPeer (material : LocalMaterial) (ip : Ipv4Addr) (peer : Peer) : Prop :=
  peer.nodeId ≠ material.nodeId ∧ ∃ nodeIdBase64 candidates now,
    peer = newPeer peer.nodeId nodeIdBase64 ip candidates now

/-- What becomes of a data plane: its peers and its relays change by their own calls, and `enters`
says which peers are new. -/
structure Evolves (c : Crypto) (f : Formats) (enters : Ipv4Addr → Peer → Prop)
    (dp dp' : UdpDataPlane) : Prop where
  material : dp'.material = dp.material
  relays : ReflTransGen (RelayChange c f) dp.relayManager dp'.relayManager
  peers : ∀ {ip peer'}, dp'.peersByVirtualIp.lookup ip = some peer' →
    ∃ peer, (dp.peersByVirtualIp.lookup ip = some peer ∨ enters ip peer) ∧
      ReflTransGen (PeerChange c dp.material) peer peer'

namespace Evolves

variable {c : Crypto} {f : Formats} {enters : Ipv4Addr → Peer → Prop} {dp dp' dp'' : UdpDataPlane}

theorem refl (dp : UdpDataPlane) : Evolves c f enters dp dp :=
  ⟨rfl, .refl, fun h => ⟨_, Or.inl h, .refl⟩⟩

theorem trans (h : Evolves c f enters dp dp') (h' : Evolves c f enters dp' dp'') :
    Evolves c f enters dp dp'' := by
  refine ⟨h'.material.trans h.material, h.relays.trans h'.relays, fun hl => ?_⟩
  obtain ⟨peer, hpeer, hlast⟩ := h'.peers hl
  rw [h.material] at hlast
  rcases hpeer with hpeer | hpeer
  · obtain ⟨first, hfirst, hmiddle⟩ := h.peers hpeer
    exact ⟨first, hfirst, hmiddle.trans hlast⟩
  · exact ⟨peer, Or.inr hpeer, hlast⟩

theorem putPeer {ip : Ipv4Addr} {peer peer' : Peer} (hl : dp.peersByVirtualIp.lookup ip = some peer)
    (h : ReflTransGen (PeerChange c dp.material) peer peer') :
    Evolves c f enters dp (dp.putPeer ip peer') := by
  refine ⟨rfl, .refl, fun {other after} hafter => ?_⟩
  unfold UdpDataPlane.putPeer at hafter
  rw [lookup_insert_eq] at hafter
  split at hafter
  next heq =>
    cases hafter
    exact ⟨peer, Or.inl (heq ▸ hl), h⟩
  next => exact ⟨after, Or.inl hafter, .refl⟩

theorem relayManager {manager : RelayManager}
    (h : ReflTransGen (RelayChange c f) dp.relayManager manager) :
    Evolves c f enters dp { dp with relayManager := manager } :=
  ⟨rfl, h, fun hl => ⟨_, Or.inl hl, .refl⟩⟩

/-- All peers make the changes `g` at once. -/
theorem mapPeers {peers : Map Ipv4Addr Peer} (g : Ipv4Addr → Peer → Peer)
    (hpeers : ∀ ip, peers.lookup ip = (dp.peersByVirtualIp.lookup ip).map (g ip))
    (h : ∀ ip peer, ReflTransGen (PeerChange c dp.material) peer (g ip peer)) :
    Evolves c f enters dp { dp with peersByVirtualIp := peers } := by
  refine ⟨rfl, .refl, fun {ip after} hafter => ?_⟩
  dsimp only at hafter
  rw [hpeers] at hafter
  obtain ⟨peer, hl, heq⟩ := Option.map_eq_some_iff.mp hafter
  exact ⟨peer, Or.inl hl, heq ▸ h ip peer⟩

end Evolves

theorem failRelayPaths_changes (c : Crypto) (material : LocalMaterial) (peer : Peer)
    (failedEndpoints : List SocketAddr) (now : Nat) :
    ReflTransGen (PeerChange c material) peer (peer.failRelayPaths failedEndpoints now) := by
  induction failedEndpoints generalizing peer with
  | nil => exact .refl
  | cons endpoint failedEndpoints ih => exact .head (.call (.failRelayPath endpoint now)) (ih _)

namespace UdpDataPlane

variable {c : Crypto} {f : Formats} {enters : Ipv4Addr → Peer → Prop}

theorem sendXsp_evolves (dp : UdpDataPlane) (transmission : Transmission) (reads : SendReads) :
    Evolves c f enters dp (dp.sendXsp transmission reads).dataPlane := by
  unfold sendXsp
  dsimp only
  split
  next =>
    split
    next => exact .refl dp
    next unixTime _ =>
      have hwrap : Evolves c f enters dp { dp with relayManager := (dp.relayManager.wrap
          transmission.1 transmission.2.1 transmission.2.2 unixTime reads.utcNow).2 } :=
        .relayManager (.single ⟨.wrap transmission.1 transmission.2.1 transmission.2.2 unixTime
          reads.utcNow, rfl⟩)
      split <;> exact hwrap
  next => exact .refl dp

theorem sendAll_evolves (dp : UdpDataPlane) (transmissions : List Transmission)
    (reads : Nat → SendReads) :
    Evolves c f enters dp (dp.sendAll transmissions reads).dataPlane := by
  induction transmissions generalizing dp reads with
  | nil => exact .refl dp
  | cons transmission transmissions ih =>
    unfold sendAll
    dsimp only
    split
    next => exact sendXsp_evolves dp transmission (reads 0)
    next => exact (sendXsp_evolves dp transmission (reads 0)).trans (ih _ _)

theorem rebuildEndpointIndex_evolves (dp : UdpDataPlane) :
    Evolves c f enters dp dp.rebuildEndpointIndex.2 := by
  unfold rebuildEndpointIndex
  split
  next => exact .refl dp
  next => exact ⟨rfl, .refl, fun hl => ⟨_, Or.inl hl, .refl⟩⟩

theorem pruneExpiredCandidates_evolves (dp : UdpDataPlane) (now : Int) :
    Evolves c f enters dp (dp.pruneExpiredCandidates now).2 := by
  have hpruned : Evolves c f enters dp { dp with
      peersByVirtualIp := mapWithKey (fun _ peer => peer.pruneExpiredCandidates now)
        dp.peersByVirtualIp } :=
    .mapPeers (fun _ peer => peer.pruneExpiredCandidates now) (fun ip => lookup_mapWithKey _ _ ip)
      fun _ _ => .single (.call (.pruneExpiredCandidates now))
  exact hpruned.trans (rebuildEndpointIndex_evolves _)

theorem maintainPeers_evolves (dp : UdpDataPlane) (now : Nat) (reads : Ipv4Addr → MaintainReads) :
    Evolves c f enters dp (dp.maintainPeers c now reads).2 := by
  refine ⟨rfl, .refl, fun {ip after} hafter => ?_⟩
  obtain ⟨peer, hl, hvisited⟩ := lookup_visit hafter
  refine ⟨peer, Or.inl hl, ?_⟩
  rcases hvisited with rfl | ⟨reached, rfl⟩
  · exact .refl
  · refine .single ?_
    have hcall : PeerChange c dp.material peer
        (peer.maintain c dp.material now reached.2 (reads ip)).2 :=
      .call (.maintain now reached.2 (reads ip))
    rcases hmaintain : peer.maintain c dp.material now reached.2 (reads ip) with ⟨result, after⟩
    rw [hmaintain] at hcall
    cases result with
    | error e => exact hcall
    | ok progress => exact hcall

/-- Whatever comes of a datagram, only the relays have seen it so far. -/
theorem resolveInboundPeer_snd (dp : UdpDataPlane) (source : SocketAddr) (datagram : Bytes)
    (now : Nat) (unixNow : UInt64) :
    (dp.resolveInboundPeer c source datagram now unixNow).2 = { dp with relayManager :=
      (dp.relayManager.handleDatagram c source datagram now unixNow).2 } := by
  unfold resolveInboundPeer
  dsimp only
  split
  next => rfl
  next => rfl
  next => split <;> rfl

theorem resolveInboundPeer_evolves (dp : UdpDataPlane) (source : SocketAddr) (datagram : Bytes)
    (now : Nat) (unixNow : UInt64) :
    Evolves c f enters dp (dp.resolveInboundPeer c source datagram now unixNow).2 := by
  rw [resolveInboundPeer_snd]
  exact .relayManager (.single ⟨.handleDatagram source datagram now unixNow, rfl⟩)

theorem forwardPrepared_evolves (dp : UdpDataPlane) (packet : Bytes) (reads : ForwardReads) :
    Evolves c f enters dp (dp.forwardPrepared c packet reads).2 := by
  unfold forwardPrepared
  split
  next => exact .refl dp
  next =>
    split
    next => exact .refl dp
    next =>
      split
      next => exact .refl dp
      next =>
        split
        next => exact .refl dp
        next ip routed _ =>
          split
          next => exact .refl dp
          next peer hl =>
            exact .putPeer hl (.single (.call (.forwardTun packet routed reads.instant reads.hello)))

theorem receivePrepared_evolves (dp : UdpDataPlane) (source : SocketAddr) (datagram : Bytes)
    (reads : ReceiveReads) : Evolves c f enters dp (dp.receivePrepared c source datagram reads).2 := by
  unfold receivePrepared
  dsimp only
  split
  next => exact .refl dp
  next =>
    split
    next => exact .refl dp
    next unixNow _ =>
      have hresolved : Evolves c f enters dp (dp.resolveInboundPeer c (normalizeEndpoint source)
          datagram reads.instant unixNow).2 := resolveInboundPeer_evolves dp _ _ _ _
      split
      next h =>
        rw [h] at hresolved
        exact hresolved
      next inbound resolved h =>
        rw [h] at hresolved
        split
        next => exact hresolved
        next peer hl =>
          obtain ⟨result, after, hreceive⟩ : ∃ result after, peer.receive c resolved.material
              (normalizeEndpoint source) (inbound.relayPayload.getD datagram) reads.instant
              (resolved.subnetRoutes.permitsRoutedSession resolved.localNodeIdBase64
                peer.nodeIdBase64) inbound.throughRelay reads.datagram = (result, after) :=
            ⟨_, _, rfl⟩
          have hcall : PeerChange c resolved.material peer after := by
            have hcall : PeerChange c resolved.material peer (peer.apply c resolved.material
                (.datagram (normalizeEndpoint source) (inbound.relayPayload.getD datagram)
                  reads.instant (resolved.subnetRoutes.permitsRoutedSession
                    resolved.localNodeIdBase64 peer.nodeIdBase64) inbound.throughRelay
                  reads.datagram)).2 := .call _
            simp only [Peer.apply, hreceive] at hcall
            exact hcall
          dsimp only
          rw [hreceive]
          dsimp only
          obtain ⟨plaintext, hplaintext⟩ : ∃ plaintext, plaintext =
            result.plaintext.filter (resolved.admits inbound.virtualIp after.nodeIdBase64) := ⟨_, rfl⟩
          rw [← hplaintext]
          have hput : Evolves c f enters resolved (resolved.putPeer inbound.virtualIp
              (plaintext.elim after after.countReceived)) := by
            refine .putPeer hl ?_
            cases plaintext with
            | none => exact .single hcall
            | some plaintext => exact .tail (.single hcall) (.counted plaintext)
          split
          next => exact (hresolved.trans hput).trans (.relayManager (.single
            ⟨.authenticateActivity (normalizeEndpoint source) reads.instant, rfl⟩))
          next => exact hresolved.trans hput

/-- The maintenance of the relays, and what their failures do to the peers. -/
theorem maintainRelays_evolves (dp : UdpDataPlane) (now : Nat) (unixNow : UInt64)
    (reads : SocketAddr → RelayReads) (failedEndpoints : List SocketAddr) (failoverInstant : Nat) :
    Evolves c f enters dp { dp with
      relayManager := (dp.relayManager.maintain c now unixNow reads).2
      peersByVirtualIp := failRelayPaths dp.peersByVirtualIp failedEndpoints failoverInstant } := by
  have hrelays : Evolves c f enters dp { dp with
      relayManager := (dp.relayManager.maintain c now unixNow reads).2 } :=
    .relayManager (.single ⟨.maintain now unixNow reads, rfl⟩)
  exact hrelays.trans (.mapPeers (fun _ peer => peer.failRelayPaths failedEndpoints failoverInstant)
    (fun ip => lookup_failRelayPaths _ _ _ ip) fun _ peer => failRelayPaths_changes c _ peer _ _)

theorem maintainPrepared_evolves (dp : UdpDataPlane) (reads : UpkeepReads) :
    Evolves c f enters dp (dp.maintainPrepared c reads).dataPlane := by
  have hpruned : Evolves c f enters dp (dp.pruneExpiredCandidates reads.pruneUtc).2 :=
    pruneExpiredCandidates_evolves dp reads.pruneUtc
  unfold maintainPrepared
  split
  next h =>
    rw [h] at hpruned
    exact hpruned
  next pruned h =>
    rw [h] at hpruned
    split
    next => exact hpruned
    next unixNow _ =>
      dsimp only
      split
      next => exact hpruned.trans (.relayManager (.single
        ⟨.maintain reads.instant unixNow reads.relays, rfl⟩))
      next maintenance _ =>
        exact (hpruned.trans (maintainRelays_evolves pruned reads.instant unixNow reads.relays
          maintenance.failedEndpoints reads.failoverInstant)).trans (maintainPeers_evolves _ _ _)

theorem forwardTun_evolves (dp : UdpDataPlane) (packet : Bytes) (reads : ForwardReads) :
    Evolves c f enters dp (dp.forwardTun c packet reads).dataPlane := by
  have hprepared : Evolves c f enters dp (dp.forwardPrepared c packet reads).2 :=
    forwardPrepared_evolves dp packet reads
  rw [forwardTun_eq]
  rcases hcall : dp.forwardPrepared c packet reads with ⟨outcome, prepared⟩
  rw [hcall] at hprepared
  cases outcome with
  | error e => exact hprepared
  | ok outcome =>
    cases outcome with
    | dropped => exact hprepared
    | queued => exact hprepared
    | sent established transmission =>
      exact hprepared.trans (sendXsp_evolves prepared transmission reads.send)

theorem receive_evolves (dp : UdpDataPlane) (source : SocketAddr) (datagram : Bytes)
    (reads : ReceiveReads) : Evolves c f enters dp (dp.receive c source datagram reads).dataPlane := by
  have hprepared : Evolves c f enters dp (dp.receivePrepared c source datagram reads).2 :=
    receivePrepared_evolves dp source datagram reads
  rw [receive_eq]
  rcases hcall : dp.receivePrepared c source datagram reads with ⟨result, prepared⟩
  rw [hcall] at hprepared
  cases result with
  | error e => exact hprepared
  | ok received =>
    have hsent : Evolves c f enters dp
        (prepared.sendAll received.transmissions reads.sends).dataPlane :=
      hprepared.trans (sendAll_evolves _ _ _)
    dsimp only
    split
    next => exact hsent
    next =>
      split
      next => exact hsent.trans (rebuildEndpointIndex_evolves _)
      next => exact hsent

theorem maintain_evolves (dp : UdpDataPlane) (reads : UpkeepReads) :
    Evolves c f enters dp (dp.maintain c reads).dataPlane := by
  have hprepared : Evolves c f enters dp (dp.maintainPrepared c reads).dataPlane :=
    maintainPrepared_evolves dp reads
  rw [maintain_eq]
  dsimp only
  split
  next => exact hprepared
  next =>
    split
    next => exact hprepared.trans (sendAll_evolves _ _ _)
    next => exact hprepared.trans (sendAll_evolves _ _ _)

theorem startManualPathProbe_evolves (dp : UdpDataPlane) (virtualIp : Ipv4Addr) (now : Nat)
    (reads : ProbeReads) (send : SendReads) :
    Evolves c f enters dp (dp.startManualPathProbe c virtualIp now reads send).dataPlane := by
  unfold startManualPathProbe
  split
  next => exact .refl dp
  next peer hl =>
    obtain ⟨probe, after, hprobe⟩ : ∃ probe after,
      peer.startManualPathProbe c now reads = (probe, after) := ⟨_, _, rfl⟩
    have hcall : PeerChange c dp.material peer after := by
      have hcall : PeerChange c dp.material peer
          (peer.apply c dp.material (.startManualPathProbe now reads)).2 := .call _
      simp only [Peer.apply, hprobe] at hcall
      exact hcall
    have hput : Evolves c f enters dp (dp.putPeer virtualIp after) := .putPeer hl (.single hcall)
    rw [hprobe]
    dsimp only
    split
    next => exact hput
    next transmission =>
      have hsent : Evolves c f enters dp
          ((dp.putPeer virtualIp after).sendXsp transmission send).dataPlane :=
        hput.trans (sendXsp_evolves _ transmission send)
      split
      next => exact hsent
      next => exact hsent
      next =>
        refine ⟨hsent.material, hsent.relays, fun {ip last} hlast => ?_⟩
        unfold putPeer at hlast
        rw [lookup_insert_eq] at hlast
        split at hlast
        next heq =>
          cases hlast
          exact ⟨peer, Or.inl (heq ▸ hl), .tail (.single hcall) (.call .manualPathProbeUnsent)⟩
        next => exact hsent.peers hlast

/-- An update changes the peers whose nodes stay, and brings in the others as new. -/
theorem applyConfiguration_evolves (dp : UdpDataPlane) (state : NodeState)
    (reads : ConfigurationReads) :
    Evolves c f (NewPeer dp.material) dp (dp.applyConfiguration c f state reads).2 := by
  by_cases hparts : ∃ aclPolicy subnetRoutes desired, compileAcl f state = .ok aclPolicy ∧
    compileSubnetRoutes f state = .ok subnetRoutes ∧
    relayClients c f state.configurationPayload.relays reads.relayInstant reads.relayUtc = .ok desired
  case neg =>
    rw [(applyConfiguration_refused dp hparts).2]
    exact .refl dp
  obtain ⟨aclPolicy, subnetRoutes, desired, hacl, hroutes, hdesired⟩ := hparts
  have hrelays : ReflTransGen (RelayChange c f) dp.relayManager
      (dp.relayManager.replaceClients desired) := by
    refine .single ⟨.applyConfiguration state reads.relayInstant reads.relayUtc, ?_⟩
    simp only [RelayManager.step, RelayManager.applyConfiguration, hdesired]
    rfl
  have hreplaced : ∀ directory, dp.newDirectory f state desired reads = .ok directory →
      Evolves c f (NewPeer dp.material) dp
        (dp.replacePeers desired directory.peers (policyChanged dp state) reads) := by
    intro directory hdirectory
    refine ⟨rfl, hrelays, fun {ip after} hafter => ?_⟩
    rw [lookup_replacePeers] at hafter
    obtain ⟨replacement, hreplacement, heq⟩ := Option.map_eq_some_iff.mp hafter
    rw [← heq]
    obtain ⟨node, _, henters⟩ := ((buildPeerDirectory_contents hdirectory).2 ip _).mp hreplacement
    obtain ⟨directEndpoints, _, hnew⟩ := henters.entered
    have hfresh : NewPeer dp.material ip replacement := ⟨henters.remote, _, _, _, hnew⟩
    have hfails := fun peer => failRelayPaths_changes c dp.material peer
      (RelayManager.failedEndpoints dp.relayManager.clients desired) reads.failoverInstant
    unfold adoptPeer
    split
    next => exact ⟨replacement, Or.inr hfresh, hfails _⟩
    next existing hexisting =>
      split
      next => exact ⟨existing, Or.inl hexisting, .head (.call (.applyConfiguration
          replacement.candidates (policyChanged dp state) reads.instant)) (hfails _)⟩
      next => exact ⟨replacement, Or.inr hfresh, hfails _⟩
  rcases applyConfiguration_cases dp hacl hroutes hdesired with
    ⟨e, _, h⟩ | ⟨directory, hdirectory, ⟨e, _, h⟩ | ⟨_, h⟩⟩
  · rw [h]
    exact .relayManager hrelays
  · rw [h]
    exact hreplaced directory hdirectory
  · rw [h]
    have hindexed := (hreplaced directory hdirectory).trans (rebuildEndpointIndex_evolves _)
    exact ⟨hindexed.material, hindexed.relays, hindexed.peers⟩

theorem apply_evolves (dp : UdpDataPlane) (op : DataPlaneOp) :
    Evolves c f (NewPeer dp.material) dp (dp.apply c f op).2 := by
  cases op with
  | forwardTun packet reads => exact forwardTun_evolves dp packet reads
  | receive source datagram reads => exact receive_evolves dp source datagram reads
  | maintain reads => exact maintain_evolves dp reads
  | startManualPathProbe virtualIp now reads send =>
    exact startManualPathProbe_evolves dp virtualIp now reads send
  | applyConfiguration state reads => exact applyConfiguration_evolves dp state reads

theorem run_evolves (dp : UdpDataPlane) (ops : List DataPlaneOp) :
    Evolves c f (NewPeer dp.material) dp (final (apply c f) dp ops) := by
  refine run_keeps (P := Evolves c f (NewPeer dp.material) dp) ?_ ops (.refl dp)
    (along_true _ dp ops)
  intro middle op hmiddle _
  have hstep := apply_evolves (c := c) (f := f) middle op
  rw [hmiddle.material] at hstep
  exact hmiddle.trans hstep

end UdpDataPlane

/-- What every change of a peer keeps, and every new peer has, all peers have. -/
theorem Evolves.keeps {c : Crypto} {f : Formats} {enters : Ipv4Addr → Peer → Prop}
    {dp dp' : UdpDataPlane} (h : Evolves c f enters dp dp') {I : Ipv4Addr → Peer → Prop}
    (change : ∀ {ip peer peer'}, I ip peer → PeerChange c dp.material peer peer' → I ip peer')
    (enter : ∀ {ip peer}, enters ip peer → I ip peer)
    (start : ∀ {ip peer}, dp.peersByVirtualIp.lookup ip = some peer → I ip peer) {ip : Ipv4Addr}
    {peer : Peer} (hl : dp'.peersByVirtualIp.lookup ip = some peer) : I ip peer := by
  obtain ⟨first, hfirst, hchanges⟩ := h.peers hl
  clear hl
  induction hchanges with
  | refl => exact hfirst.elim start enter
  | tail _ hchange ih => exact change ih hchange

/-- A data plane starts with the peers of its configuration, all new, and with relays that speak for
its own node. -/
theorem bind_starts {c : Crypto} {f : Formats} {state : NodeState} {identity : SigningKey} {now : Nat}
    {utcNow : Int} {dp : UdpDataPlane}
    (h : UdpDataPlane.bind c f state identity now utcNow = .ok dp) :
    (∀ ip peer, dp.peersByVirtualIp.lookup ip = some peer → NewPeer dp.material ip peer) ∧
      dp.relayManager.networkId = dp.material.networkId ∧
      dp.relayManager.nodeId = dp.material.nodeId ∧
      relayClients c f state.configurationPayload.relays now utcNow = .ok dp.relayManager.clients := by
  obtain ⟨parts, hparts, h⟩ := bind_ok.mp h
  cases h
  obtain ⟨material, _, hparts⟩ := bind_ok.mp hparts
  obtain ⟨relayManager, hrelays, hparts⟩ := bind_ok.mp hparts
  obtain ⟨directory, hdirectory, hparts⟩ := bind_ok.mp hparts
  obtain ⟨aclPolicy, _, hparts⟩ := bind_ok.mp hparts
  obtain ⟨subnetRoutes, _, hparts⟩ := bind_ok.mp hparts
  cases hparts
  obtain ⟨clients, hclients, hrelays⟩ := bind_ok.mp hrelays
  cases hrelays
  refine ⟨fun ip peer hl => ?_, rfl, rfl, hclients⟩
  obtain ⟨node, _, henters⟩ := ((buildPeerDirectory_contents hdirectory).2 ip peer).mp hl
  obtain ⟨directEndpoints, _, hnew⟩ := henters.entered
  exact ⟨henters.remote, _, _, _, hnew⟩

end XsNexus
