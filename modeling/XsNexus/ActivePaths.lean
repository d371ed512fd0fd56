import XsNexus.PathAuthentication
import XsNexus.QueuedPackets

namespace XsNexus

open ByteCodec FiniteMap

namespace Peer

variable {c : Crypto} {material : LocalMaterial} {peer : Peer} {source : SocketAddr} {packet : Bytes}
  {now : Nat} {allowRoutedData : Bool} {reads : DatagramReads}

theorem AnswersUnchecked.isHandshakePacket (h : peer.AnswersUnchecked c packet) :
    isHandshakePacket packet = true := by
  rcases h with ⟨htype, _⟩ | ⟨htype, _⟩
  · unfold Peer.isHandshakePacket
    rw [htype]
    decide
  · unfold Peer.isHandshakePacket
    rw [htype]
    decide

/-- What a peer answers unchecked makes any other source its active path. -/
theorem AnswersUnchecked.takes (h : peer.AnswersUnchecked c packet)
    (hother : peer.activeEndpoint ≠ some source) (throughRelay : Bool) :
    (peer.receive c material source packet now allowRoutedData throughRelay reads).2.activeEndpoint =
      some source := by
  have hauth := answersUnchecked_authenticates h material source now allowRoutedData reads
  obtain ⟨result, peer', hprocess⟩ : ∃ result peer',
    peer.processDatagram c material source packet now allowRoutedData reads = (result, peer') :=
      ⟨_, _, rfl⟩
  obtain ⟨hkept, _⟩ := unverified_keeps_path (not_verified_of_answersUnchecked h) source now hprocess
  rw [hprocess] at hauth
  have hauth : result.pathAuthenticated = true := hauth
  have hfresh : peer'.activeEndpoint ≠ some source := hkept ▸ hother
  unfold Peer.receive
  rw [hprocess]
  simp only [hauth, h.isHandshakePacket, awaitingPathResponse, decide_eq_false hfresh, Bool.not_true,
    Bool.and_false, Bool.false_and, Bool.not_false, Bool.and_self, Bool.true_or, if_true]
  rfl

/-- Where nothing is verified, only an unchecked answer moves the active path, to its source. -/
theorem receive_unverified (hv : ¬VerifiedInCall c material peer packet allowRoutedData reads)
    (throughRelay : Bool)
    (hmoved : (peer.receive c material source packet now allowRoutedData throughRelay
      reads).2.activeEndpoint ≠ peer.activeEndpoint) :
    peer.AnswersUnchecked c packet ∧ peer.activeEndpoint ≠ some source := by
  obtain ⟨result, peer', hprocess⟩ : ∃ result peer',
    peer.processDatagram c material source packet now allowRoutedData reads = (result, peer') :=
      ⟨_, _, rfl⟩
  obtain ⟨hkept, hanswer⟩ := unverified_keeps_path hv source now hprocess
  unfold Peer.receive at hmoved
  rw [hprocess] at hmoved
  dsimp only at hmoved
  split at hmoved
  next hpromotes =>
    have hauth : result.pathAuthenticated = true := by
      simp only [Bool.and_eq_true] at hpromotes
      exact hpromotes.1.1.1
    refine ⟨hanswer.resolve_left (by simp [hauth]), fun hsame => hmoved ?_⟩
    rw [hsame]
    rfl
  next => exact absurd hkept hmoved

end Peer

namespace UdpDataPlane

/-- The ways of a datagram to a peer, with the packet that the peer is given. -/
inductive HandsOver (c : Crypto) (dp : UdpDataPlane) (source : SocketAddr) (datagram : Bytes)
    (now : Nat) (unixNow : UInt64) : Ipv4Addr → Bytes → Prop
  | known {ip : Ipv4Addr}
      (direct : (dp.relayManager.handleDatagram c source datagram now unixNow).1 = .notRelay)
      (indexed : dp.peerByEndpoint.lookup source = some ip) :
      HandsOver c dp source datagram now unixNow ip datagram
  | rebinding {ip : Ipv4Addr}
      (direct : (dp.relayManager.handleDatagram c source datagram now unixNow).1 = .notRelay)
      (unknown : dp.peerByEndpoint.lookup source = none) (bound : dp.rebindingPeer datagram = some ip) :
      HandsOver c dp source datagram now unixNow ip datagram
  | relayed {sourceNodeId : Block 16} {payload : Bytes} {ip : Ipv4Addr}
      (carries : (dp.relayManager.handleDatagram c source datagram now unixNow).1 =
        .data sourceNodeId payload)
      (indexed : dp.peerByNodeId.lookup sourceNodeId = some ip) :
      HandsOver c dp source datagram now unixNow ip payload

theorem resolveInboundPeer_eq_some_iff {c : Crypto} {dp : UdpDataPlane} {source : SocketAddr}
    {datagram : Bytes} {now : Nat} {unixNow : UInt64} {ip : Ipv4Addr} {packet : Bytes} :
    (∃ inbound, (dp.resolveInboundPeer c source datagram now unixNow).1 = some inbound ∧
      inbound.virtualIp = ip ∧ inbound.relayPayload.getD datagram = packet) ↔
    dp.HandsOver c source datagram now unixNow ip packet := by
  unfold resolveInboundPeer
  rcases hinbound : dp.relayManager.handleDatagram c source datagram now unixNow with ⟨inbound, manager⟩
  constructor
  · rintro ⟨found, hfound, rfl, rfl⟩
    cases inbound with
    | consumed => cases hfound
    | data sourceNodeId payload =>
      obtain ⟨ip, hip, rfl⟩ := Option.map_eq_some_iff.mp hfound
      have hcarries : (dp.relayManager.handleDatagram c source datagram now unixNow).1 =
          .data sourceNodeId payload := by rw [hinbound]
      exact .relayed hcarries hip
    | notRelay =>
      cases hknown : dp.peerByEndpoint.lookup source with
      | some ip =>
        simp only [hknown] at hfound
        cases hfound
        exact .known (by rw [hinbound]) hknown
      | none =>
        simp only [hknown] at hfound
        obtain ⟨ip, hip, rfl⟩ := Option.map_eq_some_iff.mp hfound
        exact .rebinding (by rw [hinbound]) hknown hip
  · intro h
    cases h with
    | known direct indexed =>
      rw [hinbound] at direct
      obtain rfl : inbound = .notRelay := direct
      simp only [indexed]
      exact ⟨_, rfl, rfl, rfl⟩
    | rebinding direct unknown bound =>
      rw [hinbound] at direct
      obtain rfl : inbound = .notRelay := direct
      simp only [unknown]
      exact ⟨_, Option.map_eq_some_iff.mpr ⟨ip, bound, rfl⟩, rfl, rfl⟩
    | relayed carries indexed =>
      rw [hinbound] at carries
      obtain rfl : inbound = .data _ packet := carries
      exact ⟨_, Option.map_eq_some_iff.mpr ⟨ip, indexed, rfl⟩, rfl, rfl⟩

section Receiving

variable (c : Crypto) (dp : UdpDataPlane) (source : SocketAddr) (datagram : Bytes) (reads : ReceiveReads)

def Gives (ip : Ipv4Addr) (packet : Bytes) : Prop :=
  CandidateManager.handlesDiscoveryResponse datagram = false ∧
    ∃ unixNow, reads.unixTime = some unixNow ∧
      dp.HandsOver c (normalizeEndpoint source) datagram reads.instant unixNow ip packet

/-- `receive` moves the active path of a peer only on bytes that this call verifies for it. -/
def MovesVerified : Prop :=
  ∀ ip peer peer', dp.peersByVirtualIp.lookup ip = some peer →
    (dp.receive c source datagram reads).dataPlane.peersByVirtualIp.lookup ip = some peer' →
    peer'.activeEndpoint ≠ peer.activeEndpoint →
    ∃ packet, dp.Gives c source datagram reads ip packet ∧
      VerifiedInCall c dp.material peer packet
        (dp.subnetRoutes.permitsRoutedSession dp.localNodeIdBase64 peer.nodeIdBase64) reads.datagram

/-- A peer is given a packet that it answers unchecked, over a path that is not its active one. -/
def GivesUnchecked : Prop :=
  ∃ ip peer packet, dp.Gives c source datagram reads ip packet ∧
    dp.peersByVirtualIp.lookup ip = some peer ∧
    peer.activeEndpoint ≠ some (normalizeEndpoint source) ∧ peer.AnswersUnchecked c packet

end Receiving

variable {c : Crypto} {dp : UdpDataPlane} {source : SocketAddr} {datagram : Bytes} {reads : ReceiveReads}

theorem Gives.unique {ip ip' : Ipv4Addr} {packet packet' : Bytes}
    (h : dp.Gives c source datagram reads ip packet) (h' : dp.Gives c source datagram reads ip' packet') :
    ip' = ip ∧ packet' = packet := by
  obtain ⟨_, unixNow, hclock, hover⟩ := h
  obtain ⟨_, unixNow', hclock', hover'⟩ := h'
  cases hclock.symm.trans hclock'
  obtain ⟨inbound, hinbound, rfl, rfl⟩ := resolveInboundPeer_eq_some_iff.mpr hover
  obtain ⟨inbound', hinbound', rfl, rfl⟩ := resolveInboundPeer_eq_some_iff.mpr hover'
  cases hinbound.symm.trans hinbound'
  exact ⟨rfl, rfl⟩

theorem sendAll_peers (dp : UdpDataPlane) (transmissions : List Transmission)
    (reads : Nat → SendReads) :
    (dp.sendAll transmissions reads).dataPlane.peersByVirtualIp = dp.peersByVirtualIp := by
  induction transmissions generalizing dp reads with
  | nil => rfl
  | cons transmission transmissions ih =>
    unfold sendAll
    dsimp only
    split
    next => exact sendXsp_peers dp transmission (reads 0)
    next => exact (ih _ _).trans (sendXsp_peers dp transmission (reads 0))

theorem rebuildEndpointIndex_peers (dp : UdpDataPlane) :
    dp.rebuildEndpointIndex.2.peersByVirtualIp = dp.peersByVirtualIp := by
  unfold rebuildEndpointIndex
  split <;> rfl

theorem receive_peers (dp : UdpDataPlane) (source : SocketAddr) (datagram : Bytes)
    (reads : ReceiveReads) : (dp.receive c source datagram reads).dataPlane.peersByVirtualIp =
      (dp.receivePrepared c source datagram reads).2.peersByVirtualIp := by
  rw [receive_eq]
  rcases dp.receivePrepared c source datagram reads with ⟨received, prepared⟩
  cases received with
  | error e => rfl
  | ok received =>
    have hsent := sendAll_peers prepared received.transmissions reads.sends
    dsimp only
    split
    next => exact hsent
    next =>
      split
      next => exact (rebuildEndpointIndex_peers _).trans hsent
      next => exact hsent

/-- The peer that is given the packet takes the path that its own call says, the others stay. -/
theorem Gives.receives {ip : Ipv4Addr} {packet : Bytes} {peer : Peer}
    (h : dp.Gives c source datagram reads ip packet) (hl : dp.peersByVirtualIp.lookup ip = some peer) :
    ∃ throughRelay after, (dp.receive c source datagram reads).dataPlane.peersByVirtualIp =
        dp.peersByVirtualIp.insert ip after ∧
      after.activeEndpoint = (peer.receive c dp.material (normalizeEndpoint source) packet reads.instant
        (dp.subnetRoutes.permitsRoutedSession dp.localNodeIdBase64 peer.nodeIdBase64) throughRelay
        reads.datagram).2.activeEndpoint := by
  obtain ⟨hother, unixNow, hclock, hover⟩ := h
  obtain ⟨inbound, hinbound, rfl, rfl⟩ := resolveInboundPeer_eq_some_iff.mpr hover
  have hresolved := resolveInboundPeer_snd (c := c) dp (normalizeEndpoint source) datagram reads.instant
    unixNow
  rcases hpair : dp.resolveInboundPeer c (normalizeEndpoint source) datagram reads.instant unixNow with
    ⟨found, resolved⟩
  rw [hpair] at hinbound hresolved
  obtain rfl : found = some inbound := hinbound
  obtain rfl : resolved = _ := hresolved
  obtain ⟨result, moved, hmoved⟩ : ∃ result moved, peer.receive c dp.material (normalizeEndpoint source)
    (inbound.relayPayload.getD datagram) reads.instant
    (dp.subnetRoutes.permitsRoutedSession dp.localNodeIdBase64 peer.nodeIdBase64) inbound.throughRelay
    reads.datagram = (result, moved) := ⟨_, _, rfl⟩
  rw [receive_peers, receivePrepared]
  dsimp only
  rw [if_neg (by simp [hother]), hclock]
  dsimp only
  rw [hpair]
  dsimp only
  rw [hl]
  dsimp only
  rw [hmoved]
  dsimp only
  generalize result.plaintext.filter _ = plaintext
  refine ⟨inbound.throughRelay, plaintext.elim moved moved.countReceived, ?_, ?_⟩
  · split
    next => rfl
    next => rfl
  · rw [hmoved]
    cases plaintext with
    | none => rfl
    | some plaintext => rfl

theorem receive_unread (h : ∀ ip packet, dp.Gives c source datagram reads ip packet →
    dp.peersByVirtualIp.lookup ip = none) :
    (dp.receive c source datagram reads).dataPlane.peersByVirtualIp = dp.peersByVirtualIp := by
  rw [receive_peers, receivePrepared]
  dsimp only
  by_cases hdiscovery : CandidateManager.handlesDiscoveryResponse datagram = true
  · rw [if_pos hdiscovery]
  rw [if_neg hdiscovery]
  cases hclock : reads.unixTime with
  | none => rfl
  | some unixNow =>
    have hresolved := resolveInboundPeer_snd (c := c) dp (normalizeEndpoint source) datagram reads.instant
      unixNow
    rcases hpair : dp.resolveInboundPeer c (normalizeEndpoint source) datagram reads.instant unixNow with
      ⟨found, resolved⟩
    rw [hpair] at hresolved
    obtain rfl : resolved = _ := hresolved
    dsimp only
    rw [hpair]
    cases found with
    | none => rfl
    | some inbound =>
      have hover := resolveInboundPeer_eq_some_iff.mp
        ⟨inbound, congrArg Prod.fst hpair, rfl, rfl⟩
      have hnone := h _ _ ⟨eq_false_of_ne_true hdiscovery, unixNow, hclock, hover⟩
      dsimp only
      rw [hnone]

theorem movesVerified_iff :
    dp.MovesVerified c source datagram reads ↔ ¬dp.GivesUnchecked c source datagram reads := by
  constructor
  · rintro hmoves ⟨ip, peer, packet, hgives, hl, hother, hunchecked⟩
    obtain ⟨throughRelay, after, hpeers, hendpoint⟩ := hgives.receives hl
    have htaken : after.activeEndpoint = some (normalizeEndpoint source) :=
      hendpoint.trans (hunchecked.takes hother throughRelay)
    have hafter : (dp.receive c source datagram reads).dataPlane.peersByVirtualIp.lookup ip = some after := by
      rw [hpeers]
      exact AList.lookup_insert _
    have hmoved : after.activeEndpoint ≠ peer.activeEndpoint := fun hsame => hother (hsame ▸ htaken)
    obtain ⟨packet', hgives', hv⟩ := hmoves ip peer after hl hafter hmoved
    obtain ⟨-, rfl⟩ := hgives.unique hgives'
    exact not_verified_of_answersUnchecked hunchecked hv
  · intro hchecked ip peer peer' hl hafter hmoved
    by_cases hgiven : ∃ other packet held, dp.Gives c source datagram reads other packet ∧
      dp.peersByVirtualIp.lookup other = some held
    · obtain ⟨other, packet, held, hgives, hheld⟩ := hgiven
      obtain ⟨throughRelay, after, hpeers, hendpoint⟩ := hgives.receives hheld
      rw [hpeers, lookup_insert_eq] at hafter
      split at hafter
      next hsame =>
        cases hafter
        subst hsame
        cases hl.symm.trans hheld
        by_contra hnone
        have hv : ¬VerifiedInCall c dp.material peer packet
            (dp.subnetRoutes.permitsRoutedSession dp.localNodeIdBase64 peer.nodeIdBase64)
            reads.datagram := fun hv => hnone ⟨packet, hgives, hv⟩
        rw [hendpoint] at hmoved
        obtain ⟨hunchecked, hother⟩ := Peer.receive_unverified hv throughRelay hmoved
        exact hchecked ⟨ip, peer, packet, hgives, hl, hother, hunchecked⟩
      next =>
        cases hl.symm.trans hafter
        exact absurd rfl hmoved
    · have hsame : (dp.receive c source datagram reads).dataPlane.peersByVirtualIp =
          dp.peersByVirtualIp := by
        refine receive_unread fun other packet hgives => ?_
        by_contra hsome
        obtain ⟨held, hheld⟩ := Option.ne_none_iff_exists'.mp hsome
        exact hgiven ⟨other, packet, held, hgives, hheld⟩
      rw [hsame] at hafter
      cases hl.symm.trans hafter
      exact absurd rfl hmoved

end UdpDataPlane

/-- A datagram authenticates a path, and moves the active one, only on bytes that the call verified:
exactly where no retransmission branch answers first. -/
theorem path_authenticated_iff_checked (c : Crypto) :
    (∀ (material : LocalMaterial) (peer : Peer) (source : SocketAddr) (datagram : Bytes) (now : Nat)
      (allowRoutedData : Bool) (reads : DatagramReads),
      ((peer.processDatagram c material source datagram now allowRoutedData
          reads).1.pathAuthenticated = true →
        VerifiedInCall c material peer datagram allowRoutedData reads) ↔
          ¬ peer.AnswersUnchecked c datagram) ∧
    ∀ (dp : UdpDataPlane) (source : SocketAddr) (datagram : Bytes) (reads : ReceiveReads),
      dp.MovesVerified c source datagram reads ↔ ¬dp.GivesUnchecked c source datagram reads :=
  ⟨Peer.authenticates_iff c, fun _ _ _ _ => UdpDataPlane.movesVerified_iff⟩

def sampleSpareEndpoint : SocketAddr := .v4 ⟨.new 192 0 2 2, 4000⟩

/-- A peer with two endpoints that waits for its `ServerFinish`. -/
def sampleWaitingPeer (machine : ClientFinishSent) : Peer :=
  { samplePeer with
    candidates := [⟨.static, sampleEndpoint, 100, 0⟩, ⟨.static, sampleSpareEndpoint, 50, 0⟩]
    state := .clientFinish { machine := machine, retry := .handshake machine.encoded 0 } }

/-- The data plane of that one peer, before its endpoints are indexed. -/
def sampleUnindexed (machine : ClientFinishSent) : UdpDataPlane where
  material := sampleMaterial
  peersByVirtualIp := (∅ : Map Ipv4Addr Peer).insert samplePeer.virtualIp (sampleWaitingPeer machine)
  peerByEndpoint := ∅
  peerByNodeId := ∅
  relayManager := ⟨fill 16 21, sampleMaterial.nodeId, sampleMaterial.credential, sampleLocalKey, ∅⟩
  aclPolicy := ⟨[], ∅, []⟩
  subnetRoutes := ⟨[], ∅⟩
  localNodeIdBase64 := "local"
  retiredTelemetry := .zero
  configurationVersion := 1
  policyVersion := 1

def sampleGarbageReads : ReceiveReads where
  instant := 1
  unixTime := some 1700000100
  datagram := ⟨none, none, none, none, some 1700000100, 1⟩
  sends := fun _ => ⟨some 1700000100, 0, true⟩

/-- While a peer waits for its `ServerFinish`, six bytes from its other endpoint take its path over. -/
theorem garbage_takes_path : ∃ machine dp, sampleFinishing = some machine ∧
    (sampleUnindexed machine).rebuildEndpointIndex = (.ok (), dp) ∧
    ((sampleWaitingPeer machine).processDatagram .transparent sampleMaterial sampleSpareEndpoint
      garbageServerHello 1 false sampleGarbageReads.datagram).1.pathAuthenticated = true ∧
    ¬VerifiedInCall .transparent sampleMaterial (sampleWaitingPeer machine) garbageServerHello false
      sampleGarbageReads.datagram ∧
    ((dp.receive .transparent sampleSpareEndpoint garbageServerHello
      sampleGarbageReads).dataPlane.peersByVirtualIp.lookup samplePeer.virtualIp).map
        Peer.activeEndpoint = some (some sampleSpareEndpoint) ∧
    ¬dp.MovesVerified .transparent sampleSpareEndpoint garbageServerHello sampleGarbageReads := by
  have hsome : sampleFinishing.isSome = true := by decide +kernel
  obtain ⟨machine, hmachine⟩ := Option.isSome_iff_exists.mp hsome
  obtain ⟨peer, hpeer⟩ : ∃ peer, peer = sampleWaitingPeer machine := ⟨_, rfl⟩
  obtain ⟨dp, hdp⟩ : ∃ dp, dp = (sampleUnindexed machine).rebuildEndpointIndex.2 := ⟨_, rfl⟩
  have hindexed : (sampleUnindexed machine).rebuildEndpointIndex.1 = .ok () := by rfl
  have hunchecked : peer.AnswersUnchecked .transparent garbageServerHello :=
    hpeer ▸ Or.inl ⟨rfl, _, rfl⟩
  have hl : dp.peersByVirtualIp.lookup samplePeer.virtualIp = some peer := by
    rw [hdp, UdpDataPlane.rebuildEndpointIndex_peers, hpeer]
    exact AList.lookup_insert _
  have hknown : dp.peerByEndpoint.lookup sampleSpareEndpoint = some samplePeer.virtualIp := by
    rw [hdp]
    rfl
  have hother : peer.activeEndpoint ≠ some sampleSpareEndpoint := by
    have hdistinct : sampleEndpoint ≠ sampleSpareEndpoint := by decide +kernel
    rw [hpeer]
    exact fun hsame => hdistinct (Option.some.inj hsame)
  have hgives : dp.Gives .transparent sampleSpareEndpoint garbageServerHello sampleGarbageReads
      samplePeer.virtualIp garbageServerHello := by
    refine ⟨by decide +kernel, 1700000100, rfl, .known ?_ hknown⟩
    rw [hdp]
    rfl
  have hmoves : ¬dp.MovesVerified .transparent sampleSpareEndpoint garbageServerHello sampleGarbageReads :=
    fun hmoves => UdpDataPlane.movesVerified_iff.mp hmoves
      ⟨samplePeer.virtualIp, peer, garbageServerHello, hgives, hl, hother, hunchecked⟩
  obtain ⟨throughRelay, after, hpeers, hendpoint⟩ := hgives.receives hl
  refine ⟨machine, dp, hmachine, Prod.ext hindexed hdp.symm, ?_, ?_, ?_, hmoves⟩
  · exact hpeer ▸ Peer.answersUnchecked_authenticates hunchecked sampleMaterial sampleSpareEndpoint 1
      false sampleGarbageReads.datagram
  · exact hpeer ▸ not_verified_of_answersUnchecked hunchecked
  · rw [hpeers, AList.lookup_insert, Option.map_some, hendpoint]
    exact congrArg some (hunchecked.takes hother throughRelay)

end XsNexus
