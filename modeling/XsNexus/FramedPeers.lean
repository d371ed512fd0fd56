import XsNexus.DataPlaneRuns
import XsNexus.HandshakeAgreement
import XsNexus.RelayPayloads

namespace XsNexus

open ByteCodec Checks FiniteMap MachineWords Relation Runs

def DataSender.route (s : DataSender) : RelayRoute :=
  ⟨s.networkId, s.sourceNodeId, s.destinationNodeId⟩

def HandshakeContext.route (context : HandshakeContext) : RelayRoute :=
  ⟨context.networkId, context.localNodeId, context.peerNodeId⟩

/-- The way from this node to the peer. -/
def Peer.route (material : LocalMaterial) (peer : Peer) : RelayRoute :=
  ⟨material.networkId, material.nodeId, peer.nodeId⟩

/-- A handshake or control datagram of the route: none is longer than a `ServerHello`. -/
def Short (route : RelayRoute) (datagram : Bytes) : Prop :=
  Routable route datagram ∧ datagram.length ≤ commonHeaderLength + serverHelloBodyLength

/-- A datagram of the route as long as one that carries the packet. -/
def Carries (route : RelayRoute) (packet datagram : Bytes) : Prop :=
  Routable route datagram ∧ datagram.length = dataHeaderLength + packet.length + dataTagLength

section Sessions

variable {c : Crypto} {route : RelayRoute}

theorem SealOutcome.keepsRoute {s : DataSender} {outcome : Option Bytes × DataSender}
    (h : SealOutcome c s outcome) : outcome.2.route = s.route := by
  rcases h with h | ⟨datagram, _, packetType, flags, pathId, plaintext, ciphertext, tag, next, hseals⟩
  · rw [h]
  · obtain ⟨_, _, _, _, hafter⟩ := hseals
    rw [hafter]
    rfl

theorem rotateEpoch_route (c : Crypto) (s : DataSender) (nextEpoch : UInt32) :
    (s.rotateEpoch c nextEpoch).2.route = s.route := by
  rcases rotateEpoch_outcome c s nextEpoch with h | ⟨s', h, _, _, _, _, hs⟩
  · rw [h]
  · rw [h, hs]
    rfl

theorem sealControl_short (haead : AeadCorrect c) {s s' : DataSender} (hroute : s.route = route)
    (hvalid : route.Valid) {packetType : PacketType} {flags : DataFlags} {pathId : UInt32}
    {payload datagram : Bytes}
    (h : s.sealControl c packetType flags pathId payload = (some datagram, s')) :
    Short route datagram := by
  subst hroute
  unfold DataSender.sealControl at h
  split at h
  next => simp at h
  next hcontrol =>
    split at h
    next => simp at h
    next hpayload =>
      obtain ⟨hroutable, hlength⟩ := sealPacket_routable haead hvalid h
      refine ⟨hroutable, ?_⟩
      have hshort : payload.length ≤ 258 := by
        cases packetType with
        | data => exact absurd rfl hcontrol
        | keepalive =>
          simp [validatePayload] at hpayload
          simp [hpayload]
        | _ =>
          simp [validatePayload] at hpayload
          omega
      rw [hlength]
      unfold dataHeaderLength dataTagLength commonHeaderLength serverHelloBodyLength
      omega

/-- Both ways of sealing a packet of the TUN. -/
theorem sealTun_carries (haead : AeadCorrect c) {s s' : DataSender} (hroute : s.route = route)
    (hvalid : route.Valid) {flags : DataFlags} {pathId : UInt32} {packet datagram : Bytes}
    {routed : Bool}
    (h : (if routed then s.sealRoutedIpv4 c flags pathId packet
      else s.sealIpv4 c flags pathId packet) = (some datagram, s')) :
    Carries route packet datagram := by
  subst hroute
  have hsealed : s.sealPacket c .data flags pathId packet = (some datagram, s') := by
    split at h
    next =>
      unfold DataSender.sealRoutedIpv4 at h
      split at h
      next => simp at h
      next => exact h
    next =>
      unfold DataSender.sealIpv4 at h
      split at h
      next => simp at h
      next => exact h
  exact sealPacket_routable haead hvalid hsealed

theorem sealTun_route (c : Crypto) (s : DataSender) (flags : DataFlags) (pathId : UInt32)
    (packet : Bytes) (routed : Bool) :
    (if routed then s.sealRoutedIpv4 c flags pathId packet
      else s.sealIpv4 c flags pathId packet).2.route = s.route := by
  split
  next => exact (sealRoutedIpv4_outcome c s flags pathId packet).keepsRoute
  next => exact (sealIpv4_outcome c s flags pathId packet).keepsRoute

/-- The session sends on its route, and what it keeps for retransmission is of that route too. -/
structure EstablishedPeer.Framed (route : RelayRoute) (established : EstablishedPeer) : Prop where
  valid : route.Valid
  sender : established.sender.route = route
  update : ∀ pending, established.outboundKeyUpdate = some pending → Short route pending.retry.encoded

theorem maintainEstablished_framed (haead : AeadCorrect c) {established : EstablishedPeer}
    (h : established.Framed route) (now : Nat) :
    (maintainEstablished c established now).2.Framed route ∧
      ∀ encoded, (maintainEstablished c established now).1 = .ok (some encoded) →
        Short route encoded := by
  unfold maintainEstablished
  dsimp only
  obtain ⟨retired, hretired⟩ : ∃ retired, retired =
    (if established.previousEpochInstalledAt.any fun installed =>
        saturatingDurationSince now installed ≥ previousEpochRetention then
      { established with
        receiver := established.receiver.retirePreviousEpoch
        previousEpochInstalledAt := none }
    else established) := ⟨_, rfl⟩
  rw [← hretired]
  have hframed : retired.Framed route := by
    rw [hretired]
    split
    next => exact ⟨h.valid, h.sender, h.update⟩
    next => exact h
  split
  next pending hpending =>
    have hshort := hframed.update pending hpending
    obtain ⟨hkept, hsent⟩ := poll_encoded pending.retry now
    split
    next retry hpoll =>
      rw [hpoll] at hkept
      refine ⟨⟨hframed.valid, hframed.sender, fun other hother => ?_⟩, fun _ hsend => by simp at hsend⟩
      cases hother
      exact hkept ▸ hshort
    next encoded retry hpoll =>
      rw [hpoll] at hkept hsent
      refine ⟨⟨hframed.valid, hframed.sender, fun other hother => ?_⟩, fun other hother => ?_⟩
      · cases hother
        exact hkept ▸ hshort
      · cases hother
        exact hsent encoded rfl ▸ hshort
    next => exact ⟨⟨hframed.valid, hframed.sender, fun _ hother => by simp at hother⟩,
      fun _ hsend => by simp at hsend⟩
  next hidle =>
    have hkeeps : ∀ sender : DataSender, sender.route = retired.sender.route →
        EstablishedPeer.Framed route { retired with sender := sender } := fun sender hsender =>
      ⟨hframed.valid, hsender.trans hframed.sender, hframed.update⟩
    split
    next =>
      split
      next => exact ⟨hframed, fun _ hsend => by simp at hsend⟩
      next =>
        split
        next => exact ⟨hframed, fun _ hsend => by simp at hsend⟩
        next payload _ =>
          have hroute := (sealControl_outcome c retired.sender .keyUpdate .control 0 payload.val).keepsRoute
          split
          next sender hseal =>
            rw [hseal] at hroute
            exact ⟨hkeeps sender hroute, fun _ hsend => by simp at hsend⟩
          next encoded sender hseal =>
            rw [hseal] at hroute
            have hshort := sealControl_short haead hframed.sender hframed.valid hseal
            refine ⟨⟨hframed.valid, hroute.trans hframed.sender, fun pending hpending => ?_⟩,
              fun other hother => ?_⟩
            · cases hpending
              exact hshort
            · cases hother
              exact hshort
    next =>
      split
      next =>
        have hroute := (sealControl_outcome c retired.sender .keepalive .NONE 0 []).keepsRoute
        split
        next sender hseal =>
          rw [hseal] at hroute
          exact ⟨hkeeps sender hroute, fun _ hsend => by simp at hsend⟩
        next encoded sender hseal =>
          rw [hseal] at hroute
          refine ⟨⟨hframed.valid, hroute.trans hframed.sender, hframed.update⟩, fun other hother => ?_⟩
          cases hother
          exact sealControl_short haead hframed.sender hframed.valid hseal
      next => exact ⟨hframed, fun _ hsend => by simp at hsend⟩

theorem handleKeyUpdate_framed (haead : AeadCorrect c) {established : EstablishedPeer}
    (h : established.Framed route) (opened : OpenedPacket) (instant : Nat) :
    (handleKeyUpdate c established opened instant).2.Framed route ∧
      ∀ encoded, (handleKeyUpdate c established opened instant).1 = some encoded →
        Short route encoded := by
  have hroute := (sealControl_outcome c established.sender .keyUpdateAck .control 0
    opened.plaintext).keepsRoute
  have hack : ∀ encoded, (established.sender.sealControl c .keyUpdateAck .control 0
      opened.plaintext).1 = some encoded → Short route encoded := by
    intro encoded hsome
    exact sealControl_short haead h.sender h.valid (Prod.ext hsome rfl)
  unfold handleKeyUpdate
  split
  next => exact ⟨h, fun _ hsend => by simp at hsend⟩
  next nextEpoch _ =>
    dsimp only
    split
    next =>
      split
      next => exact ⟨⟨h.valid, h.sender, h.update⟩, fun _ hsend => by simp at hsend⟩
      next => exact ⟨⟨h.valid, hroute.trans h.sender, h.update⟩, hack⟩
    next =>
      split
      next => exact ⟨h, fun _ hsend => by simp at hsend⟩
      next => exact ⟨⟨h.valid, hroute.trans h.sender, h.update⟩, hack⟩

theorem handleKeyUpdateAck_framed {established : EstablishedPeer} (h : established.Framed route)
    (opened : OpenedPacket) (instant : Nat) :
    (handleKeyUpdateAck c established opened instant).Framed route := by
  unfold handleKeyUpdateAck
  split
  next => exact h
  next pending _ =>
    dsimp only
    split
    next => exact h
    next nextEpoch _ =>
      split
      next => exact h
      next =>
        have hroute := rotateEpoch_route c established.sender nextEpoch
        split
        next sender hrotate =>
          rw [hrotate] at hroute
          exact ⟨h.valid, hroute.trans h.sender, h.update⟩
        next sender hrotate =>
          rw [hrotate] at hroute
          exact ⟨h.valid, hroute.trans h.sender, fun _ hpending => by simp at hpending⟩

theorem sealQueued_carries (haead : AeadCorrect c) (hvalid : route.Valid)
    (packets : List QueuedPacket) {s : DataSender} (hroute : s.route = route) :
    (sealQueued c packets s).2.route = route ∧ ∀ datagram ∈ (sealQueued c packets s).1,
      ∃ packet ∈ packets, Carries route packet.encoded datagram := by
  induction packets generalizing s with
  | nil => exact ⟨hroute, fun datagram hmem => by simp [sealQueued] at hmem⟩
  | cons packet packets ih =>
    have hfirst := sealTun_route c s .ackEliciting 0 packet.encoded packet.routed
    unfold sealQueued
    rcases hseal : (if packet.routed then s.sealRoutedIpv4 c .ackEliciting 0 packet.encoded
      else s.sealIpv4 c .ackEliciting 0 packet.encoded) with ⟨encoded, sender⟩
    rw [hseal] at hfirst
    obtain ⟨hlast, hrest⟩ := ih (hfirst.trans hroute)
    refine ⟨hlast, fun datagram hmem => ?_⟩
    rcases List.mem_append.mp hmem with hmem | hmem
    · cases encoded with
      | none => simp at hmem
      | some encoded =>
        cases List.mem_singleton.mp hmem
        exact ⟨packet, List.mem_cons_self, sealTun_carries haead hroute hvalid hseal⟩
    · obtain ⟨other, hother, hcarries⟩ := hrest datagram hmem
      exact ⟨other, List.mem_cons_of_mem _ hother, hcarries⟩

end Sessions

/-- A handshake under way: it goes on over its route, and so does what it keeps for retransmission. -/
structure HandshakeFramed (route : RelayRoute) (context : HandshakeContext) (retry : RetryState) :
    Prop where
  valid : route.Valid
  context : context.route = route
  short : Short route retry.encoded

def PeerState.Framed (route : RelayRoute) : PeerState → Prop
  | .idle => True
  | .clientHello pending => HandshakeFramed route pending.machine.context pending.retry
  | .clientFinish pending => HandshakeFramed route pending.machine.context pending.retry
  | .serverHello pending => HandshakeFramed route pending.machine.context pending.retry
  | .established peer => peer.Framed route

/-- All a peer has to send again is of one route. -/
structure Peer.Framed (route : RelayRoute) (peer : Peer) : Prop where
  node : peer.nodeId = route.destinationNodeId
  state : peer.state.Framed route
  probe : ∀ pending, peer.pendingPathProbe = some pending → Short route pending.retry.encoded

namespace Peer.Framed

variable {c : Crypto} {material : LocalMaterial} {peer : Peer} {route : RelayRoute}

theorem withState (h : peer.Framed route) {state : PeerState} (hstate : state.Framed route) :
    Peer.Framed route { peer with state := state } :=
  ⟨h.node, hstate, h.probe⟩

theorem idle (h : peer.Framed route) : Peer.Framed route { peer with state := .idle } :=
  h.withState trivial

theorem clearQueue (h : peer.Framed route) : peer.clearQueue.Framed route :=
  ⟨h.node, trivial, h.probe⟩

theorem promotePath (h : peer.Framed route) (endpoint : SocketAddr) (reason : PathSelectionReason) :
    (peer.promotePath endpoint reason).Framed route :=
  ⟨h.node, h.state, fun _ hpending => by simp [Peer.promotePath] at hpending⟩

theorem established {established : EstablishedPeer} (h : peer.Framed route)
    (hs : peer.state = .established established) : established.Framed route := by
  have := h.state
  rwa [hs] at this

theorem beginClientHandshake (h : peer.Framed (peer.route material)) {now : Nat} {reads : HelloReads}
    {encoded : Bytes} {peer' : Peer}
    (hbegin : peer.beginClientHandshake c material now reads = .ok (encoded, peer')) :
    peer'.Framed (peer.route material) ∧ Short (peer.route material) encoded := by
  unfold Peer.beginClientHandshake at hbegin
  split at hbegin
  next => simp at hbegin
  next =>
    dsimp only at hbegin
    split at hbegin
    next => simp at hbegin
    next machine hmachine =>
      cases hbegin
      obtain ⟨_, _, hmachine⟩ := Option.bind_eq_some_iff.mp hmachine
      obtain ⟨_, _, hmachine⟩ := Option.bind_eq_some_iff.mp hmachine
      obtain ⟨_, _, hmachine⟩ := Option.bind_eq_some_iff.mp hmachine
      obtain ⟨_, _, hmachine⟩ := Option.bind_eq_some_iff.mp hmachine
      obtain ⟨hcontext, hroutable, hlength⟩ := ClientHelloSent.start_routable hmachine
      have hshort : Short (peer.route material) machine.encoded := by
        refine ⟨hroutable, ?_⟩
        rw [hlength]
        decide
      refine ⟨⟨rfl, ⟨hroutable.1, ?_, hshort⟩, h.probe⟩, hshort⟩
      rw [hcontext]
      rfl

theorem handleClientHello (h : peer.Framed (peer.route material)) (datagram : Bytes) (now : Nat)
    (reads : DatagramReads) {result : ProcessResult} {peer' : Peer}
    (hcall : peer.handleClientHello c material datagram now reads = (result, peer')) :
    peer'.Framed (peer.route material) ∧
      ∀ encoded ∈ result.outbound, Short (peer.route material) encoded := by
  rcases handleClientHello_cases hcall with ⟨encoded, hcached, rfl, rfl⟩ | ⟨_, rfl, rfl⟩ |
    ⟨machine, _, _, haccept, rfl, rfl⟩
  · obtain ⟨pending, hs, _, rfl⟩ := cachedServerHello_eq_some hcached
    have hstate := h.state
    rw [hs] at hstate
    refine ⟨h, fun encoded hmem => ?_⟩
    cases List.mem_singleton.mp hmem
    exact hstate.short
  · exact ⟨⟨rfl, h.state, h.probe⟩, fun encoded hmem => by simp [ProcessResult.empty] at hmem⟩
  · obtain ⟨_, _, haccept⟩ := Option.bind_eq_some_iff.mp haccept
    obtain ⟨_, _, haccept⟩ := Option.bind_eq_some_iff.mp haccept
    obtain ⟨_, _, haccept⟩ := Option.bind_eq_some_iff.mp haccept
    obtain ⟨_, _, haccept⟩ := Option.bind_eq_some_iff.mp haccept
    obtain ⟨_, _, haccept⟩ := Option.bind_eq_some_iff.mp haccept
    obtain ⟨hcontext, hroutable, hlength⟩ := ServerHelloSent.accept_routable haccept
    have hshort : Short (peer.route material) machine.encoded := ⟨hroutable, hlength.le⟩
    refine ⟨⟨rfl, ⟨hroutable.1, ?_, hshort⟩, h.probe⟩, fun encoded hmem => ?_⟩
    · rw [hcontext]
      rfl
    · cases List.mem_singleton.mp hmem
      exact hshort

theorem handleServerHello (haead : AeadCorrect c) (h : peer.Framed route) (datagram : Bytes)
    (now : Nat) (reads : DatagramReads) {result : ProcessResult} {peer' : Peer}
    (hcall : peer.handleServerHello c material datagram now reads = (result, peer')) :
    peer'.Framed route ∧ ∀ encoded ∈ result.outbound, Short route encoded := by
  have hstate := h.state
  rcases handleServerHello_cases hcall with ⟨pending, hs, rfl, rfl⟩ |
    ⟨pending, unixTime, machine, hs, _, haccept, rfl, rfl⟩ | ⟨pending, _, rfl, hafter⟩ |
    ⟨_, _, rfl, rfl⟩
  · rw [hs] at hstate
    refine ⟨h, fun encoded hmem => ?_⟩
    cases List.mem_singleton.mp hmem
    exact hstate.short
  · rw [hs] at hstate
    have hfinish : ∃ messageId sessionId key nonceSalt plaintext,
        encodeFinish c clientFinishType messageId sessionId key nonceSalt plaintext =
          some machine.encoded := by
      obtain ⟨_, _, _, _, _, _, ciphertext, tag, hencrypt, hencoded⟩ :=
        acceptServerHello_eq_some haccept
      refine ⟨machine.messageId, machine.sessionId, machine.keys.clientKey,
        machine.keys.clientNonceSalt, machine.keys.helloTranscriptHash, ?_⟩
      rw [encodeFinish_eq, hencrypt, hencoded]
      rfl
    obtain ⟨_, _, _, _, _, hfinish⟩ := hfinish
    obtain ⟨hroutable, hlength⟩ := encodeFinish_routable haead hstate.valid (Or.inl rfl) hfinish
    have hshort : Short route machine.encoded := by
      refine ⟨hroutable, ?_⟩
      rw [hlength]
      decide
    have hcontext := (acceptServerHello_eq_some haccept).2.1
    refine ⟨h.withState ⟨hstate.valid, ?_, hshort⟩, fun encoded hmem => ?_⟩
    · rw [hcontext]
      exact hstate.context
    · cases List.mem_singleton.mp hmem
      exact hshort
  · refine ⟨?_, fun encoded hmem => by simp [ProcessResult.empty] at hmem⟩
    rcases hafter with rfl | ⟨_, rfl⟩
    · exact h.clearQueue
    · exact h.idle
  · exact ⟨h, fun encoded hmem => by simp [ProcessResult.empty] at hmem⟩

theorem installSession (haead : AeadCorrect c) (h : peer.Framed route) (hvalid : route.Valid)
    {session : EstablishedSession} (hsession : session.context.route = route) (instant : Nat) :
    (peer.installSession c session instant).2.Framed route ∧
      ∀ datagram ∈ (peer.installSession c session instant).1, ∃ packet ∈ peer.queuedPackets,
        Carries route packet.encoded datagram := by
  unfold Peer.installSession
  split
  next => exact ⟨h.clearQueue, fun datagram hmem => by simp at hmem⟩
  next sender receiver hplane =>
    have hsender : sender.route = route := by
      rw [intoDataPlane_eq] at hplane
      obtain ⟨first, hfirst, hplane⟩ := Option.bind_eq_some_iff.mp hplane
      obtain ⟨_, _, hplane⟩ := Option.map_eq_some_iff.mp hplane
      cases hplane
      obtain ⟨epoch, _, hfirst⟩ := Option.bind_eq_some_iff.mp hfirst
      cases Option.some.inj hfirst
      exact hsession
    obtain ⟨hlast, hcarries⟩ := sealQueued_carries haead hvalid peer.queuedPackets hsender
    dsimp only
    exact ⟨⟨h.node, ⟨hvalid, hlast, fun _ hpending => by simp at hpending⟩, h.probe⟩, hcarries⟩

theorem handleClientFinish (haead : AeadCorrect c) (h : peer.Framed route) (datagram : Bytes)
    (instant : Nat) {result : ProcessResult} {peer' : Peer}
    (hcall : peer.handleClientFinish c datagram instant = (result, peer')) :
    peer'.Framed route ∧ ∀ encoded ∈ result.outbound, Short route encoded ∨
      ∃ packet ∈ peer.queuedPackets, Carries route packet.encoded encoded := by
  have hstate := h.state
  unfold Peer.handleClientFinish at hcall
  split at hcall
  next pending hs =>
    rw [hs] at hstate
    split at hcall
    next =>
      cases hcall
      exact ⟨h.clearQueue, fun encoded hmem => by simp [ProcessResult.empty] at hmem⟩
    next session serverFinish haccept =>
      have hsession : session.context.route = route := by
        rw [(establishedSession_eq_some (acceptClientFinish_eq_some haccept).2).2.1]
        exact hstate.context
      obtain ⟨_, _, haccept⟩ := Option.bind_eq_some_iff.mp haccept
      split at haccept
      next => simp at haccept
      next =>
        obtain ⟨finish, hfinish, haccept⟩ := Option.bind_eq_some_iff.mp haccept
        obtain ⟨_, _, haccept⟩ := Option.bind_eq_some_iff.mp haccept
        cases Option.some.inj haccept
        obtain ⟨hroutable, hlength⟩ :=
          encodeFinish_routable haead hstate.valid (Or.inr rfl) hfinish
        obtain ⟨hafter, hqueued⟩ :=
          h.idle.installSession haead hstate.valid hsession instant
        cases hcall
        refine ⟨hafter, fun encoded hmem => ?_⟩
        rcases List.mem_cons.mp hmem with rfl | hmem
        · refine Or.inl ⟨hroutable, ?_⟩
          rw [hlength]
          decide
        · exact Or.inr (hqueued encoded hmem)
  next =>
    cases hcall
    exact ⟨h, fun encoded hmem => by simp [ProcessResult.empty] at hmem⟩

theorem handleServerFinish (haead : AeadCorrect c) (h : peer.Framed route) (datagram : Bytes)
    (instant : Nat) {result : ProcessResult} {peer' : Peer}
    (hcall : peer.handleServerFinish c datagram instant = (result, peer')) :
    peer'.Framed route ∧ ∀ encoded ∈ result.outbound, ∃ packet ∈ peer.queuedPackets,
      Carries route packet.encoded encoded := by
  have hstate := h.state
  unfold Peer.handleServerFinish at hcall
  split at hcall
  next pending hs =>
    rw [hs] at hstate
    split at hcall
    next =>
      cases hcall
      exact ⟨h.clearQueue, fun encoded hmem => by simp [ProcessResult.empty] at hmem⟩
    next session haccept =>
      have hsession : session.context.route = route := by
        rw [(establishedSession_eq_some (acceptServerFinish_eq_some haccept)).2.1]
        exact hstate.context
      cases hcall
      exact h.idle.installSession haead hstate.valid hsession instant
  next =>
    cases hcall
    exact ⟨h, fun encoded hmem => by simp [ProcessResult.empty] at hmem⟩

theorem handleData (haead : AeadCorrect c) (h : peer.Framed route) (source : SocketAddr)
    (datagram : Bytes) (now : Nat) (allowRoutedData : Bool) (instant : Nat) :
    (peer.handleData c source datagram now allowRoutedData instant).2.Framed route ∧
      ∀ encoded ∈ (peer.handleData c source datagram now allowRoutedData instant).1.outbound,
        Short route encoded := by
  have hnothing : ∀ encoded ∈ ProcessResult.empty.outbound, Short route encoded :=
    fun encoded hmem => by simp [ProcessResult.empty] at hmem
  unfold Peer.handleData
  split
  next established hs =>
    have hestablished := h.established hs
    dsimp only
    have hopens : EstablishedPeer.Framed route { established with
        receiver := (openDatagram c established.receiver datagram allowRoutedData).2 } :=
      ⟨hestablished.valid, hestablished.sender, hestablished.update⟩
    split
    next => exact ⟨h.withState hopens, hnothing⟩
    next opened _ =>
      split
      next => exact ⟨h.withState hopens, fun encoded hmem => by simp at hmem⟩
      next =>
        obtain ⟨hafter, hsent⟩ := handleKeyUpdate_framed haead hopens opened instant
        exact ⟨h.withState hafter, fun encoded hmem => hsent encoded (Option.mem_toList.mp hmem)⟩
      next => exact ⟨h.withState (handleKeyUpdateAck_framed hopens opened instant),
        fun encoded hmem => by simp at hmem⟩
      next => exact ⟨h.withState hopens, fun encoded hmem => by simp at hmem⟩
      next =>
        have hroute := (sealControl_outcome c established.sender .pathResponse .pathProbe
          opened.pathId opened.plaintext).keepsRoute
        refine ⟨h.withState ⟨hestablished.valid, hroute.trans hestablished.sender,
          hestablished.update⟩, fun encoded hmem => ?_⟩
        exact sealControl_short haead hestablished.sender hestablished.valid
          (Prod.ext (Option.mem_toList.mp hmem) rfl)
      next =>
        split
        next => exact ⟨h.withState hopens, hnothing⟩
        next pending _ =>
          refine ⟨?_, hnothing⟩
          unfold Peer.completePathProbe
          dsimp only
          split
          next => exact ⟨h.node, hopens, fun _ hpending => by simp [Peer.promotePath] at hpending⟩
          next => exact ⟨h.node, hopens, fun _ hpending => by simp at hpending⟩
      next => exact ⟨h.withState hopens, hnothing⟩
  next => exact ⟨h, hnothing⟩

/-- A peer answers with short datagrams of its route, and with the packets that waited for its
session. -/
theorem receive (haead : AeadCorrect c) (h : peer.Framed (peer.route material)) (source : SocketAddr)
    (packet : Bytes) (now : Nat) (allowRoutedData throughRelay : Bool) (reads : DatagramReads) :
    (peer.receive c material source packet now allowRoutedData throughRelay reads).2.Framed
        (peer.route material) ∧
      ∀ encoded ∈ (peer.receive c material source packet now allowRoutedData throughRelay
        reads).1.outbound, Short (peer.route material) encoded ∨
          ∃ queued ∈ peer.queuedPackets, Carries (peer.route material) queued.encoded encoded := by
  obtain ⟨result, after, hprocess⟩ : ∃ result after, peer.processDatagram c material source packet now
    allowRoutedData reads = (result, after) := ⟨_, _, rfl⟩
  have hprocessed : after.Framed (peer.route material) ∧ ∀ encoded ∈ result.outbound,
      Short (peer.route material) encoded ∨
        ∃ queued ∈ peer.queuedPackets, Carries (peer.route material) queued.encoded encoded := by
    rcases processDatagram_cases hprocess with ⟨_, hcall⟩ | ⟨_, hcall⟩ | ⟨_, hcall⟩ | ⟨_, hcall⟩ |
      ⟨_, hcall | ⟨rfl, rfl⟩⟩
    · obtain ⟨hafter, hsent⟩ := h.handleClientHello packet now reads hcall
      exact ⟨hafter, fun encoded hmem => Or.inl (hsent encoded hmem)⟩
    · obtain ⟨hafter, hsent⟩ := h.handleServerHello haead packet now reads hcall
      exact ⟨hafter, fun encoded hmem => Or.inl (hsent encoded hmem)⟩
    · exact h.handleClientFinish haead packet reads.instant hcall
    · obtain ⟨hafter, hsent⟩ := h.handleServerFinish haead packet reads.instant hcall
      exact ⟨hafter, fun encoded hmem => Or.inr (hsent encoded hmem)⟩
    · obtain ⟨hafter, hsent⟩ := h.handleData haead source packet now allowRoutedData reads.instant
      rw [hcall] at hafter hsent
      exact ⟨hafter, fun encoded hmem => Or.inl (hsent encoded hmem)⟩
    · exact ⟨h, fun encoded hmem => by simp [ProcessResult.empty] at hmem⟩
  unfold Peer.receive
  dsimp only
  rw [hprocess]
  dsimp only
  split
  next => exact ⟨hprocessed.1.promotePath _ _, hprocessed.2⟩
  next => exact hprocessed

theorem createPathProbe (haead : AeadCorrect c) (h : peer.Framed route) (endpoint : SocketAddr)
    (now : Nat) (reads : ProbeReads) :
    (peer.createPathProbe c endpoint now reads).2.Framed route ∧
      ∀ encoded, (peer.createPathProbe c endpoint now reads).1 = .ok encoded → Short route encoded := by
  unfold Peer.createPathProbe
  split
  next established hs =>
    have hestablished := h.established hs
    split
    next token encodedPathId _ _ =>
      dsimp only
      split
      next sender hseal =>
        have hroute := (sealControl_outcome c established.sender .pathChallenge .pathProbe
          (if u32FromBe encodedPathId = 0 then 1 else u32FromBe encodedPathId) token.val).keepsRoute
        rw [hseal] at hroute
        exact ⟨h.withState ⟨hestablished.valid, hroute.trans hestablished.sender,
          hestablished.update⟩, fun _ hsend => by simp at hsend⟩
      next sent sender hseal =>
        have hroute := (sealControl_outcome c established.sender .pathChallenge .pathProbe
          (if u32FromBe encodedPathId = 0 then 1 else u32FromBe encodedPathId) token.val).keepsRoute
        rw [hseal] at hroute
        have hshort := sealControl_short haead hestablished.sender hestablished.valid hseal
        refine ⟨⟨h.node, ⟨hestablished.valid, hroute.trans hestablished.sender,
          hestablished.update⟩, fun pending hpending => ?_⟩, fun encoded hsend => ?_⟩
        · cases hpending
          exact hshort
        · cases hsend
          exact hshort
    next => exact ⟨h, fun _ hsend => by simp at hsend⟩
  next => exact ⟨h, fun _ hsend => by simp at hsend⟩

theorem maintainPathProbe (haead : AeadCorrect c) (h : peer.Framed route) (now : Nat)
    (reads : ProbeReads) :
    (peer.maintainPathProbe c now reads).2.Framed route ∧
      ∀ endpoint encoded, (peer.maintainPathProbe c now reads).1 = .ok (some (endpoint, encoded)) →
        Short route encoded := by
  unfold Peer.maintainPathProbe
  split
  next => exact ⟨⟨h.node, h.state, fun _ hpending => by simp at hpending⟩,
    fun _ _ hsend => by simp at hsend⟩
  next =>
    split
    next pending hpending =>
      have hshort := h.probe pending hpending
      obtain ⟨hkept, hsent⟩ := poll_encoded pending.retry now
      split
      next retry hpoll =>
        rw [hpoll] at hkept
        refine ⟨⟨h.node, h.state, fun other hother => ?_⟩, fun _ _ hsend => by simp at hsend⟩
        cases hother
        exact hkept ▸ hshort
      next encoded retry hpoll =>
        rw [hpoll] at hkept hsent
        refine ⟨⟨h.node, h.state, fun other hother => ?_⟩, fun _ other hother => ?_⟩
        · cases hother
          exact hkept ▸ hshort
        · cases hother
          exact hsent encoded rfl ▸ hshort
      next => exact ⟨⟨h.node, h.state, fun _ hother => by simp at hother⟩,
        fun _ _ hsend => by simp at hsend⟩
    next =>
      split
      next => exact ⟨h, fun _ _ hsend => by simp at hsend⟩
      next =>
        dsimp only
        split
        next => exact ⟨h, fun _ _ hsend => by simp at hsend⟩
        next endpoint _ =>
          obtain ⟨hafter, hsent⟩ := h.createPathProbe haead endpoint now reads
          refine ⟨hafter, fun other encoded hsend => ?_⟩
          cases hprobe : (peer.createPathProbe c endpoint now reads).1 with
          | error e => simp [hprobe, Except.map] at hsend
          | ok sent =>
            rw [hprobe] at hsend
            cases hsend
            exact hsent encoded hprobe

/-- A handshake that is polled stays on its route. -/
theorem pollPeerRetry (h : peer.Framed route) (now : Nat) :
    (peer.pollPeerRetry now).2.Framed route ∧
      ∀ encoded, (peer.pollPeerRetry now).1 = .send encoded → Short route encoded := by
  have hstate := h.state
  have hpolled : ∀ {context : HandshakeContext} {retry : RetryState},
      HandshakeFramed route context retry → HandshakeFramed route context (retry.poll now).2 ∧
        ∀ encoded, (retry.poll now).1 = .send encoded → Short route encoded := by
    intro context retry hretry
    obtain ⟨hkept, hsent⟩ := poll_encoded retry now
    refine ⟨⟨hretry.valid, hretry.context, ?_⟩, fun encoded hsend => ?_⟩
    · rw [hkept]
      exact hretry.short
    · rw [hsent encoded hsend]
      exact hretry.short
  unfold Peer.pollPeerRetry
  split
  next pending hs =>
    rw [hs] at hstate
    obtain ⟨hkept, hsent⟩ := hpolled hstate
    split
    next => exact ⟨h.idle, fun _ hsend => by simp at hsend⟩
    next action retry _ hpoll =>
      rw [hpoll] at hkept hsent
      exact ⟨h.withState hkept, hsent⟩
  next pending hs =>
    rw [hs] at hstate
    obtain ⟨hkept, hsent⟩ := hpolled hstate
    split
    next => exact ⟨h.idle, fun _ hsend => by simp at hsend⟩
    next action retry _ hpoll =>
      rw [hpoll] at hkept hsent
      exact ⟨h.withState hkept, hsent⟩
  next pending hs =>
    rw [hs] at hstate
    obtain ⟨hkept, hsent⟩ := hpolled hstate
    split
    next => exact ⟨h.idle, fun _ hsend => by simp at hsend⟩
    next action retry _ hpoll =>
      rw [hpoll] at hkept hsent
      exact ⟨h.withState hkept, hsent⟩
  next => exact ⟨h, fun _ hsend => by simp at hsend⟩

theorem advanceHandshakeCandidate (h : peer.Framed route) :
    peer.advanceHandshakeCandidate.2.Framed route := by
  unfold Peer.advanceHandshakeCandidate
  split
  next => exact h
  next =>
    dsimp only
    split
    next => exact h
    next => exact ⟨h.node, trivial, fun _ hpending => by simp at hpending⟩

end Peer.Framed

/-- Transmissions of a peer: to its node, and short ones of its route. -/
def ShortTo (route : RelayRoute) (transmissions : List Transmission) : Prop :=
  ∀ transmission ∈ transmissions,
    transmission.2.1 = route.destinationNodeId ∧ Short route transmission.2.2

theorem ShortTo.append {route : RelayRoute} {left right : List Transmission} (h : ShortTo route left)
    (h' : ShortTo route right) : ShortTo route (left ++ right) := by
  intro transmission hmem
  rcases List.mem_append.mp hmem with hmem | hmem
  · exact h transmission hmem
  · exact h' transmission hmem

theorem ShortTo.single {route : RelayRoute} {endpoint : SocketAddr} {nodeId : Block 16}
    {encoded : Bytes} (hnode : nodeId = route.destinationNodeId) (h : Short route encoded) :
    ShortTo route [(endpoint, nodeId, encoded)] := by
  intro transmission hmem
  cases List.mem_singleton.mp hmem
  exact ⟨hnode, h⟩

theorem ShortTo.nil (route : RelayRoute) : ShortTo route [] := fun _ hmem => by simp at hmem

namespace Peer.Framed

variable {c : Crypto} {material : LocalMaterial} {peer : Peer} {route : RelayRoute}

theorem maintainRetry (h : peer.Framed route) (hroute : peer.route material = route) (now : Nat)
    (counters : HandshakeCounters) (reads : HelloReads) :
    (peer.maintainRetry c material now counters reads).2.Framed route ∧
      ∀ transmissions counters', (peer.maintainRetry c material now counters reads).1 =
        .ok (transmissions, counters') → ShortTo route transmissions := by
  obtain ⟨hpolled, hsent⟩ := h.pollPeerRetry now
  unfold Peer.maintainRetry
  split
  next polled hpoll =>
    rw [hpoll] at hpolled
    exact ⟨hpolled, fun _ _ hok => by cases hok; exact .nil route⟩
  next encoded polled hpoll =>
    rw [hpoll] at hpolled hsent
    refine ⟨hpolled, fun _ _ hok => ?_⟩
    cases hok
    cases polled.activeEndpoint with
    | none => exact .nil route
    | some endpoint => exact .single hpolled.node (hsent encoded rfl)
  next polled hpoll =>
    rw [hpoll] at hpolled
    have hadvanced := hpolled.advanceHandshakeCandidate
    split
    next advanced hadvance =>
      rw [hadvance] at hadvanced
      split
      next => exact ⟨hadvanced, fun _ _ hok => by cases hok; exact .nil route⟩
      next endpoint _ =>
        have hsame : advanced.route material = route := by
          rw [← hroute]
          show RelayRoute.mk _ _ advanced.nodeId = RelayRoute.mk _ _ peer.nodeId
          rw [hadvanced.node, h.node]
        split
        next => exact ⟨hadvanced, fun _ _ hok => by simp at hok⟩
        next encoded begun hbegin =>
          rw [← hsame] at hadvanced ⊢
          obtain ⟨hbegun, hshort⟩ := hadvanced.beginClientHandshake hbegin
          refine ⟨hbegun, fun _ _ hok => ?_⟩
          cases hok
          exact .single hbegun.node hshort
    next advanced hadvance =>
      rw [hadvance] at hadvanced
      refine ⟨⟨hadvanced.node, trivial, hadvanced.probe⟩, fun _ _ hok => ?_⟩
      cases hok
      exact .nil route

theorem maintainSession (haead : AeadCorrect c) (h : peer.Framed route) (now : Nat) :
    (peer.maintainSession c now).2.Framed route ∧
      ∀ transmissions, (peer.maintainSession c now).1 = .ok transmissions →
        ShortTo route transmissions := by
  unfold Peer.maintainSession
  split
  next established hs =>
    obtain ⟨hafter, hsent⟩ := maintainEstablished_framed haead (h.established hs) now
    dsimp only
    refine ⟨h.withState hafter, fun transmissions hok => ?_⟩
    cases hresult : (maintainEstablished c established now).1 with
    | error e => simp [hresult, Except.map] at hok
    | ok encoded =>
      rw [hresult] at hok
      cases hok
      dsimp only
      split
      next encoded endpoint _ => exact .single h.node (hsent encoded hresult)
      next => exact .nil route
  next => exact ⟨h, fun _ hok => by cases hok; exact .nil route⟩

theorem maintainProactive (h : peer.Framed route) (hroute : peer.route material = route) (now : Nat)
    (counters : HandshakeCounters) (reads : HelloReads) :
    (peer.maintainProactive c material now counters reads).2.Framed route ∧
      ∀ transmissions counters', (peer.maintainProactive c material now counters reads).1 =
        .ok (transmissions, counters') → ShortTo route transmissions := by
  unfold Peer.maintainProactive
  dsimp only
  obtain ⟨ready, hready⟩ : ∃ ready, ready =
    (if peer.state.isIdle ∧ peer.handshakeCandidateAttempts ≥ maxHandshakeCandidatesPerCycle then
      peer.scheduleHandshakeRetry now
    else peer) := ⟨_, rfl⟩
  rw [← hready]
  have hframed : ready.Framed route := by
    rw [hready]
    split
    next => exact ⟨h.node, trivial, h.probe⟩
    next => exact h
  have hsame : ready.route material = route := by
    rw [← hroute]
    show RelayRoute.mk _ _ ready.nodeId = RelayRoute.mk _ _ peer.nodeId
    rw [hframed.node, h.node]
  split
  next => exact ⟨hframed, fun _ _ hok => by cases hok; exact .nil route⟩
  next endpoint _ =>
    split
    next =>
      split
      next => exact ⟨hframed, fun _ _ hok => by simp at hok⟩
      next encoded begun hbegin =>
        rw [← hsame] at hframed ⊢
        obtain ⟨hbegun, hshort⟩ := hframed.beginClientHandshake hbegin
        refine ⟨hbegun, fun _ _ hok => ?_⟩
        cases hok
        exact .single hbegun.node hshort
    next => exact ⟨hframed, fun _ _ hok => by cases hok; exact .nil route⟩

theorem maintain (haead : AeadCorrect c) (h : peer.Framed route)
    (hroute : peer.route material = route) (now : Nat) (counters : HandshakeCounters)
    (reads : MaintainReads) :
    (peer.maintain c material now counters reads).2.Framed route ∧
      ∀ transmissions counters', (peer.maintain c material now counters reads).1 =
        .ok (transmissions, counters') → ShortTo route transmissions := by
  have hsame : ∀ {other : Peer}, other.Framed route → other.route material = route := by
    intro other hother
    rw [← hroute]
    show RelayRoute.mk _ _ other.nodeId = RelayRoute.mk _ _ peer.nodeId
    rw [hother.node, h.node]
  have hpruned : (peer.pruneClientHelloCache now).Framed route := ⟨h.node, h.state, h.probe⟩
  obtain ⟨hretried, hretries⟩ := hpruned.maintainRetry (c := c) (hsame hpruned) now counters reads.retry
  unfold Peer.maintain
  dsimp only
  split
  next e retried hretry =>
    rw [hretry] at hretried
    exact ⟨hretried, fun _ _ hok => by simp at hok⟩
  next resent counters₁ retried hretry =>
    rw [hretry] at hretried hretries
    obtain ⟨hkept, hkeeps⟩ := hretried.maintainSession haead now
    split
    next e kept hsession =>
      rw [hsession] at hkept
      exact ⟨hkept, fun _ _ hok => by simp at hok⟩
    next sent kept hsession =>
      rw [hsession] at hkept hkeeps
      obtain ⟨hprobed, hprobes⟩ := hkept.maintainPathProbe haead now reads.probe
      split
      next e probed hprobe =>
        rw [hprobe] at hprobed
        exact ⟨hprobed, fun _ _ hok => by simp at hok⟩
      next probe probed hprobe =>
        rw [hprobe] at hprobed hprobes
        obtain ⟨hstarted, hstarts⟩ :=
          hprobed.maintainProactive (c := c) (hsame hprobed) now counters₁ reads.proactive
        split
        next e started hproactive =>
          rw [hproactive] at hstarted
          exact ⟨hstarted, fun _ _ hok => by simp at hok⟩
        next begun counters₂ started hproactive =>
          rw [hproactive] at hstarted hstarts
          refine ⟨hstarted, fun _ _ hok => ?_⟩
          cases hok
          refine (((hretries _ _ rfl).append (hkeeps _ rfl)).append ?_).append (hstarts _ _ rfl)
          cases probe with
          | none => exact .nil route
          | some probe => exact .single hprobed.node (hprobes probe.1 probe.2 rfl)

theorem queuePacket (h : peer.Framed route) (packet : Bytes) (routed : Bool) :
    (peer.queuePacket packet routed).2.Framed route := by
  unfold Peer.queuePacket
  split
  next => exact h
  next => exact ⟨h.node, h.state, h.probe⟩

/-- A packet of the TUN leaves sealed, or a handshake begins over it. -/
theorem forwardTun (haead : AeadCorrect c) (h : peer.Framed route)
    (hroute : peer.route material = route) (packet : Bytes) (routedPacket : Bool) (now : Nat)
    (reads : HelloReads) :
    (peer.forwardTun c material packet routedPacket now reads).2.Framed route ∧
      ∀ established transmission, (peer.forwardTun c material packet routedPacket now reads).1 =
          .ok (.sent established transmission) →
        transmission.2.1 = route.destinationNodeId ∧ peer.activeEndpoint = some transmission.1 ∧
          (established = peer.state.isEstablished) ∧
          (if established then Carries route packet transmission.2.2
            else Short route transmission.2.2) := by
  unfold Peer.forwardTun
  split
  next => exact ⟨h, fun _ _ hok => by simp at hok⟩
  next =>
    dsimp only
    split
    next established hs =>
      have hestablished := h.established hs
      have hsealed := sealTun_route c established.sender .ackEliciting 0 packet routedPacket
      rcases hseal : (if routedPacket then
          established.sender.sealRoutedIpv4 c .ackEliciting 0 packet
        else established.sender.sealIpv4 c .ackEliciting 0 packet) with ⟨outbound, sender⟩
      rw [hseal] at hsealed
      have hkept : ∀ (sent : UInt64) (keepalive : Nat), EstablishedPeer.Framed route { established with
          sender := sender, sentPacketsInEpoch := sent, lastKeepaliveAt := keepalive } :=
        fun _ _ => ⟨hestablished.valid, hsealed.trans hestablished.sender, hestablished.update⟩
      cases outbound with
      | none => exact ⟨h.withState (hkept established.sentPacketsInEpoch established.lastKeepaliveAt),
          fun _ _ hok => by simp at hok⟩
      | some outbound =>
        dsimp only
        refine ⟨⟨h.node, hkept _ _, h.probe⟩, fun _ transmission hok => ?_⟩
        cases hactive : peer.activeEndpoint with
        | none => simp [hactive] at hok
        | some endpoint =>
          simp only [hactive, Except.ok.injEq, ForwardOutcome.sent.injEq] at hok
          obtain ⟨rfl, rfl⟩ := hok
          refine ⟨h.node, rfl, by rw [hs]; rfl, ?_⟩
          exact sealTun_carries haead hestablished.sender hestablished.valid hseal
    next hunestablished =>
      have hqueued := h.queuePacket packet routedPacket
      have hkeeps : (peer.queuePacket packet routedPacket).2.activeEndpoint = peer.activeEndpoint ∧
          (peer.queuePacket packet routedPacket).2.state = peer.state := by
        unfold Peer.queuePacket
        split <;> exact ⟨rfl, rfl⟩
      split
      next queued hqueue =>
        rw [hqueue] at hqueued
        exact ⟨hqueued, fun _ _ hok => by simp at hok⟩
      next queued hqueue =>
        rw [hqueue] at hqueued hkeeps
        split
        next hidle =>
          obtain ⟨counted, hcounted⟩ : ∃ counted : Peer, counted = { queued with
              txPacketsTotal := u64SaturatingAdd queued.txPacketsTotal 1
              txBytesTotal :=
                u64SaturatingAdd queued.txBytesTotal ((u64TryFrom packet.length).getD u64Max) } :=
            ⟨_, rfl⟩
          have hframed : counted.Framed route := by
            rw [hcounted]
            exact ⟨hqueued.node, hqueued.state, hqueued.probe⟩
          have hactive : counted.activeEndpoint = peer.activeEndpoint := by
            rw [hcounted]
            exact hkeeps.1
          have hsame : counted.route material = route := by
            rw [← hroute]
            show RelayRoute.mk _ _ counted.nodeId = RelayRoute.mk _ _ peer.nodeId
            rw [hframed.node, h.node]
          rw [← hcounted]
          split
          next => exact ⟨hframed, fun _ _ hok => by simp at hok⟩
          next outbound begun hbegin =>
            have hpath : begun.activeEndpoint = counted.activeEndpoint := by
              unfold Peer.beginClientHandshake at hbegin
              split at hbegin
              next => simp at hbegin
              next =>
                dsimp only at hbegin
                split at hbegin
                next => simp at hbegin
                next => cases hbegin; rfl
            rw [← hsame] at hframed ⊢
            obtain ⟨hbegun, hshort⟩ := hframed.beginClientHandshake hbegin
            refine ⟨hbegun, fun established transmission hok => ?_⟩
            rw [← hactive, ← hpath]
            cases hendpoint : begun.activeEndpoint with
            | none => simp [hendpoint] at hok
            | some endpoint =>
              simp only [hendpoint, Except.ok.injEq, ForwardOutcome.sent.injEq] at hok
              obtain ⟨rfl, rfl⟩ := hok
              refine ⟨hbegun.node, rfl, ?_, hshort⟩
              cases hstate : peer.state with
              | established e => exact absurd hstate (hunestablished e)
              | _ => rfl
        next => exact ⟨⟨hqueued.node, hqueued.state, hqueued.probe⟩, fun _ _ hok => by simp at hok⟩

theorem startManualPathProbe (haead : AeadCorrect c) (h : peer.Framed route) (now : Nat)
    (reads : ProbeReads) :
    (peer.startManualPathProbe c now reads).2.Framed route ∧
      ∀ transmission, (peer.startManualPathProbe c now reads).1 = .ok transmission →
        transmission.2.1 = route.destinationNodeId ∧ Short route transmission.2.2 := by
  unfold Peer.startManualPathProbe
  split
  next => exact ⟨h, fun _ hok => by simp at hok⟩
  next endpoint _ =>
    split
    next => exact ⟨h, fun _ hok => by simp at hok⟩
    next =>
      split
      next => exact ⟨h, fun _ hok => by simp at hok⟩
      next =>
        obtain ⟨hafter, hsent⟩ := h.createPathProbe haead endpoint now reads
        split
        next e probed hprobe =>
          rw [hprobe] at hafter
          exact ⟨hafter, fun _ hok => by simp at hok⟩
        next encoded probed hprobe =>
          rw [hprobe] at hafter hsent
          refine ⟨⟨hafter.node, hafter.state, hafter.probe⟩, fun transmission hok => ?_⟩
          cases hok
          exact ⟨hafter.node, hsent encoded rfl⟩

theorem pruneExpiredCandidates (h : peer.Framed route) (now : Int) :
    (peer.pruneExpiredCandidates now).Framed route := by
  unfold Peer.pruneExpiredCandidates
  dsimp only
  split <;> exact ⟨h.node, h.state, h.probe⟩

theorem replaceCandidates (h : peer.Framed route) (candidates : List EndpointCandidate) (now : Nat) :
    (peer.replaceCandidates candidates now).Framed route := by
  unfold Peer.replaceCandidates
  dsimp only
  split
  next =>
    split
    next => exact ⟨h.node, trivial, fun _ hpending => by simp at hpending⟩
    next => exact ⟨h.node, h.state, fun _ hpending => by simp at hpending⟩
  next => exact ⟨h.node, h.state, h.probe⟩

theorem applyConfiguration (h : peer.Framed route) (candidates : List EndpointCandidate)
    (policyChanged : Bool) (now : Nat) :
    (peer.applyConfiguration candidates policyChanged now).Framed route := by
  have hcleared : Peer.Framed route (if policyChanged then peer.clearQueue else peer) := by
    split
    next => exact h.clearQueue
    next => exact h
  unfold Peer.applyConfiguration
  dsimp only
  obtain ⟨cleared, hsame⟩ : ∃ cleared, cleared = (if policyChanged then peer.clearQueue else peer) :=
    ⟨_, rfl⟩
  rw [← hsame] at hcleared ⊢
  have hreplaced := hcleared.replaceCandidates candidates now
  split
  next => exact ⟨hreplaced.node, hreplaced.state, hreplaced.probe⟩
  next => exact hreplaced

theorem failRelayPath (h : peer.Framed route) (failedEndpoint : SocketAddr) (now : Nat) :
    (peer.failRelayPath failedEndpoint now).Framed route := by
  unfold Peer.failRelayPath
  split
  next => exact h
  next =>
    dsimp only
    split
    next => exact ⟨h.node, trivial, fun _ hpending => by simp at hpending⟩
    next => exact ⟨h.node, h.state, fun _ hpending => by simp at hpending⟩

/-- Every change of a peer keeps it on its route. -/
theorem change (haead : AeadCorrect c) (h : peer.Framed route) (hroute : peer.route material = route)
    {peer' : Peer} (hchange : PeerChange c material peer peer') : peer'.Framed route := by
  cases hchange with
  | counted plaintext => exact ⟨h.node, h.state, h.probe⟩
  | call op =>
    cases op with
    | datagram source packet now allowRoutedData throughRelay reads =>
      subst hroute
      exact (h.receive haead source packet now allowRoutedData throughRelay reads).1
    | maintain now counters reads => exact (h.maintain haead hroute now counters reads).1
    | forwardTun packet routedPacket now reads =>
      exact (h.forwardTun haead hroute packet routedPacket now reads).1
    | startManualPathProbe now reads => exact (h.startManualPathProbe haead now reads).1
    | manualPathProbeUnsent => exact ⟨h.node, h.state, fun _ hpending => by simp
        [Peer.apply, manualPathProbeUnsent] at hpending⟩
    | pruneExpiredCandidates now => exact h.pruneExpiredCandidates now
    | applyConfiguration candidates policyChanged now =>
      exact h.applyConfiguration candidates policyChanged now
    | failRelayPath failedEndpoint now => exact h.failRelayPath failedEndpoint now

end Peer.Framed

end XsNexus
