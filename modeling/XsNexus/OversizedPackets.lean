import XsNexus.RelayedDatagrams
import XsNexus.FailedUpdate

namespace XsNexus

open ByteCodec Checks FiniteMap MachineWords Relation Runs

/-- The readings for the transmissions of an operation. A configuration sends nothing. -/
def DataPlaneOp.sendReads : DataPlaneOp → Nat → SendReads
  | .forwardTun _ reads => fun _ => reads.send
  | .receive _ _ reads => reads.sends
  | .maintain reads => reads.sends
  | .startManualPathProbe _ _ _ send => fun _ => send
  | .applyConfiguration _ reads => fun _ => ⟨none, reads.relayUtc, false⟩

/-- The Agent ends over these failures, and not over that of a manual probe. -/
def DataPlaneOutput.StopsAgent : DataPlaneOutput → Prop
  | .forwarded result => ∃ e, result = .error e
  | .received result => ∃ e, result = .error e
  | .maintained result => ∃ e, result = .error e
  | .probed _ => False
  | .configured result => ∃ e, result = .error e

namespace UdpDataPlane

/-- The data plane as an operation comes to send what follows these transmissions. -/
def sendingAt (c : Crypto) (dp : UdpDataPlane) (op : DataPlaneOp) (before : List Transmission) :
    UdpDataPlane :=
  ((dp.sends c op).1.sendAll before op.sendReads).dataPlane

/-- An operation fails before it sends anything, or after it has sent everything. -/
def FailsUnsent (c : Crypto) (f : Formats) (dp : UdpDataPlane) : DataPlaneOp → Prop
  | .forwardTun packet reads => ∃ e, (dp.forwardPrepared c packet reads).1 = .error e
  | .receive source datagram reads =>
    (∃ e, (dp.receivePrepared c source datagram reads).1 = .error e) ∨
    ∃ e, (dp.sendingAt c (.receive source datagram reads)
      (dp.sends c (.receive source datagram reads)).2).rebuildEndpointIndex.1 = .error e
  | .maintain reads => (∃ e, (dp.maintainPrepared c reads).result = .error e) ∨
    ∃ e, reads.refresh = .error e
  | .startManualPathProbe _ _ _ _ => False
  | .applyConfiguration state reads => ∃ e, (dp.applyConfiguration c f state reads).1 = .error e

/-- The relay carries the transmission in a frame of the length it takes. -/
def CarriedInFrame (dp : UdpDataPlane) (transmission : Transmission) (unixTime : UInt64)
    (utcNow : Int) : Prop :=
  ∃ frame, (dp.relayManager.wrap transmission.1 transmission.2.1 transmission.2.2 unixTime
    utcNow).1 = .ok (some frame) ∧ frame.length ≤ relayMaxFrameLength

end UdpDataPlane

theorem RelayManager.LiveLease.isRelay {manager : RelayManager} {endpoint : SocketAddr}
    {now : UInt64} {utcNow : Int} {client : RelayClient} {lease : RelayLease}
    (h : manager.LiveLease endpoint now utcNow client lease) : manager.isRelay endpoint = true := by
  unfold RelayManager.isRelay
  rw [h.known]
  rfl

/-- A datagram that fits fails only over the last sequence number of a lease. -/
theorem RelayManager.wrap_fails {manager : RelayManager} (h : manager.Named) {endpoint : SocketAddr}
    {route : RelayRoute} {payload : Bytes} (hnetwork : manager.networkId = route.networkId)
    (hnode : manager.nodeId = route.sourceNodeId) (hpayload : Routable route payload)
    (hlength : payload.length ≤ relayMaxFrameLength - relayFrameHeaderLength) {now : UInt64}
    {utcNow : Int} {e : AgentError}
    (herror : (manager.wrap endpoint route.destinationNodeId payload now utcNow).1 = .error e) :
    ∃ client lease, manager.LiveLease endpoint now utcNow client lease ∧
      lease.nextSequence = u64Max := by
  by_cases hlive : ∃ client lease, manager.LiveLease endpoint now utcNow client lease
  · obtain ⟨client, lease, hlive⟩ := hlive
    refine ⟨client, lease, hlive, ?_⟩
    by_contra hleft
    obtain ⟨frame, hframe, _⟩ :=
      (RelayManager.wrap_live h hnetwork hnode hpayload hlive).mpr ⟨hleft, hlength⟩
    rw [hframe] at herror
    simp at herror
  · unfold RelayManager.wrap at herror
    split at herror
    next => simp at herror
    next client hl =>
      split at herror
      next => simp at herror
      next lease hlease =>
        split at herror
        next => simp at herror
        next hheld =>
          rw [not_or, UInt64.not_le, Int.not_le] at hheld
          exact absurd ⟨client, lease, hl, hlease, hheld.1, hheld.2⟩ hlive

namespace UdpDataPlane

variable {c : Crypto} {f : Formats} {dp : UdpDataPlane}

theorem blocked_of_sendXsp (h : dp.Framed) {transmission : Transmission}
    (hroutable : Routable (dp.routeOf transmission) transmission.2.2)
    (hlength : dp.relayManager.isRelay transmission.1 = true →
      transmission.2.2.length ≤ relayMaxFrameLength - relayFrameHeaderLength)
    {reads : SendReads} {e : AgentError}
    (herror : (dp.sendXsp transmission reads).result = .error e) : dp.Blocked transmission reads := by
  unfold sendXsp at herror
  dsimp only at herror
  split at herror
  next hrelay =>
    split at herror
    next hclock => exact Or.inl hclock
    next unixTime hclock =>
      split at herror
      next failure hfailure =>
        have hnetwork : dp.relayManager.networkId = (dp.routeOf transmission).networkId := h.networkId
        obtain ⟨client, lease, hlive, hlast⟩ :=
          RelayManager.wrap_fails h.named hnetwork h.nodeId hroutable (hlength hrelay) hfailure
        exact Or.inr ⟨unixTime, client, lease, hclock, hlive, hlast⟩
      next => simp at herror
      next => simp at herror
  next => simp at herror

/-- Where the transmissions fail, one of them does. -/
theorem sendAll_fails {transmissions : List Transmission} {reads : Nat → SendReads} {e : AgentError}
    (h : (dp.sendAll transmissions reads).result = .error e) :
    ∃ before transmission after, transmissions = before ++ transmission :: after ∧
      ((dp.sendAll before reads).dataPlane.sendXsp transmission (reads before.length)).result =
        .error e := by
  induction transmissions generalizing dp reads with
  | nil => simp [sendAll] at h
  | cons first rest ih =>
    unfold sendAll at h
    dsimp only at h
    split at h
    next failure hfailure =>
      cases h
      exact ⟨[], first, rest, rfl, hfailure⟩
    next sent hsent =>
      obtain ⟨before, transmission, after, hsplit, hfails⟩ := ih h
      refine ⟨first :: before, transmission, after, by rw [hsplit]; rfl, ?_⟩
      unfold sendAll
      dsimp only
      rw [hsent]
      exact hfails

theorem relayManager_forwardPrepared (dp : UdpDataPlane) (packet : Bytes) (reads : ForwardReads) :
    (dp.forwardPrepared c packet reads).2.relayManager = dp.relayManager := by
  unfold forwardPrepared
  split
  next => rfl
  next =>
    split
    next => rfl
    next =>
      split
      next => rfl
      next =>
        split
        next => rfl
        next => split <;> rfl

theorem isRelay_receivePrepared (dp : UdpDataPlane) (source : SocketAddr) (datagram : Bytes)
    (reads : ReceiveReads) (other : SocketAddr) :
    (dp.receivePrepared c source datagram reads).2.relayManager.isRelay other =
      dp.relayManager.isRelay other := by
  unfold receivePrepared
  dsimp only
  split
  next => rfl
  next =>
    split
    next => rfl
    next unixNow _ =>
      have hresolved := resolveInboundPeer_snd (c := c) dp (normalizeEndpoint source) datagram
        reads.instant unixNow
      have hsame := isRelay_handleDatagram (c := c) dp.relayManager (normalizeEndpoint source) datagram
        reads.instant unixNow other
      split
      next h =>
        rw [h] at hresolved
        rw [hresolved]
        exact hsame
      next inbound resolved h =>
        rw [h] at hresolved
        cases hresolved
        split
        next => exact hsame
        next =>
          dsimp only
          split
          next => exact (isRelay_authenticateActivity ..).trans hsame
          next => exact hsame

theorem relayManager_pruneExpiredCandidates (dp : UdpDataPlane) (now : Int) :
    (dp.pruneExpiredCandidates now).2.relayManager = dp.relayManager := by
  unfold pruneExpiredCandidates rebuildEndpointIndex
  split <;> rfl

theorem isRelay_maintainPrepared (dp : UdpDataPlane) (reads : UpkeepReads) (other : SocketAddr) :
    (dp.maintainPrepared c reads).dataPlane.relayManager.isRelay other =
      dp.relayManager.isRelay other := by
  have hpruned := relayManager_pruneExpiredCandidates dp reads.pruneUtc
  unfold maintainPrepared
  split
  next h =>
    rw [h] at hpruned
    rw [← hpruned]
  next pruned h =>
    rw [h] at hpruned
    rw [← hpruned]
    split
    next => rfl
    next unixNow _ =>
      have hsame := isRelay_maintain (c := c) pruned.relayManager reads.instant unixNow reads.relays
        other
      dsimp only
      split <;> exact hsame

/-- Which endpoints are relays is for the configuration alone to say. -/
theorem isRelay_sends (c : Crypto) (dp : UdpDataPlane) (op : DataPlaneOp) (other : SocketAddr) :
    (dp.sends c op).1.relayManager.isRelay other = dp.relayManager.isRelay other := by
  cases op with
  | forwardTun packet reads =>
    show (dp.forwardPrepared c packet reads).2.relayManager.isRelay other = _
    rw [relayManager_forwardPrepared]
  | receive source datagram reads => exact isRelay_receivePrepared dp source datagram reads other
  | maintain reads => exact isRelay_maintainPrepared dp reads other
  | startManualPathProbe virtualIp now reads send =>
    unfold sends
    dsimp only
    split <;> rfl
  | applyConfiguration state reads => rfl

theorem isRelay_sendingAt (c : Crypto) (dp : UdpDataPlane) (op : DataPlaneOp)
    (before : List Transmission) (other : SocketAddr) :
    (dp.sendingAt c op before).relayManager.isRelay other = dp.relayManager.isRelay other := by
  unfold sendingAt
  rw [isRelay_sendAll, isRelay_sends]

theorem sendingAt_evolves (dp : UdpDataPlane) (op : DataPlaneOp) (before : List Transmission) :
    Evolves c f (NewPeer dp.material) dp (dp.sendingAt c op before) :=
  (sends_evolves dp op).trans (sendAll_evolves _ before op.sendReads)

/-- An operation that ends the Agent could not send one of its transmissions, or fails otherwise. -/
theorem stopsAgent_cases {op : DataPlaneOp} (h : (dp.apply c f op).1.StopsAgent) :
    dp.FailsUnsent c f op ∨ ∃ before transmission after e,
      (dp.sends c op).2 = before ++ transmission :: after ∧
      ((dp.sendingAt c op before).sendXsp transmission (op.sendReads before.length)).result =
        .error e := by
  cases op with
  | forwardTun packet reads =>
    obtain ⟨e, h⟩ := h
    rw [forwardTun_eq] at h
    rcases hcall : dp.forwardPrepared c packet reads with ⟨outcome, prepared⟩
    rw [hcall] at h
    cases outcome with
    | error failure => exact Or.inl ⟨failure, by rw [hcall]⟩
    | ok outcome =>
      cases outcome with
      | dropped => simp at h
      | queued => simp at h
      | sent established transmission =>
        have hsends : dp.sends c (.forwardTun packet reads) = (prepared, [transmission]) := by
          unfold sends
          dsimp only
          rw [hcall]
        cases hsent : (prepared.sendXsp transmission reads.send).result with
        | error failure =>
          refine Or.inr ⟨[], transmission, [], failure, by rw [hsends]; rfl, ?_⟩
          unfold sendingAt
          rw [hsends]
          exact hsent
        | ok sent =>
          dsimp only at h
          rw [hsent] at h
          simp [Except.map] at h
  | receive source datagram reads =>
    obtain ⟨e, h⟩ := h
    rw [receive_eq] at h
    rcases hcall : dp.receivePrepared c source datagram reads with ⟨result, prepared⟩
    rw [hcall] at h
    cases result with
    | error failure => exact Or.inl (Or.inl ⟨failure, by rw [hcall]⟩)
    | ok received =>
      have hsends : dp.sends c (.receive source datagram reads) = (prepared, received.transmissions) := by
        unfold sends
        dsimp only
        rw [hcall]
      dsimp only at h
      split at h
      next failure hfailure =>
        obtain ⟨before, transmission, after, hsplit, hfails⟩ := sendAll_fails hfailure
        refine Or.inr ⟨before, transmission, after, failure, by rw [hsends]; exact hsplit, ?_⟩
        unfold sendingAt
        rw [hsends]
        exact hfails
      next hsent =>
        split at h
        next =>
          left
          right
          unfold sendingAt
          rw [hsends]
          show ∃ e, (prepared.sendAll received.transmissions
            reads.sends).dataPlane.rebuildEndpointIndex.1 = .error e
          dsimp only at h
          cases hrebuilt : (prepared.sendAll received.transmissions
            reads.sends).dataPlane.rebuildEndpointIndex.1 with
          | error failure => exact ⟨failure, rfl⟩
          | ok _ =>
            rw [hrebuilt] at h
            simp [Except.map] at h
        next => simp at h
  | maintain reads =>
    obtain ⟨e, h⟩ := h
    rw [maintain_eq] at h
    dsimp only at h
    split at h
    next failure hfailure => exact Or.inl (Or.inl ⟨failure, hfailure⟩)
    next transmissions hprepared =>
      have hsends : dp.sends c (.maintain reads) =
          ((dp.maintainPrepared c reads).dataPlane, transmissions) := by
        unfold sends
        dsimp only
        rw [hprepared]
      split at h
      next failure hfailure =>
        obtain ⟨before, transmission, after, hsplit, hfails⟩ := sendAll_fails hfailure
        refine Or.inr ⟨before, transmission, after, failure, by rw [hsends]; exact hsplit, ?_⟩
        unfold sendingAt
        rw [hsends]
        exact hfails
      next => exact Or.inl (Or.inr ⟨e, h⟩)
  | startManualPathProbe virtualIp now reads send => exact h.elim
  | applyConfiguration state reads =>
    obtain ⟨e, h⟩ := h
    exact Or.inl ⟨e, h⟩

end UdpDataPlane

/-- While no packet is sealed for a relay that is too long for it, all that the data plane sends
through a live lease is carried, and no datagram ends the Agent but over the clock or over the last
sequence number of a lease. A packet of the TUN is carried exactly if it is not too long. -/
theorem relayed_datagrams_fit {c : Crypto} {f : Formats} (haead : AeadCorrect c) {state : NodeState}
    {identity : SigningKey} {now : Nat} {utcNow : Int} {dp : UdpDataPlane}
    (h : UdpDataPlane.bind c f state identity now utcNow = .ok dp) (ops : List DataPlaneOp)
    (op : DataPlaneOp) :
    let reached := final (UdpDataPlane.apply c f) dp ops
    (reached.RelayFits c op →
      (∀ before transmission after, (reached.sends c op).2 = before ++ transmission :: after →
        ∀ unixTime utcTime client lease,
          (reached.sendingAt c op before).relayManager.LiveLease transmission.1 unixTime utcTime
            client lease → lease.nextSequence ≠ u64Max →
          (reached.sendingAt c op before).CarriedInFrame transmission unixTime utcTime) ∧
      ((reached.apply c f op).1.StopsAgent → reached.FailsUnsent c f op ∨
        ∃ before transmission after, (reached.sends c op).2 = before ++ transmission :: after ∧
          (reached.sendingAt c op before).Blocked transmission (op.sendReads before.length))) ∧
    (∀ packet reads peer transmission unixTime utcTime client lease,
      op = .forwardTun packet reads → reached.tunPeer packet reads = some peer →
      peer.state.isEstablished = true → (reached.sends c op).2 = [transmission] →
      (reached.sendingAt c op []).relayManager.LiveLease transmission.1 unixTime utcTime client lease →
      lease.nextSequence ≠ u64Max →
      ((reached.sendingAt c op []).CarriedInFrame transmission unixTime utcTime ↔
        packet.length ≤ maxRelayedPacketLength)) := by
  intro reached
  have hframed : reached.Framed := framed_run haead h ops
  have hafter : ∀ before, (reached.sendingAt c op before).Framed := fun before =>
    (UdpDataPlane.sendingAt_evolves (f := f) reached op before).framed haead hframed
  have hroute : ∀ before transmission, (reached.sendingAt c op before).routeOf transmission =
      reached.routeOf transmission := by
    intro before transmission
    unfold UdpDataPlane.routeOf
    rw [(UdpDataPlane.sendingAt_evolves (c := c) (f := f) reached op before).material]
  have hcarried : ∀ before transmission,
      Routable (reached.routeOf transmission) transmission.2.2 →
      ∀ unixTime utcTime client lease,
        (reached.sendingAt c op before).relayManager.LiveLease transmission.1 unixTime utcTime
          client lease → lease.nextSequence ≠ u64Max →
        ((reached.sendingAt c op before).CarriedInFrame transmission unixTime utcTime ↔
          transmission.2.2.length ≤ relayMaxFrameLength - relayFrameHeaderLength) := by
    intro before transmission hroutable unixTime utcTime client lease hlive hleft
    rw [← hroute before] at hroutable
    have hnetwork : (reached.sendingAt c op before).relayManager.networkId =
      ((reached.sendingAt c op before).routeOf transmission).networkId := (hafter before).networkId
    exact (RelayManager.wrap_live (hafter before).named hnetwork (hafter before).nodeId hroutable
      hlive).trans (and_iff_right hleft)
  refine ⟨fun hfits => ⟨?_, ?_⟩, ?_⟩
  · intro before transmission after hsplit unixTime utcTime client lease hlive hleft
    have hmem : transmission ∈ (reached.sends c op).2 := by
      rw [hsplit]
      exact List.mem_append_right _ (List.mem_cons_self ..)
    obtain ⟨hroutable, hlength⟩ := UdpDataPlane.sendable_sends f haead hframed hmem
    have hrelay := hlive.isRelay
    rw [UdpDataPlane.isRelay_sendingAt] at hrelay
    exact (hcarried before transmission hroutable unixTime utcTime client lease hlive hleft).mpr
      (hlength hfits hrelay)
  · intro hstops
    rcases UdpDataPlane.stopsAgent_cases hstops with hunsent | hfails
    · exact Or.inl hunsent
    · obtain ⟨before, transmission, after, e, hsplit, herror⟩ := hfails
      have hmem : transmission ∈ (reached.sends c op).2 := by
        rw [hsplit]
        exact List.mem_append_right _ (List.mem_cons_self ..)
      obtain ⟨hroutable, hlength⟩ := UdpDataPlane.sendable_sends f haead hframed hmem
      refine Or.inr ⟨before, transmission, after, hsplit, UdpDataPlane.blocked_of_sendXsp
        (hafter before) (by rw [hroute]; exact hroutable) (fun hrelay => ?_) herror⟩
      rw [UdpDataPlane.isRelay_sendingAt] at hrelay
      exact hlength hfits hrelay
  · rintro packet reads peer transmission unixTime utcTime client lease rfl htun hestablished hsends
      hlive hleft
    have hmem : transmission ∈ (reached.sends c (.forwardTun packet reads)).2 := by
      rw [hsends]
      exact List.mem_singleton_self _
    obtain ⟨sender, hsender, hnode, _, hcarries⟩ := UdpDataPlane.sent_forwardTun haead hframed hmem
    cases hsender.symm.trans htun
    rw [if_pos hestablished] at hcarries
    rw [hcarried [] transmission (UdpDataPlane.routeOf_eq hnode ▸ hcarries.1) unixTime utcTime client
      lease hlive hleft, hcarries.fits_iff]

/-- The sample node under a policy that allows everything. -/
def sampleOpenState : NodeState :=
  { sampleNodeState with
    configurationPayload := { samplePayload with
      policies := [⟨"allow-all", 1, .allow, [.any], [.any], .any, []⟩] } }

def sampleFarKey : SigningKey := ⟨fill 32 41⟩

/-- The context of the handshake as the node behind the relay sees it. -/
def sampleFarContext : HandshakeContext where
  networkId := fill 16 21
  localNodeId := nodeId .transparent sampleFarKey.seed
  localVirtualIp := .new 100 88 0 11
  peerNodeId := nodeId .transparent sampleIdentityKey.seed
  peerVirtualIp := .new 100 88 0 10

def sampleFarHello : Option ClientHelloSent :=
  ClientHelloSent.start .transparent {
    context := sampleFarContext
    credential := sampleCredential sampleFarKey (.new 100 88 0 11)
    ephemeralPrivateKey := ⟨fill 32 7⟩
    clientNonce := fill 32 4
    messageId := 5
    clientTime := 1700000201 } sampleFarKey

def sampleFarFinish : Option ClientFinishSent := do
  let hello ← sampleFarHello
  let answer ← ServerHelloSent.accept .transparent hello.encoded {
    context := {
      networkId := fill 16 21
      localNodeId := sampleFarContext.peerNodeId
      localVirtualIp := sampleFarContext.peerVirtualIp
      peerNodeId := sampleFarContext.localNodeId
      peerVirtualIp := sampleFarContext.localVirtualIp }
    credential := sampleCredential sampleIdentityKey (.new 100 88 0 10)
    ephemeralPrivateKey := ⟨fill 32 3⟩
    serverNonce := fill 32 8
    sessionId := fill 16 9
    serverTime := 1700000201 } sampleIdentityKey (Crypto.transparent.verifyingKey sampleControllerKey)
    1700000201
  hello.acceptServerHello .transparent answer.encoded
    (Crypto.transparent.verifyingKey sampleControllerKey) 1700000201

def sampleSend : SendReads := ⟨some 1700000202, 1700000202 * 10 ^ 9, true⟩

/-- Maintenance registers with the relay, and begins a handshake on the direct path. -/
def sampleUpkeep : DataPlaneOp := .maintain {
  pruneUtc := 1700000200 * 10 ^ 9
  instant := 0
  unixTime := some 1700000200
  relays := fun _ => ⟨1700000200 * 10 ^ 9, some (fill 16 51)⟩
  failoverInstant := 0
  peers := fun _ => ⟨⟨some (fill 32 5), some (fill 32 6), some (fill 4 7), some 1700000200⟩,
    ⟨none, none⟩, ⟨some (fill 32 5), some (fill 32 6), some (fill 4 7), some 1700000200⟩⟩
  sends := fun _ => sampleSend
  refresh := .ok () }

def sampleRelayed (datagram : Bytes) : DataPlaneOp := .receive sampleRelayEndpoint datagram {
  instant := durationFromSecs 1
  unixTime := some 1700000201
  datagram := ⟨some (fill 32 3), some (fill 32 8), some (fill 16 9), some 1700000201,
    some 1700000201, durationFromSecs 1⟩
  sends := fun _ => sampleSend }

def sampleRelayFrame (sequence : UInt64) (payload : Bytes) : Bytes :=
  (encodeRelayFrame {
    networkId := fill 16 21
    relayId := fill 16 31
    sourceNodeId := sampleFarContext.localNodeId
    destinationNodeId := sampleFarContext.peerNodeId
    leaseId := fill 16 61
    sequence := sequence
    payload := payload }).getD []

/-- The relay grants a lease, and the peer opens a session through it. -/
def sampleRelaySession : List DataPlaneOp := [
  sampleUpkeep,
  sampleRelayed (signRelayRegisterResponse .transparent {
    networkId := fill 16 21
    nodeId := nodeId .transparent sampleIdentityKey.seed
    relayId := fill 16 31
    requestId := fill 16 51
    leaseId := fill 16 61
    expiresAt := 1700000320 } ⟨fill 32 32⟩).val,
  sampleRelayed (sampleRelayFrame 0 (sampleFarHello.elim [] ClientHelloSent.encoded)),
  sampleRelayed (sampleRelayFrame 1 (sampleFarFinish.elim [] ClientFinishSent.encoded))]

/-- An IPv4 packet to the peer of a length that every MTU from 1300 on lets through. -/
def sampleTunPacket (payloadLength : Nat) : Bytes :=
  0x45 :: 0 :: beBytes 2 (20 + payloadLength) ++
    [0, 0, 0, 0, 64, 17, 0, 0, 100, 88, 0, 10, 100, 88, 0, 11] ++ List.replicate payloadLength 0

def sampleForwardReads : ForwardReads where
  routeUtc := 1700000202 * 10 ^ 9
  instant := durationFromSecs 2
  hello := ⟨none, none, none, none⟩
  send := sampleSend

/-- The session is up, its path is the relay, and the lease is live. -/
def SampleSessionUp (reached : UdpDataPlane) (packet : Bytes) : Prop :=
  (∃ peer, reached.tunPeer packet sampleForwardReads = some peer ∧
    peer.state.isEstablished = true ∧ peer.activeEndpoint = some sampleRelayEndpoint) ∧
  ∃ client lease, reached.relayManager.LiveLease sampleRelayEndpoint 1700000202
    (1700000202 * 10 ^ 9) client lease ∧ lease.nextSequence ≠ u64Max

theorem sampleSessionUp_of_any {reached : UdpDataPlane} {packet : Bytes}
    (hpeer : (reached.tunPeer packet sampleForwardReads).any (fun peer =>
      peer.state.isEstablished && decide (peer.activeEndpoint = some sampleRelayEndpoint)) = true)
    (hlease : (reached.relayManager.clients.lookup sampleRelayEndpoint).any (fun client =>
      decide (1700000202 * 10 ^ 9 < client.configExpiresAt) && client.lease.any fun lease =>
        decide (1700000202 < lease.expiresAt ∧ lease.nextSequence ≠ u64Max)) = true) :
    SampleSessionUp reached packet := by
  obtain ⟨peer, htun, hp⟩ := (Option.any_eq_true _ _).mp hpeer
  rw [Bool.and_eq_true, decide_eq_true_eq] at hp
  obtain ⟨client, hl, hclient⟩ := (Option.any_eq_true _ _).mp hlease
  rw [Bool.and_eq_true, decide_eq_true_eq] at hclient
  obtain ⟨lease, hheld, hgranted⟩ := (Option.any_eq_true _ _).mp hclient.2
  have hlive := of_decide_eq_true hgranted
  exact ⟨⟨peer, htun, hp⟩, client, lease, ⟨hl, hheld, hlive.1, hclient.1⟩, hlive.2⟩

theorem sampleRelaySession_up :
    ∃ dp, UdpDataPlane.bind .transparent sampleFormats sampleOpenState sampleIdentityKey 0
        (1700000200 * 10 ^ 9) = .ok dp ∧
      let reached := final (UdpDataPlane.apply .transparent sampleFormats) dp sampleRelaySession
      ∀ payloadLength ∈ [80, 1280], SampleSessionUp reached (sampleTunPacket payloadLength) ∧
        (reached.sends .transparent
          (.forwardTun (sampleTunPacket payloadLength) sampleForwardReads)).2.map Prod.fst =
            [sampleRelayEndpoint] ∧
        (∀ transmission ∈ (reached.sends .transparent
            (.forwardTun (sampleTunPacket payloadLength) sampleForwardReads)).2,
          (reached.relayManager.wrap transmission.1 transmission.2.1 transmission.2.2 1700000202
            (1700000202 * 10 ^ 9)).1 = .error .dataPlane ↔ payloadLength = 1280) ∧
        (reached.forwardTun .transparent (sampleTunPacket payloadLength) sampleForwardReads).result =
          if payloadLength = 80 then .ok false else .error .dataPlane := by
  have hrun : (match UdpDataPlane.bind .transparent sampleFormats sampleOpenState sampleIdentityKey 0
      (1700000200 * 10 ^ 9) with
    | .error _ => false
    | .ok dp =>
      let reached := final (UdpDataPlane.apply .transparent sampleFormats) dp sampleRelaySession
      [80, 1280].all fun payloadLength =>
        let packet := sampleTunPacket payloadLength
        ((reached.tunPeer packet sampleForwardReads).any fun peer =>
          peer.state.isEstablished && decide (peer.activeEndpoint = some sampleRelayEndpoint)) &&
        ((reached.relayManager.clients.lookup sampleRelayEndpoint).any fun client =>
          decide (1700000202 * 10 ^ 9 < client.configExpiresAt) && client.lease.any fun lease =>
            decide (1700000202 < lease.expiresAt ∧ lease.nextSequence ≠ u64Max)) &&
        decide ((reached.sends .transparent (.forwardTun packet sampleForwardReads)).2.map Prod.fst =
          [sampleRelayEndpoint]) &&
        decide (∀ transmission ∈ (reached.sends .transparent (.forwardTun packet sampleForwardReads)).2,
          (reached.relayManager.wrap transmission.1 transmission.2.1 transmission.2.2 1700000202
            (1700000202 * 10 ^ 9)).1 = .error .dataPlane ↔ payloadLength = 1280) &&
        decide ((reached.forwardTun .transparent packet sampleForwardReads).result =
          if payloadLength = 80 then .ok false else .error .dataPlane)) = true := by
    decide +kernel
  split at hrun
  next => simp at hrun
  next dp hbind =>
    refine ⟨dp, hbind, fun payloadLength hm => ?_⟩
    have hholds := List.all_eq_true.mp hrun payloadLength hm
    simp only [Bool.and_eq_true, decide_eq_true_eq] at hholds
    obtain ⟨⟨⟨⟨hpeer, hlease⟩, hsends⟩, hwraps⟩, hresult⟩ := hholds
    exact ⟨sampleSessionUp_of_any (by simpa using hpeer) (by simpa using hlease), hsends, hwraps,
      hresult⟩

/-- A packet of 100 bytes is carried. -/
theorem relayed_datagrams_fit_sample :
    ∃ dp, UdpDataPlane.bind .transparent sampleFormats sampleOpenState sampleIdentityKey 0
        (1700000200 * 10 ^ 9) = .ok dp ∧
      let reached := final (UdpDataPlane.apply .transparent sampleFormats) dp sampleRelaySession
      ∃ transmission, (reached.sends .transparent
          (.forwardTun (sampleTunPacket 80) sampleForwardReads)).2 = [transmission] ∧
        (reached.sendingAt .transparent (.forwardTun (sampleTunPacket 80) sampleForwardReads)
          []).CarriedInFrame transmission 1700000202 (1700000202 * 10 ^ 9) := by
  obtain ⟨dp, hbind, hup⟩ := sampleRelaySession_up
  obtain ⟨⟨_, client, lease, hlive, hleft⟩, hsends, _⟩ := hup 80 (by simp)
  refine ⟨dp, hbind, ?_⟩
  have hcarried := (relayed_datagrams_fit (f := sampleFormats) aeadCorrect_transparent hbind
    sampleRelaySession (.forwardTun (sampleTunPacket 80) sampleForwardReads)).1
  have hshort : (sampleTunPacket 80).length ≤ maxRelayedPacketLength := by decide +kernel
  generalize final (UdpDataPlane.apply .transparent sampleFormats) dp sampleRelaySession = reached at *
  obtain ⟨transmission, rest, hsplit, hfirst, hrest⟩ := List.map_eq_cons_iff.mp hsends
  rw [List.map_eq_nil_iff.mp hrest] at hsplit
  refine ⟨transmission, hsplit,
    (hcarried (Or.inl hshort)).1 [] transmission [] hsplit _ _ client lease ?_ hleft⟩
  have hsame := UdpDataPlane.relayManager_forwardPrepared (c := .transparent) reached
    (sampleTunPacket 80) sampleForwardReads
  rw [← hsame, ← hfirst] at hlive
  exact hlive

/-- A packet of 1300 bytes is sealed for the relay although no frame takes it, and the Agent ends. -/
theorem oversized_packet_stops_agent :
    ∃ dp, UdpDataPlane.bind .transparent sampleFormats sampleOpenState sampleIdentityKey 0
        (1700000200 * 10 ^ 9) = .ok dp ∧
      let reached := final (UdpDataPlane.apply .transparent sampleFormats) dp sampleRelaySession
      (sampleTunPacket 1280).length = 1300 ∧ 1300 ≤ maxEncryptedPayloadLength ∧
      SampleSessionUp reached (sampleTunPacket 1280) ∧
      (∃ transmission, (reached.sends .transparent
          (.forwardTun (sampleTunPacket 1280) sampleForwardReads)).2 = [transmission] ∧
        transmission.1 = sampleRelayEndpoint ∧
        (reached.relayManager.wrap transmission.1 transmission.2.1 transmission.2.2 1700000202
          (1700000202 * 10 ^ 9)).1 = .error .dataPlane) ∧
      (reached.apply .transparent sampleFormats
        (.forwardTun (sampleTunPacket 1280) sampleForwardReads)).1.StopsAgent := by
  obtain ⟨dp, hbind, hruns⟩ := sampleRelaySession_up
  obtain ⟨hup, hsends, hwraps, hresult⟩ := hruns 1280 (by simp)
  refine ⟨dp, hbind, by decide +kernel, by decide, hup, ?_, .dataPlane, hresult⟩
  obtain ⟨transmission, rest, hsplit, hfirst, hrest⟩ := List.map_eq_cons_iff.mp hsends
  rw [List.map_eq_nil_iff.mp hrest] at hsplit
  refine ⟨transmission, hsplit, hfirst, (hwraps transmission ?_).mpr rfl⟩
  rw [hsplit]
  exact List.mem_singleton_self _

end XsNexus
