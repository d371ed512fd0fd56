import XsNexus.PeerUpkeep
import XsNexus.SealedDatagrams

namespace XsNexus

open ByteCodec MachineWords Runs

inductive Side
  | left | right
deriving DecidableEq

def Side.other : Side → Side
  | left => right
  | right => left

namespace EstablishedPeer

/-- What a session does with a datagram: `handle_data` without the path probes of its peer. -/
def receive (c : Crypto) (established : EstablishedPeer) (datagram : Bytes) (allowRoutedData : Bool)
    (instant : Nat) : List Bytes × EstablishedPeer :=
  let (result, receiver) := openDatagram c established.receiver datagram allowRoutedData
  let established := { established with receiver := receiver }
  match result with
  | none => ([], established)
  | some opened =>
    match opened.packetType with
    | .keyUpdate => (handleKeyUpdate c established opened instant).map Option.toList id
    | .keyUpdateAck => ([], handleKeyUpdateAck c established opened instant)
    | .pathChallenge =>
      let (outbound, sender) :=
        established.sender.sealControl c .pathResponse .pathProbe opened.pathId opened.plaintext
      (outbound.toList, { established with sender := sender })
    | _ => ([], established)

/-- What `forward_tun` does with the session of a packet's peer. -/
def forward (c : Crypto) (established : EstablishedPeer) (packet : Bytes) (routedPacket : Bool)
    (now : Nat) : List Bytes × EstablishedPeer :=
  let (outbound, sender) :=
    if routedPacket then established.sender.sealRoutedIpv4 c .ackEliciting 0 packet
    else established.sender.sealIpv4 c .ackEliciting 0 packet
  match outbound with
  | none => ([], { established with sender := sender })
  | some outbound =>
    ([outbound], { established with
      sender := sender
      sentPacketsInEpoch := u64SaturatingAdd established.sentPacketsInEpoch 1
      lastKeepaliveAt := now })

/-- What `create_path_probe` does with the session. -/
def probe (c : Crypto) (established : EstablishedPeer) (pathId : UInt32) (token : Block 8) :
    List Bytes × EstablishedPeer :=
  let (outbound, sender) :=
    established.sender.sealControl c .pathChallenge .pathProbe pathId token.val
  (outbound.toList, { established with sender := sender })

def maintain (c : Crypto) (established : EstablishedPeer) (now : Nat) : List Bytes × EstablishedPeer :=
  match maintainEstablished c established now with
  | (.error _, established) => ([], established)
  | (.ok outbound, established) => (outbound.toList, established)

end EstablishedPeer

/-- What can happen to a session while it lasts. -/
inductive SessionOp
  | receive (datagram : Bytes) (allowRoutedData : Bool) (instant : Nat)
  | maintain (now : Nat)
  | forward (packet : Bytes) (routedPacket : Bool) (now : Nat)
  | probe (pathId : UInt32) (token : Block 8)
deriving DecidableEq

def EstablishedPeer.apply (c : Crypto) (established : EstablishedPeer) :
    SessionOp → List Bytes × EstablishedPeer
  | .receive datagram allowRoutedData instant => established.receive c datagram allowRoutedData instant
  | .maintain now => established.maintain c now
  | .forward packet routedPacket now => established.forward c packet routedPacket now
  | .probe pathId token => established.probe c pathId token

/-- Both ends of a session, and every datagram each of them has sealed so far. -/
structure SessionPair where
  peer : Side → EstablishedPeer
  sent : Side → List Bytes

namespace SessionPair

def apply (c : Crypto) (pair : SessionPair) (i : Side × SessionOp) : List Bytes × SessionPair :=
  let (outbound, established) := (pair.peer i.1).apply c i.2
  (outbound, {
    peer := Function.update pair.peer i.1 established
    sent := Function.update pair.sent i.1 (pair.sent i.1 ++ outbound) })

def sender (pair : SessionPair) (side : Side) : DataSender := (pair.peer side).sender

/-- The receiver of what a side sends: the one at the other end. -/
def receiver (pair : SessionPair) (side : Side) : DataReceiver := (pair.peer side.other).receiver

/-- The channel may lose, repeat, delay and reorder datagrams and may make up others, but it cannot
make up one that opens. -/
def Unforged (c : Crypto) (pair : SessionPair) (i : Side × SessionOp) : Prop :=
  match i.2 with
  | .receive datagram allowRoutedData _ =>
    (∃ opened, (openDatagram c (pair.peer i.1).receiver datagram allowRoutedData).1 = some opened) →
      datagram ∈ pair.sent i.1.other
  | _ => True

end SessionPair

/-- The two results of one handshake. -/
structure Agree (left right : EstablishedSession) : Prop where
  roles : left.role ≠ right.role
  sessionId : left.sessionId = right.sessionId
  clientToServer : left.clientToServerSecret = right.clientToServerSecret
  serverToClient : left.serverToClientSecret = right.serverToClientSecret
  networkId : left.context.networkId = right.context.networkId
  nodeId : left.context.localNodeId = right.context.peerNodeId
  peerNodeId : left.context.peerNodeId = right.context.localNodeId
  virtualIp : left.context.localVirtualIp = right.context.peerVirtualIp
  peerVirtualIp : left.context.peerVirtualIp = right.context.localVirtualIp

/-- Both ends have installed the session of one handshake and sent what waited for it. -/
structure Begins (c : Crypto) (pair : SessionPair) : Prop where
  installed : ∃ session : Side → EstablishedSession, Agree (session .left) (session .right) ∧
    ∀ side, ∃ (peer : Peer) (instant : Nat),
      (peer.installSession c (session side) instant).1 = pair.sent side ∧
      (peer.installSession c (session side) instant).2.state = .established (pair.peer side)

namespace Peer

variable {c : Crypto} {peer : Peer} {established : EstablishedPeer}

theorem completePathProbe_state (peer : Peer) (pending : PendingPathProbe) (source : SocketAddr)
    (now : Nat) : (peer.completePathProbe pending source now).state = peer.state := by
  unfold completePathProbe
  dsimp only
  split <;> rfl

/-- A peer with a session handles a datagram as its session does. -/
theorem handleData_established (h : peer.state = .established established) (source : SocketAddr)
    (datagram : Bytes) (now : Nat) (allowRoutedData : Bool) (instant : Nat) :
    (peer.handleData c source datagram now allowRoutedData instant).1.outbound =
        (established.receive c datagram allowRoutedData instant).1 ∧
      (peer.handleData c source datagram now allowRoutedData instant).2.state =
        .established (established.receive c datagram allowRoutedData instant).2 := by
  unfold handleData EstablishedPeer.receive
  rw [h]
  dsimp only
  cases hopen : (openDatagram c established.receiver datagram allowRoutedData).1 with
  | none => exact ⟨rfl, rfl⟩
  | some opened =>
    dsimp only
    cases opened.packetType with
    | pathResponse =>
      dsimp only
      split
      next => exact ⟨rfl, rfl⟩
      next => exact ⟨rfl, completePathProbe_state ..⟩
    | _ => exact ⟨rfl, rfl⟩

/-- A packet of the TUN goes to a peer with a session as it goes to the session. -/
theorem forwardTun_established (h : peer.state = .established established)
    (material : LocalMaterial) (packet : Bytes) (routedPacket : Bool) (now : Nat) (reads : HelloReads) :
    (peer.forwardTun c material packet routedPacket now reads).2.state =
      .established (established.forward c packet routedPacket now).2 := by
  unfold forwardTun EstablishedPeer.forward
  have hestablished : peer.state.isEstablished = true := by
    rw [h]
    rfl
  rw [hestablished, h]
  simp only [Bool.not_true, Bool.false_eq_true, false_and, if_false]
  generalize (if routedPacket then established.sender.sealRoutedIpv4 c .ackEliciting 0 packet
    else established.sender.sealIpv4 c .ackEliciting 0 packet) = sealing
  rcases sealing with ⟨_ | outbound, sender⟩
  · rfl
  · rfl

theorem createPathProbe_established (h : peer.state = .established established)
    (endpoint : SocketAddr) (now : Nat) (reads : ProbeReads) :
    (peer.createPathProbe c endpoint now reads).2.state = .established established ∨
      ∃ pathId token, (peer.createPathProbe c endpoint now reads).2.state =
          .established (established.probe c pathId token).2 ∧
        ∀ encoded, (peer.createPathProbe c endpoint now reads).1 = .ok encoded →
          (established.probe c pathId token).1 = [encoded] := by
  unfold createPathProbe
  rw [h]
  dsimp only
  split
  next token encodedPathId htoken hpath =>
    refine Or.inr ⟨if u32FromBe encodedPathId = 0 then 1 else u32FromBe encodedPathId, token, ?_⟩
    unfold EstablishedPeer.probe
    split
    next sender hseal =>
      rw [hseal]
      exact ⟨rfl, fun encoded hok => by simp at hok⟩
    next sent sender hseal =>
      rw [hseal]
      refine ⟨rfl, fun encoded hok => ?_⟩
      cases hok
      rfl
  next => exact Or.inl h

/-- The maintenance of a peer with a session is that of its session. -/
theorem maintainSession_established (h : peer.state = .established established) (now : Nat) :
    (peer.maintainSession c now).2.state = .established (established.maintain c now).2 := by
  unfold maintainSession EstablishedPeer.maintain
  rw [h]
  dsimp only
  split
  next e after hresult => rw [hresult]
  next outbound after hresult => rw [hresult]

end Peer

/-- The epoch a key update or its acknowledgement is about. -/
def announcedEpoch (payload : Bytes) : Option UInt32 := (field payload 0 4).map u32FromBe

theorem announcedEpoch_of_verify {c : Crypto} {payload : Bytes} {sessionId : Block 16}
    {currentEpoch nextEpoch : UInt32}
    (h : verifyKeyUpdatePayload c payload sessionId currentEpoch = some nextEpoch) :
    announcedEpoch payload = some nextEpoch ∧ u32CheckedAdd currentEpoch 1 = some nextEpoch := by
  unfold verifyKeyUpdatePayload at h
  obtain ⟨bytes, hbytes, h⟩ := Option.bind_eq_some_iff.mp h
  obtain ⟨encoded, hencoded, h⟩ := Option.bind_eq_some_iff.mp h
  obtain ⟨expected, hexpected, h⟩ := Option.bind_eq_some_iff.mp h
  split at h
  next => simp at h
  next =>
    cases Option.some.inj h
    have hval := array_eq_some hbytes
    rw [hval] at hencoded
    refine ⟨by rw [announcedEpoch, hencoded]; rfl, ?_⟩
    unfold keyUpdatePayload at hexpected
    split at hexpected
    next => simp at hexpected
    next hnext => exact not_not.mp hnext

/-- At most one datagram is sealed, of the type and with the payload given. -/
def Emits (c : Crypto) (s : DataSender) (packetType : PacketType) (plaintext : Bytes)
    (outbound : List Bytes) (s' : DataSender) : Prop :=
  (outbound = [] ∧ s' = s) ∨ ∃ datagram flags pathId next, outbound = [datagram] ∧
    SealedAs c s.directionSecret datagram
      (s.header packetType flags pathId (UInt16.ofNat plaintext.length)) plaintext ∧
    s' = { s with nextSequence := next }

theorem SealsOnly.emits {c : Crypto} {s : DataSender} {packetType : PacketType} {plaintext : Bytes}
    {outcome : Option Bytes × DataSender} (h : SealsOnly c s packetType plaintext outcome) :
    Emits c s packetType plaintext outcome.1.toList outcome.2 := by
  rcases h with h | ⟨datagram, flags, pathId, next, hsent, hsealed, _, hafter⟩
  · rw [h]
    exact Or.inl ⟨rfl, rfl⟩
  · rw [hsent]
    exact Or.inr ⟨datagram, flags, pathId, next, rfl, hsealed, hafter⟩

theorem installNextEpoch_eq_some {c : Crypto} {r r' : DataReceiver} {nextEpoch : UInt32}
    (h : r.installNextEpoch c nextEpoch = (some (), r')) :
    nextEpoch.toNat = r.current.epoch.toNat + 1 ∧
      ∃ epoch, deriveEpoch c r.directionSecret nextEpoch = some epoch ∧ epoch.epoch = nextEpoch ∧
        r' = { r with current := epoch, previous := some r.current } := by
  unfold DataReceiver.installNextEpoch at h
  split at h
  next => simp at h
  next hadd =>
    split at h
    next => simp at h
    next epoch hderive =>
      cases h
      exact ⟨u32CheckedAdd_eq_some (not_not.mp hadd), epoch, hderive, (deriveEpoch_eq_some hderive).1,
        rfl⟩

theorem Emits.epoch {c : Crypto} {s s' : DataSender} {packetType : PacketType} {plaintext : Bytes}
    {outbound : List Bytes} (h : Emits c s packetType plaintext outbound s') : s'.epoch = s.epoch := by
  rcases h with ⟨_, rfl⟩ | ⟨_, _, _, _, _, _, rfl⟩
  · rfl
  · rfl

/-- One direction of a session: what its sender has sealed, its receiver at the other end, and the
receiver at its own end, whose installations it acknowledges. -/
structure KeySync (c : Crypto) (s : DataSender) (sent : List Bytes) (r own : DataReceiver) : Prop where
  secret : r.directionSecret = s.directionSecret
  senderKeyed : s.Keyed c
  receiverKeyed : r.Keyed c
  ahead : r.current.epoch.toNat = s.epoch.epoch.toNat ∨
    r.current.epoch.toNat = s.epoch.epoch.toNat + 1
  previous : ∀ state, r.previous = some state → state.epoch.toNat + 1 = r.current.epoch.toNat
  sealed : ∀ datagram ∈ sent, ∃ header plaintext,
    SealedAs c s.directionSecret datagram header plaintext ∧
      header.keyEpoch.toNat ≤ s.epoch.epoch.toNat ∧
      (header.packetType = .keyUpdateAck → ∃ epoch, announcedEpoch plaintext = some epoch ∧
        epoch.toNat ≤ own.current.epoch.toNat)
  announced : r.current.epoch = 0 ∨ ∃ datagram ∈ sent, ∃ header plaintext,
    SealedAs c s.directionSecret datagram header plaintext ∧ header.packetType = .keyUpdate ∧
      announcedEpoch plaintext = some r.current.epoch

namespace KeySync

variable {c : Crypto} {s : DataSender} {sent : List Bytes} {r own : DataReceiver}

theorem ownAdvances (h : KeySync c s sent r own) {own' : DataReceiver}
    (hle : own.current.epoch.toNat ≤ own'.current.epoch.toNat) : KeySync c s sent r own' := by
  refine { h with sealed := fun datagram hmem => ?_ }
  obtain ⟨header, plaintext, hsealed, hpast, hack⟩ := h.sealed datagram hmem
  refine ⟨header, plaintext, hsealed, hpast, fun htype => ?_⟩
  obtain ⟨epoch, hepoch, hbound⟩ := hack htype
  exact ⟨epoch, hepoch, hbound.trans hle⟩

theorem resends (h : KeySync c s sent r own) {outbound : List Bytes}
    (hsub : ∀ datagram ∈ outbound, datagram ∈ sent) : KeySync c s (sent ++ outbound) r own := by
  refine { h with
    sealed := fun datagram hmem => ?_
    announced := ?_ }
  · rcases List.mem_append.mp hmem with hmem | hmem
    · exact h.sealed datagram hmem
    · exact h.sealed datagram (hsub datagram hmem)
  · rcases h.announced with hzero | ⟨datagram, hmem, hannounces⟩
    · exact Or.inl hzero
    · exact Or.inr ⟨datagram, List.mem_append_left _ hmem, hannounces⟩

theorem emits (h : KeySync c s sent r own) {packetType : PacketType} {plaintext : Bytes}
    {outbound : List Bytes} {s' : DataSender} (he : Emits c s packetType plaintext outbound s')
    (hack : packetType = .keyUpdateAck → ∃ epoch, announcedEpoch plaintext = some epoch ∧
      epoch.toNat ≤ own.current.epoch.toNat) : KeySync c s' (sent ++ outbound) r own := by
  rcases he with ⟨rfl, rfl⟩ | ⟨datagram, flags, pathId, next, rfl, hsealed, rfl⟩
  · rw [List.append_nil]
    exact h
  · refine ⟨h.secret, h.senderKeyed, h.receiverKeyed, h.ahead, h.previous, fun other hmem => ?_, ?_⟩
    · rcases List.mem_append.mp hmem with hmem | hmem
      · exact h.sealed other hmem
      · cases List.mem_singleton.mp hmem
        exact ⟨_, plaintext, hsealed, Nat.le_refl _, hack⟩
    · rcases h.announced with hzero | ⟨other, hmem, hannounces⟩
      · exact Or.inl hzero
      · exact Or.inr ⟨other, List.mem_append_left _ hmem, hannounces⟩

theorem rotates (h : KeySync c s sent r own) {s' : DataSender} (hrotates : Rotates c s s')
    (hinstalled : r.current.epoch.toNat = s.epoch.epoch.toNat + 1) : KeySync c s' sent r own := by
  obtain ⟨nextEpoch, epoch, hadd, hderive, rfl⟩ := hrotates
  have hsum := u32CheckedAdd_eq_some hadd
  have hepoch := (deriveEpoch_eq_some hderive).1
  refine ⟨h.secret, ?_, h.receiverKeyed, ?_, h.previous, fun datagram hmem => ?_, h.announced⟩
  · unfold DataSender.Keyed
    dsimp only
    rw [hepoch]
    exact hderive
  · refine Or.inl ?_
    dsimp only
    rw [hepoch, hsum, hinstalled]
    rfl
  · obtain ⟨header, plaintext, hsealed, hpast, hack⟩ := h.sealed datagram hmem
    refine ⟨header, plaintext, hsealed, ?_, hack⟩
    dsimp only
    rw [hepoch, hsum]
    omega

theorem opens (h : KeySync c s sent r own) {r' : DataReceiver}
    (hsame : r'.windowless = r.windowless) : KeySync c s sent r' own := by
  obtain ⟨hsecret, hepoch, hprevious⟩ := DataReceiver.of_windowless hsame
  refine ⟨hsecret.trans h.secret, h.senderKeyed, h.receiverKeyed.of_windowless hsame, ?_, ?_, h.sealed,
    ?_⟩
  · rw [hepoch]
    exact h.ahead
  · intro state hstate
    obtain ⟨old, hold, he⟩ := hprevious state hstate
    rw [hepoch, ← he]
    exact h.previous old hold
  · rw [hepoch]
    exact h.announced

/-- The receiver installs what the sender has announced under its present epoch. -/
theorem installs (h : KeySync c s sent r own) {nextEpoch : UInt32} {r' : DataReceiver}
    (hinstall : r.installNextEpoch c nextEpoch = (some (), r')) {datagram plaintext : Bytes}
    {header : DataHeader} (hmem : datagram ∈ sent)
    (hsealed : SealedAs c s.directionSecret datagram header plaintext)
    (htype : header.packetType = .keyUpdate) (hannounced : announcedEpoch plaintext = some nextEpoch)
    (hnext : u32CheckedAdd header.keyEpoch 1 = some nextEpoch) : KeySync c s sent r' own := by
  obtain ⟨hsum, epoch, hderive, hepoch, rfl⟩ := installNextEpoch_eq_some hinstall
  have hsum' := u32CheckedAdd_eq_some hnext
  obtain ⟨header', plaintext', hsealed', hpast, _⟩ := h.sealed datagram hmem
  have hheader : header' = header := Option.some.inj (hsealed'.parse.symm.trans hsealed.parse)
  rw [hheader] at hpast
  have hone : (1 : UInt32).toNat = 1 := rfl
  have hkeyed : deriveEpoch c r.directionSecret epoch.epoch = some epoch := by
    rw [hepoch]
    exact hderive
  refine ⟨h.secret, h.senderKeyed, ⟨⟨epoch.replay, hkeyed⟩, ?_⟩, ?_, ?_, h.sealed, ?_⟩
  · intro state hstate
    cases Option.some.inj hstate
    exact h.receiverKeyed.current
  · dsimp only
    rw [hepoch]
    rcases h.ahead with hahead | hahead
    · omega
    · omega
  · intro state hstate
    cases Option.some.inj hstate
    dsimp only
    rw [hepoch]
    omega
  · dsimp only
    rw [hepoch]
    exact Or.inr ⟨datagram, hmem, header, plaintext, hsealed, htype, hannounced⟩

theorem retires (h : KeySync c s sent r own) : KeySync c s sent r.retirePreviousEpoch own :=
  ⟨h.secret, h.senderKeyed, ⟨h.receiverKeyed.current, fun state hstate => by
    simp [DataReceiver.retirePreviousEpoch] at hstate⟩, h.ahead, fun state hstate => by
    simp [DataReceiver.retirePreviousEpoch] at hstate, h.sealed, h.announced⟩

end KeySync

/-- What the handling of an opened key update does: it may install the epoch, and acknowledges only
what is installed. -/
theorem handleKeyUpdate_cases (c : Crypto) {established : EstablishedPeer}
    (hkeyed : established.sender.Keyed c) (opened : OpenedPacket) (instant : Nat) :
    ((handleKeyUpdate c established opened instant).1 = none ∧
      (handleKeyUpdate c established opened instant).2 = established) ∨
    ∃ nextEpoch receiver, announcedEpoch opened.plaintext = some nextEpoch ∧
      u32CheckedAdd opened.keyEpoch 1 = some nextEpoch ∧
      (established.receiver.installNextEpoch c nextEpoch = (some (), receiver) ∨
        (receiver = established.receiver ∧ receiver.current.epoch = nextEpoch)) ∧
      (handleKeyUpdate c established opened instant).2.receiver = receiver ∧
      (handleKeyUpdate c established opened instant).2.outboundKeyUpdate =
        established.outboundKeyUpdate ∧
      Emits c established.sender .keyUpdateAck opened.plaintext
        (handleKeyUpdate c established opened instant).1.toList
        (handleKeyUpdate c established opened instant).2.sender := by
  unfold handleKeyUpdate
  split
  next => exact Or.inl ⟨rfl, rfl⟩
  next nextEpoch hverify =>
    obtain ⟨hannounced, hnext⟩ := announcedEpoch_of_verify hverify
    have hseals := sealControl_sealsOnly hkeyed .keyUpdateAck .control 0 opened.plaintext
    dsimp only
    split
    next hcurrent =>
      split
      next receiver hinstall =>
        left
        unfold DataReceiver.installNextEpoch at hinstall
        split at hinstall
        next =>
          cases hinstall
          exact ⟨rfl, rfl⟩
        next =>
          split at hinstall
          next =>
            cases hinstall
            exact ⟨rfl, rfl⟩
          next => simp at hinstall
      next receiver hinstall =>
        exact Or.inr ⟨nextEpoch, receiver, hannounced, hnext, Or.inl hinstall, rfl, rfl, hseals.emits⟩
    next =>
      split
      next => exact Or.inl ⟨rfl, rfl⟩
      next hknown =>
        rw [not_or, not_not] at hknown
        exact Or.inr ⟨nextEpoch, established.receiver, hannounced, hnext,
          Or.inr ⟨rfl, hknown.1⟩, rfl, rfl, hseals.emits⟩

/-- An acknowledgement is ignored, or it is about the next epoch and the sender rotates to it. -/
theorem handleKeyUpdateAck_cases (c : Crypto) (established : EstablishedPeer) (opened : OpenedPacket)
    (instant : Nat) :
    handleKeyUpdateAck c established opened instant = established ∨
    ((handleKeyUpdateAck c established opened instant).receiver = established.receiver ∧
      (handleKeyUpdateAck c established opened instant).outboundKeyUpdate = none ∧
      Rotates c established.sender (handleKeyUpdateAck c established opened instant).sender ∧
      announcedEpoch opened.plaintext =
        u32CheckedAdd established.sender.epoch.epoch 1) := by
  unfold handleKeyUpdateAck
  split
  next => exact Or.inl rfl
  next pending =>
    dsimp only
    split
    next => exact Or.inl rfl
    next nextEpoch hverify =>
      obtain ⟨hannounced, hnext⟩ := announcedEpoch_of_verify hverify
      split
      next => exact Or.inl rfl
      next =>
        rcases rotateEpoch_outcome c established.sender nextEpoch with hfails | ⟨sender, hr, hrotates⟩
        · rw [hfails]
          exact Or.inl rfl
        · rw [hr]
          refine Or.inr ⟨rfl, rfl, hrotates, ?_⟩
          rw [hannounced, ← hnext]
          rfl

/-- One end of a session between its two directions: it sends in one and receives in the other. -/
structure EndInSync (c : Crypto) (e : EstablishedPeer) (sent : List Bytes) (r : DataReceiver)
    (s : DataSender) (received : List Bytes) : Prop where
  sends : KeySync c e.sender sent r e.receiver
  receives : KeySync c s received e.receiver r
  pending : ∀ pending, e.outboundKeyUpdate = some pending → pending.retry.encoded ∈ sent

namespace EndInSync

variable {c : Crypto} {e : EstablishedPeer} {sent received : List Bytes} {r : DataReceiver}
  {s : DataSender}

theorem emits (h : EndInSync c e sent r s received) {e' : EstablishedPeer} {packetType : PacketType}
    {plaintext : Bytes} {outbound : List Bytes}
    (he : Emits c e.sender packetType plaintext outbound e'.sender)
    (hack : packetType = .keyUpdateAck → ∃ epoch, announcedEpoch plaintext = some epoch ∧
      epoch.toNat ≤ e.receiver.current.epoch.toNat)
    (hreceiver : e'.receiver = e.receiver)
    (hpending : ∀ pending, e'.outboundKeyUpdate = some pending →
      pending.retry.encoded ∈ sent ++ outbound) :
    EndInSync c e' (sent ++ outbound) r s received := by
  refine ⟨?_, ?_, hpending⟩
  · rw [hreceiver]
    exact h.sends.emits he hack
  · rw [hreceiver]
    exact h.receives

theorem probe (h : EndInSync c e sent r s received) (pathId : UInt32) (token : Block 8) :
    EndInSync c (e.probe c pathId token).2 (sent ++ (e.probe c pathId token).1) r s received := by
  have hseals := sealControl_sealsOnly h.sends.senderKeyed .pathChallenge .pathProbe pathId token.val
  exact h.emits hseals.emits (fun heq => by simp at heq) rfl fun pending hp =>
    List.mem_append_left _ (h.pending pending hp)

theorem forward (h : EndInSync c e sent r s received) (packet : Bytes) (routedPacket : Bool)
    (now : Nat) :
    EndInSync c (e.forward c packet routedPacket now).2
      (sent ++ (e.forward c packet routedPacket now).1) r s received := by
  obtain ⟨outcome, ho⟩ : ∃ outcome, outcome =
    (if routedPacket then e.sender.sealRoutedIpv4 c .ackEliciting 0 packet
      else e.sender.sealIpv4 c .ackEliciting 0 packet) := ⟨_, rfl⟩
  have hseals : SealsOnly c e.sender .data packet outcome := by
    rw [ho]
    split
    next => exact sealRoutedIpv4_sealsOnly h.sends.senderKeyed ..
    next => exact sealIpv4_sealsOnly h.sends.senderKeyed ..
  have hemits := hseals.emits
  unfold EstablishedPeer.forward
  dsimp only
  rw [← ho]
  split
  next hnone =>
    rw [hnone] at hemits
    exact h.emits hemits (fun heq => by simp at heq) rfl fun pending hp =>
      List.mem_append_left _ (h.pending pending hp)
  next outbound hsome =>
    rw [hsome] at hemits
    exact h.emits hemits (fun heq => by simp at heq) rfl fun pending hp =>
      List.mem_append_left _ (h.pending pending hp)

theorem retires (h : EndInSync c e sent r s received) :
    EndInSync c { e with
      receiver := e.receiver.retirePreviousEpoch
      previousEpochInstalledAt := none } sent r s received :=
  ⟨h.sends.ownAdvances (Nat.le_refl _), h.receives.retires, h.pending⟩

theorem resends (h : EndInSync c e sent r s received) {outbound : List Bytes}
    (hsub : ∀ datagram ∈ outbound, datagram ∈ sent) {pending : Option PendingKeyUpdate}
    (hpending : ∀ kept, pending = some kept → kept.retry.encoded ∈ sent) :
    EndInSync c { e with outboundKeyUpdate := pending } (sent ++ outbound) r s received :=
  ⟨h.sends.resends hsub, h.receives, fun kept hk => List.mem_append_left _ (hpending kept hk)⟩

/-- `maintain_established` after the previous epoch was seen to. -/
theorem maintainPending (h : EndInSync c e sent r s received) {pending : PendingKeyUpdate}
    (hpending : e.outboundKeyUpdate = some pending) {now : Nat}
    (hkept : (e.previousEpochInstalledAt.any fun installed =>
      decide (saturatingDurationSince now installed ≥ previousEpochRetention)) = false) :
    EndInSync c (e.maintain c now).2 (sent ++ (e.maintain c now).1) r s received := by
  have hsent := h.pending pending hpending
  obtain ⟨hencoded, hsend⟩ := poll_encoded pending.retry now
  unfold EstablishedPeer.maintain maintainEstablished
  simp only [hkept, Bool.false_eq_true, if_false, hpending]
  rcases hpoll : pending.retry.poll now with ⟨action, retry⟩
  rw [hpoll] at hencoded hsend
  cases action with
  | wait =>
    refine h.resends (fun datagram hmem => by simp at hmem) fun kept hk => ?_
    cases Option.some.inj hk
    show retry.encoded ∈ sent
    rw [hencoded]
    exact hsent
  | send encoded =>
    have hsame := hsend encoded rfl
    refine h.resends (fun datagram hmem => ?_) fun kept hk => ?_
    · cases List.mem_singleton.mp hmem
      rw [hsame]
      exact hsent
    · cases Option.some.inj hk
      show retry.encoded ∈ sent
      rw [hencoded]
      exact hsent
  | expired => exact h.resends (fun datagram hmem => by simp at hmem) fun kept hk => by simp at hk

theorem maintainIdle (h : EndInSync c e sent r s received) (hpending : e.outboundKeyUpdate = none)
    {now : Nat}
    (hkept : (e.previousEpochInstalledAt.any fun installed =>
      decide (saturatingDurationSince now installed ≥ previousEpochRetention)) = false) :
    EndInSync c (e.maintain c now).2 (sent ++ (e.maintain c now).1) r s received := by
  have hquiet : EndInSync c e (sent ++ []) r s received := by
    rw [List.append_nil]
    exact h
  unfold EstablishedPeer.maintain maintainEstablished
  simp only [hkept, Bool.false_eq_true, if_false, hpending]
  by_cases hdue : e.sentPacketsInEpoch ≥ keyUpdatePacketLimit ∨
      saturatingDurationSince now e.epochStartedAt ≥ keyUpdateInterval
  · simp only [hdue, if_true]
    cases hadd : u32CheckedAdd e.sender.currentEpoch 1 with
    | none => exact hquiet
    | some nextEpoch =>
      dsimp only
      cases hpayload : keyUpdatePayload c e.sessionId e.sender.currentEpoch nextEpoch with
      | none => exact hquiet
      | some payload =>
        dsimp only
        have hseals := (sealControl_sealsOnly h.sends.senderKeyed .keyUpdate .control 0
          payload.val).emits
        rcases hseal : e.sender.sealControl c .keyUpdate .control 0 payload.val with
          ⟨outbound, sender⟩
        rw [hseal] at hseals
        cases outbound with
        | none =>
          exact h.emits hseals (fun heq => by simp at heq) rfl fun pending hp => by
            simp at hp
        | some encoded =>
          refine h.emits hseals (fun heq => by simp at heq) rfl fun pending hp => ?_
          cases Option.some.inj hp
          exact List.mem_append_right _ (List.mem_singleton_self _)
  · simp only [hdue, if_false]
    by_cases hquietFor : saturatingDurationSince now e.lastKeepaliveAt ≥ keepaliveInterval
    · simp only [hquietFor, if_true]
      have hseals := (sealControl_sealsOnly h.sends.senderKeyed .keepalive .NONE 0 []).emits
      rcases hseal : e.sender.sealControl c .keepalive .NONE 0 [] with ⟨outbound, sender⟩
      rw [hseal] at hseals
      cases outbound with
      | none =>
        exact h.emits hseals (fun heq => by simp at heq) rfl fun pending hp => by simp at hp
      | some encoded =>
        exact h.emits hseals (fun heq => by simp at heq) rfl fun pending hp => by simp at hp
    · simp only [hquietFor, if_false]
      exact hquiet

theorem maintain (h : EndInSync c e sent r s received) (now : Nat) :
    EndInSync c (e.maintain c now).2 (sent ++ (e.maintain c now).1) r s received := by
  have hkept : ∀ {e : EstablishedPeer}, EndInSync c e sent r s received →
      (e.previousEpochInstalledAt.any fun installed =>
        decide (saturatingDurationSince now installed ≥ previousEpochRetention)) = false →
      EndInSync c (e.maintain c now).2 (sent ++ (e.maintain c now).1) r s received := by
    intro e h hkept
    cases hpending : e.outboundKeyUpdate with
    | none => exact h.maintainIdle hpending hkept
    | some pending => exact h.maintainPending hpending hkept
  by_cases hdue : (e.previousEpochInstalledAt.any fun installed =>
      decide (saturatingDurationSince now installed ≥ previousEpochRetention)) = true
  · have hretired := hkept h.retires rfl
    have hsame : e.maintain c now = EstablishedPeer.maintain c { e with
        receiver := e.receiver.retirePreviousEpoch
        previousEpochInstalledAt := none } now := by
      unfold EstablishedPeer.maintain maintainEstablished
      simp only [hdue, if_true]
      rfl
    rw [hsame]
    exact hretired
  · exact hkept h (Bool.eq_false_iff.mpr hdue)

/-- The receiver of a genuine datagram has moved its windows only, and has read what was sealed. -/
theorem opens (haead : AeadCorrect c) (h : EndInSync c e sent r s received) {datagram : Bytes}
    {allowRoutedData : Bool} {result : Option OpenedPacket} {receiver : DataReceiver}
    (hopen : openDatagram c e.receiver datagram allowRoutedData = (result, receiver))
    (hgenuine : (∃ opened, result = some opened) → datagram ∈ received) :
    EndInSync c { e with receiver := receiver } sent r s received ∧
      ∀ opened, result = some opened → ∃ header plaintext, datagram ∈ received ∧
        SealedAs c s.directionSecret datagram header plaintext ∧
        opened = openedAs header plaintext ∧
        (header.packetType = .keyUpdateAck → ∃ epoch, announcedEpoch plaintext = some epoch ∧
          epoch.toNat ≤ r.current.epoch.toNat) := by
  have hwindow := openDatagram_windowless c e.receiver datagram allowRoutedData
  rw [hopen] at hwindow
  have hepoch := (DataReceiver.of_windowless hwindow).2.1
  refine ⟨⟨h.sends.ownAdvances (Nat.le_of_eq ?_), h.receives.opens hwindow, h.pending⟩, ?_⟩
  · show e.receiver.current.epoch.toNat = receiver.current.epoch.toNat
    rw [hepoch]
  · intro opened hresult
    have hmem := hgenuine ⟨opened, hresult⟩
    obtain ⟨header, plaintext, hsealed, _, hack⟩ := h.receives.sealed datagram hmem
    have hours := hsealed
    rw [← h.receives.secret] at hours
    rw [hresult] at hopen
    exact ⟨header, plaintext, hmem, hsealed,
      openDatagram_sealed haead h.receives.receiverKeyed hours hopen, hack⟩

theorem installs (h : EndInSync c e sent r s received) {datagram plaintext : Bytes}
    {header : DataHeader} (hmem : datagram ∈ received)
    (hsealed : SealedAs c s.directionSecret datagram header plaintext)
    (htype : header.packetType = .keyUpdate) (instant : Nat) :
    EndInSync c (handleKeyUpdate c e (openedAs header plaintext) instant).2
      (sent ++ (handleKeyUpdate c e (openedAs header plaintext) instant).1.toList) r s received := by
  rcases handleKeyUpdate_cases c h.sends.senderKeyed (openedAs header plaintext) instant with
    ⟨houtbound, hsame⟩ | ⟨nextEpoch, receiver, hannounced, hnext, hinstall, hreceiver, hpending, hemits⟩
  · rw [houtbound, hsame, Option.toList_none, List.append_nil]
    exact h
  · have hinstalled : EndInSync c { e with receiver := receiver } sent r s received ∧
        receiver.current.epoch = nextEpoch := by
      rcases hinstall with hinstall | ⟨hsame, hcurrent⟩
      · obtain ⟨hsum, epoch, _, hepoch, hafter⟩ := installNextEpoch_eq_some hinstall
        have hcurrent : receiver.current.epoch = nextEpoch := by
          rw [hafter]
          exact hepoch
        refine ⟨⟨h.sends.ownAdvances ?_, ?_, h.pending⟩, hcurrent⟩
        · show e.receiver.current.epoch.toNat ≤ receiver.current.epoch.toNat
          rw [hcurrent]
          omega
        · exact h.receives.installs hinstall hmem hsealed htype hannounced hnext
      · rw [hsame]
        exact ⟨h, hsame ▸ hcurrent⟩
    obtain ⟨hsync, hcurrent⟩ := hinstalled
    refine hsync.emits hemits (fun _ => ⟨nextEpoch, hannounced, Nat.le_of_eq ?_⟩) hreceiver
      fun pending hp => ?_
    · show nextEpoch.toNat = receiver.current.epoch.toNat
      rw [hcurrent]
    · rw [hpending] at hp
      exact List.mem_append_left _ (h.pending pending hp)

theorem acknowledged (h : EndInSync c e sent r s received) {plaintext : Bytes} {header : DataHeader}
    (hack : ∃ epoch, announcedEpoch plaintext = some epoch ∧ epoch.toNat ≤ r.current.epoch.toNat)
    (instant : Nat) :
    EndInSync c (handleKeyUpdateAck c e (openedAs header plaintext) instant) sent r s received := by
  rcases handleKeyUpdateAck_cases c e (openedAs header plaintext) instant with
    hsame | ⟨hreceiver, hnone, hrotates, hannounced⟩
  · rw [hsame]
    exact h
  · obtain ⟨epoch, hepoch, hinstalled⟩ := hack
    have hnext : u32CheckedAdd e.sender.epoch.epoch 1 = some epoch :=
      hannounced.symm.trans hepoch
    have hsum := u32CheckedAdd_eq_some hnext
    have hone : (1 : UInt32).toNat = 1 := rfl
    have hahead : r.current.epoch.toNat = e.sender.epoch.epoch.toNat + 1 := by
      rcases h.sends.ahead with hahead | hahead
      · omega
      · exact hahead
    refine ⟨?_, ?_, fun pending hp => ?_⟩
    · rw [hreceiver]
      exact h.sends.rotates hrotates hahead
    · rw [hreceiver]
      exact h.receives
    · rw [hnone] at hp
      simp at hp

theorem receive (haead : AeadCorrect c) (h : EndInSync c e sent r s received) (datagram : Bytes)
    (allowRoutedData : Bool) (instant : Nat)
    (hgenuine : (∃ opened, (openDatagram c e.receiver datagram allowRoutedData).1 = some opened) →
      datagram ∈ received) :
    EndInSync c (e.receive c datagram allowRoutedData instant).2
      (sent ++ (e.receive c datagram allowRoutedData instant).1) r s received := by
  unfold EstablishedPeer.receive
  rcases hopen : openDatagram c e.receiver datagram allowRoutedData with ⟨result, receiver⟩
  rw [hopen] at hgenuine
  obtain ⟨hsync, hread⟩ := h.opens haead hopen hgenuine
  have hquiet : EndInSync c { e with receiver := receiver } (sent ++ []) r s received := by
    rw [List.append_nil]
    exact hsync
  dsimp only
  cases result with
  | none => exact hquiet
  | some opened =>
    obtain ⟨header, plaintext, hmem, hsealed, hopened, hack⟩ := hread opened rfl
    have htype : opened.packetType = header.packetType := by
      rw [hopened]
      rfl
    dsimp only
    cases hkind : opened.packetType with
    | keyUpdate =>
      rw [hopened]
      exact hsync.installs hmem hsealed (htype.symm.trans hkind) instant
    | keyUpdateAck =>
      rw [hopened, List.append_nil]
      exact hsync.acknowledged (hack (htype.symm.trans hkind)) instant
    | pathChallenge =>
      have hseals := (sealControl_sealsOnly hsync.sends.senderKeyed .pathResponse .pathProbe
        opened.pathId opened.plaintext).emits
      exact hsync.emits hseals (fun heq => by simp at heq) rfl fun pending hp =>
        List.mem_append_left _ (hsync.pending pending hp)
    | _ => exact hquiet

theorem apply (haead : AeadCorrect c) (h : EndInSync c e sent r s received) (op : SessionOp)
    (hgenuine : ∀ datagram allowRoutedData instant, op = .receive datagram allowRoutedData instant →
      (∃ opened, (openDatagram c e.receiver datagram allowRoutedData).1 = some opened) →
        datagram ∈ received) :
    EndInSync c (e.apply c op).2 (sent ++ (e.apply c op).1) r s received := by
  cases op with
  | receive datagram allowRoutedData instant =>
    exact h.receive haead datagram allowRoutedData instant (hgenuine _ _ _ rfl)
  | maintain now => exact h.maintain now
  | forward packet routedPacket now => exact h.forward packet routedPacket now
  | probe pathId token => exact h.probe pathId token

/-- The other end sees the same two directions the other way round. -/
theorem other (h : EndInSync c e sent r s received) {e' : EstablishedPeer}
    (hreceiver : e'.receiver = r) (hsender : e'.sender = s)
    (hpending : ∀ pending, e'.outboundKeyUpdate = some pending → pending.retry.encoded ∈ received) :
    EndInSync c e' received e.receiver e.sender sent := by
  refine ⟨?_, ?_, hpending⟩
  · rw [hreceiver, hsender]
    exact h.receives
  · rw [hreceiver]
    exact h.sends

end EndInSync

end XsNexus
