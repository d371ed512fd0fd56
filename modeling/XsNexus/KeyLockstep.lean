import XsNexus.KeyUpdates
import XsNexus.PathAuthentication

namespace XsNexus

open ByteCodec MachineWords Runs

theorem Side.other_ne (side : Side) : side.other ≠ side := by
  cases side <;> simp [Side.other]

theorem Side.other_other (side : Side) : side.other.other = side := by
  cases side <;> rfl

section Beginning

variable {c : Crypto}

theorem Agree.symm {left right : EstablishedSession} (h : Agree left right) : Agree right left where
  roles := h.roles.symm
  sessionId := h.sessionId.symm
  clientToServer := h.clientToServer.symm
  serverToClient := h.serverToClient.symm
  networkId := h.networkId.symm
  nodeId := h.peerNodeId.symm
  peerNodeId := h.nodeId.symm
  virtualIp := h.peerVirtualIp.symm
  peerVirtualIp := h.virtualIp.symm

def EstablishedSession.sendSecret (session : EstablishedSession) : Block 32 :=
  match session.role with
  | .client => session.clientToServerSecret
  | .server => session.serverToClientSecret

def EstablishedSession.receiveSecret (session : EstablishedSession) : Block 32 :=
  match session.role with
  | .client => session.serverToClientSecret
  | .server => session.clientToServerSecret

theorem Agree.secret {left right : EstablishedSession} (h : Agree left right) :
    right.receiveSecret = left.sendSecret := by
  have hroles := h.roles
  unfold EstablishedSession.receiveSecret EstablishedSession.sendSecret
  cases hleft : left.role with
  | client =>
    cases hright : right.role with
    | client => exact absurd (hleft.trans hright.symm) hroles
    | server => exact h.clientToServer.symm
  | server =>
    cases hright : right.role with
    | client => exact h.serverToClient.symm
    | server => exact absurd (hleft.trans hright.symm) hroles

/-- A sender and a receiver in their first epoch. -/
theorem intoDataPlane_first {session : EstablishedSession} {sender : DataSender}
    {receiver : DataReceiver} (h : session.intoDataPlane c = some (sender, receiver)) :
    (sender.directionSecret = session.sendSecret ∧ sender.Keyed c ∧ sender.epoch.epoch = 0) ∧
      receiver.directionSecret = session.receiveSecret ∧ receiver.Keyed c ∧
        receiver.current.epoch = 0 ∧ receiver.previous = none := by
  unfold EstablishedSession.intoDataPlane DataSender.new DataReceiver.new at h
  simp only [Option.bind_eq_bind, Option.bind_eq_some_iff] at h
  obtain ⟨sender', ⟨sending, hsending, hs⟩, receiver', ⟨receiving, hreceiving, hr⟩, h⟩ := h
  cases Option.some.inj hs
  cases Option.some.inj hr
  cases Option.some.inj h
  obtain ⟨hsend, _⟩ := deriveEpoch_eq_some hsending
  obtain ⟨hreceive, _⟩ := deriveEpoch_eq_some hreceiving
  have hkeyed : deriveEpoch c (match session.role with
      | .client => (session.clientToServerSecret, session.serverToClientSecret)
      | .server => (session.serverToClientSecret, session.clientToServerSecret)).2 receiving.epoch =
        some receiving := by
    rw [hreceive]
    exact hreceiving
  refine ⟨⟨?_, ?_, hsend⟩, ?_, ⟨⟨receiving.replay, hkeyed⟩, fun state hstate => by simp at hstate⟩,
    hreceive, rfl⟩
  · unfold EstablishedSession.sendSecret
    cases session.role <;> rfl
  · unfold DataSender.Keyed
    dsimp only
    rw [hsend]
    exact hsending
  · unfold EstablishedSession.receiveSecret
    cases session.role <;> rfl

theorem KeySync.begins {s : DataSender} {r : DataReceiver} (own : DataReceiver)
    (hsecret : r.directionSecret = s.directionSecret) (hs : s.Keyed c) (hr : r.Keyed c)
    (hsender : s.epoch.epoch = 0) (hreceiver : r.current.epoch = 0) (hnone : r.previous = none) :
    KeySync c s [] r own where
  secret := hsecret
  senderKeyed := hs
  receiverKeyed := hr
  ahead := Or.inl (by rw [hsender, hreceiver])
  previous state hstate := by
    rw [hnone] at hstate
    simp at hstate
  sealed datagram hmem := by simp at hmem
  announced := Or.inl hreceiver

theorem KeySync.sealsQueued {r own : DataReceiver} (packets : List QueuedPacket) {s : DataSender}
    {sent : List Bytes} (h : KeySync c s sent r own) :
    KeySync c (sealQueued c packets s).2 (sent ++ (sealQueued c packets s).1) r own := by
  induction packets generalizing s sent with
  | nil =>
    rw [sealQueued, List.append_nil]
    exact h
  | cons packet packets ih =>
    obtain ⟨outcome, ho⟩ : ∃ outcome, outcome =
      (if packet.routed then s.sealRoutedIpv4 c .ackEliciting 0 packet.encoded
        else s.sealIpv4 c .ackEliciting 0 packet.encoded) := ⟨_, rfl⟩
    have hseals : SealsOnly c s .data packet.encoded outcome := by
      rw [ho]
      split
      next => exact sealRoutedIpv4_sealsOnly h.senderKeyed ..
      next => exact sealIpv4_sealsOnly h.senderKeyed ..
    have hfirst := ih (h.emits hseals.emits fun heq => by simp at heq)
    unfold sealQueued
    dsimp only
    rw [← ho, ← List.append_assoc]
    exact hfirst

theorem installSession_established {peer : Peer} {session : EstablishedSession} {instant : Nat}
    {established : EstablishedPeer}
    (h : (peer.installSession c session instant).2.state = .established established) :
    ∃ sender, session.intoDataPlane c = some (sender, established.receiver) ∧
      (peer.installSession c session instant).1 = (sealQueued c peer.queuedPackets sender).1 ∧
      established.sender = (sealQueued c peer.queuedPackets sender).2 ∧
      established.outboundKeyUpdate = none := by
  unfold Peer.installSession at h ⊢
  split at h
  next => simp at h
  next sender receiver hinto =>
    rw [hinto]
    dsimp only at h ⊢
    cases PeerState.established.inj h
    exact ⟨sender, rfl, rfl, rfl, rfl⟩

end Beginning

namespace SessionPair

variable {c : Crypto} {pair : SessionPair}

/-- Both directions are in step at both ends. -/
def InSync (c : Crypto) (pair : SessionPair) : Prop :=
  ∀ side, EndInSync c (pair.peer side) (pair.sent side) (pair.receiver side)
    (pair.sender side.other) (pair.sent side.other)

theorem inSync_of_begins (h : Begins c pair) : pair.InSync c := by
  obtain ⟨session, hagree, hinstalled⟩ := h.installed
  have hagrees : ∀ side : Side, Agree (session side) (session side.other) := by
    intro side
    cases side with
    | left => exact hagree
    | right => exact hagree.symm
  have hends : ∀ side : Side, KeySync c (pair.sender side) (pair.sent side) (pair.receiver side)
      (pair.peer side).receiver ∧ (pair.peer side).outboundKeyUpdate = none := by
    intro side
    obtain ⟨peer, instant, hsent, hstate⟩ := hinstalled side
    obtain ⟨peer', instant', hsent', hstate'⟩ := hinstalled side.other
    obtain ⟨sender, hinto, houtbound, hsender, hnone⟩ := installSession_established hstate
    obtain ⟨sender', hinto', _⟩ := installSession_established hstate'
    obtain ⟨⟨hsecret, hkeyed, hzero⟩, _⟩ := intoDataPlane_first hinto
    obtain ⟨_, hsecret', hkeyed', hzero', hnone'⟩ := intoDataPlane_first hinto'
    have hfirst := KeySync.begins (pair.peer side).receiver
      (hsecret'.trans ((hagrees side).secret.trans hsecret.symm)) hkeyed hkeyed' hzero hzero' hnone'
    have hqueued := hfirst.sealsQueued peer.queuedPackets
    rw [List.nil_append, ← houtbound, hsent, ← hsender] at hqueued
    exact ⟨hqueued, hnone⟩
  intro side
  obtain ⟨hsends, hnone⟩ := hends side
  obtain ⟨hreceives, _⟩ := hends side.other
  refine ⟨hsends, ?_, fun pending hp => ?_⟩
  · unfold receiver at hreceives
    rw [Side.other_other] at hreceives
    exact hreceives
  · rw [hnone] at hp
    simp at hp

theorem peer_apply (c : Crypto) (pair : SessionPair) (side : Side) (op : SessionOp) :
    (pair.apply c (side, op)).2.peer side = ((pair.peer side).apply c op).2 := by
  unfold apply
  exact Function.update_self ..

theorem sent_apply (c : Crypto) (pair : SessionPair) (side : Side) (op : SessionOp) :
    (pair.apply c (side, op)).2.sent side = pair.sent side ++ ((pair.peer side).apply c op).1 := by
  unfold apply
  exact Function.update_self ..

theorem peer_apply_of_ne {side other : Side} (h : other ≠ side) (c : Crypto) (pair : SessionPair)
    (op : SessionOp) : (pair.apply c (side, op)).2.peer other = pair.peer other := by
  unfold apply
  exact Function.update_of_ne h ..

theorem sent_apply_of_ne {side other : Side} (h : other ≠ side) (c : Crypto) (pair : SessionPair)
    (op : SessionOp) : (pair.apply c (side, op)).2.sent other = pair.sent other := by
  unfold apply
  exact Function.update_of_ne h ..

theorem InSync.step (haead : AeadCorrect c) (h : pair.InSync c) {i : Side × SessionOp}
    (hgenuine : pair.Unforged c i) : (pair.apply c i).2.InSync c := by
  obtain ⟨side, op⟩ := i
  have hne := side.other_ne
  have hend := (h side).apply haead op fun datagram allowRoutedData instant hop hopened => by
    rw [hop] at hgenuine
    exact hgenuine hopened
  rw [← peer_apply, ← sent_apply] at hend
  have hother : (pair.apply c (side, op)).2.peer side.other = pair.peer side.other :=
    peer_apply_of_ne hne c pair op
  have hsent : (pair.apply c (side, op)).2.sent side.other = pair.sent side.other :=
    sent_apply_of_ne hne c pair op
  intro at'
  by_cases hside : at' = side
  · subst hside
    unfold receiver sender
    rw [hother, hsent]
    exact hend
  · have hat : at' = side.other := by
      cases at' <;> cases side <;> simp_all [Side.other]
    subst hat
    unfold receiver sender
    rw [Side.other_other, hother, hsent]
    exact hend.other rfl rfl fun pending hp => (h side.other).pending pending hp

theorem InSync.run (haead : AeadCorrect c) (h : pair.InSync c) (is : List (Side × SessionOp))
    (hgenuine : Along (apply c) (Unforged c) pair is) : (final (apply c) pair is).InSync c :=
  run_keeps (fun _ _ hsync hunforged => hsync.step haead hunforged) is h hgenuine

end SessionPair

theorem SealOutcome.epoch {c : Crypto} {s : DataSender} {outcome : Option Bytes × DataSender}
    (h : SealOutcome c s outcome) : outcome.2.epoch = s.epoch := by
  rcases h with h | ⟨datagram, _, packetType, flags, pathId, plaintext, ciphertext, tag, next, hseals⟩
  · rw [h]
  · obtain ⟨_, _, _, _, hafter⟩ := hseals
    rw [hafter]

namespace EstablishedPeer

/-- The tick finds that the previous epoch has been kept for its time. -/
def Retires (e : EstablishedPeer) (now : Nat) : Prop :=
  ∃ installed, e.previousEpochInstalledAt = some installed ∧
    saturatingDurationSince now installed ≥ previousEpochRetention

instance (e : EstablishedPeer) (now : Nat) : Decidable (e.Retires now) :=
  decidable_of_iff ((e.previousEpochInstalledAt.any fun installed =>
      decide (saturatingDurationSince now installed ≥ previousEpochRetention)) = true) (by
    simp only [Retires, Option.any_eq_true, decide_eq_true_eq])

theorem retires_iff (e : EstablishedPeer) (now : Nat) :
    (e.previousEpochInstalledAt.any fun installed =>
      decide (saturatingDurationSince now installed ≥ previousEpochRetention)) = true ↔
      e.Retires now := by
  simp only [Retires, Option.any_eq_true, decide_eq_true_eq]

theorem maintain_state (c : Crypto) (e : EstablishedPeer) (now : Nat) :
    (e.maintain c now).2 = (maintainEstablished c e now).2 := by
  unfold maintain
  split
  next h => rw [h]
  next h => rw [h]

/-- A tick touches the epochs of the receiver only to retire the previous one, and seals. -/
theorem maintain_epochs (c : Crypto) (e : EstablishedPeer) (now : Nat) :
    (e.maintain c now).2.receiver =
        (if e.Retires now then e.receiver.retirePreviousEpoch else e.receiver) ∧
      (e.maintain c now).2.sender.epoch = e.sender.epoch := by
  obtain ⟨e1, he1⟩ : ∃ e1, e1 = (if (e.previousEpochInstalledAt.any fun installed =>
      decide (saturatingDurationSince now installed ≥ previousEpochRetention)) = true then
        { e with
          receiver := e.receiver.retirePreviousEpoch
          previousEpochInstalledAt := none }
      else e) := ⟨_, rfl⟩
  have hfirst : e1.receiver =
        (if e.Retires now then e.receiver.retirePreviousEpoch else e.receiver) ∧
      e1.sender = e.sender := by
    rw [he1]
    by_cases hdue : e.Retires now
    · rw [if_pos ((retires_iff e now).mpr hdue), if_pos hdue]
      exact ⟨rfl, rfl⟩
    · rw [if_neg fun h => hdue ((retires_iff e now).mp h), if_neg hdue]
      exact ⟨rfl, rfl⟩
  have hrest : (maintainEstablished c e now).2.receiver = e1.receiver ∧
      (maintainEstablished c e now).2.sender.epoch = e1.sender.epoch := by
    unfold maintainEstablished
    dsimp only
    rw [← he1]
    cases e1.outboundKeyUpdate with
    | some pending =>
      dsimp only
      rcases pending.retry.poll now with ⟨action, retry⟩
      cases action <;> exact ⟨rfl, rfl⟩
    | none =>
      dsimp only
      split
      next =>
        cases u32CheckedAdd e1.sender.currentEpoch 1 with
        | none => exact ⟨rfl, rfl⟩
        | some nextEpoch =>
          dsimp only
          cases keyUpdatePayload c e1.sessionId e1.sender.currentEpoch nextEpoch with
          | none => exact ⟨rfl, rfl⟩
          | some payload =>
            have hepoch := (sealControl_outcome c e1.sender .keyUpdate .control 0 payload.val).epoch
            dsimp only
            rcases hseal : e1.sender.sealControl c .keyUpdate .control 0 payload.val with
              ⟨outbound, sender⟩
            rw [hseal] at hepoch
            cases outbound <;> exact ⟨rfl, hepoch⟩
      next =>
        split
        next =>
          have hepoch := (sealControl_outcome c e1.sender .keepalive .NONE 0 []).epoch
          rcases hseal : e1.sender.sealControl c .keepalive .NONE 0 [] with ⟨outbound, sender⟩
          rw [hseal] at hepoch
          cases outbound <;> exact ⟨rfl, hepoch⟩
        next => exact ⟨rfl, rfl⟩
  rw [maintain_state]
  exact ⟨hrest.1.trans hfirst.1, by rw [hrest.2, hfirst.2]⟩

theorem forward_epochs (c : Crypto) (e : EstablishedPeer) (packet : Bytes) (routedPacket : Bool)
    (now : Nat) : (e.forward c packet routedPacket now).2.receiver = e.receiver ∧
      (e.forward c packet routedPacket now).2.sender.epoch = e.sender.epoch := by
  obtain ⟨outcome, ho⟩ : ∃ outcome, outcome =
    (if routedPacket then e.sender.sealRoutedIpv4 c .ackEliciting 0 packet
      else e.sender.sealIpv4 c .ackEliciting 0 packet) := ⟨_, rfl⟩
  have hepoch : outcome.2.epoch = e.sender.epoch := by
    rw [ho]
    split
    next => exact (sealRoutedIpv4_outcome ..).epoch
    next => exact (sealIpv4_outcome ..).epoch
  unfold forward
  dsimp only
  rw [← ho]
  split
  next => exact ⟨rfl, hepoch⟩
  next => exact ⟨rfl, hepoch⟩

/-- A received datagram moves windows, installs an epoch or rotates. -/
theorem receive_epochs {c : Crypto} {e : EstablishedPeer} (hkeyed : e.sender.Keyed c)
    (datagram : Bytes) (allowRoutedData : Bool) (instant : Nat) :
    ∃ receiver, receiver.windowless = e.receiver.windowless ∧
      ((e.receive c datagram allowRoutedData instant).2.receiver = receiver ∨
        ∃ nextEpoch, receiver.installNextEpoch c nextEpoch =
          (some (), (e.receive c datagram allowRoutedData instant).2.receiver)) ∧
      ((e.receive c datagram allowRoutedData instant).2.sender.epoch = e.sender.epoch ∨
        Rotates c e.sender (e.receive c datagram allowRoutedData instant).2.sender) := by
  have hwindow := openDatagram_windowless c e.receiver datagram allowRoutedData
  unfold receive
  rcases hopen : openDatagram c e.receiver datagram allowRoutedData with ⟨result, receiver⟩
  rw [hopen] at hwindow
  refine ⟨receiver, hwindow, ?_⟩
  dsimp only
  cases result with
  | none => exact ⟨Or.inl rfl, Or.inl rfl⟩
  | some opened =>
    dsimp only
    cases opened.packetType with
    | keyUpdate =>
      have hcases := @handleKeyUpdate_cases c { e with receiver := receiver } hkeyed opened instant
      rcases hcases with ⟨_, hsame⟩ | ⟨nextEpoch, after, _, _, hinstall, hreceiver, _, hemits⟩
      · refine ⟨Or.inl ?_, Or.inl ?_⟩
        · show (handleKeyUpdate c { e with receiver := receiver } opened instant).2.receiver = receiver
          rw [hsame]
        · show (handleKeyUpdate c { e with receiver := receiver } opened instant).2.sender.epoch = _
          rw [hsame]
      · refine ⟨?_, Or.inl hemits.epoch⟩
        show (handleKeyUpdate c { e with receiver := receiver } opened instant).2.receiver = receiver ∨ _
        rcases hinstall with hinstall | ⟨hsame, _⟩
        · refine Or.inr ⟨nextEpoch, ?_⟩
          show receiver.installNextEpoch c nextEpoch =
            (some (), (handleKeyUpdate c { e with receiver := receiver } opened instant).2.receiver)
          rw [hreceiver]
          exact hinstall
        · exact Or.inl (hreceiver.trans hsame)
    | keyUpdateAck =>
      rcases handleKeyUpdateAck_cases c { e with receiver := receiver } opened instant with
        hsame | ⟨hreceiver, _, hrotates, _⟩
      · dsimp only
        rw [hsame]
        exact ⟨Or.inl rfl, Or.inl rfl⟩
      · exact ⟨Or.inl hreceiver, Or.inr hrotates⟩
    | pathChallenge => exact ⟨Or.inl rfl, Or.inl (sealControl_outcome ..).epoch⟩
    | _ => exact ⟨Or.inl rfl, Or.inl rfl⟩

theorem apply_sender {c : Crypto} {e : EstablishedPeer} (hkeyed : e.sender.Keyed c)
    (op : SessionOp) : (e.apply c op).2.sender.epoch = e.sender.epoch ∨
      Rotates c e.sender (e.apply c op).2.sender := by
  cases op with
  | receive datagram allowRoutedData instant =>
    obtain ⟨_, _, _, hsender⟩ := receive_epochs hkeyed datagram allowRoutedData instant
    exact hsender
  | maintain now => exact Or.inl (e.maintain_epochs c now).2
  | forward packet routedPacket now => exact Or.inl (e.forward_epochs c packet routedPacket now).2
  | probe pathId token =>
    exact Or.inl (sealControl_outcome c e.sender .pathChallenge .pathProbe pathId token.val).epoch

end EstablishedPeer

/-- The receiver holds the keys of the epoch, as its current or as its previous ones. -/
def DataReceiver.Holds (r : DataReceiver) (epoch : EpochCipher) : Prop :=
  ∃ state, (state = r.current ∨ r.previous = some state) ∧
    state.epoch = epoch.epoch ∧ state.key = epoch.key ∧ state.nonceSalt = epoch.nonceSalt

theorem EpochCipher.KeyedBy.same {c : Crypto} {secret : Block 32} {state epoch : EpochCipher}
    (h : state.KeyedBy c secret) (hepoch : deriveEpoch c secret epoch.epoch = some epoch)
    (hsame : state.epoch = epoch.epoch) :
    state.key = epoch.key ∧ state.nonceSalt = epoch.nonceSalt := by
  obtain ⟨replay, hstate⟩ := h
  rw [hsame, hepoch] at hstate
  rw [Option.some.inj hstate]
  exact ⟨rfl, rfl⟩

/-- A receiver that still has its previous epoch, or never had another one, holds what its sender
seals with. -/
theorem KeySync.holds {c : Crypto} {s : DataSender} {sent : List Bytes} {r own : DataReceiver}
    (h : KeySync c s sent r own)
    (hkept : r.previous = none → r.current.epoch = s.epoch.epoch) : r.Holds s.epoch := by
  have hkeys : deriveEpoch c r.directionSecret s.epoch.epoch = some s.epoch := by
    rw [h.secret]
    exact h.senderKeyed
  rcases h.ahead with hahead | hahead
  · have hsame := UInt32.toNat_inj.mp hahead
    exact ⟨r.current, Or.inl rfl, hsame, h.receiverKeyed.current.same hkeys hsame⟩
  · cases hprevious : r.previous with
    | none =>
      have hsame := hkept hprevious
      rw [hsame] at hahead
      omega
    | some state =>
      have hbefore := h.previous state hprevious
      have hsame : state.epoch = s.epoch.epoch := UInt32.toNat_inj.mp (by omega)
      exact ⟨state, Or.inr hprevious, hsame, (h.receiverKeyed.previous state hprevious).same hkeys hsame⟩

namespace SessionPair

/-- A datagram of the side has announced the epoch. -/
def Announced (c : Crypto) (pair : SessionPair) (side : Side) (epoch : UInt32) : Prop :=
  ∃ datagram ∈ pair.sent side, ∃ header plaintext,
    SealedAs c (pair.sender side).directionSecret datagram header plaintext ∧
      header.packetType = .keyUpdate ∧ announcedEpoch plaintext = some epoch

/-- What holds of the epochs of one direction at any time. -/
structure Lockstep (c : Crypto) (pair : SessionPair) (side : Side) : Prop where
  ahead : (pair.receiver side).current.epoch.toNat = (pair.sender side).epoch.epoch.toNat ∨
    (pair.receiver side).current.epoch.toNat = (pair.sender side).epoch.epoch.toNat + 1
  announced : (pair.receiver side).current.epoch = 0 ∨
    pair.Announced c side (pair.receiver side).current.epoch
  rotates : ∀ i, pair.Unforged c i →
    ((pair.apply c i).2.sender side).epoch.epoch ≠ (pair.sender side).epoch.epoch →
    (pair.receiver side).current.epoch = ((pair.apply c i).2.sender side).epoch.epoch
  holds : (pair.receiver side).previous ≠ none ∨ (pair.receiver side).current.epoch = 0 →
    (pair.receiver side).Holds (pair.sender side).epoch

theorem InSync.rotates {c : Crypto} {pair : SessionPair} (haead : AeadCorrect c)
    (h : pair.InSync c) {i : Side × SessionOp} (hgenuine : pair.Unforged c i) (side : Side)
    (hchanges : ((pair.apply c i).2.sender side).epoch.epoch ≠ (pair.sender side).epoch.epoch) :
    (pair.receiver side).current.epoch = ((pair.apply c i).2.sender side).epoch.epoch := by
  obtain ⟨at', op⟩ := i
  have hat : at' = side := by
    by_contra hne
    refine hchanges ?_
    unfold sender
    rw [peer_apply_of_ne (fun heq => hne heq.symm) c pair op]
  subst hat
  have hsender : (pair.apply c (at', op)).2.sender at' = ((pair.peer at').apply c op).2.sender := by
    unfold sender
    rw [peer_apply]
  have hreceiver : (pair.apply c (at', op)).2.receiver at' = pair.receiver at' := by
    unfold receiver
    rw [peer_apply_of_ne at'.other_ne c pair op]
  have hafter := (h.step haead hgenuine at').sends.ahead
  change ((pair.apply c (at', op)).2.receiver at').current.epoch.toNat =
      ((pair.apply c (at', op)).2.sender at').epoch.epoch.toNat ∨
    ((pair.apply c (at', op)).2.receiver at').current.epoch.toNat =
      ((pair.apply c (at', op)).2.sender at').epoch.epoch.toNat + 1 at hafter
  rw [hreceiver] at hafter
  have hbefore := (h at').sends.ahead
  rw [hsender] at hchanges hafter ⊢
  rcases EstablishedPeer.apply_sender (h at').sends.senderKeyed op with hsame | hrotates
  · exact absurd (congrArg (fun epoch : EpochCipher => epoch.epoch) hsame) hchanges
  · obtain ⟨nextEpoch, epoch, hadd, hderive, hs⟩ := hrotates
    have hsum := u32CheckedAdd_eq_some hadd
    have hone : (1 : UInt32).toNat = 1 := rfl
    have hepoch : ((pair.peer at').apply c op).2.sender.epoch.epoch = nextEpoch := by
      rw [hs]
      exact (deriveEpoch_eq_some hderive).1
    rw [hepoch] at hafter ⊢
    exact UInt32.toNat_inj.mp (by omega)

theorem InSync.lockstep {c : Crypto} {pair : SessionPair} (haead : AeadCorrect c)
    (h : pair.InSync c) (side : Side) : pair.Lockstep c side where
  ahead := (h side).sends.ahead
  announced := (h side).sends.announced
  rotates i hgenuine hchanges := h.rotates haead hgenuine side hchanges
  holds hkept := by
    refine (h side).sends.holds fun hnone => ?_
    rcases hkept with hsome | hzero
    · exact absurd hnone hsome
    · have hahead := (h side).sends.ahead
      rw [hzero] at hahead ⊢
      have hnone : (0 : UInt32).toNat = 0 := rfl
      exact UInt32.toNat_inj.mp (by omega)

/-- In every run of two ends over a channel that cannot forge, the epochs of both directions stay in
step. -/
theorem key_updates_stay_in_step {c : Crypto} (haead : AeadCorrect c) {pair : SessionPair}
    (hbegins : Begins c pair) (is : List (Side × SessionOp))
    (hgenuine : Along (apply c) (Unforged c) pair is) (side : Side) :
    (final (apply c) pair is).Lockstep c side :=
  ((inSync_of_begins hbegins).run haead is hgenuine).lockstep haead side

instance (c : Crypto) (pair : SessionPair) : DecidablePred (Unforged c pair)
  | (side, .receive datagram allowRoutedData _) =>
    decidable_of_iff ((openDatagram c (pair.peer side).receiver datagram
        allowRoutedData).1.isSome = true → datagram ∈ pair.sent side.other) (by
      simp only [Unforged, Option.isSome_iff_exists])
  | (_, .maintain _) => isTrue trivial
  | (_, .forward _ _ _) => isTrue trivial
  | (_, .probe _ _) => isTrue trivial

end SessionPair

theorem aeadCorrect_transparent : AeadCorrect .transparent where
  opens {key nonce aad plaintext ciphertext tag} h := by
    simp only [Crypto.transparent, Option.some.injEq, Prod.mk.injEq] at h ⊢
    obtain ⟨rfl, rfl⟩ := h
    exact if_pos rfl
  length {key nonce aad plaintext ciphertext tag} h := by
    simp only [Crypto.transparent, Option.some.injEq, Prod.mk.injEq] at h
    rw [h.1]

/-- The two results of a handshake between the sample peers. -/
def sampleResult (side : Side) : EstablishedSession where
  role := match side with
    | .left => .client
    | .right => .server
  context := match side with
    | .left => context sampleMaterial samplePeer
    | .right => samplePeerContext
  sessionId := fill 16 9
  clientToServerSecret := fill 32 31
  serverToClientSecret := fill 32 32

def sampleInstalled (side : Side) : Option EstablishedPeer :=
  match (samplePeer.installSession .transparent (sampleResult side) 0).2.state with
  | .established established => some established
  | _ => none

def samplePair : Option SessionPair := do
  let left ← sampleInstalled .left
  let right ← sampleInstalled .right
  some {
    peer := fun
      | .left => left
      | .right => right
    sent := fun _ => [] }

theorem samplePair_begins {pair : SessionPair} (h : samplePair = some pair) :
    Begins .transparent pair := by
  have hinstalled : ∀ {side : Side} {established : EstablishedPeer},
      sampleInstalled side = some established →
      (samplePeer.installSession .transparent (sampleResult side) 0).2.state =
        .established established := by
    intro side established hs
    unfold sampleInstalled at hs
    split at hs
    next other hstate =>
      cases Option.some.inj hs
      exact hstate
    next => simp at hs
  have hquiet : ∀ side, (samplePeer.installSession .transparent (sampleResult side) 0).1 = [] := by
    intro side
    cases side with
    | left => decide +kernel
    | right => decide +kernel
  unfold samplePair at h
  simp only [Option.bind_eq_bind, Option.bind_eq_some_iff] at h
  obtain ⟨left, hleft, right, hright, h⟩ := h
  cases Option.some.inj h
  refine ⟨sampleResult, ⟨by decide, rfl, rfl, rfl, rfl, rfl, rfl, rfl, rfl⟩, fun side => ?_⟩
  refine ⟨samplePeer, 0, hquiet side, ?_⟩
  cases side with
  | left => exact hinstalled hleft
  | right => exact hinstalled hright

/-- The left end announces its next epoch, the right end installs it and acknowledges, and the left
end rotates. -/
def sampleUpdate (pair : SessionPair) : List (Side × SessionOp) :=
  let announced := pair.apply .transparent (.left, .maintain keyUpdateInterval)
  let installed := announced.2.apply .transparent
    (.right, .receive announced.1.flatten false keyUpdateInterval)
  [(.left, .maintain keyUpdateInterval),
    (.right, .receive announced.1.flatten false keyUpdateInterval),
    (.left, .receive installed.1.flatten false keyUpdateInterval)]

theorem key_updates_stay_in_step_sample : ∃ pair, samplePair = some pair ∧
    ((final (SessionPair.apply .transparent) pair (sampleUpdate pair)).sender .left).epoch.epoch = 1 ∧
    ∀ side, (final (SessionPair.apply .transparent) pair (sampleUpdate pair)).Lockstep
      .transparent side := by
  have hrun : (samplePair.any fun pair =>
      decide (((final (SessionPair.apply .transparent) pair (sampleUpdate pair)).sender
        .left).epoch.epoch = 1) &&
      decide (Along (SessionPair.apply .transparent) (SessionPair.Unforged .transparent) pair
        (sampleUpdate pair))) = true := by decide +kernel
  obtain ⟨pair, hpair, hrun⟩ := (Option.any_eq_true _ _).mp hrun
  simp only [Bool.and_eq_true, decide_eq_true_eq] at hrun
  exact ⟨pair, hpair, hrun.1, SessionPair.key_updates_stay_in_step aeadCorrect_transparent
    (samplePair_begins hpair) (sampleUpdate pair) hrun.2⟩

end XsNexus
