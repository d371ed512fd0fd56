import XsNexus.KeyLockstep

namespace XsNexus

open ByteCodec MachineWords Runs

namespace EstablishedPeer

/-- The tick takes the previous epoch from the receiver. -/
def TakesEpoch (e : EstablishedPeer) (now : Nat) : Prop := e.Retires now ∧ e.receiver.previous ≠ none

/-- The datagram acknowledges the update to the epoch, which is pending. -/
def TakesAck (c : Crypto) (e : EstablishedPeer) (datagram : Bytes) (allowRoutedData : Bool)
    (epoch : UInt32) : Prop :=
  ∃ opened pending, (openDatagram c e.receiver datagram allowRoutedData).1 = some opened ∧
    opened.packetType = .keyUpdateAck ∧ e.outboundKeyUpdate = some pending ∧ pending.nextEpoch = epoch ∧
    verifyKeyUpdatePayload c opened.plaintext e.sessionId e.sender.currentEpoch = some epoch

variable {c : Crypto} {e : EstablishedPeer} {datagram : Bytes} {allowRoutedData : Bool}

theorem handleKeyUpdateAck_rotates {opened : OpenedPacket} {instant : Nat}
    (hchanges : (handleKeyUpdateAck c e opened instant).sender.epoch.epoch ≠ e.sender.epoch.epoch) :
    ∃ pending, e.outboundKeyUpdate = some pending ∧
      pending.nextEpoch = (handleKeyUpdateAck c e opened instant).sender.epoch.epoch ∧
      verifyKeyUpdatePayload c opened.plaintext e.sessionId e.sender.currentEpoch =
        some (handleKeyUpdateAck c e opened instant).sender.epoch.epoch := by
  unfold handleKeyUpdateAck at hchanges ⊢
  split at hchanges
  next => exact absurd rfl hchanges
  next pending hpending =>
    dsimp only at hchanges
    split at hchanges
    next => exact absurd rfl hchanges
    next nextEpoch hverify =>
      split at hchanges
      next => exact absurd rfl hchanges
      next hsame =>
        rcases rotateEpoch_outcome c e.sender nextEpoch with hfails | ⟨sender, hr, hrotates⟩
        · rw [hfails] at hchanges
          exact absurd rfl hchanges
        · have hepoch : sender.epoch.epoch = nextEpoch := by
            obtain ⟨added, epoch, hadd, hderive, rfl⟩ := hrotates
            have hnext : u32CheckedAdd e.sender.epoch.epoch 1 = some nextEpoch :=
              (announcedEpoch_of_verify hverify).2
            cases hnext.symm.trans hadd
            exact (deriveEpoch_eq_some hderive).1
          simp only [hpending, hverify, if_neg hsame, hr, hepoch]
          exact ⟨pending, rfl, (not_not.mp hsame).symm, trivial⟩

/-- Where the keys of the pending epoch derive, its acknowledgement moves the sender there. -/
theorem handleKeyUpdateAck_epoch {opened : OpenedPacket} {instant : Nat} {pending : PendingKeyUpdate}
    {epoch : EpochCipher} (hpending : e.outboundKeyUpdate = some pending)
    (hverify : verifyKeyUpdatePayload c opened.plaintext e.sessionId e.sender.currentEpoch =
      some pending.nextEpoch)
    (hderive : deriveEpoch c e.sender.directionSecret pending.nextEpoch = some epoch) :
    (handleKeyUpdateAck c e opened instant).sender.epoch.epoch = pending.nextEpoch := by
  have hadd : u32CheckedAdd e.sender.epoch.epoch 1 = some pending.nextEpoch :=
    (announcedEpoch_of_verify hverify).2
  unfold handleKeyUpdateAck
  simp only [hpending, hverify, ne_eq, not_true_eq_false, if_false, DataSender.rotateEpoch, hadd, hderive]
  exact (deriveEpoch_eq_some hderive).1

theorem takesAck_of_rotates (hkeyed : e.sender.Keyed c) {instant : Nat}
    (hchanges : (e.receive c datagram allowRoutedData instant).2.sender.epoch.epoch ≠
      e.sender.epoch.epoch) :
    e.TakesAck c datagram allowRoutedData
      (e.receive c datagram allowRoutedData instant).2.sender.epoch.epoch := by
  unfold TakesAck
  unfold receive at hchanges ⊢
  rcases hopen : openDatagram c e.receiver datagram allowRoutedData with ⟨result, receiver⟩
  rw [hopen] at hchanges
  dsimp only at hchanges ⊢
  cases result with
  | none => exact absurd rfl hchanges
  | some opened =>
    dsimp only at hchanges ⊢
    cases htype : opened.packetType with
    | keyUpdate =>
      simp only [htype] at hchanges
      have hkept : (handleKeyUpdate c { e with receiver := receiver } opened instant).2.sender.epoch =
          e.sender.epoch := by
        have hcases := @handleKeyUpdate_cases c { e with receiver := receiver } hkeyed opened instant
        rcases hcases with ⟨_, hsame⟩ | ⟨_, _, _, _, _, _, _, hemits⟩
        · rw [hsame]
        · exact hemits.epoch
      exact absurd (congrArg EpochCipher.epoch hkept) hchanges
    | keyUpdateAck =>
      simp only [htype] at hchanges
      obtain ⟨pending, hpending, hnext, hverify⟩ := handleKeyUpdateAck_rotates hchanges
      exact ⟨opened, pending, rfl, htype, hpending, hnext, hverify⟩
    | pathChallenge =>
      simp only [htype] at hchanges
      exact absurd (congrArg EpochCipher.epoch (sealControl_outcome ..).epoch) hchanges
    | _ =>
      simp only [htype] at hchanges
      exact absurd rfl hchanges

theorem TakesAck.rotates {epoch : UInt32} (h : e.TakesAck c datagram allowRoutedData epoch)
    {cipher : EpochCipher} (hderive : deriveEpoch c e.sender.directionSecret epoch = some cipher)
    (instant : Nat) :
    (e.receive c datagram allowRoutedData instant).2.sender.epoch.epoch = epoch := by
  obtain ⟨opened, pending, hopened, htype, hpending, rfl, hverify⟩ := h
  unfold receive
  rcases hopen : openDatagram c e.receiver datagram allowRoutedData with ⟨result, receiver⟩
  rw [hopen] at hopened
  obtain rfl : result = some opened := hopened
  simp only [htype]
  exact handleKeyUpdateAck_epoch (e := { e with receiver := receiver }) hpending hverify hderive

/-- An end whose receiver holds one epoch held that one alone before, or its tick has taken the other. -/
theorem alone_cases (hkeyed : e.sender.Keyed c) (op : SessionOp)
    (hnone : (e.apply c op).2.receiver.previous = none) :
    (e.apply c op).2.receiver.current.epoch = e.receiver.current.epoch ∧
      (e.receiver.previous = none ∨ ∃ now, op = .maintain now ∧ e.TakesEpoch now) := by
  cases op with
  | receive datagram allowRoutedData instant =>
    obtain ⟨r, hwindow, hinstalled, _⟩ := receive_epochs hkeyed datagram allowRoutedData instant
    change (e.receive c datagram allowRoutedData instant).2.receiver.previous = none at hnone
    change (e.receive c datagram allowRoutedData instant).2.receiver.current.epoch = _ ∧ _
    rcases hinstalled with hsame | ⟨nextEpoch, hinstall⟩
    · rw [hsame] at hnone ⊢
      refine ⟨(DataReceiver.of_windowless hwindow).2.1, Or.inl ?_⟩
      by_contra hsome
      obtain ⟨state, hprevious⟩ := Option.ne_none_iff_exists'.mp hsome
      obtain ⟨old, hold, _⟩ := (DataReceiver.of_windowless hwindow.symm).2.2 state hprevious
      rw [hnone] at hold
      simp at hold
    · obtain ⟨_, epoch, _, _, hafter⟩ := installNextEpoch_eq_some hinstall
      rw [hafter] at hnone
      simp at hnone
  | maintain now =>
    have hepochs := (e.maintain_epochs c now).1
    change (e.maintain c now).2.receiver.previous = none at hnone
    change (e.maintain c now).2.receiver.current.epoch = _ ∧ _
    rw [hepochs] at hnone ⊢
    split at hnone
    next hdue =>
      rw [if_pos hdue]
      refine ⟨rfl, ?_⟩
      by_cases hprevious : e.receiver.previous = none
      · exact Or.inl hprevious
      · exact Or.inr ⟨now, rfl, hdue, hprevious⟩
    next hkept =>
      rw [if_neg hkept]
      exact ⟨rfl, Or.inl hnone⟩
  | forward packet routedPacket now =>
    have hsame := (e.forward_epochs c packet routedPacket now).1
    change (e.forward c packet routedPacket now).2.receiver.previous = none at hnone
    change (e.forward c packet routedPacket now).2.receiver.current.epoch = _ ∧ _
    rw [hsame] at hnone ⊢
    exact ⟨rfl, Or.inl hnone⟩
  | probe pathId token => exact ⟨rfl, Or.inl hnone⟩

end EstablishedPeer

namespace SessionPair

/-- Before a tick that retires the previous epoch, the other end has rotated to the current one. -/
def RotatedPast (pair : SessionPair) (i : Side × SessionOp) : Prop :=
  match i.2 with
  | .maintain now => (pair.peer i.1).TakesEpoch now →
    (pair.sender i.1.other).epoch.epoch = (pair.peer i.1).receiver.current.epoch
  | _ => True

/-- Each receiver holds the keys its sender seals with. -/
def Understood (pair : SessionPair) : Prop :=
  ∀ side, (pair.receiver side).Holds (pair.sender side).epoch

/-- A receiver without a previous epoch is in the epoch of its sender. -/
def Caught (pair : SessionPair) : Prop :=
  ∀ side, (pair.receiver side).previous = none →
    (pair.receiver side).current.epoch = (pair.sender side).epoch.epoch

variable {c : Crypto} {pair : SessionPair}

theorem InSync.understood (h : pair.InSync c) (hcaught : pair.Caught) : pair.Understood :=
  fun side => (h side).sends.holds (hcaught side)

theorem Understood.caught (h : pair.Understood) : pair.Caught := by
  intro side hnone
  obtain ⟨state, hstate | hstate, hepoch, _⟩ := h side
  · rw [← hstate]
    exact hepoch
  · rw [hnone] at hstate
    simp at hstate

theorem sender_of_begins (h : Begins c pair) (side : Side) : (pair.sender side).epoch.epoch = 0 := by
  obtain ⟨session, _, hinstalled⟩ := h.installed
  obtain ⟨peer, instant, hsent, hstate⟩ := hinstalled side
  obtain ⟨sender, hinto, _, hsender, _⟩ := installSession_established hstate
  obtain ⟨⟨_, _, hzero⟩, _⟩ := intoDataPlane_first hinto
  have hepoch : ∀ (packets : List QueuedPacket) (s : DataSender),
      (sealQueued c packets s).2.epoch = s.epoch := by
    intro packets
    induction packets with
    | nil => exact fun s => rfl
    | cons packet packets ih =>
      intro s
      unfold sealQueued
      dsimp only
      rw [ih]
      split
      next => exact (sealRoutedIpv4_outcome ..).epoch
      next => exact (sealIpv4_outcome ..).epoch
  show (pair.peer side).sender.epoch.epoch = 0
  rw [hsender, hepoch, hzero]

theorem caught_of_begins (h : Begins c pair) : pair.Caught := by
  intro side _
  rw [sender_of_begins h side]
  obtain ⟨session, _, hinstalled⟩ := h.installed
  obtain ⟨peer, instant, _, hstate⟩ := hinstalled side.other
  obtain ⟨sender, hinto, _⟩ := installSession_established hstate
  obtain ⟨_, _, _, hzero, _⟩ := intoDataPlane_first hinto
  exact hzero

/-- A sender cannot leave a receiver behind that holds one epoch only. -/
theorem InSync.sender_waits (haead : AeadCorrect c) (h : pair.InSync c) {i : Side × SessionOp}
    (hgenuine : pair.Unforged c i) {side : Side}
    (hcurrent : (pair.receiver side).current.epoch = (pair.sender side).epoch.epoch) :
    ((pair.apply c i).2.sender side).epoch.epoch = (pair.sender side).epoch.epoch := by
  by_contra hchanges
  have hrotates := h.rotates haead hgenuine side hchanges
  exact hchanges (hrotates.symm.trans hcurrent)

theorem Caught.step (haead : AeadCorrect c) (hcaught : pair.Caught) (h : pair.InSync c)
    {i : Side × SessionOp} (hgenuine : pair.Unforged c i) (hrotated : pair.RotatedPast i) :
    (pair.apply c i).2.Caught := by
  obtain ⟨at', op⟩ := i
  intro side hnone
  by_cases hside : at' = side
  · subst hside
    have hreceiver : (pair.apply c (at', op)).2.receiver at' = pair.receiver at' := by
      unfold receiver
      rw [peer_apply_of_ne at'.other_ne c pair op]
    rw [hreceiver] at hnone ⊢
    have hcurrent := hcaught at' hnone
    rw [h.sender_waits haead hgenuine hcurrent]
    exact hcurrent
  · have hat : at' = side.other := by
      cases at' <;> cases side <;> simp_all [Side.other]
    subst hat
    have hsender : (pair.apply c (side.other, op)).2.sender side = pair.sender side := by
      unfold sender
      rw [peer_apply_of_ne (fun heq => side.other_ne heq.symm) c pair op]
    have hreceiver : (pair.apply c (side.other, op)).2.receiver side =
        ((pair.peer side.other).apply c op).2.receiver := by
      unfold receiver
      rw [peer_apply]
    rw [hreceiver] at hnone ⊢
    rw [hsender]
    obtain ⟨hsame, hbefore | ⟨now, rfl, htakes⟩⟩ :=
      EstablishedPeer.alone_cases (h side.other).sends.senderKeyed op hnone
    · rw [hsame]
      exact hcaught side hbefore
    · rw [hsame]
      have hsent := hrotated htakes
      dsimp only at hsent
      rw [Side.other_other] at hsent
      exact hsent.symm

/-- A tick that retires the previous epoch too early leaves the sender alone with its epoch. -/
theorem strands {i : Side × SessionOp} (hearly : ¬pair.RotatedPast i) : ¬(pair.apply c i).2.Understood := by
  obtain ⟨side, op⟩ := i
  intro hunderstood
  have hcaught := hunderstood.caught side.other
  cases op with
  | maintain now =>
    simp only [RotatedPast, not_forall] at hearly
    obtain ⟨hdue, hbehind⟩ := hearly
    have hepochs := ((pair.peer side).maintain_epochs c now).1
    rw [if_pos hdue.1] at hepochs
    have hreceiver : (pair.apply c (side, .maintain now)).2.receiver side.other =
        (pair.peer side).receiver.retirePreviousEpoch := by
      unfold receiver
      rw [Side.other_other, peer_apply]
      exact hepochs
    have hsender : (pair.apply c (side, .maintain now)).2.sender side.other =
        pair.sender side.other := by
      unfold sender
      rw [peer_apply_of_ne side.other_ne c pair (.maintain now)]
    rw [hreceiver, hsender] at hcaught
    exact hbehind (hcaught rfl).symm
  | receive => exact hearly trivial
  | forward => exact hearly trivial
  | probe => exact hearly trivial

theorem InSync.understood_iff (haead : AeadCorrect c) (is : List (Side × SessionOp))
    (h : pair.InSync c) (hcaught : pair.Caught) (hgenuine : Along (apply c) (Unforged c) pair is) :
    (∀ js, js <+: is → (final (apply c) pair js).Understood) ↔
      Along (apply c) RotatedPast pair is := by
  induction is generalizing pair with
  | nil =>
    refine ⟨fun _ => trivial, fun _ js hjs => ?_⟩
    rw [List.prefix_nil.mp hjs]
    exact h.understood hcaught
  | cons i is ih =>
    have hsync := h.step haead hgenuine.1
    constructor
    · intro hunderstood
      have hfirst : (pair.apply c i).2.Understood :=
        hunderstood [i] (List.prefix_cons_inj i |>.mpr List.nil_prefix)
      refine ⟨?_, (ih hsync hfirst.caught hgenuine.2).mp fun js hjs => ?_⟩
      · by_contra hearly
        exact strands hearly hfirst
      · exact hunderstood (i :: js) (List.prefix_cons_inj i |>.mpr hjs)
    · rintro ⟨hacknowledged, hrest⟩ js hjs
      have hlater := (ih hsync (hcaught.step haead h hgenuine.1 hacknowledged) hgenuine.2).mpr hrest
      cases js with
      | nil => exact h.understood hcaught
      | cons j js =>
        obtain ⟨rfl, hprefix⟩ := List.cons_prefix_cons.mp hjs
        exact hlater js hprefix

/-- An acknowledgement of the epoch reaches a side in the run while its update is pending. -/
def AckArrives (c : Crypto) (pair : SessionPair) (is : List (Side × SessionOp)) (side : Side)
    (epoch : UInt32) : Prop :=
  ∃ js datagram allowRoutedData instant,
    js ++ [(side, .receive datagram allowRoutedData instant)] <+: is ∧
      ((final (apply c) pair js).peer side).TakesAck c datagram allowRoutedData epoch

/-- Before each tick that takes an epoch from a receiver, half a minute or more after the next one was
installed, an acknowledgement of that one reaches the other end. -/
def AcknowledgedInTime (c : Crypto) (pair : SessionPair) (is : List (Side × SessionOp)) : Prop :=
  ∀ js side now, js ++ [(side, .maintain now)] <+: is →
    ((final (apply c) pair js).peer side).TakesEpoch now →
      pair.AckArrives c js side.other ((final (apply c) pair js).peer side).receiver.current.epoch

theorem AckArrives.mono {is js : List (Side × SessionOp)} {side : Side} {epoch : UInt32}
    (h : pair.AckArrives c js side epoch) (hjs : js <+: is) : pair.AckArrives c is side epoch := by
  obtain ⟨ks, datagram, allowRoutedData, instant, hks, htakes⟩ := h
  exact ⟨ks, datagram, allowRoutedData, instant, hks.trans hjs, htakes⟩

theorem InSync.takesAck (h : pair.InSync c) {i : Side × SessionOp} {side : Side}
    (hchanges : ((pair.apply c i).2.sender side).epoch.epoch ≠ (pair.sender side).epoch.epoch) :
    ∃ datagram allowRoutedData instant, i = (side, .receive datagram allowRoutedData instant) ∧
      (pair.peer side).TakesAck c datagram allowRoutedData
        ((pair.apply c i).2.sender side).epoch.epoch := by
  obtain ⟨at', op⟩ := i
  have hat : at' = side := by
    by_contra hne
    refine hchanges ?_
    unfold sender
    rw [peer_apply_of_ne (fun heq => hne heq.symm) c pair op]
  subst hat
  have hsender : (pair.apply c (at', op)).2.sender at' = ((pair.peer at').apply c op).2.sender := by
    unfold sender
    rw [peer_apply]
  rw [hsender] at hchanges ⊢
  cases op with
  | receive datagram allowRoutedData instant =>
    exact ⟨datagram, allowRoutedData, instant, rfl,
      EstablishedPeer.takesAck_of_rotates (h at').sends.senderKeyed hchanges⟩
  | maintain now =>
    have hkept := ((pair.peer at').maintain_epochs c now).2
    exact absurd (congrArg EpochCipher.epoch hkept) hchanges
  | forward packet routedPacket now =>
    have hkept := ((pair.peer at').forward_epochs c packet routedPacket now).2
    exact absurd (congrArg EpochCipher.epoch hkept) hchanges
  | probe pathId token =>
    have hkept := (sealControl_outcome c (pair.peer at').sender .pathChallenge .pathProbe pathId
      token.val).epoch
    exact absurd (congrArg EpochCipher.epoch hkept) hchanges

/-- A sender is in its first epoch or in one whose acknowledgement has arrived. -/
theorem InSync.ackArrives (haead : AeadCorrect c) (h : pair.InSync c) (is : List (Side × SessionOp))
    (hgenuine : Along (apply c) (Unforged c) pair is) (side : Side) :
    ((final (apply c) pair is).sender side).epoch.epoch = (pair.sender side).epoch.epoch ∨
      pair.AckArrives c is side ((final (apply c) pair is).sender side).epoch.epoch := by
  induction is using List.reverseRecOn with
  | nil => exact Or.inl rfl
  | append_singleton is i ih =>
    obtain ⟨hbefore, hlast, _⟩ := along_append.mp hgenuine
    have hsync := h.run haead is hbefore
    rw [final_append]
    show (((final (apply c) pair is).apply c i).2.sender side).epoch.epoch = _ ∨
      pair.AckArrives c (is ++ [i]) side
        (((final (apply c) pair is).apply c i).2.sender side).epoch.epoch
    by_cases hchanges : (((final (apply c) pair is).apply c i).2.sender side).epoch.epoch =
        ((final (apply c) pair is).sender side).epoch.epoch
    · rw [hchanges]
      exact (ih hbefore).imp_right fun harrives => harrives.mono (List.prefix_append is [i])
    · obtain ⟨datagram, allowRoutedData, instant, rfl, htakes⟩ := hsync.takesAck hchanges
      exact Or.inr ⟨is, datagram, allowRoutedData, instant, List.prefix_rfl, htakes⟩

theorem InSync.sender_le (h : pair.InSync c) (i : Side × SessionOp) (side : Side) :
    (pair.sender side).epoch.epoch.toNat ≤ ((pair.apply c i).2.sender side).epoch.epoch.toNat := by
  by_cases hsame : ((pair.apply c i).2.sender side).epoch.epoch = (pair.sender side).epoch.epoch
  · rw [hsame]
  · obtain ⟨_, _, _, _, opened, pending, _, _, _, _, hverify⟩ := h.takesAck hsame
    have hsum := u32CheckedAdd_eq_some (announcedEpoch_of_verify hverify).2
    have hone : (1 : UInt32).toNat = 1 := rfl
    show (pair.peer side).sender.currentEpoch.toNat ≤ _
    omega

theorem InSync.run_sender_le (haead : AeadCorrect c) (h : pair.InSync c) (is : List (Side × SessionOp))
    (hgenuine : Along (apply c) (Unforged c) pair is) (side : Side) :
    (pair.sender side).epoch.epoch.toNat ≤
      ((final (apply c) pair is).sender side).epoch.epoch.toNat := by
  induction is generalizing pair with
  | nil => exact Nat.le_refl _
  | cons i is ih => exact (h.sender_le i side).trans (ih (h.step haead hgenuine.1) hgenuine.2)

/-- What is acknowledged is what the receiver is in, and the sender follows. -/
theorem InSync.acknowledges (haead : AeadCorrect c) (h : pair.InSync c) {side : Side} {datagram : Bytes}
    {allowRoutedData : Bool} {epoch : UInt32} {instant : Nat}
    (hgenuine : pair.Unforged c (side, .receive datagram allowRoutedData instant))
    (htakes : (pair.peer side).TakesAck c datagram allowRoutedData epoch) :
    ((pair.apply c (side, .receive datagram allowRoutedData instant)).2.sender side).epoch.epoch =
      epoch := by
  have hsends := (h side).sends
  obtain ⟨opened, pending, hopened, htype, hpending, hnext, hverify⟩ := htakes
  obtain ⟨hannounced, hadd⟩ := announcedEpoch_of_verify hverify
  have hsum := u32CheckedAdd_eq_some hadd
  have hone : (1 : UInt32).toNat = 1 := rfl
  have hcurrent : (pair.receiver side).current.epoch = epoch := by
    rcases hopen : openDatagram c (pair.peer side).receiver datagram allowRoutedData with
      ⟨result, receiver⟩
    have hgenuine : (∃ opened, result = some opened) → datagram ∈ pair.sent side.other := by
      have hg := hgenuine
      simp only [Unforged, hopen] at hg
      exact hg
    obtain ⟨_, hread⟩ := (h side).opens haead hopen hgenuine
    rw [hopen] at hopened
    obtain ⟨header, plaintext, _, _, rfl, hack⟩ := hread opened hopened
    obtain ⟨acked, hacked, hinstalled⟩ := hack htype
    cases hannounced.symm.trans hacked
    have hahead := hsends.ahead
    unfold DataSender.currentEpoch at hsum
    exact UInt32.toNat_inj.mp (by omega)
  obtain ⟨replay, hkeys⟩ := hsends.receiverKeyed.current
  rw [hcurrent, hsends.secret] at hkeys
  have hrotates := EstablishedPeer.TakesAck.rotates
    ⟨opened, pending, hopened, htype, hpending, hnext, hverify⟩ hkeys instant
  unfold sender
  rw [peer_apply]
  exact hrotates

theorem InSync.ahead (h : pair.InSync c) (side : Side) :
    (pair.receiver side).current.epoch.toNat = (pair.sender side).epoch.epoch.toNat ∨
      (pair.receiver side).current.epoch.toNat = (pair.sender side).epoch.epoch.toNat + 1 :=
  (h side).sends.ahead

/-- Once the acknowledgement of its current epoch has arrived, a receiver has its sender there. -/
theorem InSync.epoch_of_ackArrives (haead : AeadCorrect c) (h : pair.InSync c)
    {is : List (Side × SessionOp)} (hgenuine : Along (apply c) (Unforged c) pair is) {side : Side}
    (harrives : pair.AckArrives c is side ((final (apply c) pair is).receiver side).current.epoch) :
    ((final (apply c) pair is).sender side).epoch.epoch =
      ((final (apply c) pair is).receiver side).current.epoch := by
  obtain ⟨js, datagram, allowRoutedData, instant, ⟨rest, rfl⟩, htakes⟩ := harrives
  have hlast := (h.run haead _ hgenuine).ahead side
  obtain ⟨hfirst, hrest⟩ := along_append.mp hgenuine
  obtain ⟨hbefore, hstep, _⟩ := along_append.mp hfirst
  have hacknowledged := (h.run haead js hbefore).acknowledges haead hstep htakes
  have hle := (h.run haead _ hfirst).run_sender_le haead rest hrest side
  rw [← final_append, final_append (apply c) pair js] at hle
  change (((final (apply c) pair js).apply c (side, .receive datagram allowRoutedData
    instant)).2.sender side).epoch.epoch.toNat ≤ _ at hle
  rw [hacknowledged] at hle
  exact UInt32.toNat_inj.mp (by omega)

theorem InSync.rotatedPast_iff (haead : AeadCorrect c) (h : pair.InSync c)
    (hzero : ∀ side, (pair.sender side).epoch.epoch = 0) {is : List (Side × SessionOp)}
    (hgenuine : Along (apply c) (Unforged c) pair is) :
    Along (apply c) RotatedPast pair is ↔ pair.AcknowledgedInTime c is := by
  have hgenuineBefore : ∀ {js i}, js ++ [i] <+: is → Along (apply c) (Unforged c) pair js := by
    rintro js i ⟨rest, rfl⟩
    exact (along_append.mp (along_append.mp hgenuine).1).1
  rw [along_iff]
  constructor
  · intro hrotated js side now hjs htakes
    have hbefore := hgenuineBefore hjs
    have hsync := h.run haead js hbefore
    have hsent : ((final (apply c) pair js).sender side.other).epoch.epoch =
      ((final (apply c) pair js).peer side).receiver.current.epoch := hrotated js _ hjs htakes
    rw [← hsent]
    refine (h.ackArrives haead js hbefore side.other).resolve_left fun hfirst => ?_
    -- a receiver with a previous epoch is past the first one
    obtain ⟨state, hprevious⟩ := Option.ne_none_iff_exists'.mp htakes.2
    have hpast := (hsync side).receives.previous state hprevious
    rw [← hsent, hfirst, hzero] at hpast
    exact absurd hpast (by simp)
  · intro hacknowledged js i hjs
    obtain ⟨side, op⟩ := i
    cases op with
    | maintain now =>
      intro htakes
      have harrives := hacknowledged js side now hjs htakes
      have hreceiver : (final (apply c) pair js).receiver side.other =
          ((final (apply c) pair js).peer side).receiver := by
        unfold receiver
        rw [Side.other_other]
      rw [← hreceiver] at harrives
      exact (h.epoch_of_ackArrives haead (hgenuineBefore hjs) harrives).trans
        (congrArg (fun r => r.current.epoch) hreceiver)
    | receive => trivial
    | forward => trivial
    | probe => trivial

/-- In every state of a run each receiver holds the keys its sender seals with, and no epoch is retired
that the sender has not left, exactly if an acknowledgement of every new epoch arrives before the tick
that retires the one before it. -/
theorem senders_stay_understood_iff (haead : AeadCorrect c) (hbegins : Begins c pair)
    (is : List (Side × SessionOp)) (hgenuine : Along (apply c) (Unforged c) pair is) :
    ((∀ js, js <+: is → (final (apply c) pair js).Understood) ∧ Along (apply c) RotatedPast pair is) ↔
      pair.AcknowledgedInTime c is := by
  have hsync := inSync_of_begins hbegins
  rw [hsync.understood_iff haead is (caught_of_begins hbegins) hgenuine, and_self]
  exact hsync.rotatedPast_iff haead (sender_of_begins hbegins) hgenuine

instance decidableRotatedPast (pair : SessionPair) : DecidablePred (RotatedPast pair)
  | (side, .maintain now) => inferInstanceAs (Decidable ((pair.peer side).Retires now ∧
      (pair.peer side).receiver.previous ≠ none →
        (pair.sender side.other).epoch.epoch = (pair.peer side).receiver.current.epoch))
  | (_, .receive _ _ _) => isTrue trivial
  | (_, .forward _ _ _) => isTrue trivial
  | (_, .probe _ _) => isTrue trivial

end SessionPair

/-- The update of the left end, and the tick of the right end that retires the epoch before it. -/
def sampleRetirement (pair : SessionPair) : List (Side × SessionOp) :=
  sampleUpdate pair ++ [(.right, .maintain (keyUpdateInterval + previousEpochRetention))]

theorem senders_stay_understood_sample : ∃ pair, samplePair = some pair ∧
    (∀ js, js <+: sampleRetirement pair →
      (final (SessionPair.apply .transparent) pair js).Understood) ∧
    pair.AcknowledgedInTime .transparent (sampleRetirement pair) := by
  have hrun : (samplePair.any fun pair =>
      decide (Along (SessionPair.apply .transparent) (SessionPair.Unforged .transparent) pair
        (sampleRetirement pair)) &&
      decide (Along (SessionPair.apply .transparent) SessionPair.RotatedPast pair
        (sampleRetirement pair))) = true := by decide +kernel
  obtain ⟨pair, hpair, hrun⟩ := (Option.any_eq_true _ _).mp hrun
  simp only [Bool.and_eq_true, decide_eq_true_eq] at hrun
  obtain ⟨hgenuine, hrotated⟩ := hrun
  have hbegins := samplePair_begins hpair
  have hunderstood := ((SessionPair.inSync_of_begins hbegins).understood_iff aeadCorrect_transparent
    (sampleRetirement pair) (SessionPair.caught_of_begins hbegins) hgenuine).mpr hrotated
  exact ⟨pair, hpair, hunderstood, (SessionPair.senders_stay_understood_iff aeadCorrect_transparent
    hbegins (sampleRetirement pair) hgenuine).mp ⟨hunderstood, hrotated⟩⟩

/-- The right end installs what the left end announces, its acknowledgement is lost, and half a minute
later it has forgotten the epoch the left end still seals with. -/
def sampleLoss (pair : SessionPair) : List (Side × SessionOp) :=
  let announced := pair.apply .transparent (.left, .maintain keyUpdateInterval)
  [(.left, .maintain keyUpdateInterval),
    (.right, .receive announced.1.flatten false keyUpdateInterval),
    (.right, .maintain (keyUpdateInterval + previousEpochRetention))]

theorem lost_acknowledgement_strands_sender : ∃ pair, Begins .transparent pair ∧
    Along (SessionPair.apply .transparent) (SessionPair.Unforged .transparent) pair
      (sampleLoss pair) ∧
    ¬(final (SessionPair.apply .transparent) pair (sampleLoss pair)).Understood := by
  have hrun : (samplePair.any fun pair =>
      decide (Along (SessionPair.apply .transparent) (SessionPair.Unforged .transparent) pair
        (sampleLoss pair)) &&
      (let pair' := final (SessionPair.apply .transparent) pair (sampleLoss pair)
      decide ((pair'.receiver .left).previous = none ∧
        (pair'.receiver .left).current.epoch ≠ (pair'.sender .left).epoch.epoch))) = true := by
    decide +kernel
  obtain ⟨pair, hpair, hrun⟩ := (Option.any_eq_true _ _).mp hrun
  simp only [Bool.and_eq_true, decide_eq_true_eq] at hrun
  obtain ⟨halong, hnone, hapart⟩ := hrun
  refine ⟨pair, samplePair_begins hpair, halong, fun hunderstood => ?_⟩
  exact hapart (hunderstood.caught .left hnone)

end XsNexus
