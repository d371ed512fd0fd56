import XsNexus.DataSession
import XsNexus.Runs

namespace XsNexus

open ByteCodec MachineWords Runs

inductive ReceiverOp
  | openPacket (encoded : Bytes)
  | openRouted (encoded : Bytes)
  | installNextEpoch (nextEpoch : UInt32)
  | retirePreviousEpoch
deriving DecidableEq

def DataReceiver.apply (c : Crypto) (r : DataReceiver) : ReceiverOp → Option OpenedPacket × DataReceiver
  | .openPacket encoded => r.openPacket c encoded
  | .openRouted encoded => r.openRouted c encoded
  | .installNextEpoch nextEpoch => (none, (r.installNextEpoch c nextEpoch).2)
  | .retirePreviousEpoch => (none, r.retirePreviousEpoch)

def openedId (event : ReceiverOp × Option OpenedPacket) : Option (UInt32 × UInt64) :=
  event.2.map fun opened => (opened.keyEpoch, opened.sequence)

/-- Epoch and sequence of every packet a run of the receiver returned, in order. -/
def deliveries (c : Crypto) (r : DataReceiver) (ops : List ReceiverOp) : List (UInt32 × UInt64) :=
  (trace (DataReceiver.apply c) r ops).filterMap openedId

/-- The sequences delivered under one epoch. -/
def sequencesOf (epoch : UInt32) (delivered : List (UInt32 × UInt64)) : Finset Nat :=
  ((delivered.filter fun id => id.1 = epoch).map fun id => id.2.toNat).toFinset

theorem mem_sequencesOf {epoch : UInt32} {delivered : List (UInt32 × UInt64)} {sequence : UInt64} :
    sequence.toNat ∈ sequencesOf epoch delivered ↔ (epoch, sequence) ∈ delivered := by
  simp only [sequencesOf, List.mem_toFinset, List.mem_map, List.mem_filter, decide_eq_true_eq]
  constructor
  · rintro ⟨⟨e, s⟩, ⟨hm, he⟩, hs⟩
    cases he
    cases UInt64.toNat_inj.mp hs
    exact hm
  · intro hm
    exact ⟨(epoch, sequence), ⟨hm, rfl⟩, rfl⟩

theorem sequencesOf_append_self (epoch : UInt32) (delivered : List (UInt32 × UInt64))
    (sequence : UInt64) : sequencesOf epoch (delivered ++ [(epoch, sequence)]) =
      insert sequence.toNat (sequencesOf epoch delivered) := by
  ext x
  simp [sequencesOf]

theorem sequencesOf_append_other {epoch other : UInt32} (h : other ≠ epoch)
    (delivered : List (UInt32 × UInt64)) (sequence : UInt64) :
    sequencesOf epoch (delivered ++ [(other, sequence)]) = sequencesOf epoch delivered := by
  simp [sequencesOf, h]

theorem sequencesOf_eq_empty {epoch : UInt32} {delivered : List (UInt32 × UInt64)}
    (h : ∀ id ∈ delivered, id.1 ≠ epoch) : sequencesOf epoch delivered = ∅ := by
  have hf : delivered.filter (fun id => id.1 = epoch) = [] :=
    List.filter_eq_nil_iff.mpr fun id hid => by simpa using h id hid
  simp [sequencesOf, hf]

/-- The windows of both live epochs hold what was delivered under them, and no packet of a later
epoch was delivered yet. -/
structure DeliveryInvariant (r : DataReceiver) (delivered : List (UInt32 × UInt64)) : Prop where
  nodup : delivered.Nodup
  past : ∀ id ∈ delivered, id.1.toNat ≤ r.current.epoch.toNat
  current : r.current.replay.Holds (sequencesOf r.current.epoch delivered)
  previous : ∀ p, r.previous = some p →
    p.epoch.toNat < r.current.epoch.toNat ∧ p.replay.Holds (sequencesOf p.epoch delivered)

theorem deliveryInvariant_new {c : Crypto} {secret : Block 32}
    {networkId sourceNodeId destinationNodeId sessionId : Block 16}
    {sourceVirtualIp destinationVirtualIp : Ipv4Addr} {r : DataReceiver}
    (h : DataReceiver.new c secret networkId sourceNodeId destinationNodeId sessionId
      sourceVirtualIp destinationVirtualIp = some r) : DeliveryInvariant r [] := by
  obtain ⟨current, hd, h⟩ := Option.bind_eq_some_iff.mp h
  cases Option.some.inj h
  refine ⟨List.nodup_nil, by simp, ?_, by simp⟩
  simpa [(deriveEpoch_eq_some hd).2, sequencesOf] using ReplayWindow.holds_new

/-- What opening a packet in one epoch can do: nothing at all, or deliver it and mark its
sequence. -/
theorem openInEpoch_cases {c : Crypto} {r : DataReceiver} {state state' : EpochCipher}
    {header : DataHeader} {encoded : Bytes} {routed : Bool} {result : Option OpenedPacket}
    (h : r.openInEpoch c state header encoded routed = (result, state')) :
    (result = none ∧ state' = state) ∨
      ∃ opened replay, result = some opened ∧ opened.keyEpoch = header.keyEpoch ∧
        opened.sequence = header.sequence ∧
        state.replay.commit header.sequence = (some (), replay) ∧
        state' = { state with replay := replay } := by
  simp only [DataReceiver.openInEpoch] at h
  split at h
  next => exact Or.inl ⟨(congrArg Prod.fst h).symm, (congrArg Prod.snd h).symm⟩
  next plaintext _ =>
    split at h
    next replay hc =>
      have hw := ReplayWindow.commit_eq_none hc
      subst hw
      exact Or.inl ⟨(congrArg Prod.fst h).symm, (congrArg Prod.snd h).symm⟩
    next replay hc =>
      exact Or.inr ⟨_, replay, (congrArg Prod.fst h).symm, rfl, rfl, hc,
        (congrArg Prod.snd h).symm⟩

theorem DeliveryInvariant.openCurrent {c : Crypto} {r : DataReceiver} {state : EpochCipher}
    {header : DataHeader} {encoded : Bytes} {routed : Bool} {result : Option OpenedPacket}
    {delivered : List (UInt32 × UInt64)} (hi : DeliveryInvariant r delivered)
    (he : header.keyEpoch = r.current.epoch)
    (h : r.openInEpoch c r.current header encoded routed = (result, state)) :
    DeliveryInvariant { r with current := state }
      (delivered ++ (result.map fun opened => (opened.keyEpoch, opened.sequence)).toList) := by
  obtain ⟨hr, hs⟩ | ⟨opened, replay, hr, hepoch, hseq, hc, hs⟩ := openInEpoch_cases h
  · subst hr hs
    simpa using hi
  · subst hr hs
    obtain ⟨hfresh, hholds⟩ := ReplayWindow.commit_eq_some hi.current hc
    rw [he] at hepoch
    simp only [Option.map_some, Option.toList_some, hepoch, hseq]
    refine ⟨?_, ?_, ?_, ?_⟩
    · refine List.nodup_append.mpr ⟨hi.nodup, List.nodup_singleton _, ?_⟩
      intro id hid other hother heq
      cases List.mem_singleton.mp hother
      cases heq
      exact hfresh (mem_sequencesOf.mpr hid)
    · intro id hid
      rcases List.mem_append.mp hid with hid | hid
      · exact hi.past id hid
      · cases List.mem_singleton.mp hid
        exact le_rfl
    · simpa [sequencesOf_append_self] using hholds
    · intro p hp
      obtain ⟨hlt, hold⟩ := hi.previous p hp
      have hne : r.current.epoch ≠ p.epoch := fun heq => by
        rw [heq] at hlt
        exact Nat.lt_irrefl _ hlt
      exact ⟨hlt, by simpa [sequencesOf_append_other hne] using hold⟩

theorem DeliveryInvariant.openPrevious {c : Crypto} {r : DataReceiver} {previous state : EpochCipher}
    {header : DataHeader} {encoded : Bytes} {routed : Bool} {result : Option OpenedPacket}
    {delivered : List (UInt32 × UInt64)} (hi : DeliveryInvariant r delivered)
    (hp : r.previous = some previous) (he : previous.epoch = header.keyEpoch)
    (h : r.openInEpoch c previous header encoded routed = (result, state)) :
    DeliveryInvariant { r with previous := some state }
      (delivered ++ (result.map fun opened => (opened.keyEpoch, opened.sequence)).toList) := by
  obtain ⟨hlt, hold⟩ := hi.previous previous hp
  obtain ⟨hr, hs⟩ | ⟨opened, replay, hr, hepoch, hseq, hc, hs⟩ := openInEpoch_cases h
  · subst hr hs
    refine ⟨by simpa using hi.nodup, by simpa using hi.past, by simpa using hi.current, ?_⟩
    intro p hp'
    cases Option.some.inj hp'
    exact ⟨hlt, by simpa using hold⟩
  · subst hr hs
    obtain ⟨hfresh, hholds⟩ := ReplayWindow.commit_eq_some hold hc
    rw [← he] at hepoch
    simp only [Option.map_some, Option.toList_some, hepoch, hseq]
    have hne : previous.epoch ≠ r.current.epoch := fun heq => by
      rw [heq] at hlt
      exact Nat.lt_irrefl _ hlt
    refine ⟨?_, ?_, ?_, ?_⟩
    · refine List.nodup_append.mpr ⟨hi.nodup, List.nodup_singleton _, ?_⟩
      intro id hid other hother heq
      cases List.mem_singleton.mp hother
      cases heq
      exact hfresh (mem_sequencesOf.mpr hid)
    · intro id hid
      rcases List.mem_append.mp hid with hid | hid
      · exact hi.past id hid
      · cases List.mem_singleton.mp hid
        exact Nat.le_of_lt hlt
    · simpa [sequencesOf_append_other hne] using hi.current
    · intro p hp'
      cases Option.some.inj hp'
      exact ⟨hlt, by simpa [sequencesOf_append_self] using hholds⟩

theorem DeliveryInvariant.openWithRoutedAddresses {c : Crypto} {r r' : DataReceiver} {encoded : Bytes}
    {routed : Bool} {result : Option OpenedPacket} {delivered : List (UInt32 × UInt64)}
    (hi : DeliveryInvariant r delivered)
    (h : r.openWithRoutedAddresses c encoded routed = (result, r')) :
    DeliveryInvariant r'
      (delivered ++ (result.map fun opened => (opened.keyEpoch, opened.sequence)).toList) := by
  have unchanged : ∀ {result : Option OpenedPacket} {r' : DataReceiver}, (none, r) = (result, r') →
      DeliveryInvariant r'
        (delivered ++ (result.map fun opened => (opened.keyEpoch, opened.sequence)).toList) := by
    intro result r' h
    cases h
    simpa using hi
  unfold DataReceiver.openWithRoutedAddresses at h
  split at h
  next => exact unchanged h
  next =>
    split at h
    next => exact unchanged h
    next header _ =>
      simp only at h
      split at h
      next => exact unchanged h
      next =>
        split at h
        next he =>
          cases h
          exact hi.openCurrent he rfl
        next =>
          split at h
          next => exact unchanged h
          next previous hp =>
            split at h
            next he =>
              cases h
              exact hi.openPrevious hp he rfl
            next => exact unchanged h

theorem DeliveryInvariant.installNextEpoch {c : Crypto} {r : DataReceiver}
    {delivered : List (UInt32 × UInt64)} (hi : DeliveryInvariant r delivered) (nextEpoch : UInt32) :
    DeliveryInvariant (r.installNextEpoch c nextEpoch).2 delivered := by
  unfold DataReceiver.installNextEpoch
  split
  next => exact hi
  next hadd =>
    split
    next => exact hi
    next next hd =>
      obtain ⟨hepoch, hreplay⟩ := deriveEpoch_eq_some hd
      have hsum := u32CheckedAdd_eq_some (not_not.mp hadd)
      have hnext : r.current.epoch.toNat < next.epoch.toNat := by
        rw [hepoch, hsum]
        exact Nat.lt_succ_self _
      refine ⟨hi.nodup, fun id hid => Nat.le_of_lt (Nat.lt_of_le_of_lt (hi.past id hid) hnext), ?_, ?_⟩
      · have hempty : sequencesOf next.epoch delivered = ∅ := by
          refine sequencesOf_eq_empty fun id hid heq => ?_
          have hle := hi.past id hid
          rw [heq] at hle
          omega
        simpa [hreplay, hempty] using ReplayWindow.holds_new
      · intro p hp
        cases Option.some.inj hp
        exact ⟨hnext, hi.current⟩

theorem DeliveryInvariant.retirePreviousEpoch {r : DataReceiver} {delivered : List (UInt32 × UInt64)}
    (hi : DeliveryInvariant r delivered) : DeliveryInvariant r.retirePreviousEpoch delivered :=
  ⟨hi.nodup, hi.past, hi.current, fun _ hp => absurd hp (by simp [DataReceiver.retirePreviousEpoch])⟩

theorem DeliveryInvariant.apply {c : Crypto} {r : DataReceiver} {delivered : List (UInt32 × UInt64)}
    (hi : DeliveryInvariant r delivered) (op : ReceiverOp) :
    DeliveryInvariant (r.apply c op).2 (delivered ++ (openedId (op, (r.apply c op).1)).toList) := by
  cases op with
  | openPacket encoded => exact hi.openWithRoutedAddresses rfl
  | openRouted encoded => exact hi.openWithRoutedAddresses rfl
  | installNextEpoch nextEpoch => simpa [openedId, DataReceiver.apply] using hi.installNextEpoch nextEpoch
  | retirePreviousEpoch => simpa [openedId, DataReceiver.apply] using hi.retirePreviousEpoch

theorem deliveryInvariant_run {c : Crypto} {r : DataReceiver} (hi : DeliveryInvariant r [])
    (ops : List ReceiverOp) :
    DeliveryInvariant (final (DataReceiver.apply c) r ops) (deliveries c r ops) := by
  refine run_invariant (P := fun s history => DeliveryInvariant s (history.filterMap openedId)) ?_ ops hi
  intro s history op h
  have hstep := h.apply (c := c) op
  cases hid : openedId (op, (s.apply c op).1) with
  | none => simpa [List.filterMap_append, hid] using hstep
  | some id => simpa [List.filterMap_append, hid] using hstep

/-- A receiver returns no epoch and sequence twice, whatever it is given and in whatever order. -/
theorem deliveries_nodup (c : Crypto) (secret : Block 32)
    (networkId sourceNodeId destinationNodeId sessionId : Block 16)
    (sourceVirtualIp destinationVirtualIp : Ipv4Addr) (r : DataReceiver)
    (h : DataReceiver.new c secret networkId sourceNodeId destinationNodeId sessionId
      sourceVirtualIp destinationVirtualIp = some r) (ops : List ReceiverOp) :
    (deliveries c r ops).Nodup :=
  (deliveryInvariant_run (deliveryInvariant_new h) ops).nodup

theorem deliveries_nodup_keepalive : ∃ s r,
    DataSender.new .transparent (zeros 32) (zeros 16) (zeros 16) (zeros 16) (zeros 16)
      .UNSPECIFIED .BROADCAST = some s ∧
    DataReceiver.new .transparent (zeros 32) (zeros 16) (zeros 16) (zeros 16) (zeros 16)
      .UNSPECIFIED .BROADCAST = some r ∧
    ∀ datagram, (s.sealControl .transparent .keepalive .NONE 0 []).1 = some datagram →
      (deliveries .transparent r [.openPacket datagram, .installNextEpoch 1,
        .openRouted datagram]).Nodup :=
  ⟨_, _, rfl, rfl, fun _ _ => deliveries_nodup _ _ _ _ _ _ _ _ _ rfl _⟩

end XsNexus
