import XsNexus.Omissions
import XsNexus.PeerSteps

namespace XsNexus

open ByteCodec Runs

inductive ReceiverAnswer
  | opened (result : Option OpenedPacket)
  | installed (result : Option Unit)
  | retired
deriving DecidableEq

/-- A call of a receiver with its result, the failed ones too. -/
def DataReceiver.answer (c : Crypto) (r : DataReceiver) : ReceiverOp → ReceiverAnswer × DataReceiver
  | .openPacket encoded => (.opened (r.openPacket c encoded).1, (r.openPacket c encoded).2)
  | .openRouted encoded => (.opened (r.openRouted c encoded).1, (r.openRouted c encoded).2)
  | .installNextEpoch nextEpoch =>
    (.installed (r.installNextEpoch c nextEpoch).1, (r.installNextEpoch c nextEpoch).2)
  | .retirePreviousEpoch => (.retired, r.retirePreviousEpoch)

/-- The call was one with a datagram, and the datagram was rejected. -/
def RejectedCall (event : ReceiverOp × ReceiverAnswer) : Prop := event.2 = .opened none

theorem DataReceiver.eq_of_rejected {c : Crypto} {r : DataReceiver} {encoded : Bytes} {routed : Bool}
    (h : (r.openWithRoutedAddresses c encoded routed).1 = none) :
    (r.openWithRoutedAddresses c encoded routed).2 = r := by
  obtain ⟨result, after⟩ : ∃ result after, r.openWithRoutedAddresses c encoded routed = (result, after) :=
    ⟨_, _, rfl⟩
  obtain ⟨after, hopen⟩ := after
  rw [hopen] at h ⊢
  cases h
  exact openWithRoutedAddresses_eq_none hopen

theorem answer_of_rejected {c : Crypto} {r : DataReceiver} {op : ReceiverOp}
    (h : RejectedCall (op, (r.answer c op).1)) : (r.answer c op).2 = r := by
  cases op with
  | openPacket encoded => exact DataReceiver.eq_of_rejected (ReceiverAnswer.opened.inj h)
  | openRouted encoded => exact DataReceiver.eq_of_rejected (ReceiverAnswer.opened.inj h)
  | installNextEpoch nextEpoch => exact absurd h (by simp [RejectedCall, DataReceiver.answer])
  | retirePreviousEpoch => exact absurd h (by simp [RejectedCall, DataReceiver.answer])

/-- A rejected datagram leaves the receiver alone, the retry for routed packets has the receiver that
the first attempt had, and a run without some of its rejected datagrams is the run with them. -/
theorem rejected_datagrams_invisible (c : Crypto) (r : DataReceiver) :
    (∀ encoded routed, (r.openWithRoutedAddresses c encoded routed).1 = none →
      (r.openWithRoutedAddresses c encoded routed).2 = r) ∧
    (∀ datagram allowRoutedData, (r.openPacket c datagram).1 = none →
      openDatagram c r datagram allowRoutedData =
        if allowRoutedData ∧ datagram[5]? = some PacketType.data.toByte then r.openRouted c datagram
        else (none, r)) ∧
    ∀ (ops : List ReceiverOp) (events : List (ReceiverOp × ReceiverAnswer)),
      Omits RejectedCall (trace (DataReceiver.answer c) r ops) events →
        trace (DataReceiver.answer c) r (events.map Prod.fst) = events ∧
        final (DataReceiver.answer c) r (events.map Prod.fst) = final (DataReceiver.answer c) r ops := by
  refine ⟨fun encoded routed h => DataReceiver.eq_of_rejected h, fun datagram allowRoutedData h => ?_,
    fun ops events h => trace_of_omits (fun s op hidle => answer_of_rejected hidle) h⟩
  have hstate : (r.openPacket c datagram).2 = r := DataReceiver.eq_of_rejected h
  have hpair : r.openPacket c datagram = (none, r) := Prod.ext h hstate
  unfold openDatagram
  rw [hpair]

end XsNexus
