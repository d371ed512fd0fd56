import XsNexus.DriverQueueSteps

namespace XsNexus

open ByteCodec

namespace WindowsXsnet

/-- A pointer with the length a caller gives for it: null, or to at least that many bytes. -/
structure Buffer where
  memory : Option Bytes
  length : UInt32
  backed : ∀ bytes, memory = some bytes → length.toNat ≤ bytes.length

/-- The calls on a queue; a flag tells whether the pointers for the results are not null. -/
inductive QueueOp
  | push (packet : Buffer)
  | pushBatch (payload : Buffer) (acceptedPackets : Bool)
  | pop (packet : Buffer) (packetLength : Bool)
  | measureBatch (payloadCapacity : UInt32) (maximumPackets : UInt16) (outputs : Bool)
  | popBatch (payload : Buffer) (maximumPackets : UInt16) (outputs : Bool)
  | reset

inductive QueueOutput
  | push (status : QueueStatus)
  | pushBatch (status : QueueStatus) (accepted : Option UInt16)
  | pop (status : QueueStatus) (result : Option (Bytes × UInt32))
  | measureBatch (status : QueueStatus) (result : Option (UInt32 × UInt16))
  | popBatch (status : QueueStatus) (result : Option (Bytes × UInt32 × UInt16))
  | reset

structure QueueEvent where
  before : PacketQueue
  op : QueueOp
  output : QueueOutput
  after : PacketQueue

namespace PacketQueue

def apply (queue : PacketQueue) : QueueOp → Option (QueueOutput × PacketQueue)
  | .push packet => (queue.push packet.memory packet.length).map (Prod.map .push id)
  | .pushBatch payload acceptedPackets => do
    let (status, accepted, after) ← queue.pushBatch payload.memory payload.length acceptedPackets
    some (.pushBatch status accepted, after)
  | .pop packet packetLength => do
    let (status, result, after) ← queue.pop packet.memory packet.length packetLength
    some (.pop status result, after)
  | .measureBatch payloadCapacity maximumPackets outputs => do
    let (status, result) ← queue.measureBatch payloadCapacity maximumPackets outputs
    some (.measureBatch status result, queue)
  | .popBatch payload maximumPackets outputs => do
    let (status, result, after) ← queue.popBatch payload.memory payload.length maximumPackets outputs
    some (.popBatch status result, after)
  | .reset => some (.reset, queue.reset)

/-- `none` where a computation of some call wraps, or an access lies beyond its memory. -/
def run (queue : PacketQueue) : List QueueOp → Option (List QueueEvent × PacketQueue)
  | [] => some ([], queue)
  | op :: ops => do
    let (output, after) ← queue.apply op
    let (events, last) ← after.run ops
    some (⟨queue, op, output, after⟩ :: events, last)

end PacketQueue

/-- What a call does to the list of the packets. -/
def FifoStep (mtu : UInt32) (packets after : List Bytes) : QueueOp → QueueOutput → Prop
  | .push packet, .push status =>
    if status = .ok then ∃ bytes, packet.memory = some bytes ∧
      IsPacket mtu.toNat (bytes.take packet.length.toNat) ∧ packets.length < abiMaxPackets ∧
      after = packets ++ [bytes.take packet.length.toNat]
    else after = packets ∧ ∀ bytes, packet.memory = some bytes →
      ¬(IsPacket mtu.toNat (bytes.take packet.length.toNat) ∧ packets.length < abiMaxPackets)
  | .pushBatch payload acceptedPackets, .pushBatch status accepted =>
    if status = .ok then ∃ bytes count, payload.memory = some bytes ∧ accepted = some count ∧
      Pushable mtu packets bytes payload.length count ∧
      after = packets ++ batchPackets bytes count.toNat
    else after = packets ∧ accepted.getD 0 = 0 ∧ (acceptedPackets = true → ∀ bytes,
      payload.memory = some bytes → ∀ count, ¬Pushable mtu packets bytes payload.length count)
  | .pop packet packetLength, .pop status result =>
    if status = .ok then ∃ bytes first length, packet.memory = some bytes ∧ packets = first :: after ∧
      first.length ≤ packet.length.toNat ∧ length.toNat = first.length ∧
      result = some (first ++ bytes.drop first.length, length)
    else after = packets ∧ result = none ∧ (packetLength = true → packet.memory.isSome →
      ∀ first rest, packets = first :: rest → packet.length.toNat < first.length)
  | .measureBatch payloadCapacity maximumPackets outputs, .measureBatch status result =>
    after = packets ∧ if status = .ok then ∃ length count, result = some (length, count) ∧
      length.toNat = batchLength (packets.take count.toNat) ∧
      Longest payloadCapacity.toNat maximumPackets.toNat packets count.toNat
    else result = none ∧ ¬(outputs = true ∧ maximumPackets.toNat ≤ abiMaxPackets ∧
      ∃ count, Longest payloadCapacity.toNat maximumPackets.toNat packets count)
  | .popBatch payload maximumPackets outputs, .popBatch status result =>
    if status = .ok then ∃ bytes output length count, payload.memory = some bytes ∧
      result = some (output, length, count) ∧
      Longest payload.length.toNat maximumPackets.toNat packets count.toNat ∧
      length.toNat = batchLength (packets.take count.toNat) ∧
      validatePacketBatchForMtu (some output) length mtu = some (.valid, some count) ∧
      batchPackets output count.toNat = packets.take count.toNat ∧
      output.drop length.toNat = bytes.drop length.toNat ∧ after = packets.drop count.toNat
    else after = packets ∧ result = none ∧ (payload.memory.isSome →
      ¬(outputs = true ∧ maximumPackets.toNat ≤ abiMaxPackets ∧
        ∃ count, Longest payload.length.toNat maximumPackets.toNat packets count))
  | .reset, .reset => after = []
  | _, _ => False

/-- A batch is popped with the status, the length and the number of packets that it is measured with. -/
def AgreesWithMeasure (queue : PacketQueue) : QueueOp → QueueOutput → Prop
  | .popBatch payload maximumPackets outputs, .popBatch status result =>
    payload.memory.isSome →
      queue.measureBatch payload.length maximumPackets outputs = some (status, result.map Prod.snd)
  | _, _ => True

/-- A queue of the given unit stands for a list of at most 64 valid packets. -/
def IsFifo (mtu : UInt32) (queue : PacketQueue) : Prop :=
  queue.mtu = mtu ∧ queue.packets.length ≤ abiMaxPackets ∧
    ∀ packet ∈ queue.packets, IsPacket mtu.toNat packet

theorem Sound.isFifo {queue : PacketQueue} {mtu : UInt32} (h : Sound queue) (hmtu : queue.mtu = mtu) :
    IsFifo mtu queue := by
  refine ⟨hmtu, ?_, hmtu ▸ h.isPacket⟩
  rw [h.length_packets]
  exact h.count_le

theorem sound_empty (queue : PacketQueue) (hminimum : abiMinPacketSize ≤ queue.mtu.toNat)
    (hmaximum : queue.mtu.toNat ≤ abiMaxPacketSize) (hhead : queue.head = 0) (hcount : queue.count = 0) :
    Sound queue ∧ queue.packets = [] := by
  refine ⟨⟨hminimum, hmaximum, ?_, ?_, ?_⟩, ?_⟩
  · rw [hhead]
    decide
  · rw [hcount]
    decide
  · simp [hcount]
  · simp [PacketQueue.packets, hcount]

theorem packetQueueInitialize_sound {mtu : UInt32} {queue : PacketQueue}
    (h : packetQueueInitialize mtu = some queue) :
    queue.mtu = mtu ∧ Sound queue ∧ queue.packets = [] := by
  unfold packetQueueInitialize at h
  split at h
  next => simp at h
  next hbounds =>
    simp only [not_or, not_lt, gt_iff_lt] at hbounds
    obtain rfl := Option.some.inj h
    exact ⟨rfl, sound_empty _ hbounds.1 hbounds.2 rfl rfl⟩

/-- What a call on a sound queue is to have done. -/
def Behaves (queue : PacketQueue) (op : QueueOp) : Prop :=
  ∃ output after, queue.apply op = some (output, after) ∧ Sound after ∧ after.mtu = queue.mtu ∧
    FifoStep queue.mtu queue.packets after.packets op output ∧ AgreesWithMeasure queue op output

namespace Sound

variable {queue : PacketQueue}

theorem push_behaves (h : Sound queue) (packet : Buffer) : Behaves queue (.push packet) := by
  obtain ⟨memory, length, hbacked⟩ := packet
  cases memory with
  | none => exact ⟨.push .invalidArgument, queue, rfl, h, rfl, by simp [FifoStep], trivial⟩
  | some bytes =>
    have hbacked := hbacked bytes rfl
    by_cases hok : IsPacket queue.mtu.toNat (bytes.take length.toNat) ∧ queue.packets.length < abiMaxPackets
    · obtain ⟨after, hpush, hsound, hmtu, hpackets⟩ := h.push_ok hbacked hok.1 hok.2
      refine ⟨.push .ok, after, by simp [PacketQueue.apply, hpush], hsound, hmtu, ?_, trivial⟩
      exact ⟨bytes, rfl, hok.1, hok.2, hpackets⟩
    · obtain ⟨status, hpush, hstatus⟩ := h.push_refused hbacked hok
      refine ⟨.push status, queue, by simp [PacketQueue.apply, hpush], h, rfl, ?_, trivial⟩
      rw [FifoStep, if_neg hstatus]
      refine ⟨rfl, fun other hother => ?_⟩
      rw [← Option.some.inj hother]
      exact hok

theorem pushBatch_behaves (h : Sound queue) (payload : Buffer) (acceptedPackets : Bool) :
    Behaves queue (.pushBatch payload acceptedPackets) := by
  obtain ⟨memory, length, hbacked⟩ := payload
  cases acceptedPackets with
  | false => exact ⟨.pushBatch .invalidArgument none, queue, rfl, h, rfl, by simp [FifoStep], trivial⟩
  | true =>
    cases memory with
    | none => exact ⟨.pushBatch .invalidArgument (some 0), queue, rfl, h, rfl, by simp [FifoStep], trivial⟩
    | some bytes =>
      rcases h.pushBatch_spec (hbacked bytes rfl) with
        ⟨status, hpush, hstatus, hnone⟩ | ⟨count, after, hpushable, hpush, hsound, hmtu, hpackets⟩
      · refine ⟨.pushBatch status (some 0), queue, by simp [PacketQueue.apply, hpush], h, rfl, ?_, trivial⟩
        rw [FifoStep, if_neg hstatus]
        refine ⟨rfl, rfl, fun _ other hother => ?_⟩
        rw [← Option.some.inj hother]
        exact hnone
      · refine ⟨.pushBatch .ok (some count), after, by simp [PacketQueue.apply, hpush], hsound, hmtu, ?_,
          trivial⟩
        exact ⟨bytes, count, rfl, rfl, hpushable, hpackets⟩

theorem pop_behaves (h : Sound queue) (packet : Buffer) (packetLength : Bool) :
    Behaves queue (.pop packet packetLength) := by
  obtain ⟨memory, length, hbacked⟩ := packet
  cases memory with
  | none => exact ⟨.pop .invalidArgument none, queue, rfl, h, rfl, by simp [FifoStep], trivial⟩
  | some bytes =>
    cases packetLength with
    | false =>
      exact ⟨.pop .invalidArgument none, queue, by simp [PacketQueue.apply, PacketQueue.pop], h, rfl,
        by simp [FifoStep], trivial⟩
    | true =>
      rcases h.pop_spec (hbacked bytes rfl) with
        ⟨status, hpop, hstatus, hsmall⟩ |
        ⟨first, rest, size, after, hpackets, hfits, hsize, hpop, hsound, hmtu, hrest⟩
      · refine ⟨.pop status none, queue, by simp [PacketQueue.apply, hpop], h, rfl, ?_, trivial⟩
        rw [FifoStep, if_neg hstatus]
        exact ⟨rfl, rfl, fun _ _ => hsmall⟩
      · refine ⟨.pop .ok (some (first ++ bytes.drop first.length, size)), after,
          by simp [PacketQueue.apply, hpop], hsound, hmtu, ?_, trivial⟩
        exact ⟨bytes, first, size, rfl, by rw [hpackets, hrest], hfits, hsize, rfl⟩

theorem measureBatch_behaves (h : Sound queue) (capacity : UInt32) (maximum : UInt16) (outputs : Bool) :
    Behaves queue (.measureBatch capacity maximum outputs) := by
  rcases h.measureBatch_spec capacity maximum outputs with
    ⟨status, hmeasured, hstatus, hnone⟩ | ⟨length, count, hmeasured, _, _, hlength, hlongest⟩
  · refine ⟨.measureBatch status none, queue, by simp [PacketQueue.apply, hmeasured], h, rfl, ?_, trivial⟩
    rw [FifoStep, if_neg hstatus]
    exact ⟨rfl, rfl, hnone⟩
  · refine ⟨.measureBatch .ok (some (length, count)), queue, by simp [PacketQueue.apply, hmeasured], h,
      rfl, ?_, trivial⟩
    exact ⟨rfl, length, count, rfl, hlength, hlongest⟩

/-- The batch that a pop writes is accepted, with the packets it holds. -/
theorem encodeBatch_valid (h : Sound queue) {length : UInt32} {count : UInt16} (behind : Bytes)
    (hpositive : 0 < count.toNat) (hwithin : count.toNat ≤ queue.packets.length)
    (hlength : length.toNat = batchLength (queue.packets.take count.toNat)) :
    validatePacketBatchForMtu (some (encodeBatch (queue.packets.take count.toNat) ++ behind)) length
        queue.mtu = some (.valid, some count) ∧
      batchPackets (encodeBatch (queue.packets.take count.toNat) ++ behind) count.toNat =
        queue.packets.take count.toNat := by
  have hcount : queue.packets.length ≤ abiMaxPackets := h.length_packets ▸ h.count_le
  have htaken : (queue.packets.take count.toNat).length = count.toNat := by
    rw [List.length_take]
    omega
  have hsizes : ∀ packet ∈ queue.packets.take count.toNat,
      abiMinPacketSize ≤ packet.length ∧ packet.length ≤ queue.mtu.toNat := by
    intro packet hpacket
    have hvalid := h.isPacket packet (List.mem_of_mem_take hpacket)
    exact ⟨hvalid.minimum, hvalid.maximum⟩
  have hsome : 0 < (queue.packets.take count.toNat).length := by
    rw [htaken]
    exact hpositive
  have hlimited : (queue.packets.take count.toNat).length ≤ abiMaxPackets := by
    rw [htaken]
    omega
  obtain ⟨hbatch, hread⟩ := encodeBatch_isBatch behind hsome hlimited h.maximum hsizes
  rw [htaken] at hbatch hread
  rw [← hlength] at hbatch
  refine ⟨?_, hread⟩
  have hbacked : length.toNat ≤ (encodeBatch (queue.packets.take count.toNat) ++ behind).length := by
    rw [List.length_append, length_encodeBatch, hlength]
    omega
  rcases validatePacketBatchForMtu_spec hbacked h.minimum h.maximum with
    ⟨_, hnone⟩ | ⟨other, hvalid, hother⟩
  · exact absurd hbatch (hnone _)
  · have hsame : other = count := UInt16.toNat_inj.mp (hother.count_eq.symm.trans hbatch.count_eq)
    rw [hvalid, hsame]

theorem popBatch_behaves (h : Sound queue) (payload : Buffer) (maximum : UInt16) (outputs : Bool) :
    Behaves queue (.popBatch payload maximum outputs) := by
  obtain ⟨memory, capacity, hbacked⟩ := payload
  cases memory with
  | none =>
    exact ⟨.popBatch .invalidArgument none, queue, rfl, h, rfl, by simp [FifoStep],
      by simp [AgreesWithMeasure]⟩
  | some bytes =>
    rcases h.popBatch_spec maximum outputs (hbacked bytes rfl) with
      ⟨status, hpop, hstatus, hmeasured, hnone⟩ | ⟨length, count, after, hpop, hmeasured, _, _, hlength,
        hlongest, hsound, hmtu, hpackets⟩
    · refine ⟨.popBatch status none, queue, by simp [PacketQueue.apply, hpop], h, rfl, ?_,
        fun _ => by simp [hmeasured]⟩
      rw [FifoStep, if_neg hstatus]
      exact ⟨rfl, rfl, fun _ => hnone⟩
    · obtain ⟨hvalid, hread⟩ := h.encodeBatch_valid
        (bytes.drop (batchLength (queue.packets.take count.toNat))) hlongest.positive hlongest.within
        hlength
      refine ⟨.popBatch .ok (some (encodeBatch (queue.packets.take count.toNat) ++
        bytes.drop (batchLength (queue.packets.take count.toNat)), length, count)), after,
        by simp [PacketQueue.apply, hpop], hsound, hmtu, ?_, fun _ => by simp [hmeasured]⟩
      refine ⟨bytes, _, length, count, rfl, rfl, hlongest, hlength, hvalid, hread, ?_, hpackets⟩
      rw [hlength, ← length_encodeBatch, List.drop_left]

theorem behaves (h : Sound queue) (op : QueueOp) : Behaves queue op := by
  cases op with
  | push packet => exact h.push_behaves packet
  | pushBatch payload acceptedPackets => exact h.pushBatch_behaves payload acceptedPackets
  | pop packet packetLength => exact h.pop_behaves packet packetLength
  | measureBatch capacity maximum outputs => exact h.measureBatch_behaves capacity maximum outputs
  | popBatch payload maximum outputs => exact h.popBatch_behaves payload maximum outputs
  | reset =>
    have hsound := sound_empty queue.reset h.minimum h.maximum rfl rfl
    exact ⟨.reset, queue.reset, rfl, hsound.1, rfl, hsound.2, trivial⟩

/-- Every run goes through, and each of its steps is one of the list. -/
theorem run_behaves (h : Sound queue) {mtu : UInt32} (hmtu : queue.mtu = mtu) (ops : List QueueOp) :
    ∃ events last, queue.run ops = some (events, last) ∧ IsFifo mtu last ∧ ∀ event ∈ events,
      IsFifo mtu event.before ∧
      FifoStep mtu event.before.packets event.after.packets event.op event.output ∧
      AgreesWithMeasure event.before event.op event.output := by
  induction ops generalizing queue with
  | nil => exact ⟨[], queue, rfl, h.isFifo hmtu, by simp⟩
  | cons op ops ih =>
    obtain ⟨output, after, happly, hsound, hafter, hstep, hagrees⟩ := h.behaves op
    obtain ⟨events, last, hrun, hlast, hevents⟩ := ih hsound (hafter.trans hmtu)
    refine ⟨⟨queue, op, output, after⟩ :: events, last, ?_, hlast, ?_⟩
    · simp [PacketQueue.run, happly, hrun]
    · refine List.forall_mem_cons.mpr ⟨⟨h.isFifo hmtu, ?_, hagrees⟩, hevents⟩
      rw [← hmtu]
      exact hstep

end Sound

/-- No computation of any run wraps, and the queue is a list of at most 64 valid packets throughout. -/
theorem packet_queue_fifo {mtu : UInt32} {queue : PacketQueue} (h : packetQueueInitialize mtu = some queue)
    (ops : List QueueOp) :
    queue.packets = [] ∧ ∃ events last, queue.run ops = some (events, last) ∧ IsFifo mtu last ∧
      ∀ event ∈ events, IsFifo mtu event.before ∧
        FifoStep mtu event.before.packets event.after.packets event.op event.output ∧
        AgreesWithMeasure event.before event.op event.output := by
  obtain ⟨hmtu, hsound, hempty⟩ := packetQueueInitialize_sound h
  exact ⟨hempty, hsound.run_behaves hmtu ops⟩

def sampleQueue : PacketQueue where
  slots := List.replicate abiMaxPackets PacketSlot.zeroed
  slots_length := List.length_replicate
  mtu := 1500
  head := 0
  count := 0

theorem sampleQueue_new : packetQueueInitialize 1500 = some sampleQueue := if_neg (by decide)

/-- A packet of a header alone, popped and popped once more. -/
def sampleQueueOps : List QueueOp := [
  .push ⟨some [0x45, 0, 0, 20, 0, 0, 0, 0, 64, 17, 0, 0, 100, 64, 0, 1, 100, 64, 0, 2], 20, by
    intro bytes h
    cases h
    decide⟩,
  .pop ⟨some (List.replicate 20 0), 20, by
    intro bytes h
    cases h
    decide⟩ true,
  .pop ⟨none, 0, by simp⟩ true]

theorem packet_queue_fifo_sample :
    sampleQueue.packets = [] ∧ ∃ events last, sampleQueue.run sampleQueueOps = some (events, last) ∧
      IsFifo 1500 last ∧ ∀ event ∈ events, IsFifo 1500 event.before ∧
        FifoStep 1500 event.before.packets event.after.packets event.op event.output ∧
        AgreesWithMeasure event.before event.op event.output :=
  packet_queue_fifo sampleQueue_new sampleQueueOps

end WindowsXsnet

end XsNexus
