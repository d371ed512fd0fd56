import XsNexus.DriverAbi
import XsNexus.RingBuffers

namespace XsNexus

open ByteCodec ByteMemory

namespace WindowsXsnet

inductive QueueStatus
  | ok | invalidArgument | badPacket | full | empty | bufferTooSmall
deriving DecidableEq

structure PacketSlot where
  length : UInt32
  bytes : Block abiMaxPacketSize
deriving DecidableEq

def PacketSlot.zeroed : PacketSlot := ⟨0, zeros abiMaxPacketSize⟩

/-- The queue with the array its slots point to. -/
structure PacketQueue where
  slots : List PacketSlot
  slots_length : slots.length = abiMaxPackets
  mtu : UInt32
  head : UInt16
  count : UInt16

/-- The bytes of the slot that a packet is copied over; `none` for a packet beyond the slot. -/
def copyPacket (bytes : Block abiMaxPacketSize) (packet : Bytes) : Option (Block abiMaxPacketSize) :=
  if h : packet.length ≤ abiMaxPacketSize then
    some ⟨packet ++ bytes.val.drop packet.length, by
      rw [List.length_append, List.length_drop, bytes.property]
      omega⟩
  else none

def validateIpv4Packet (packet : Bytes) (packetLength mtu : UInt32) : Option QueueStatus :=
  if packetLength.toNat < abiMinPacketSize ∨ packetLength > mtu then some .badPacket
  else do
    let first ← packet[0]?
    let headerLength ← u32Checked ((first &&& 0x0f : UInt8).toNat * 4)
    let totalLength ← readBeU16 packet 2
    if first >>> 4 ≠ 4 ∨ headerLength.toNat < abiMinPacketSize ∨ headerLength > packetLength ∨
        totalLength.toNat ≠ packetLength.toNat then
      some .badPacket
    else some .ok

/-- For a queue and slots that are not null, whatever they hold. -/
def packetQueueInitialize (mtu : UInt32) : Option PacketQueue :=
  if mtu.toNat < abiMinPacketSize ∨ mtu.toNat > abiMaxPacketSize then none
  else some {
    slots := List.replicate abiMaxPackets PacketSlot.zeroed
    slots_length := List.length_replicate
    mtu := mtu
    head := 0
    count := 0 }

namespace PacketQueue

def reset (queue : PacketQueue) : PacketQueue :=
  { queue with
    slots := List.replicate abiMaxPackets PacketSlot.zeroed
    slots_length := List.length_replicate
    head := 0
    count := 0 }

def index (queue : PacketQueue) (offset : UInt16) : Option UInt16 :=
  u16Checked ((queue.head.toNat + offset.toNat) % abiMaxPackets)

def valid (queue : PacketQueue) : Bool :=
  decide (abiMinPacketSize ≤ queue.mtu.toNat) && decide (queue.mtu.toNat ≤ abiMaxPacketSize) &&
    decide (queue.head.toNat < abiMaxPackets) && decide (queue.count.toNat ≤ abiMaxPackets)

def setSlot (queue : PacketQueue) (slotIndex : UInt16) (slot : PacketSlot) : Option PacketQueue :=
  if slotIndex.toNat < abiMaxPackets then
    some { queue with
      slots := queue.slots.set slotIndex.toNat slot
      slots_length := by rw [List.length_set, queue.slots_length] }
  else none

def push (queue : PacketQueue) (packet : Option Bytes) (packetLength : UInt32) :
    Option (QueueStatus × PacketQueue) :=
  match packet with
  | none => some (.invalidArgument, queue)
  | some packet =>
    if !queue.valid then some (.invalidArgument, queue)
    else do
      let status ← validateIpv4Packet packet packetLength queue.mtu
      if status ≠ .ok then some (.badPacket, queue)
      else if queue.count.toNat = abiMaxPackets then some (.full, queue)
      else
        let tail ← queue.index queue.count
        let slot ← queue.slots[tail.toNat]?
        let bytes ← copyPacket slot.bytes (← load packet 0 packetLength.toNat)
        let count ← u16Checked (queue.count.toNat + 1)
        let pushed ← queue.setSlot tail ⟨packetLength, bytes⟩
        some (.ok, { pushed with count := count })

def validatePackets (payload : Bytes) (mtu : UInt32) : Nat → UInt16 → Option QueueStatus
  | 0, _ => some .ok
  | remaining + 1, packetIndex => do
    let (packetOffset, packetLength) ← readDescriptor payload packetIndex
    let status ← validateIpv4Packet (payload.drop packetOffset.toNat) packetLength mtu
    if status ≠ .ok then some .badPacket
    else
      let packetIndex ← u16Checked (packetIndex.toNat + 1)
      validatePackets payload mtu remaining packetIndex

/-- The status, and the number written to `packet_count`, which is not null where this is called. -/
def validateBatch (queue : PacketQueue) (payload : Option Bytes) (payloadLength : UInt32) :
    Option (QueueStatus × UInt16) :=
  match payload with
  | none => some (.invalidArgument, 0)
  | some payload =>
    if !queue.valid then some (.invalidArgument, 0)
    else do
      match ← validatePacketBatchForMtu payload payloadLength queue.mtu with
      | (.valid, some validatedPackets) =>
        let status ← validatePackets payload queue.mtu validatedPackets.toNat 0
        if status ≠ .ok then some (.badPacket, 0)
        else if validatedPackets.toNat > abiMaxPackets - queue.count.toNat then some (.full, 0)
        else some (.ok, validatedPackets)
      | _ => some (.badPacket, 0)

def pushPackets (payload : Bytes) : Nat → UInt16 → PacketQueue → Option (QueueStatus × PacketQueue)
  | 0, _, queue => some (.ok, queue)
  | remaining + 1, packetIndex, queue => do
    let (packetOffset, packetLength) ← readDescriptor payload packetIndex
    let (status, queue) ← queue.push (some (payload.drop packetOffset.toNat)) packetLength
    if status ≠ .ok then some (status, queue)
    else
      let packetIndex ← u16Checked (packetIndex.toNat + 1)
      pushPackets payload remaining packetIndex queue

/-- `acceptedPackets` tells whether the pointer is not null; the number written to it is `none` where
nothing is. -/
def pushBatch (queue : PacketQueue) (payload : Option Bytes) (payloadLength : UInt32)
    (acceptedPackets : Bool) : Option (QueueStatus × Option UInt16 × PacketQueue) :=
  if !acceptedPackets then some (.invalidArgument, none, queue)
  else do
    let (status, packetCount) ← queue.validateBatch payload payloadLength
    if status ≠ .ok then some (status, some 0, queue)
    else
      match payload with
      | none => some (.invalidArgument, some 0, queue)
      | some payload =>
        let (status, queue) ← pushPackets payload packetCount.toNat 0 queue
        if status ≠ .ok then some (status, some 0, queue) else some (.ok, some packetCount, queue)

/-- `packet` is the memory a packet is copied to; on success it comes back with the length of the
packet. -/
def pop (queue : PacketQueue) (packet : Option Bytes) (packetCapacity : UInt32) (packetLength : Bool) :
    Option (QueueStatus × Option (Bytes × UInt32) × PacketQueue) :=
  match packet with
  | none => some (.invalidArgument, none, queue)
  | some packet =>
    if !queue.valid || !packetLength then some (.invalidArgument, none, queue)
    else if queue.count = 0 then some (.empty, none, queue)
    else do
      let slot ← queue.slots[queue.head.toNat]?
      if packetCapacity < slot.length then some (.bufferTooSmall, none, queue)
      else
        let packet ← store packet 0 (← load slot.bytes.val 0 slot.length.toNat)
        let popped ← queue.setSlot queue.head .zeroed
        let head ← queue.index 1
        let count ← u16Checked (queue.count.toNat - 1)
        some (.ok, some (packet, slot.length), { popped with head := head, count := count })

def measurePackets (queue : PacketQueue) (payloadCapacity : UInt32) (maximumPackets : UInt16) :
    Nat → UInt16 → UInt32 → Option (UInt16 × UInt32)
  | 0, selectedPackets, selectedBytes => some (selectedPackets, selectedBytes)
  | turns + 1, selectedPackets, selectedBytes =>
    if selectedPackets < queue.count ∧ selectedPackets < maximumPackets then do
      let slotIndex ← queue.index selectedPackets
      let candidatePackets ← u32Checked (selectedPackets.toNat + 1)
      let slot ← queue.slots[slotIndex.toNat]?
      let candidateLength ←
        u32Checked (8 + candidatePackets.toNat * 8 + selectedBytes.toNat + slot.length.toNat)
      if candidateLength > payloadCapacity then some (selectedPackets, selectedBytes)
      else
        let selectedBytes ← u32Checked (selectedBytes.toNat + slot.length.toNat)
        let selectedPackets ← u16Checked (selectedPackets.toNat + 1)
        measurePackets queue payloadCapacity maximumPackets turns selectedPackets selectedBytes
    else some (selectedPackets, selectedBytes)

/-- `outputs` tells whether both pointers for the results are not null. -/
def measureBatch (queue : PacketQueue) (payloadCapacity : UInt32) (maximumPackets : UInt16)
    (outputs : Bool) : Option (QueueStatus × Option (UInt32 × UInt16)) :=
  if !queue.valid || !outputs || decide (maximumPackets = 0) ||
      decide (maximumPackets.toNat > abiMaxPackets) then
    some (.invalidArgument, none)
  else if queue.count = 0 then some (.empty, none)
  else do
    let (selectedPackets, selectedBytes) ←
      queue.measurePackets payloadCapacity maximumPackets queue.count.toNat 0 0
    if selectedPackets = 0 then some (.bufferTooSmall, none)
    else
      let payloadLength ← u32Checked (8 + selectedPackets.toNat * 8 + selectedBytes.toNat)
      some (.ok, some (payloadLength, selectedPackets))

def writePackets (queue : PacketQueue) : Nat → UInt16 → UInt32 → Bytes → Option Bytes
  | 0, _, _, payload => some payload
  | remaining + 1, packetIndex, dataOffset, payload => do
    let slotIndex ← queue.index packetIndex
    let descriptor ← u32Checked (packetIndex.toNat * 8)
    let slot ← queue.slots[slotIndex.toNat]?
    let payload ← writeU32 payload (8 + descriptor.toNat) dataOffset
    let payload ← writeU32 payload (8 + descriptor.toNat + 4) slot.length
    let payload ← store payload dataOffset.toNat (← load slot.bytes.val 0 slot.length.toNat)
    let dataOffset ← u32Checked (dataOffset.toNat + slot.length.toNat)
    let packetIndex ← u16Checked (packetIndex.toNat + 1)
    writePackets queue remaining packetIndex dataOffset payload

def zeroPackets : Nat → UInt16 → PacketQueue → Option PacketQueue
  | 0, _, queue => some queue
  | remaining + 1, packetIndex, queue => do
    let slotIndex ← queue.index packetIndex
    let queue ← queue.setSlot slotIndex .zeroed
    let packetIndex ← u16Checked (packetIndex.toNat + 1)
    zeroPackets remaining packetIndex queue

/-- `payload` is the memory the batch is written to; on success it comes back with the length of the
batch and the number of its packets. -/
def popBatch (queue : PacketQueue) (payload : Option Bytes) (payloadCapacity : UInt32)
    (maximumPackets : UInt16) (outputs : Bool) :
    Option (QueueStatus × Option (Bytes × UInt32 × UInt16) × PacketQueue) :=
  match payload with
  | none => some (.invalidArgument, none, queue)
  | some payload =>
    if !outputs then some (.invalidArgument, none, queue)
    else do
      match ← queue.measureBatch payloadCapacity maximumPackets true with
      | (.ok, some (selectedLength, selectedPackets)) =>
        let payload ← writeU16 payload 0 selectedPackets
        let payload ← writeU16 payload 2 0
        let descriptorLength ← u32Checked (selectedPackets.toNat * 8)
        let payload ← writeU32 payload 4 descriptorLength
        let dataOffset ← u32Checked (8 + selectedPackets.toNat * 8)
        let payload ← queue.writePackets selectedPackets.toNat 0 dataOffset payload
        let zeroed ← zeroPackets selectedPackets.toNat 0 queue
        let head ← queue.index selectedPackets
        let count ← u16Checked (queue.count.toNat - selectedPackets.toNat)
        some (.ok, some (payload, selectedLength, selectedPackets),
          { zeroed with head := head, count := count })
      | (status, _) => some (status, none, queue)

end PacketQueue

end WindowsXsnet

end XsNexus
