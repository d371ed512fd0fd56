import XsNexus.ByteCodec
import XsNexus.ByteMemory

namespace XsNexus

open ByteCodec ByteMemory

namespace WindowsXsnet

def abiMaxPackets : Nat := 64

def abiMinPacketSize : Nat := 20

def abiMaxPacketSize : Nat := 9000

inductive ValidationStatus
  | valid | invalidArgument | truncated | badMagic | unsupportedVersion | badHeader | badType | badFlags
  | badLength | badSequence | badBatch
deriving DecidableEq

/-- A 16-bit computation; `none` where it would wrap. -/
def u16Checked (value : Nat) : Option UInt16 := if value < 2 ^ 16 then some (UInt16.ofNat value) else none

/-- A 32-bit computation; `none` where it would wrap. -/
def u32Checked (value : Nat) : Option UInt32 := if value < 2 ^ 32 then some (UInt32.ofNat value) else none

/-- An unsigned difference of 32 bits; `none` where it would wrap. -/
def u32CheckedSub (a b : UInt32) : Option UInt32 := if b ≤ a then some (a - b) else none

def readU16 (bytes : Bytes) (offset : Nat) : Option UInt16 :=
  (load bytes offset 2).map fun word => UInt16.ofNat (leNat word)

def readU32 (bytes : Bytes) (offset : Nat) : Option UInt32 :=
  (load bytes offset 4).map fun word => UInt32.ofNat (leNat word)

def readBeU16 (bytes : Bytes) (offset : Nat) : Option UInt16 :=
  (load bytes offset 2).map fun word => UInt16.ofNat (beNat word)

def writeU16 (bytes : Bytes) (offset : Nat) (value : UInt16) : Option Bytes :=
  store bytes offset (leBytes 2 value.toNat)

def writeU32 (bytes : Bytes) (offset : Nat) (value : UInt32) : Option Bytes :=
  store bytes offset (leBytes 4 value.toNat)

/-- The offset and the length that the descriptor at an index holds. -/
def readDescriptor (payload : Bytes) (packetIndex : UInt16) : Option (UInt32 × UInt32) := do
  let position ← u32Checked (packetIndex.toNat * 8)
  let packetOffset ← readU32 payload (8 + position.toNat)
  let packetLength ← readU32 payload (8 + position.toNat + 4)
  some (packetOffset, packetLength)

/-- The loop over the descriptors, for the offset expected behind the last packet. -/
def validateDescriptors (payload : Bytes) (payloadLength maximumPacketSize : UInt32) :
    Nat → UInt16 → UInt32 → Option (Except ValidationStatus UInt32)
  | 0, _, expectedOffset => some (.ok expectedOffset)
  | remaining + 1, packetIndex, expectedOffset => do
    let (packetOffset, packetLength) ← readDescriptor payload packetIndex
    if packetOffset ≠ expectedOffset ∨ packetLength.toNat < abiMinPacketSize ∨
        packetLength > maximumPacketSize then
      some (.error .badBatch)
    else
      let room ← u32CheckedSub payloadLength packetOffset
      if packetLength > room then some (.error .badBatch)
      else
        let expectedOffset ← u32Checked (packetOffset.toNat + packetLength.toNat)
        let packetIndex ← u16Checked (packetIndex.toNat + 1)
        validateDescriptors payload payloadLength maximumPacketSize remaining packetIndex expectedOffset

/-- `none` for `payload` is a null pointer. The status, and on success the number of packets written
to `packet_count`, which is not null where this is called. -/
def validatePacketBatchForMtu (payload : Option Bytes) (payloadLength maximumPacketSize : UInt32) :
    Option (ValidationStatus × Option UInt16) :=
  match payload with
  | none => some (.invalidArgument, none)
  | some payload =>
    if maximumPacketSize.toNat < abiMinPacketSize ∨ maximumPacketSize.toNat > abiMaxPacketSize then
      some (.invalidArgument, none)
    else if payloadLength < 8 then some (.badBatch, none)
    else do
      let count ← readU16 payload 0
      let padding ← readU16 payload 2
      if count = 0 ∨ count.toNat > abiMaxPackets ∨ padding ≠ 0 then some (.badBatch, none)
      else
        let descriptorLength ← readU32 payload 4
        let descriptors ← u32Checked (count.toNat * 8)
        let room ← u32CheckedSub payloadLength 8
        if descriptorLength ≠ descriptors ∨ descriptorLength > room then some (.badBatch, none)
        else
          let expectedOffset ← u32Checked (8 + descriptorLength.toNat)
          match ← validateDescriptors payload payloadLength maximumPacketSize count.toNat 0 expectedOffset with
          | .error status => some (status, none)
          | .ok expectedOffset =>
            if expectedOffset ≠ payloadLength then some (.badBatch, none) else some (.valid, some count)

end WindowsXsnet

end XsNexus
