import XsNexus.ByteCodec

namespace XsNexus

open ByteCodec

def dataHeaderLength : Nat := 96

def dataTagLength : Nat := 16

def maxDatagramLength : Nat := 1500

def maxEncryptedPayloadLength : Nat := maxDatagramLength - dataHeaderLength - dataTagLength

/-- `b"XSP1"` -/
def magic : Bytes := [0x58, 0x53, 0x50, 0x31]

def version : UInt8 := 1

inductive PacketType
  | data | keepalive | pathChallenge | pathResponse | keyUpdate | keyUpdateAck | close
deriving DecidableEq

def PacketType.toByte : PacketType → UInt8
  | data => 0x01
  | keepalive => 0x02
  | pathChallenge => 0x03
  | pathResponse => 0x04
  | keyUpdate => 0x05
  | keyUpdateAck => 0x06
  | close => 0x07

def PacketType.tryFrom (value : UInt8) : Option PacketType :=
  if value = 0x01 then some data
  else if value = 0x02 then some keepalive
  else if value = 0x03 then some pathChallenge
  else if value = 0x04 then some pathResponse
  else if value = 0x05 then some keyUpdate
  else if value = 0x06 then some keyUpdateAck
  else if value = 0x07 then some close
  else none

@[simp] theorem PacketType.tryFrom_toByte (t : PacketType) : tryFrom t.toByte = some t := by
  cases t <;> rfl

theorem PacketType.toByte_of_tryFrom {value : UInt8} {packetType : PacketType}
    (h : PacketType.tryFrom value = some packetType) : packetType.toByte = value := by
  unfold PacketType.tryFrom at h
  split_ifs at h
  all_goals
    cases Option.some.inj h
    exact Eq.symm ‹value = _›

structure DataFlags where
  bits : UInt16
deriving DecidableEq

namespace DataFlags

def NONE : DataFlags := ⟨0⟩

def ackEliciting : DataFlags := ⟨0x0001⟩

def control : DataFlags := ⟨0x0002⟩

def pathProbe : DataFlags := ⟨0x0004⟩

end DataFlags

def validFlags (packetType : PacketType) (flags : DataFlags) : Bool :=
  if flags.bits &&& ~~~0x0007 ≠ 0 then false
  else
    match packetType with
    | .data | .keepalive => flags.bits &&& ~~~DataFlags.ackEliciting.bits == 0
    | .pathChallenge | .pathResponse =>
      flags.bits &&& DataFlags.pathProbe.bits != 0 && flags.bits &&& DataFlags.control.bits == 0
    | .keyUpdate | .keyUpdateAck | .close =>
      flags.bits &&& DataFlags.control.bits != 0 && flags.bits &&& DataFlags.pathProbe.bits == 0

def validatePayload (packetType : PacketType) (payload : Bytes) : Option Unit :=
  let valid := match packetType with
    | .data => !payload.isEmpty
    | .keepalive => payload.isEmpty
    | .pathChallenge | .pathResponse => payload.length == 8
    | .keyUpdate | .keyUpdateAck => payload.length == 36
    | .close => decide (2 ≤ payload.length ∧ payload.length ≤ 258)
  if !valid then none else some ()

structure DataHeader where
  packetType : PacketType
  flags : DataFlags
  payloadLength : UInt16
  networkId : Block 16
  sourceNodeId : Block 16
  destinationNodeId : Block 16
  sessionId : Block 16
  keyEpoch : UInt32
  sequence : UInt64
  pathId : UInt32
deriving DecidableEq

namespace DataHeader

def encode (h : DataHeader) : Bytes :=
  magic ++ [version, h.packetType.toByte] ++ (u16ToBe h.flags.bits).val ++
    (u16ToBe (UInt16.ofNat dataHeaderLength)).val ++ (u16ToBe h.payloadLength).val ++
    h.networkId.val ++ h.sourceNodeId.val ++ h.destinationNodeId.val ++ h.sessionId.val ++
    (u32ToBe h.keyEpoch).val ++ (u64ToBe h.sequence).val ++ (u32ToBe h.pathId).val ++ (zeros 4).val

def parse (encoded : Bytes) : Option DataHeader := do
  if encoded.length < dataHeaderLength ∨ slice encoded 0 4 ≠ magic ∨ encoded[4]? ≠ some version then
    none
  else
    let headerLength ← field encoded 8 2
    if u16FromBe headerLength ≠ UInt16.ofNat dataHeaderLength ∨ slice encoded 92 96 ≠ (zeros 4).val then
      none
    else
      let packetType ← PacketType.tryFrom (← encoded[5]?)
      let flags := DataFlags.mk (u16FromBe (← field encoded 6 2))
      if !validFlags packetType flags then none
      else
        some {
          packetType := packetType
          flags := flags
          payloadLength := u16FromBe (← field encoded 10 2)
          networkId := ← field encoded 12 16
          sourceNodeId := ← field encoded 28 16
          destinationNodeId := ← field encoded 44 16
          sessionId := ← field encoded 60 16
          keyEpoch := u32FromBe (← field encoded 76 4)
          sequence := u64FromBe (← field encoded 80 8)
          pathId := u32FromBe (← field encoded 88 4) }

theorem length_encode (h : DataHeader) : h.encode.length = dataHeaderLength := by
  simp [encode, magic, dataHeaderLength]

/-- Any bytes may follow the header. -/
theorem parse_encode (h : DataHeader) (hf : validFlags h.packetType h.flags = true) (rest : Bytes) :
    parse (h.encode ++ rest) = some h := by
  have hlen := length_encode h
  have hbound : ¬ (h.encode ++ rest).length < dataHeaderLength := by
    rw [List.length_append]
    omega
  have hlength : (u16ToBe (UInt16.ofNat dataHeaderLength)).val.length = 2 := Block.length_val _
  simp only [parse, hbound, false_or]
  simp only [encode, List.append_assoc, magic, field_append_right, field_append_left,
    slice_append_right, Block.length_val, List.length_cons, List.length_nil, Nat.reduceLeDiff,
    Nat.reduceSub, Nat.reduceAdd]
  simp [hf, slice, version]

end DataHeader

end XsNexus
