import XsNexus.Address
import XsNexus.Crypto
import XsNexus.DataPacket
import XsNexus.MachineWords
import XsNexus.ReplayWindow

namespace XsNexus

open ByteCodec MachineWords

/-- `b"XSP/1 traffic key v1"` -/
def trafficKeyDomain : Bytes := "XSP/1 traffic key v1".toUTF8.toList

/-- `b"XSP/1 nonce salt v1"` -/
def nonceSaltDomain : Bytes := "XSP/1 nonce salt v1".toUTF8.toList

/-- `b"XSP/1 key update v1"` -/
def keyUpdateDomain : Bytes := "XSP/1 key update v1".toUTF8.toList

def hkdfExpand (c : Crypto) (length : Nat) (prk : Block 32) (domain suffix : Bytes) :
    Option (Block length) :=
  c.hkdfExpand prk (domain ++ suffix) length

structure OpenedPacket where
  packetType : PacketType
  flags : DataFlags
  keyEpoch : UInt32
  sequence : UInt64
  pathId : UInt32
  plaintext : Bytes
deriving DecidableEq

structure EpochCipher where
  epoch : UInt32
  key : Block 32
  nonceSalt : Block 4
  replay : ReplayWindow
deriving DecidableEq

structure DataSender where
  directionSecret : Block 32
  epoch : EpochCipher
  nextSequence : UInt64
  networkId : Block 16
  sourceNodeId : Block 16
  destinationNodeId : Block 16
  sessionId : Block 16
  sourceVirtualIp : Ipv4Addr
  destinationVirtualIp : Ipv4Addr
deriving DecidableEq

structure DataReceiver where
  directionSecret : Block 32
  current : EpochCipher
  previous : Option EpochCipher
  networkId : Block 16
  sourceNodeId : Block 16
  destinationNodeId : Block 16
  sessionId : Block 16
  sourceVirtualIp : Ipv4Addr
  destinationVirtualIp : Ipv4Addr
deriving DecidableEq

def deriveEpoch (c : Crypto) (directionSecret : Block 32) (epoch : UInt32) : Option EpochCipher := do
  let encodedEpoch := (u32ToBe epoch).val
  some {
    epoch := epoch
    key := ← hkdfExpand c 32 directionSecret trafficKeyDomain encodedEpoch
    nonceSalt := ← hkdfExpand c 4 directionSecret nonceSaltDomain encodedEpoch
    replay := ReplayWindow.new }

def packetNonce (nonceSalt : Block 4) (sequence : UInt64) : Block 12 :=
  ⟨nonceSalt.val ++ (u64ToBe sequence).val, by simp⟩

def validateIpv4Packet (packet : Bytes) : Option (Ipv4Addr × Ipv4Addr) := do
  let first : UInt8 ← packet[0]?
  if packet.length < 20 ∨ first >>> 4 ≠ 4 then none
  else
    let headerLength := (first &&& 0x0f).toNat * 4
    let totalLength := (u16FromBe (← array 2 (slice packet 2 4))).toNat
    let fragment := u16FromBe (← array 2 (slice packet 6 8))
    let source := Ipv4Addr.fromOctets (← array 4 (slice packet 12 16))
    let destination := Ipv4Addr.fromOctets (← array 4 (slice packet 16 20))
    if headerLength < 20 ∨ headerLength > packet.length ∨ totalLength ≠ packet.length ∨
        fragment &&& 0x3fff ≠ 0 then
      none
    else some (source, destination)

def validateIpv4 (packet : Bytes) (expectedSource expectedDestination : Ipv4Addr) : Option Unit := do
  let (source, destination) ← validateIpv4Packet packet
  if source ≠ expectedSource ∨ destination ≠ expectedDestination then none else some ()

namespace DataSender

def new (c : Crypto) (directionSecret : Block 32)
    (networkId sourceNodeId destinationNodeId sessionId : Block 16)
    (sourceVirtualIp destinationVirtualIp : Ipv4Addr) : Option DataSender := do
  let epoch ← deriveEpoch c directionSecret 0
  some {
    directionSecret := directionSecret
    epoch := epoch
    nextSequence := 0
    networkId := networkId
    sourceNodeId := sourceNodeId
    destinationNodeId := destinationNodeId
    sessionId := sessionId
    sourceVirtualIp := sourceVirtualIp
    destinationVirtualIp := destinationVirtualIp }

def header (s : DataSender) (packetType : PacketType) (flags : DataFlags) (pathId : UInt32)
    (payloadLength : UInt16) : DataHeader where
  packetType := packetType
  flags := flags
  payloadLength := payloadLength
  networkId := s.networkId
  sourceNodeId := s.sourceNodeId
  destinationNodeId := s.destinationNodeId
  sessionId := s.sessionId
  keyEpoch := s.epoch.epoch
  sequence := s.nextSequence
  pathId := pathId

/-- Every failing branch returns the sender as it stands at that point. -/
def sealPacket (c : Crypto) (s : DataSender) (packetType : PacketType) (flags : DataFlags)
    (pathId : UInt32) (plaintext : Bytes) : Option Bytes × DataSender :=
  if !validFlags packetType flags ∨ plaintext.length > maxEncryptedPayloadLength ∨
      s.nextSequence = u64Max then
    (none, s)
  else
    match validatePayload packetType plaintext with
    | none => (none, s)
    | some () =>
      if plaintext.length ≥ 2 ^ 16 then (none, s)
      else
        let encodedHeader :=
          (s.header packetType flags pathId (UInt16.ofNat plaintext.length)).encode
        let nonce := packetNonce s.epoch.nonceSalt s.nextSequence
        match c.encrypt s.epoch.key nonce encodedHeader plaintext with
        | none => (none, s)
        | some (ciphertext, tag) =>
          match u64CheckedAdd s.nextSequence 1 with
          | none => (none, s)
          | some next => (some (encodedHeader ++ ciphertext ++ tag.val), { s with nextSequence := next })

def sealIpv4 (c : Crypto) (s : DataSender) (flags : DataFlags) (pathId : UInt32) (packet : Bytes) :
    Option Bytes × DataSender :=
  match validateIpv4 packet s.sourceVirtualIp s.destinationVirtualIp with
  | none => (none, s)
  | some () => s.sealPacket c .data flags pathId packet

def sealRoutedIpv4 (c : Crypto) (s : DataSender) (flags : DataFlags) (pathId : UInt32)
    (packet : Bytes) : Option Bytes × DataSender :=
  match validateIpv4Packet packet with
  | none => (none, s)
  | some _ => s.sealPacket c .data flags pathId packet

def sealControl (c : Crypto) (s : DataSender) (packetType : PacketType) (flags : DataFlags)
    (pathId : UInt32) (payload : Bytes) : Option Bytes × DataSender :=
  if packetType = .data then (none, s)
  else
    match validatePayload packetType payload with
    | none => (none, s)
    | some () => s.sealPacket c packetType flags pathId payload

def rotateEpoch (c : Crypto) (s : DataSender) (nextEpoch : UInt32) : Option Unit × DataSender :=
  if u32CheckedAdd s.epoch.epoch 1 ≠ some nextEpoch then (none, s)
  else
    match deriveEpoch c s.directionSecret nextEpoch with
    | none => (none, s)
    | some epoch => (some (), { s with epoch := epoch, nextSequence := 0 })

def currentEpoch (s : DataSender) : UInt32 := s.epoch.epoch

end DataSender

namespace DataReceiver

def new (c : Crypto) (directionSecret : Block 32)
    (networkId sourceNodeId destinationNodeId sessionId : Block 16)
    (sourceVirtualIp destinationVirtualIp : Ipv4Addr) : Option DataReceiver := do
  let current ← deriveEpoch c directionSecret 0
  some {
    directionSecret := directionSecret
    current := current
    previous := none
    networkId := networkId
    sourceNodeId := sourceNodeId
    destinationNodeId := destinationNodeId
    sessionId := sessionId
    sourceVirtualIp := sourceVirtualIp
    destinationVirtualIp := destinationVirtualIp }

/-- What one epoch does with a framed packet: the check of its window, decryption, the payload
checks and only then the commit. -/
def openInEpoch (c : Crypto) (r : DataReceiver) (state : EpochCipher) (header : DataHeader)
    (encoded : Bytes) (allowRoutedAddresses : Bool) : Option OpenedPacket × EpochCipher :=
  let ciphertextEnd := dataHeaderLength + header.payloadLength.toNat
  let ciphertext := slice encoded dataHeaderLength ciphertextEnd
  let opened : Option Bytes := do
    state.replay.precheck header.sequence
    let tag ← array dataTagLength (encoded.drop ciphertextEnd)
    let nonce := packetNonce state.nonceSalt header.sequence
    let plaintext ← c.decrypt state.key nonce (encoded.take dataHeaderLength) ciphertext tag
    validatePayload header.packetType plaintext
    if header.packetType = .data then
      if allowRoutedAddresses then
        let _ ← validateIpv4Packet plaintext
        some plaintext
      else
        validateIpv4 plaintext r.sourceVirtualIp r.destinationVirtualIp
        some plaintext
    else some plaintext
  match opened with
  | none => (none, state)
  | some plaintext =>
    match state.replay.commit header.sequence with
    | (none, replay) => (none, { state with replay := replay })
    | (some (), replay) =>
      (some {
          packetType := header.packetType
          flags := header.flags
          keyEpoch := header.keyEpoch
          sequence := header.sequence
          pathId := header.pathId
          plaintext := plaintext },
        { state with replay := replay })

def openWithRoutedAddresses (c : Crypto) (r : DataReceiver) (encoded : Bytes)
    (allowRoutedAddresses : Bool) : Option OpenedPacket × DataReceiver :=
  if encoded.length < dataHeaderLength + dataTagLength ∨ encoded.length > maxDatagramLength then
    (none, r)
  else
    match DataHeader.parse encoded with
    | none => (none, r)
    | some header =>
      let expectedLength := dataHeaderLength + header.payloadLength.toNat + dataTagLength
      if expectedLength ≠ encoded.length ∨ header.networkId ≠ r.networkId ∨
          header.sourceNodeId ≠ r.sourceNodeId ∨ header.destinationNodeId ≠ r.destinationNodeId ∨
          header.sessionId ≠ r.sessionId then
        (none, r)
      else if header.keyEpoch = r.current.epoch then
        let (opened, current) := r.openInEpoch c r.current header encoded allowRoutedAddresses
        (opened, { r with current := current })
      else
        match r.previous with
        | none => (none, r)
        | some previous =>
          if previous.epoch = header.keyEpoch then
            let (opened, previous) := r.openInEpoch c previous header encoded allowRoutedAddresses
            (opened, { r with previous := some previous })
          else (none, r)

def openPacket (c : Crypto) (r : DataReceiver) (encoded : Bytes) : Option OpenedPacket × DataReceiver :=
  r.openWithRoutedAddresses c encoded false

def openRouted (c : Crypto) (r : DataReceiver) (encoded : Bytes) : Option OpenedPacket × DataReceiver :=
  r.openWithRoutedAddresses c encoded true

def installNextEpoch (c : Crypto) (r : DataReceiver) (nextEpoch : UInt32) :
    Option Unit × DataReceiver :=
  if u32CheckedAdd r.current.epoch 1 ≠ some nextEpoch then (none, r)
  else
    match deriveEpoch c r.directionSecret nextEpoch with
    | none => (none, r)
    | some next => (some (), { r with current := next, previous := some r.current })

def retirePreviousEpoch (r : DataReceiver) : DataReceiver := { r with previous := none }

def currentEpoch (r : DataReceiver) : UInt32 := r.current.epoch

end DataReceiver

def keyUpdatePayload (c : Crypto) (sessionId : Block 16) (currentEpoch nextEpoch : UInt32) :
    Option (Block 36) :=
  if u32CheckedAdd currentEpoch 1 ≠ some nextEpoch then none
  else
    let hash := c.sha256 (keyUpdateDomain ++ sessionId.val ++ (u32ToBe currentEpoch).val ++
      (u32ToBe nextEpoch).val)
    some ⟨(u32ToBe nextEpoch).val ++ hash.val, by simp⟩

def verifyKeyUpdatePayload (c : Crypto) (payload : Bytes) (sessionId : Block 16)
    (currentEpoch : UInt32) : Option UInt32 := do
  let bytes ← array 36 payload
  let nextEpoch := u32FromBe (← field bytes.val 0 4)
  let expected ← keyUpdatePayload c sessionId currentEpoch nextEpoch
  if bytes ≠ expected then none else some nextEpoch

theorem deriveEpoch_eq_some {c : Crypto} {secret : Block 32} {epoch : UInt32} {state : EpochCipher}
    (h : deriveEpoch c secret epoch = some state) :
    state.epoch = epoch ∧ state.replay = ReplayWindow.new := by
  simp only [deriveEpoch, Option.bind_eq_bind, Option.bind_eq_some_iff] at h
  obtain ⟨key, _, salt, _, h⟩ := h
  cases Option.some.inj h
  exact ⟨rfl, rfl⟩

end XsNexus
