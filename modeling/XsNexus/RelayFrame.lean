import XsNexus.Handshake

namespace XsNexus

open ByteCodec MachineWords

def relayRegisterRequestLength : Nat := 352

def relayRegisterResponseLength : Nat := 168

def relayFrameHeaderLength : Nat := 104

def relayKeepaliveResponseLength : Nat := 152

def relayMaxFrameLength : Nat := 1500

def relayMaxLeaseSeconds : Nat := 300

def relayRegisterRequestType : UInt8 := 1

def relayRegisterResponseType : UInt8 := 2

def relayDataType : UInt8 := 3

def relayKeepaliveType : UInt8 := 4

def relayKeepaliveResponseType : UInt8 := 5

/-- `b"XSR1"` -/
def relayMagic : Bytes := [0x58, 0x53, 0x52, 0x31]

def relayVersion : UInt8 := 1

def relayRegisterRequestDomain : Bytes := "XSR/1 register request v1".toUTF8.toList

def relayRegisterResponseDomain : Bytes := "XSR/1 register response v1".toUTF8.toList

def relayKeepaliveResponseDomain : Bytes := "XSR/1 keepalive response v1".toUTF8.toList

structure RelayRegisterRequest where
  networkId : Block 16
  nodeId : Block 16
  relayId : Block 16
  requestId : Block 16
  clientTime : UInt64
  credential : Block 200
deriving DecidableEq

structure VerifiedRelayRegisterRequest where
  request : RelayRegisterRequest
  credential : VerifiedCredential
deriving DecidableEq

structure RelayRegisterResponse where
  networkId : Block 16
  nodeId : Block 16
  relayId : Block 16
  requestId : Block 16
  leaseId : Block 16
  expiresAt : UInt64
deriving DecidableEq

structure RelayFrame where
  networkId : Block 16
  relayId : Block 16
  sourceNodeId : Block 16
  destinationNodeId : Block 16
  leaseId : Block 16
  sequence : UInt64
  payload : Bytes
deriving DecidableEq

structure RelayKeepaliveResponse where
  networkId : Block 16
  relayId : Block 16
  nodeId : Block 16
  leaseId : Block 16
  serverTime : UInt64
deriving DecidableEq

/-- The first sixteen bytes of every message. -/
def encodeCommon (messageType : UInt8) (headerLength : Nat) (payloadLength : UInt16) : Block 16 :=
  ⟨relayMagic ++ [relayVersion, messageType] ++ (u16ToBe 0).val ++
    (u16ToBe (UInt16.ofNat headerLength)).val ++ (u16ToBe payloadLength).val ++ (zeros 4).val, by
    simp [relayMagic]⟩

def validCommon (encoded : Bytes) (messageType : UInt8) (headerLength : Nat) : Bool :=
  decide (encoded.length ≥ commonHeaderLength) && slice encoded 0 4 == relayMagic &&
    encoded[4]? == some relayVersion && encoded[5]? == some messageType &&
    slice encoded 6 8 == (zeros 2).val &&
    (field encoded 8 2).map (fun length => (u16FromBe length).toNat) == some headerLength &&
    slice encoded 12 16 == (zeros 4).val

def validZeroPayloadMessage (encoded : Bytes) (messageType : UInt8) (headerLength : Nat) : Bool :=
  validCommon encoded messageType headerLength && slice encoded 10 12 == (zeros 2).val

def timeIsFresh (value now : UInt64) : Bool := decide (u64AbsDiff value now ≤ 300)

def signRelayRegisterRequest (c : Crypto) (request : RelayRegisterRequest) (identityKey : SigningKey) :
    Block 352 :=
  let signed : Block 288 :=
    ⟨(encodeCommon relayRegisterRequestType relayRegisterRequestLength 0).val ++
      request.networkId.val ++ request.nodeId.val ++ request.relayId.val ++ request.requestId.val ++
      (u64ToBe request.clientTime).val ++ request.credential.val, by simp⟩
  ⟨signed.val ++ (c.sign identityKey (relayRegisterRequestDomain ++ signed.val)).val, by simp⟩

def verifyRelayRegisterRequest (c : Crypto) (encoded : Bytes) (controllerKey : VerifyingKey)
    (now : UInt64) : Option VerifiedRelayRegisterRequest := do
  if encoded.length ≠ relayRegisterRequestLength ∨
      !validZeroPayloadMessage encoded relayRegisterRequestType relayRegisterRequestLength then
    none
  else
    let request : RelayRegisterRequest := {
      networkId := ← field encoded 16 16
      nodeId := ← field encoded 32 16
      relayId := ← field encoded 48 16
      requestId := ← field encoded 64 16
      clientTime := u64FromBe (← field encoded 80 8)
      credential := ← field encoded 88 200 }
    let credential ← verifyCredential c request.credential.val controllerKey now
    if credential.networkId ≠ request.networkId ∨ credential.nodeId ≠ request.nodeId ∨
        request.relayId = zeros 16 ∨ request.requestId = zeros 16 ∨
        !timeIsFresh request.clientTime now then
      none
    else
      let verifyingKey ← c.verifyingKeyFromBytes credential.identityPublicKey
      let signature ← field encoded 288 64
      if !c.verifyStrict verifyingKey (relayRegisterRequestDomain ++ encoded.take 288) signature then
        none
      else some { request := request, credential := credential }

def signRelayRegisterResponse (c : Crypto) (response : RelayRegisterResponse)
    (relayKey : SigningKey) : Block 168 :=
  let signed : Block 104 :=
    ⟨(encodeCommon relayRegisterResponseType relayRegisterResponseLength 0).val ++
      response.networkId.val ++ response.nodeId.val ++ response.relayId.val ++
      response.requestId.val ++ response.leaseId.val ++ (u64ToBe response.expiresAt).val, by simp⟩
  ⟨signed.val ++ (c.sign relayKey (relayRegisterResponseDomain ++ signed.val)).val, by simp⟩

def verifySignature (c : Crypto) (domain encoded : Bytes) (signature : Block 64) (key : VerifyingKey) :
    Option Unit :=
  if c.verifyStrict key (domain ++ encoded) signature then some () else none

def verifyRelayRegisterResponse (c : Crypto) (encoded : Bytes) (relayKey : VerifyingKey)
    (expectedNetworkId expectedNodeId expectedRelayId expectedRequestId : Block 16) (now : UInt64) :
    Option RelayRegisterResponse := do
  if encoded.length ≠ relayRegisterResponseLength ∨
      !validZeroPayloadMessage encoded relayRegisterResponseType relayRegisterResponseLength then
    none
  else
    verifySignature c relayRegisterResponseDomain (encoded.take 104) (← field encoded 104 64) relayKey
    let response : RelayRegisterResponse := {
      networkId := ← field encoded 16 16
      nodeId := ← field encoded 32 16
      relayId := ← field encoded 48 16
      requestId := ← field encoded 64 16
      leaseId := ← field encoded 80 16
      expiresAt := u64FromBe (← field encoded 96 8) }
    if response.networkId ≠ expectedNetworkId ∨ response.nodeId ≠ expectedNodeId ∨
        response.relayId ≠ expectedRelayId ∨ response.requestId ≠ expectedRequestId ∨
        response.leaseId = zeros 16 ∨ response.expiresAt ≤ now ∨
        response.expiresAt > u64SaturatingAdd now (UInt64.ofNat relayMaxLeaseSeconds) then
      none
    else some response

def validateDataPayload (frame : RelayFrame) : Option Unit := do
  let header ← DataHeader.parse frame.payload
  let expectedLength := dataHeaderLength + header.payloadLength.toNat + dataTagLength
  if frame.payload.length ≠ expectedLength ∨ header.networkId ≠ frame.networkId ∨
      header.sourceNodeId ≠ frame.sourceNodeId ∨
      header.destinationNodeId ≠ frame.destinationNodeId then
    none
  else some ()

def validateHandshakePayload (payload : Bytes) (expectedBodyLength : Nat) : Option Unit := do
  let bodyLength := (u32FromBe (← field payload 8 4)).toNat
  if slice payload 6 8 ≠ (zeros 2).val ∨ bodyLength ≠ expectedBodyLength ∨
      payload.length ≠ commonHeaderLength + expectedBodyLength then
    none
  else some ()

def validateVisibleRoute (frame : RelayFrame) : Option Unit :=
  if slice frame.payload 16 32 ≠ frame.networkId.val ∨
      slice frame.payload 32 48 ≠ frame.sourceNodeId.val ∨
      slice frame.payload 48 64 ≠ frame.destinationNodeId.val then
    none
  else some ()

def validateRelayPayload (frame : RelayFrame) : Option Unit := do
  let payload := frame.payload
  if payload.length < commonHeaderLength ∨ slice payload 0 4 ≠ magic ∨ payload[4]? ≠ some 1 then none
  else
    let messageType ← payload[5]?
    if 0x01 ≤ messageType ∧ messageType ≤ 0x07 then validateDataPayload frame
    else if messageType = clientHelloType then
      validateHandshakePayload payload clientHelloBodyLength
      validateVisibleRoute frame
    else if messageType = serverHelloType then
      validateHandshakePayload payload serverHelloBodyLength
      validateVisibleRoute frame
    else if messageType = clientFinishType ∨ messageType = serverFinishType then
      validateHandshakePayload payload finishBodyLength
    else none

def encodeRelayFrame (frame : RelayFrame) : Option Bytes := do
  if frame.networkId = zeros 16 ∨ frame.relayId = zeros 16 ∨ frame.sourceNodeId = zeros 16 ∨
      frame.destinationNodeId = zeros 16 ∨ frame.sourceNodeId = frame.destinationNodeId ∨
      frame.leaseId = zeros 16 ∨ frame.payload.isEmpty ∨
      frame.payload.length > relayMaxFrameLength - relayFrameHeaderLength then
    none
  else
    validateRelayPayload frame
    if frame.payload.length ≥ 2 ^ 16 then none
    else
      some ((encodeCommon relayDataType relayFrameHeaderLength (UInt16.ofNat frame.payload.length)).val ++
        frame.networkId.val ++ frame.relayId.val ++ frame.sourceNodeId.val ++
        frame.destinationNodeId.val ++ frame.leaseId.val ++ (u64ToBe frame.sequence).val ++ frame.payload)

def parseRelayFrame (encoded : Bytes) : Option RelayFrame := do
  if encoded.length < relayFrameHeaderLength ∨ encoded.length > relayMaxFrameLength ∨
      !validCommon encoded relayDataType relayFrameHeaderLength then
    none
  else
    let payloadLength := (u16FromBe (← field encoded 10 2)).toNat
    if encoded.length ≠ relayFrameHeaderLength + payloadLength then none
    else
      let frame : RelayFrame := {
        networkId := ← field encoded 16 16
        relayId := ← field encoded 32 16
        sourceNodeId := ← field encoded 48 16
        destinationNodeId := ← field encoded 64 16
        leaseId := ← field encoded 80 16
        sequence := u64FromBe (← field encoded 96 8)
        payload := encoded.drop 104 }
      if frame.networkId = zeros 16 ∨ frame.relayId = zeros 16 ∨ frame.sourceNodeId = zeros 16 ∨
          frame.destinationNodeId = zeros 16 ∨ frame.sourceNodeId = frame.destinationNodeId ∨
          frame.leaseId = zeros 16 ∨ frame.payload.isEmpty then
        none
      else
        validateRelayPayload frame
        some frame

def signRelayKeepaliveResponse (c : Crypto) (response : RelayKeepaliveResponse)
    (relayKey : SigningKey) : Block 152 :=
  let signed : Block 88 :=
    ⟨(encodeCommon relayKeepaliveResponseType relayKeepaliveResponseLength 0).val ++
      response.networkId.val ++ response.relayId.val ++ response.nodeId.val ++
      response.leaseId.val ++ (u64ToBe response.serverTime).val, by simp⟩
  ⟨signed.val ++ (c.sign relayKey (relayKeepaliveResponseDomain ++ signed.val)).val, by simp⟩

def verifyRelayKeepaliveResponse (c : Crypto) (encoded : Bytes) (relayKey : VerifyingKey)
    (expectedNetworkId expectedRelayId expectedNodeId expectedLeaseId : Block 16) (now : UInt64) :
    Option RelayKeepaliveResponse := do
  if encoded.length ≠ relayKeepaliveResponseLength ∨
      !validZeroPayloadMessage encoded relayKeepaliveResponseType relayKeepaliveResponseLength then
    none
  else
    verifySignature c relayKeepaliveResponseDomain (encoded.take 88) (← field encoded 88 64) relayKey
    let response : RelayKeepaliveResponse := {
      networkId := ← field encoded 16 16
      relayId := ← field encoded 32 16
      nodeId := ← field encoded 48 16
      leaseId := ← field encoded 64 16
      serverTime := u64FromBe (← field encoded 80 8) }
    if response.networkId ≠ expectedNetworkId ∨ response.relayId ≠ expectedRelayId ∨
        response.nodeId ≠ expectedNodeId ∨ response.leaseId ≠ expectedLeaseId ∨
        response.leaseId = zeros 16 ∨ !timeIsFresh response.serverTime now then
      none
    else some response

def encodeRelayKeepalive (networkId relayId nodeId leaseId : Block 16) (sequence : UInt64) :
    Block 104 :=
  ⟨(encodeCommon relayKeepaliveType relayFrameHeaderLength 0).val ++ networkId.val ++ relayId.val ++
    nodeId.val ++ (zeros 16).val ++ leaseId.val ++ (u64ToBe sequence).val, by simp⟩

def parseRelayKeepalive (encoded : Bytes) : Option RelayFrame := do
  if encoded.length ≠ relayFrameHeaderLength ∨
      !validZeroPayloadMessage encoded relayKeepaliveType relayFrameHeaderLength then
    none
  else
    let frame : RelayFrame := {
      networkId := ← field encoded 16 16
      relayId := ← field encoded 32 16
      sourceNodeId := ← field encoded 48 16
      destinationNodeId := zeros 16
      leaseId := ← field encoded 80 16
      sequence := u64FromBe (← field encoded 96 8)
      payload := [] }
    if frame.networkId = zeros 16 ∨ frame.relayId = zeros 16 ∨ frame.sourceNodeId = zeros 16 ∨
        frame.leaseId = zeros 16 ∨ slice encoded 64 80 ≠ (zeros 16).val then
      none
    else some frame

theorem timeIsFresh_eq_true {value now : UInt64} (h : timeIsFresh value now = true) :
    value.toNat ≤ now.toNat + 300 ∧ now.toNat ≤ value.toNat + 300 := by
  have hle := UInt64.le_iff_toNat_le.mp (of_decide_eq_true h)
  rw [toNat_u64AbsDiff] at hle
  have h300 : (300 : UInt64).toNat = 300 := by decide
  omega

/-- What a verified request says of its own time, and that it decodes the same at any other. -/
theorem verifyRelayRegisterRequest_cases {c : Crypto} {encoded : Bytes} {controllerKey : VerifyingKey}
    {now : UInt64} {verified : VerifiedRelayRegisterRequest}
    (h : verifyRelayRegisterRequest c encoded controllerKey now = some verified) :
    timeIsFresh verified.request.clientTime now = true ∧ now < verified.credential.notAfter ∧
      ∀ {later : UInt64} {other : VerifiedRelayRegisterRequest},
        verifyRelayRegisterRequest c encoded controllerKey later = some other → other = verified := by
  unfold verifyRelayRegisterRequest at h
  split at h
  next => simp at h
  next hform =>
    obtain ⟨networkId, h1, h⟩ := Option.bind_eq_some_iff.mp h
    obtain ⟨nodeId, h2, h⟩ := Option.bind_eq_some_iff.mp h
    obtain ⟨relayId, h3, h⟩ := Option.bind_eq_some_iff.mp h
    obtain ⟨requestId, h4, h⟩ := Option.bind_eq_some_iff.mp h
    obtain ⟨clientTime, h5, h⟩ := Option.bind_eq_some_iff.mp h
    obtain ⟨credentialBytes, h6, h⟩ := Option.bind_eq_some_iff.mp h
    obtain ⟨credential, hc, h⟩ := Option.bind_eq_some_iff.mp h
    dsimp only at h
    split at h
    next => simp at h
    next hguard =>
      obtain ⟨verifyingKey, hk, h⟩ := Option.bind_eq_some_iff.mp h
      obtain ⟨signature, hs, h⟩ := Option.bind_eq_some_iff.mp h
      split at h
      next => simp at h
      next =>
        cases Option.some.inj h
        obtain ⟨_, hafter, hunique⟩ := verifyCredential_cases hc
        simp only [not_or, Bool.not_eq_true', Bool.not_eq_false] at hguard
        refine ⟨hguard.2.2.2.2, hafter, ?_⟩
        intro later other ho
        simp only [verifyRelayRegisterRequest, Option.bind_eq_bind, Option.bind_some, hform, if_false, h1,
          h2, h3, h4, h5, h6] at ho
        obtain ⟨otherCredential, hoc, ho⟩ := Option.bind_eq_some_iff.mp ho
        cases hunique hoc
        split at ho
        next => simp at ho
        next =>
          simp only [hk, hs, Option.bind_some] at ho
          split at ho
          next => simp at ho
          next => exact (Option.some.inj ho).symm

end XsNexus
