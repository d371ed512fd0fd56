import XsNexus.Credential
import XsNexus.DataSession

namespace XsNexus

open ByteCodec MachineWords

def suiteId : UInt16 := 1

def commonHeaderLength : Nat := 16

def clientHelloBodyLength : Nat := 389

def serverHelloBodyLength : Nat := 468

def finishBodyLength : Nat := 76

def clientHelloType : UInt8 := 0x10

def serverHelloType : UInt8 := 0x11

def clientFinishType : UInt8 := 0x12

def serverFinishType : UInt8 := 0x13

def clientAuthDomain : Bytes := "XSP/1 client auth v1".toUTF8.toList

def serverAuthDomain : Bytes := "XSP/1 server auth v1".toUTF8.toList

def helloTranscriptDomain : Bytes := "XSP/1 hello transcript v1".toUTF8.toList

def serverFinishDomain : Bytes := "XSP/1 server finish v1".toUTF8.toList

def fullTranscriptDomain : Bytes := "XSP/1 full transcript v1".toUTF8.toList

def handshakeSaltDomain : Bytes := "XSP/1 handshake salt v1".toUTF8.toList

def clientHandshakeKeyDomain : Bytes := "XSP/1 client handshake key v1".toUTF8.toList

def serverHandshakeKeyDomain : Bytes := "XSP/1 server handshake key v1".toUTF8.toList

def clientHandshakeNonceDomain : Bytes := "XSP/1 client handshake nonce v1".toUTF8.toList

def serverHandshakeNonceDomain : Bytes := "XSP/1 server handshake nonce v1".toUTF8.toList

def clientTrafficSecretDomain : Bytes := "XSP/1 client traffic secret v1".toUTF8.toList

def serverTrafficSecretDomain : Bytes := "XSP/1 server traffic secret v1".toUTF8.toList

def maxClockSkewSeconds : UInt64 := 300

structure HandshakeContext where
  networkId : Block 16
  localNodeId : Block 16
  localVirtualIp : Ipv4Addr
  peerNodeId : Block 16
  peerVirtualIp : Ipv4Addr
deriving DecidableEq

structure EphemeralPrivateKey where
  bytes : Block 32
deriving DecidableEq

def EphemeralPrivateKey.publicKey (c : Crypto) (key : EphemeralPrivateKey) : Block 32 :=
  c.x25519 key.bytes x25519Basepoint

def EphemeralPrivateKey.sharedSecret (c : Crypto) (key : EphemeralPrivateKey)
    (peerPublicKey : Block 32) : Option (Block 32) :=
  let shared := c.x25519 key.bytes peerPublicKey
  if shared = zeros 32 then none else some shared

structure ClientHandshakeParameters where
  context : HandshakeContext
  credential : Block 200
  ephemeralPrivateKey : EphemeralPrivateKey
  clientNonce : Block 32
  messageId : UInt32
  clientTime : UInt64
deriving DecidableEq

structure ServerHandshakeParameters where
  context : HandshakeContext
  credential : Block 200
  ephemeralPrivateKey : EphemeralPrivateKey
  serverNonce : Block 32
  sessionId : Block 16
  serverTime : UInt64
deriving DecidableEq

structure HandshakeKeys where
  handshakePrk : Block 32
  clientKey : Block 32
  serverKey : Block 32
  clientNonceSalt : Block 4
  serverNonceSalt : Block 4
  helloTranscriptHash : Block 32
deriving DecidableEq

structure ClientHelloSent where
  context : HandshakeContext
  encoded : Bytes
  ephemeralPrivateKey : EphemeralPrivateKey
  clientNonce : Block 32
deriving DecidableEq

structure ClientFinishSent where
  context : HandshakeContext
  encoded : Bytes
  clientHello : Bytes
  serverHello : Bytes
  messageId : UInt32
  sessionId : Block 16
  keys : HandshakeKeys
deriving DecidableEq

structure ServerHelloSent where
  context : HandshakeContext
  encoded : Bytes
  clientHello : Bytes
  messageId : UInt32
  sessionId : Block 16
  keys : HandshakeKeys
deriving DecidableEq

inductive SessionRole
  | client | server
deriving DecidableEq

structure EstablishedSession where
  role : SessionRole
  context : HandshakeContext
  sessionId : Block 16
  clientToServerSecret : Block 32
  serverToClientSecret : Block 32
deriving DecidableEq

structure ParsedClientHello where
  messageId : UInt32
  clientNonce : Block 32
  ephemeralPublicKey : Block 32
deriving DecidableEq

structure ParsedServerHello where
  messageId : UInt32
  serverNonce : Block 32
  ephemeralPublicKey : Block 32
  sessionId : Block 16
deriving DecidableEq

def invalidVirtualIp (address : Ipv4Addr) : Bool :=
  address.isUnspecified || address.isMulticast || address == Ipv4Addr.BROADCAST

def validateContext (context : HandshakeContext) : Option Unit :=
  if context.networkId = zeros 16 ∨ context.localNodeId = zeros 16 ∨ context.peerNodeId = zeros 16 ∨
      context.localNodeId = context.peerNodeId ∨ invalidVirtualIp context.localVirtualIp ∨
      invalidVirtualIp context.peerVirtualIp ∨ context.localVirtualIp = context.peerVirtualIp then
    none
  else some ()

def validateLocalCredential (c : Crypto) (credential : Block 200) (context : HandshakeContext)
    (identitySigningKey : SigningKey) : Option Unit := do
  let networkId ← field credential.val 4 16
  let encodedNodeId ← field credential.val 20 16
  let identityPublicKey ← field credential.val 36 32
  let virtualIp := Ipv4Addr.fromOctets (← field credential.val 68 4)
  if credential.val[0]? ≠ some 1 ∨ slice credential.val 1 4 ≠ (zeros 3).val ∨
      networkId ≠ context.networkId ∨ encodedNodeId ≠ context.localNodeId ∨
      identityPublicKey ≠ (c.verifyingKey identitySigningKey).bytes ∨
      virtualIp ≠ context.localVirtualIp then
    none
  else some ()

def verifyPeerCredential (c : Crypto) (credential : Block 200) (context : HandshakeContext)
    (controllerVerifyingKey : VerifyingKey) (now : UInt64) : Option VerifiedCredential := do
  let verified ← verifyCredential c credential.val controllerVerifyingKey now
  if verified.networkId ≠ context.networkId ∨ verified.nodeId ≠ context.peerNodeId ∨
      verified.virtualIpv4 ≠ context.peerVirtualIp then
    none
  else some verified

def encodeCommonHeader (messageType : UInt8) (bodyLength : Nat) (messageId : UInt32) :
    Option (Block 16) :=
  if bodyLength ≥ 2 ^ 32 then none
  else some ⟨magic ++ [version, messageType] ++ (zeros 2).val ++
    (u32ToBe (UInt32.ofNat bodyLength)).val ++ (u32ToBe messageId).val, by simp [magic]⟩

def parseCommonHeader (encoded : Bytes) (expectedType : UInt8) (expectedBodyLength : Nat) :
    Option UInt32 := do
  let expectedTotal ← usizeCheckedAdd commonHeaderLength expectedBodyLength
  if encoded.length ≠ expectedTotal ∨ slice encoded 0 4 ≠ magic ∨ encoded[4]? ≠ some version ∨
      encoded[5]? ≠ some expectedType ∨ slice encoded 6 8 ≠ (zeros 2).val ∨
      (field encoded 8 4).map (fun length => (u32FromBe length).toNat) ≠ some expectedBodyLength then
    none
  else
    let messageId ← field encoded 12 4
    some (u32FromBe messageId)

def transcriptHash (c : Crypto) (domain : Bytes) (parts : List Bytes) : Block 32 :=
  c.sha256 (domain ++ parts.flatten)

def hkdfExtract (c : Crypto) (salt input : Bytes) : Block 32 := c.hkdfExtract salt input

def deriveHandshakeKeys (c : Crypto) (sharedSecret : Block 32) (networkId : Block 16)
    (clientNonce serverNonce helloTranscriptHash : Block 32) : Option HandshakeKeys := do
  let handshakeSalt :=
    transcriptHash c handshakeSaltDomain [networkId.val, clientNonce.val, serverNonce.val]
  let handshakePrk := hkdfExtract c handshakeSalt.val sharedSecret.val
  let clientKey ← hkdfExpand c 32 handshakePrk clientHandshakeKeyDomain helloTranscriptHash.val
  let serverKey ← hkdfExpand c 32 handshakePrk serverHandshakeKeyDomain helloTranscriptHash.val
  let clientNonceSalt ←
    hkdfExpand c 4 handshakePrk clientHandshakeNonceDomain helloTranscriptHash.val
  let serverNonceSalt ←
    hkdfExpand c 4 handshakePrk serverHandshakeNonceDomain helloTranscriptHash.val
  some {
    handshakePrk := handshakePrk
    clientKey := clientKey
    serverKey := serverKey
    clientNonceSalt := clientNonceSalt
    serverNonceSalt := serverNonceSalt
    helloTranscriptHash := helloTranscriptHash }

def establishedSession (c : Crypto) (role : SessionRole) (context : HandshakeContext)
    (sessionId : Block 16) (handshakePrk fullTranscriptHash : Block 32) :
    Option EstablishedSession := do
  let applicationPrk := hkdfExtract c fullTranscriptHash.val handshakePrk.val
  let (clientNodeId, serverNodeId) := match role with
    | .client => (context.localNodeId, context.peerNodeId)
    | .server => (context.peerNodeId, context.localNodeId)
  let clientInfo := context.networkId.val ++ sessionId.val ++ clientNodeId.val ++ serverNodeId.val
  let serverInfo := context.networkId.val ++ sessionId.val ++ serverNodeId.val ++ clientNodeId.val
  let clientToServerSecret ← hkdfExpand c 32 applicationPrk clientTrafficSecretDomain clientInfo
  let serverToClientSecret ← hkdfExpand c 32 applicationPrk serverTrafficSecretDomain serverInfo
  some {
    role := role
    context := context
    sessionId := sessionId
    clientToServerSecret := clientToServerSecret
    serverToClientSecret := serverToClientSecret }

def finishNonce (nonceSalt : Block 4) : Block 12 := ⟨nonceSalt.val ++ (zeros 8).val, by simp⟩

def encodeFinish (c : Crypto) (messageType : UInt8) (messageId : UInt32) (sessionId : Block 16)
    (key : Block 32) (nonceSalt : Block 4) (plaintext : Block 32) : Option Bytes := do
  let header ← encodeCommonHeader messageType finishBodyLength messageId
  let prefixBytes := sessionId.val ++ (u64ToBe 0).val ++ (u16ToBe 32).val ++ (u16ToBe 0).val
  let aad := header.val ++ prefixBytes
  let (ciphertext, tag) ← c.encrypt key (finishNonce nonceSalt) aad plaintext.val
  some (header.val ++ prefixBytes ++ ciphertext ++ tag.val)

def decodeFinish (c : Crypto) (encoded : Bytes) (expectedType : UInt8) (expectedMessageId : UInt32)
    (expectedSessionId : Block 16) (key : Block 32) (nonceSalt : Block 4) : Option (Block 32) := do
  let messageId ← parseCommonHeader encoded expectedType finishBodyLength
  let body := encoded.drop commonHeaderLength
  let sessionId ← field body 0 16
  let sequence := u64FromBe (← field body 16 8)
  let ciphertextLength := u16FromBe (← field body 24 2)
  if messageId ≠ expectedMessageId ∨ sessionId ≠ expectedSessionId ∨ sequence ≠ 0 ∨
      ciphertextLength ≠ 32 ∨ slice body 26 28 ≠ (zeros 2).val then
    none
  else
    let tag ← field body 60 16
    let plaintext ← c.decrypt key (finishNonce nonceSalt) (encoded.take (commonHeaderLength + 28))
      (slice body 28 60) tag
    array 32 plaintext

def parseClientHello (c : Crypto) (encoded : Bytes) (context : HandshakeContext)
    (controllerVerifyingKey : VerifyingKey) (now : UInt64) : Option ParsedClientHello := do
  let messageId ← parseCommonHeader encoded clientHelloType clientHelloBodyLength
  let body := encoded.drop commonHeaderLength
  let networkId ← field body 0 16
  let sourceNodeId ← field body 16 16
  let destinationNodeId ← field body 32 16
  let clientNonce ← field body 48 32
  let ephemeralPublicKey ← field body 80 32
  let clientTime := u64FromBe (← field body 112 8)
  let encodedCredentialLength := u16FromBe (← field body 120 2)
  let credential ← field body 122 200
  let suite := u16FromBe (← field body 323 2)
  if networkId ≠ context.networkId ∨ sourceNodeId ≠ context.peerNodeId ∨
      destinationNodeId ≠ context.localNodeId ∨ clientNonce = zeros 32 ∨
      ephemeralPublicKey = zeros 32 ∨ encodedCredentialLength ≠ UInt16.ofNat credentialLength ∨
      body[322]? ≠ some 1 ∨ suite ≠ suiteId ∨ u64AbsDiff clientTime now > maxClockSkewSeconds then
    none
  else
    let _ ← verifyPeerCredential c credential context controllerVerifyingKey now
    let signature ← field body 325 64
    let peerKey ← c.verifyingKeyFromBytes (← field credential.val 36 32)
    let signingInput := clientAuthDomain ++ encoded.take (encoded.length - 64)
    if !c.verifyStrict peerKey signingInput signature then none
    else
      some {
        messageId := messageId
        clientNonce := clientNonce
        ephemeralPublicKey := ephemeralPublicKey }

def parseServerHello (c : Crypto) (encoded : Bytes) (context : HandshakeContext) (clientHello : Bytes)
    (clientNonce : Block 32) (controllerVerifyingKey : VerifyingKey) (now : UInt64) :
    Option ParsedServerHello := do
  let messageId ← parseCommonHeader encoded serverHelloType serverHelloBodyLength
  let expectedMessageId ← parseCommonHeader clientHello clientHelloType clientHelloBodyLength
  let body := encoded.drop commonHeaderLength
  let networkId ← field body 0 16
  let sourceNodeId ← field body 16 16
  let destinationNodeId ← field body 32 16
  let echoedClientNonce ← field body 48 32
  let serverNonce ← field body 80 32
  let ephemeralPublicKey ← field body 112 32
  let clientHelloHash ← field body 144 32
  let sessionId ← field body 176 16
  let serverTime := u64FromBe (← field body 192 8)
  let suite := u16FromBe (← field body 200 2)
  let encodedCredentialLength := u16FromBe (← field body 202 2)
  let credential ← field body 204 200
  let expectedClientHash := c.sha256 clientHello
  if messageId ≠ expectedMessageId ∨ networkId ≠ context.networkId ∨
      sourceNodeId ≠ context.peerNodeId ∨ destinationNodeId ≠ context.localNodeId ∨
      echoedClientNonce ≠ clientNonce ∨ serverNonce = zeros 32 ∨ ephemeralPublicKey = zeros 32 ∨
      clientHelloHash ≠ expectedClientHash ∨ sessionId = zeros 16 ∨
      u64AbsDiff serverTime now > maxClockSkewSeconds ∨ suite ≠ suiteId ∨
      encodedCredentialLength ≠ UInt16.ofNat credentialLength then
    none
  else
    let _ ← verifyPeerCredential c credential context controllerVerifyingKey now
    let signature ← field body 404 64
    let peerKey ← c.verifyingKeyFromBytes (← field credential.val 36 32)
    let signingInput :=
      serverAuthDomain ++ expectedClientHash.val ++ encoded.take (encoded.length - 64)
    if !c.verifyStrict peerKey signingInput signature then none
    else
      some {
        messageId := messageId
        serverNonce := serverNonce
        ephemeralPublicKey := ephemeralPublicKey
        sessionId := sessionId }

namespace ClientHelloSent

def start (c : Crypto) (parameters : ClientHandshakeParameters) (identitySigningKey : SigningKey) :
    Option ClientHelloSent := do
  validateContext parameters.context
  validateLocalCredential c parameters.credential parameters.context identitySigningKey
  if parameters.messageId = 0 ∨ parameters.clientTime = 0 ∨ parameters.clientNonce = zeros 32 then none
  else
    let ephemeralPublicKey := parameters.ephemeralPrivateKey.publicKey c
    if ephemeralPublicKey = zeros 32 then none
    else
      let header ← encodeCommonHeader clientHelloType clientHelloBodyLength parameters.messageId
      let unsigned := header.val ++ parameters.context.networkId.val ++
        parameters.context.localNodeId.val ++ parameters.context.peerNodeId.val ++
        parameters.clientNonce.val ++ ephemeralPublicKey.val ++ (u64ToBe parameters.clientTime).val ++
        (u16ToBe (UInt16.ofNat credentialLength)).val ++ parameters.credential.val ++ [1] ++
        (u16ToBe suiteId).val
      let encoded := unsigned ++ (c.sign identitySigningKey (clientAuthDomain ++ unsigned)).val
      if encoded.length ≠ commonHeaderLength + clientHelloBodyLength then none
      else
        some {
          context := parameters.context
          encoded := encoded
          ephemeralPrivateKey := parameters.ephemeralPrivateKey
          clientNonce := parameters.clientNonce }

def acceptServerHello (c : Crypto) (machine : ClientHelloSent) (serverHello : Bytes)
    (controllerVerifyingKey : VerifyingKey) (now : UInt64) : Option ClientFinishSent := do
  let parsed ← parseServerHello c serverHello machine.context machine.encoded machine.clientNonce
    controllerVerifyingKey now
  let helloTranscriptHash := transcriptHash c helloTranscriptDomain [machine.encoded, serverHello]
  let sharedSecret ← machine.ephemeralPrivateKey.sharedSecret c parsed.ephemeralPublicKey
  let keys ← deriveHandshakeKeys c sharedSecret machine.context.networkId machine.clientNonce
    parsed.serverNonce helloTranscriptHash
  let clientFinish ← encodeFinish c clientFinishType parsed.messageId parsed.sessionId keys.clientKey
    keys.clientNonceSalt keys.helloTranscriptHash
  some {
    context := machine.context
    encoded := clientFinish
    clientHello := machine.encoded
    serverHello := serverHello
    messageId := parsed.messageId
    sessionId := parsed.sessionId
    keys := keys }

end ClientHelloSent

def ClientFinishSent.acceptServerFinish (c : Crypto) (machine : ClientFinishSent)
    (serverFinish : Bytes) : Option EstablishedSession := do
  let expected := transcriptHash c serverFinishDomain
    [machine.clientHello, machine.serverHello, machine.encoded]
  let plaintext ← decodeFinish c serverFinish serverFinishType machine.messageId machine.sessionId
    machine.keys.serverKey machine.keys.serverNonceSalt
  if plaintext ≠ expected then none
  else
    let fullHash := transcriptHash c fullTranscriptDomain
      [machine.clientHello, machine.serverHello, machine.encoded, serverFinish]
    establishedSession c .client machine.context machine.sessionId machine.keys.handshakePrk fullHash

namespace ServerHelloSent

def accept (c : Crypto) (clientHello : Bytes) (parameters : ServerHandshakeParameters)
    (identitySigningKey : SigningKey) (controllerVerifyingKey : VerifyingKey) (now : UInt64) :
    Option ServerHelloSent := do
  validateContext parameters.context
  validateLocalCredential c parameters.credential parameters.context identitySigningKey
  if parameters.serverNonce = zeros 32 ∨ parameters.sessionId = zeros 16 ∨
      parameters.serverTime = 0 then
    none
  else
    let parsed ← parseClientHello c clientHello parameters.context controllerVerifyingKey now
    let ephemeralPublicKey := parameters.ephemeralPrivateKey.publicKey c
    if ephemeralPublicKey = zeros 32 then none
    else
      let clientHelloHash := c.sha256 clientHello
      let header ← encodeCommonHeader serverHelloType serverHelloBodyLength parsed.messageId
      let unsigned := header.val ++ parameters.context.networkId.val ++
        parameters.context.localNodeId.val ++ parameters.context.peerNodeId.val ++
        parsed.clientNonce.val ++ parameters.serverNonce.val ++ ephemeralPublicKey.val ++
        clientHelloHash.val ++ parameters.sessionId.val ++ (u64ToBe parameters.serverTime).val ++
        (u16ToBe suiteId).val ++ (u16ToBe (UInt16.ofNat credentialLength)).val ++
        parameters.credential.val
      let signingInput := serverAuthDomain ++ clientHelloHash.val ++ unsigned
      let encoded := unsigned ++ (c.sign identitySigningKey signingInput).val
      if encoded.length ≠ commonHeaderLength + serverHelloBodyLength then none
      else
        let helloTranscriptHash := transcriptHash c helloTranscriptDomain [clientHello, encoded]
        let sharedSecret ← parameters.ephemeralPrivateKey.sharedSecret c parsed.ephemeralPublicKey
        let keys ← deriveHandshakeKeys c sharedSecret parameters.context.networkId
          parsed.clientNonce parameters.serverNonce helloTranscriptHash
        some {
          context := parameters.context
          encoded := encoded
          clientHello := clientHello
          messageId := parsed.messageId
          sessionId := parameters.sessionId
          keys := keys }

def acceptClientFinish (c : Crypto) (machine : ServerHelloSent) (clientFinish : Bytes) :
    Option (EstablishedSession × Bytes) := do
  let plaintext ← decodeFinish c clientFinish clientFinishType machine.messageId machine.sessionId
    machine.keys.clientKey machine.keys.clientNonceSalt
  if plaintext ≠ machine.keys.helloTranscriptHash then none
  else
    let serverPlaintext := transcriptHash c serverFinishDomain
      [machine.clientHello, machine.encoded, clientFinish]
    let serverFinish ← encodeFinish c serverFinishType machine.messageId machine.sessionId
      machine.keys.serverKey machine.keys.serverNonceSalt serverPlaintext
    let fullHash := transcriptHash c fullTranscriptDomain
      [machine.clientHello, machine.encoded, clientFinish, serverFinish]
    let session ← establishedSession c .server machine.context machine.sessionId
      machine.keys.handshakePrk fullHash
    some (session, serverFinish)

end ServerHelloSent

def EstablishedSession.intoDataPlane (c : Crypto) (session : EstablishedSession) :
    Option (DataSender × DataReceiver) := do
  let (sendSecret, receiveSecret) := match session.role with
    | .client => (session.clientToServerSecret, session.serverToClientSecret)
    | .server => (session.serverToClientSecret, session.clientToServerSecret)
  let sender ← DataSender.new c sendSecret session.context.networkId session.context.localNodeId
    session.context.peerNodeId session.sessionId session.context.localVirtualIp
    session.context.peerVirtualIp
  let receiver ← DataReceiver.new c receiveSecret session.context.networkId
    session.context.peerNodeId session.context.localNodeId session.sessionId
    session.context.peerVirtualIp session.context.localVirtualIp
  some (sender, receiver)

end XsNexus
