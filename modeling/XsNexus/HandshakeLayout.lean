import XsNexus.Handshake

namespace XsNexus

open ByteCodec MachineWords

/-- The sixteen bytes a handshake message starts with. -/
theorem length_commonHeader (messageType : UInt8) (bodyLength : Nat) (messageId : UInt32) :
    (magic ++ [version, messageType] ++ (zeros 2).val ++ (u32ToBe (UInt32.ofNat bodyLength)).val ++
      (u32ToBe messageId).val).length = 16 := by
  simp [magic]

def commonHeader (messageType : UInt8) (bodyLength : Nat) (messageId : UInt32) : Block 16 :=
  ⟨magic ++ [version, messageType] ++ (zeros 2).val ++ (u32ToBe (UInt32.ofNat bodyLength)).val ++
    (u32ToBe messageId).val, length_commonHeader messageType bodyLength messageId⟩

theorem commonHeader_magic (messageType : UInt8) (bodyLength : Nat) (messageId : UInt32)
    (body : Bytes) :
    slice ((commonHeader messageType bodyLength messageId).val ++ body) 0 4 = magic ∧
      ((commonHeader messageType bodyLength messageId).val ++ body)[4]? = some 1 ∧
      ((commonHeader messageType bodyLength messageId).val ++ body)[5]? = some messageType := by
  unfold commonHeader
  simp [magic, slice, version]

theorem encodeCommonHeader_eq {bodyLength : Nat} (h : bodyLength < 2 ^ 32) (messageType : UInt8)
    (messageId : UInt32) :
    encodeCommonHeader messageType bodyLength messageId =
      some (commonHeader messageType bodyLength messageId) :=
  if_neg (Nat.not_le.mpr h)

theorem parseCommonHeader_append {bodyLength : Nat} (hbound : bodyLength < 2 ^ 32)
    (messageType : UInt8) (messageId : UInt32) {body : Bytes} (hbody : body.length = bodyLength) :
    parseCommonHeader ((commonHeader messageType bodyLength messageId).val ++ body) messageType
      bodyLength = some messageId := by
  have htotal : usizeCheckedAdd commonHeaderLength bodyLength = some (16 + bodyLength) := by
    unfold usizeCheckedAdd commonHeaderLength usizeMax
    rw [if_pos (by omega)]
  have hlength : ((commonHeader messageType bodyLength messageId).val ++ body).length =
      16 + bodyLength := by
    rw [List.length_append, Block.length_val, hbody]
  have hround : (UInt32.ofNat bodyLength).toNat = bodyLength := by
    rw [UInt32.toNat_ofNat']
    omega
  unfold parseCommonHeader
  rw [htotal, Option.bind_eq_bind, Option.bind_some, hlength]
  unfold commonHeader
  simp only [List.append_assoc, magic, field_append_right, field_append_left, slice_append_right,
    Block.length_val, List.length_cons, List.length_nil, Nat.reduceLeDiff, Nat.reduceSub,
    Nat.reduceAdd, Option.map_some, u32FromBe_toBe, hround]
  simp [slice, zeros]

theorem parseCommonHeader_length {encoded : Bytes} {messageType : UInt8} {bodyLength : Nat}
    {messageId : UInt32} (h : parseCommonHeader encoded messageType bodyLength = some messageId) :
    encoded.length = 16 + bodyLength := by
  obtain ⟨total, htotal, h⟩ := Option.bind_eq_some_iff.mp h
  split at h
  next => simp at h
  next hform =>
    simp only [not_or, not_not] at hform
    unfold usizeCheckedAdd at htotal
    split at htotal
    next =>
      rw [hform.1, ← Option.some.inj htotal]
      rfl
    next => simp at htotal

section Credentials

variable {c : Crypto} {credential : Block 200}

theorem validateLocalCredential_eq_some {context : HandshakeContext} {identityKey : SigningKey}
    (h : validateLocalCredential c credential context identityKey = some ()) :
    ∃ octets, field credential.val 68 4 = some octets ∧
      Ipv4Addr.fromOctets octets = context.localVirtualIp := by
  obtain ⟨networkId, _, h⟩ := Option.bind_eq_some_iff.mp h
  obtain ⟨encodedNodeId, _, h⟩ := Option.bind_eq_some_iff.mp h
  obtain ⟨identityPublicKey, _, h⟩ := Option.bind_eq_some_iff.mp h
  obtain ⟨octets, hoctets, h⟩ := Option.bind_eq_some_iff.mp h
  dsimp only at h
  split at h
  next => simp at h
  next hguard =>
    simp only [not_or, not_not] at hguard
    exact ⟨octets, hoctets, hguard.2.2.2.2.2⟩

theorem verifyPeerCredential_eq_some {context : HandshakeContext}
    {controllerVerifyingKey : VerifyingKey} {now : UInt64} {verified : VerifiedCredential}
    (h : verifyPeerCredential c credential context controllerVerifyingKey now = some verified) :
    ∃ octets, field credential.val 68 4 = some octets ∧
      Ipv4Addr.fromOctets octets = context.peerVirtualIp := by
  obtain ⟨verified', hverified, h⟩ := Option.bind_eq_some_iff.mp h
  split at h
  next => simp at h
  next hguard =>
    simp only [not_or, not_not] at hguard
    obtain ⟨bytes, hb, h⟩ := Option.bind_eq_some_iff.mp hverified
    split at h
    next => simp at h
    next =>
      obtain ⟨_, _, h⟩ := Option.bind_eq_some_iff.mp h
      obtain ⟨_, _, h⟩ := Option.bind_eq_some_iff.mp h
      obtain ⟨_, _, h⟩ := Option.bind_eq_some_iff.mp h
      obtain ⟨octets, hoctets, h⟩ := Option.bind_eq_some_iff.mp h
      obtain ⟨_, _, h⟩ := Option.bind_eq_some_iff.mp h
      obtain ⟨_, _, h⟩ := Option.bind_eq_some_iff.mp h
      obtain ⟨_, _, h⟩ := Option.bind_eq_some_iff.mp h
      obtain ⟨_, _, h⟩ := Option.bind_eq_some_iff.mp h
      obtain ⟨_, _, h⟩ := Option.bind_eq_some_iff.mp h
      obtain ⟨_, _, h⟩ := Option.bind_eq_some_iff.mp h
      dsimp only at h
      split at h
      next => simp at h
      next =>
        obtain ⟨_, _, h⟩ := Option.bind_eq_some_iff.mp h
        split at h
        next => simp at h
        next =>
          rw [array_eq_some hb] at hoctets
          rw [← Option.some.inj h] at hguard
          exact ⟨octets, hoctets, hguard.2.2⟩

/-- Both sides read the same address out of a credential. -/
theorem credential_address {own peer : HandshakeContext} {identityKey : SigningKey}
    {controllerVerifyingKey : VerifyingKey} {now : UInt64} {verified : VerifiedCredential}
    (hown : validateLocalCredential c credential own identityKey = some ())
    (hpeer : verifyPeerCredential c credential peer controllerVerifyingKey now = some verified) :
    peer.peerVirtualIp = own.localVirtualIp := by
  obtain ⟨octets, hfield, haddress⟩ := validateLocalCredential_eq_some hown
  obtain ⟨octets', hfield', haddress'⟩ := verifyPeerCredential_eq_some hpeer
  rw [hfield] at hfield'
  rw [← haddress', ← haddress, Option.some.inj hfield']

end Credentials

section ClientHello

/-- A `ClientHello` before its signature. -/
def clientHelloUnsigned (parameters : ClientHandshakeParameters) (ephemeralPublicKey : Block 32) :
    Bytes :=
  (commonHeader clientHelloType clientHelloBodyLength parameters.messageId).val ++
    parameters.context.networkId.val ++ parameters.context.localNodeId.val ++
    parameters.context.peerNodeId.val ++ parameters.clientNonce.val ++ ephemeralPublicKey.val ++
    (u64ToBe parameters.clientTime).val ++ (u16ToBe (UInt16.ofNat credentialLength)).val ++
    parameters.credential.val ++ [1] ++ (u16ToBe suiteId).val

theorem length_clientHelloUnsigned (parameters : ClientHandshakeParameters)
    (ephemeralPublicKey : Block 32) :
    (clientHelloUnsigned parameters ephemeralPublicKey).length = 341 := by
  simp [clientHelloUnsigned]

/-- Where the body of a `ClientHello` has what. -/
structure ClientHelloBody (parameters : ClientHandshakeParameters)
    (ephemeralPublicKey : Block 32) (signature : Block 64) (body : Bytes) : Prop where
  networkId : field body 0 16 = some parameters.context.networkId
  sourceNodeId : field body 16 16 = some parameters.context.localNodeId
  destinationNodeId : field body 32 16 = some parameters.context.peerNodeId
  clientNonce : field body 48 32 = some parameters.clientNonce
  ephemeralPublicKey : field body 80 32 = some ephemeralPublicKey
  clientTime : field body 112 8 = some (u64ToBe parameters.clientTime)
  credentialLength : field body 120 2 = some (u16ToBe (UInt16.ofNat credentialLength))
  credential : field body 122 200 = some parameters.credential
  suites : body[322]? = some 1
  suite : field body 323 2 = some (u16ToBe suiteId)
  signature : field body 325 64 = some signature

theorem clientHelloBody (parameters : ClientHandshakeParameters) (ephemeralPublicKey : Block 32)
    (signature : Block 64) :
    ClientHelloBody parameters ephemeralPublicKey signature
      ((clientHelloUnsigned parameters ephemeralPublicKey ++ signature.val).drop
        commonHeaderLength) := by
  have hbody : (clientHelloUnsigned parameters ephemeralPublicKey ++ signature.val).drop
      commonHeaderLength = parameters.context.networkId.val ++ parameters.context.localNodeId.val ++
        parameters.context.peerNodeId.val ++ parameters.clientNonce.val ++ ephemeralPublicKey.val ++
        (u64ToBe parameters.clientTime).val ++ (u16ToBe (UInt16.ofNat credentialLength)).val ++
        parameters.credential.val ++ [1] ++ (u16ToBe suiteId).val ++ signature.val := by
    unfold clientHelloUnsigned
    simp only [List.append_assoc]
    exact List.drop_left' (Block.length_val _)
  have hlast : field signature.val 0 64 = some signature := by
    have := field_append_left signature []
    rwa [List.append_nil] at this
  rw [hbody]
  constructor
  case suites => simp
  all_goals
    simp only [List.append_assoc, field_append_right, field_append_left, Block.length_val,
      List.length_cons, List.length_nil, Nat.reduceLeDiff, Nat.reduceSub, Nat.reduceAdd, hlast]

/-- The message the client signs. -/
def clientHelloSigned (c : Crypto) (parameters : ClientHandshakeParameters)
    (identitySigningKey : SigningKey) : Bytes :=
  let unsigned := clientHelloUnsigned parameters (parameters.ephemeralPrivateKey.publicKey c)
  unsigned ++ (c.sign identitySigningKey (clientAuthDomain ++ unsigned)).val

theorem length_clientHelloSigned (c : Crypto) (parameters : ClientHandshakeParameters)
    (identitySigningKey : SigningKey) :
    (clientHelloSigned c parameters identitySigningKey).length =
      commonHeaderLength + clientHelloBodyLength := by
  unfold clientHelloSigned
  rw [List.length_append, length_clientHelloUnsigned, Block.length_val]
  rfl

/-- A client starts with what its parameters say or not at all. -/
theorem start_eq_some_iff (c : Crypto) (parameters : ClientHandshakeParameters)
    (identitySigningKey : SigningKey) (machine : ClientHelloSent) :
    ClientHelloSent.start c parameters identitySigningKey = some machine ↔
      (validateContext parameters.context = some () ∧
        validateLocalCredential c parameters.credential parameters.context identitySigningKey =
          some () ∧
        (parameters.messageId ≠ 0 ∧ parameters.clientTime ≠ 0 ∧ parameters.clientNonce ≠ zeros 32) ∧
        parameters.ephemeralPrivateKey.publicKey c ≠ zeros 32) ∧
      machine = {
        context := parameters.context
        encoded := clientHelloSigned c parameters identitySigningKey
        ephemeralPrivateKey := parameters.ephemeralPrivateKey
        clientNonce := parameters.clientNonce } := by
  have hlength := length_clientHelloSigned c parameters identitySigningKey
  unfold clientHelloSigned clientHelloUnsigned at hlength
  unfold ClientHelloSent.start clientHelloSigned clientHelloUnsigned
  rw [Option.bind_eq_bind, Option.bind_eq_some_iff]
  constructor
  · rintro ⟨_, hcontext, h⟩
    obtain ⟨_, hcredential, h⟩ := Option.bind_eq_some_iff.mp h
    split at h
    next => simp at h
    next hvalues =>
      simp only [not_or] at hvalues
      dsimp only at h
      split at h
      next => simp at h
      next hpublic =>
        rw [encodeCommonHeader_eq (by decide), Option.bind_eq_bind, Option.bind_some] at h
        rw [if_neg (not_not.mpr hlength)] at h
        exact ⟨⟨hcontext, hcredential, hvalues, hpublic⟩, (Option.some.inj h).symm⟩
  · rintro ⟨⟨hcontext, hcredential, hvalues, hpublic⟩, rfl⟩
    refine ⟨(), hcontext, ?_⟩
    rw [Option.bind_eq_bind, hcredential, Option.bind_some, if_neg (by simpa using hvalues)]
    dsimp only
    rw [if_neg hpublic, encodeCommonHeader_eq (by decide), Option.bind_some]
    exact if_neg (not_not.mpr hlength)

/-- What a server has read of a `ClientHello` that it accepts. -/
theorem parseClientHello_eq_some {c : Crypto} {encoded : Bytes} {context : HandshakeContext}
    {controllerVerifyingKey : VerifyingKey} {now : UInt64} {parsed : ParsedClientHello}
    (h : parseClientHello c encoded context controllerVerifyingKey now = some parsed) :
    encoded.length = commonHeaderLength + clientHelloBodyLength ∧
      field (encoded.drop commonHeaderLength) 0 16 = some context.networkId ∧
      field (encoded.drop commonHeaderLength) 16 16 = some context.peerNodeId ∧
      field (encoded.drop commonHeaderLength) 32 16 = some context.localNodeId ∧
      ∃ credential verified, field (encoded.drop commonHeaderLength) 122 200 = some credential ∧
        verifyPeerCredential c credential context controllerVerifyingKey now = some verified := by
  obtain ⟨messageId, hheader, h⟩ := Option.bind_eq_some_iff.mp h
  dsimp only at h
  obtain ⟨networkId, hnetwork, h⟩ := Option.bind_eq_some_iff.mp h
  obtain ⟨sourceNodeId, hsource, h⟩ := Option.bind_eq_some_iff.mp h
  obtain ⟨destinationNodeId, hdestination, h⟩ := Option.bind_eq_some_iff.mp h
  obtain ⟨clientNonce, _, h⟩ := Option.bind_eq_some_iff.mp h
  obtain ⟨ephemeralPublicKey, _, h⟩ := Option.bind_eq_some_iff.mp h
  obtain ⟨clientTime, _, h⟩ := Option.bind_eq_some_iff.mp h
  obtain ⟨encodedCredentialLength, _, h⟩ := Option.bind_eq_some_iff.mp h
  obtain ⟨credential, hcredential, h⟩ := Option.bind_eq_some_iff.mp h
  obtain ⟨suite, _, h⟩ := Option.bind_eq_some_iff.mp h
  split at h
  next => simp at h
  next hguard =>
    simp only [not_or, not_not] at hguard
    obtain ⟨hn, hs, hd, _⟩ := hguard
    obtain ⟨verified, hverified, _⟩ := Option.bind_eq_some_iff.mp h
    refine ⟨parseCommonHeader_length hheader, ?_, ?_, ?_, credential, verified, hcredential, hverified⟩
    · rw [hnetwork, hn]
    · rw [hsource, hs]
    · rw [hdestination, hd]

end ClientHello

section ServerHello

/-- A `ServerHello` before its signature. -/
def serverHelloUnsigned (parameters : ServerHandshakeParameters) (messageId : UInt32)
    (clientNonce ephemeralPublicKey clientHelloHash : Block 32) : Bytes :=
  (commonHeader serverHelloType serverHelloBodyLength messageId).val ++
    parameters.context.networkId.val ++ parameters.context.localNodeId.val ++
    parameters.context.peerNodeId.val ++ clientNonce.val ++ parameters.serverNonce.val ++
    ephemeralPublicKey.val ++ clientHelloHash.val ++ parameters.sessionId.val ++
    (u64ToBe parameters.serverTime).val ++ (u16ToBe suiteId).val ++
    (u16ToBe (UInt16.ofNat credentialLength)).val ++ parameters.credential.val

theorem length_serverHelloUnsigned (parameters : ServerHandshakeParameters) (messageId : UInt32)
    (clientNonce ephemeralPublicKey clientHelloHash : Block 32) :
    (serverHelloUnsigned parameters messageId clientNonce ephemeralPublicKey
      clientHelloHash).length = 420 := by
  simp [serverHelloUnsigned]

/-- Where the body of a `ServerHello` has what. -/
structure ServerHelloBody (parameters : ServerHandshakeParameters)
    (clientNonce ephemeralPublicKey clientHelloHash : Block 32) (signature : Block 64)
    (body : Bytes) : Prop where
  networkId : field body 0 16 = some parameters.context.networkId
  sourceNodeId : field body 16 16 = some parameters.context.localNodeId
  destinationNodeId : field body 32 16 = some parameters.context.peerNodeId
  clientNonce : field body 48 32 = some clientNonce
  serverNonce : field body 80 32 = some parameters.serverNonce
  ephemeralPublicKey : field body 112 32 = some ephemeralPublicKey
  clientHelloHash : field body 144 32 = some clientHelloHash
  sessionId : field body 176 16 = some parameters.sessionId
  serverTime : field body 192 8 = some (u64ToBe parameters.serverTime)
  suite : field body 200 2 = some (u16ToBe suiteId)
  credentialLength : field body 202 2 = some (u16ToBe (UInt16.ofNat credentialLength))
  credential : field body 204 200 = some parameters.credential
  signature : field body 404 64 = some signature

theorem serverHelloBody (parameters : ServerHandshakeParameters) (messageId : UInt32)
    (clientNonce ephemeralPublicKey clientHelloHash : Block 32) (signature : Block 64) :
    ServerHelloBody parameters clientNonce ephemeralPublicKey clientHelloHash signature
      ((serverHelloUnsigned parameters messageId clientNonce ephemeralPublicKey clientHelloHash ++
        signature.val).drop commonHeaderLength) := by
  have hbody : (serverHelloUnsigned parameters messageId clientNonce ephemeralPublicKey
      clientHelloHash ++ signature.val).drop commonHeaderLength =
        parameters.context.networkId.val ++ parameters.context.localNodeId.val ++
        parameters.context.peerNodeId.val ++ clientNonce.val ++ parameters.serverNonce.val ++
        ephemeralPublicKey.val ++ clientHelloHash.val ++ parameters.sessionId.val ++
        (u64ToBe parameters.serverTime).val ++ (u16ToBe suiteId).val ++
        (u16ToBe (UInt16.ofNat credentialLength)).val ++ parameters.credential.val ++
        signature.val := by
    unfold serverHelloUnsigned
    simp only [List.append_assoc]
    exact List.drop_left' (Block.length_val _)
  have hlast : field signature.val 0 64 = some signature := by
    have := field_append_left signature []
    rwa [List.append_nil] at this
  rw [hbody]
  constructor
  all_goals
    simp only [List.append_assoc, field_append_right, field_append_left, Block.length_val,
      Nat.reduceLeDiff, Nat.reduceSub, hlast]

/-- The message the server signs. -/
def serverHelloSigned (c : Crypto) (parameters : ServerHandshakeParameters)
    (identitySigningKey : SigningKey) (clientHello : Bytes) (parsed : ParsedClientHello) : Bytes :=
  let clientHelloHash := c.sha256 clientHello
  let unsigned := serverHelloUnsigned parameters parsed.messageId parsed.clientNonce
    (parameters.ephemeralPrivateKey.publicKey c) clientHelloHash
  unsigned ++ (c.sign identitySigningKey (serverAuthDomain ++ clientHelloHash.val ++ unsigned)).val

theorem length_serverHelloSigned (c : Crypto) (parameters : ServerHandshakeParameters)
    (identitySigningKey : SigningKey) (clientHello : Bytes) (parsed : ParsedClientHello) :
    (serverHelloSigned c parameters identitySigningKey clientHello parsed).length =
      commonHeaderLength + serverHelloBodyLength := by
  unfold serverHelloSigned
  rw [List.length_append, length_serverHelloUnsigned, Block.length_val]
  rfl

theorem accept_eq_some_iff (c : Crypto) (clientHello : Bytes) (parameters : ServerHandshakeParameters)
    (identitySigningKey : SigningKey) (controllerVerifyingKey : VerifyingKey) (now : UInt64)
    (machine : ServerHelloSent) :
    ServerHelloSent.accept c clientHello parameters identitySigningKey controllerVerifyingKey now =
        some machine ↔
      (validateContext parameters.context = some () ∧
        validateLocalCredential c parameters.credential parameters.context identitySigningKey =
          some () ∧
        (parameters.serverNonce ≠ zeros 32 ∧ parameters.sessionId ≠ zeros 16 ∧
          parameters.serverTime ≠ 0) ∧
        parameters.ephemeralPrivateKey.publicKey c ≠ zeros 32) ∧
      ∃ parsed sharedSecret keys,
        parseClientHello c clientHello parameters.context controllerVerifyingKey now = some parsed ∧
        parameters.ephemeralPrivateKey.sharedSecret c parsed.ephemeralPublicKey = some sharedSecret ∧
        deriveHandshakeKeys c sharedSecret parameters.context.networkId parsed.clientNonce
          parameters.serverNonce (transcriptHash c helloTranscriptDomain
            [clientHello, serverHelloSigned c parameters identitySigningKey clientHello parsed]) =
          some keys ∧
        machine = {
          context := parameters.context
          encoded := serverHelloSigned c parameters identitySigningKey clientHello parsed
          clientHello := clientHello
          messageId := parsed.messageId
          sessionId := parameters.sessionId
          keys := keys } := by
  have hlength := fun parsed =>
    length_serverHelloSigned c parameters identitySigningKey clientHello parsed
  unfold serverHelloSigned serverHelloUnsigned at hlength
  unfold ServerHelloSent.accept serverHelloSigned serverHelloUnsigned
  rw [Option.bind_eq_bind, Option.bind_eq_some_iff]
  constructor
  · rintro ⟨_, hcontext, h⟩
    obtain ⟨_, hcredential, h⟩ := Option.bind_eq_some_iff.mp h
    split at h
    next => simp at h
    next hvalues =>
      simp only [not_or] at hvalues
      obtain ⟨parsed, hparsed, h⟩ := Option.bind_eq_some_iff.mp h
      dsimp only at h
      split at h
      next => simp at h
      next hpublic =>
        rw [encodeCommonHeader_eq (by decide), Option.bind_eq_bind, Option.bind_some] at h
        rw [if_neg (not_not.mpr (hlength parsed))] at h
        obtain ⟨sharedSecret, hshared, h⟩ := Option.bind_eq_some_iff.mp h
        obtain ⟨keys, hkeys, h⟩ := Option.bind_eq_some_iff.mp h
        exact ⟨⟨hcontext, hcredential, hvalues, hpublic⟩, parsed, sharedSecret, keys, hparsed, hshared,
          hkeys, (Option.some.inj h).symm⟩
  · rintro ⟨⟨hcontext, hcredential, hvalues, hpublic⟩, parsed, sharedSecret, keys, hparsed, hshared,
      hkeys, rfl⟩
    refine ⟨(), hcontext, ?_⟩
    rw [Option.bind_eq_bind, hcredential, Option.bind_some, if_neg (by simpa using hvalues),
      hparsed, Option.bind_some]
    dsimp only
    rw [if_neg hpublic, encodeCommonHeader_eq (by decide), Option.bind_eq_bind, Option.bind_some,
      if_neg (not_not.mpr (hlength parsed)), hshared, Option.bind_eq_bind, Option.bind_some]
    dsimp only at hkeys
    rw [hkeys, Option.bind_eq_bind, Option.bind_some]

/-- What a client has read of a `ServerHello` that it accepts. -/
theorem parseServerHello_eq_some {c : Crypto} {encoded clientHello : Bytes}
    {context : HandshakeContext} {clientNonce : Block 32} {controllerVerifyingKey : VerifyingKey}
    {now : UInt64} {parsed : ParsedServerHello}
    (h : parseServerHello c encoded context clientHello clientNonce controllerVerifyingKey now =
      some parsed) :
    field (encoded.drop commonHeaderLength) 0 16 = some context.networkId ∧
      field (encoded.drop commonHeaderLength) 16 16 = some context.peerNodeId ∧
      field (encoded.drop commonHeaderLength) 32 16 = some context.localNodeId ∧
      ∃ credential verified, field (encoded.drop commonHeaderLength) 204 200 = some credential ∧
        verifyPeerCredential c credential context controllerVerifyingKey now = some verified := by
  obtain ⟨messageId, _, h⟩ := Option.bind_eq_some_iff.mp h
  obtain ⟨expectedMessageId, _, h⟩ := Option.bind_eq_some_iff.mp h
  dsimp only at h
  obtain ⟨networkId, hnetwork, h⟩ := Option.bind_eq_some_iff.mp h
  obtain ⟨sourceNodeId, hsource, h⟩ := Option.bind_eq_some_iff.mp h
  obtain ⟨destinationNodeId, hdestination, h⟩ := Option.bind_eq_some_iff.mp h
  obtain ⟨echoedClientNonce, _, h⟩ := Option.bind_eq_some_iff.mp h
  obtain ⟨serverNonce, _, h⟩ := Option.bind_eq_some_iff.mp h
  obtain ⟨ephemeralPublicKey, _, h⟩ := Option.bind_eq_some_iff.mp h
  obtain ⟨clientHelloHash, _, h⟩ := Option.bind_eq_some_iff.mp h
  obtain ⟨sessionId, _, h⟩ := Option.bind_eq_some_iff.mp h
  obtain ⟨serverTime, _, h⟩ := Option.bind_eq_some_iff.mp h
  obtain ⟨suite, _, h⟩ := Option.bind_eq_some_iff.mp h
  obtain ⟨encodedCredentialLength, _, h⟩ := Option.bind_eq_some_iff.mp h
  obtain ⟨credential, hcredential, h⟩ := Option.bind_eq_some_iff.mp h
  split at h
  next => simp at h
  next hguard =>
    simp only [not_or, not_not] at hguard
    obtain ⟨_, hn, hs, hd, _⟩ := hguard
    obtain ⟨verified, hverified, _⟩ := Option.bind_eq_some_iff.mp h
    refine ⟨?_, ?_, ?_, credential, verified, hcredential, hverified⟩
    · rw [hnetwork, hn]
    · rw [hsource, hs]
    · rw [hdestination, hd]

end ServerHello

section Finish

/-- What a finish says in the clear. -/
def finishAad (messageType : UInt8) (messageId : UInt32) (sessionId : Block 16) : Bytes :=
  (commonHeader messageType finishBodyLength messageId).val ++ sessionId.val ++ (u64ToBe 0).val ++
    (u16ToBe 32).val ++ (u16ToBe 0).val

theorem length_finishAad (messageType : UInt8) (messageId : UInt32) (sessionId : Block 16) :
    (finishAad messageType messageId sessionId).length = commonHeaderLength + 28 := by
  simp [finishAad, commonHeaderLength]

theorem encodeFinish_eq (c : Crypto) (messageType : UInt8) (messageId : UInt32)
    (sessionId : Block 16) (key : Block 32) (nonceSalt : Block 4) (plaintext : Block 32) :
    encodeFinish c messageType messageId sessionId key nonceSalt plaintext =
      (c.encrypt key (finishNonce nonceSalt) (finishAad messageType messageId sessionId)
        plaintext.val).map fun (ciphertext, tag) =>
          finishAad messageType messageId sessionId ++ ciphertext ++ tag.val := by
  unfold encodeFinish finishAad
  rw [encodeCommonHeader_eq (by decide), Option.bind_eq_bind, Option.bind_some]
  simp only [List.append_assoc]
  cases c.encrypt key (finishNonce nonceSalt) _ plaintext.val with
  | none => rfl
  | some sealed => rfl

theorem decodeFinish_length {c : Crypto} {encoded : Bytes} {messageType : UInt8}
    {messageId : UInt32} {sessionId : Block 16} {key : Block 32} {nonceSalt : Block 4}
    {plaintext : Block 32}
    (h : decodeFinish c encoded messageType messageId sessionId key nonceSalt = some plaintext) :
    encoded.length = 16 + finishBodyLength := by
  obtain ⟨_, hheader, _⟩ := Option.bind_eq_some_iff.mp h
  exact parseCommonHeader_length hheader

/-- A finish is read for the message and the session it was made for, by decryption alone. -/
theorem decodeFinish_append (c : Crypto) (messageType : UInt8) (messageId expectedMessageId : UInt32)
    (sessionId expectedSessionId : Block 16) (key : Block 32) (nonceSalt : Block 4)
    {ciphertext : Bytes} (hlength : ciphertext.length = 32) (tag : Block 16) :
    decodeFinish c (finishAad messageType messageId sessionId ++ ciphertext ++ tag.val) messageType
        expectedMessageId expectedSessionId key nonceSalt =
      if messageId = expectedMessageId ∧ sessionId = expectedSessionId then
        (c.decrypt key (finishNonce nonceSalt) (finishAad messageType messageId sessionId) ciphertext
          tag).bind (array 32)
      else none := by
  have hhead : (finishAad messageType messageId sessionId ++ ciphertext ++ tag.val).take
      (commonHeaderLength + 28) = finishAad messageType messageId sessionId := by
    rw [List.append_assoc]
    exact List.take_left' (length_finishAad ..)
  have hbody : (finishAad messageType messageId sessionId ++ ciphertext ++ tag.val).drop
      commonHeaderLength = sessionId.val ++ ((u64ToBe 0).val ++ ((u16ToBe 32).val ++
        ((u16ToBe 0).val ++ (ciphertext ++ tag.val)))) := by
    unfold finishAad
    simp only [List.append_assoc]
    exact List.drop_left' (Block.length_val _)
  have hparse : parseCommonHeader (finishAad messageType messageId sessionId ++ ciphertext ++ tag.val)
      messageType finishBodyLength = some messageId := by
    unfold finishAad
    simp only [List.append_assoc]
    refine parseCommonHeader_append (by decide) messageType messageId ?_
    simp [hlength, finishBodyLength]
  have hlast : field tag.val 0 16 = some tag := by
    have := field_append_left tag []
    rwa [List.append_nil] at this
  have hzero : slice ((u16ToBe 0).val ++ (ciphertext ++ tag.val)) 0 2 = (zeros 2).val := by
    have hval : (u16ToBe 0).val = (zeros 2).val := by decide
    rw [hval]
    simp [slice]
  have hcipher : slice (ciphertext ++ tag.val) 0 32 = ciphertext := by
    unfold slice
    rw [List.take_left' hlength, List.drop_zero]
  unfold decodeFinish
  rw [hparse, hhead, hbody, Option.bind_eq_bind, Option.bind_some]
  simp only [field_append_right, field_append_left, slice_append_right, Block.length_val, hlength,
    Nat.reduceLeDiff, Nat.reduceSub, hlast, hzero, hcipher,
    Option.bind_eq_bind, Option.bind_some, u64FromBe_toBe, u16FromBe_toBe]
  by_cases hsame : messageId = expectedMessageId ∧ sessionId = expectedSessionId
  · rw [if_neg (by simp [hsame]), if_pos hsame]
  · rw [if_pos (by
      by_cases hm : messageId = expectedMessageId
      · exact Or.inr (Or.inl fun hs => hsame ⟨hm, hs⟩)
      · exact Or.inl hm), if_neg hsame]

end Finish

end XsNexus
