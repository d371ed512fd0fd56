import XsNexus.HandshakeLayout
import XsNexus.RelayFrame
import XsNexus.SealedDatagrams

namespace XsNexus

open ByteCodec MachineWords

/-- The ends of a path, as a relay tells them apart. -/
structure RelayRoute where
  networkId : Block 16
  sourceNodeId : Block 16
  destinationNodeId : Block 16
deriving DecidableEq

def RelayRoute.Valid (route : RelayRoute) : Prop :=
  route.networkId ≠ zeros 16 ∧ route.sourceNodeId ≠ zeros 16 ∧ route.destinationNodeId ≠ zeros 16 ∧
    route.sourceNodeId ≠ route.destinationNodeId

def RelayRoute.frame (route : RelayRoute) (relayId leaseId : Block 16) (sequence : UInt64)
    (payload : Bytes) : RelayFrame where
  networkId := route.networkId
  relayId := relayId
  sourceNodeId := route.sourceNodeId
  destinationNodeId := route.destinationNodeId
  leaseId := leaseId
  sequence := sequence
  payload := payload

/-- A relay takes the datagram for one of the route, whatever its length. -/
def Routable (route : RelayRoute) (datagram : Bytes) : Prop :=
  route.Valid ∧ ∀ relayId leaseId sequence,
    validateRelayPayload (route.frame relayId leaseId sequence datagram) = some ()

theorem HandshakeContext.valid_route {context : HandshakeContext}
    (h : validateContext context = some ()) :
    (RelayRoute.mk context.networkId context.localNodeId context.peerNodeId).Valid := by
  unfold validateContext at h
  split at h
  next => simp at h
  next hguard =>
    simp only [not_or] at hguard
    exact ⟨hguard.1, hguard.2.1, hguard.2.2.1, hguard.2.2.2.1⟩

section Handshake

variable {messageType : UInt8} {bodyLength : Nat} {messageId : UInt32} {body : Bytes}

theorem validateHandshakePayload_append (hbound : bodyLength < 2 ^ 32)
    (hbody : body.length = bodyLength) :
    validateHandshakePayload ((commonHeader messageType bodyLength messageId).val ++ body)
      bodyLength = some () := by
  have hlength : ((commonHeader messageType bodyLength messageId).val ++ body).length =
      commonHeaderLength + bodyLength := by
    rw [List.length_append, Block.length_val, hbody]
    rfl
  unfold validateHandshakePayload
  rw [hlength]
  unfold commonHeader
  simp only [List.append_assoc, magic, field_append_right, field_append_left, slice_append_right,
    Block.length_val, List.length_cons, List.length_nil, Nat.reduceLeDiff, Nat.reduceSub,
    Nat.reduceAdd]
  simpa [slice, zeros] using hbound

theorem long_enough : ¬((commonHeader messageType bodyLength messageId).val ++ body).length <
    commonHeaderLength := by
  rw [List.length_append, Block.length_val]
  unfold commonHeaderLength
  omega

/-- The fields of a body are where the relay looks for them. -/
theorem slice_of_field {i : Nat} {block : Block 16} (h : field body i 16 = some block) :
    slice ((commonHeader messageType bodyLength messageId).val ++ body) (16 + i) (32 + i) =
      block.val := by
  rw [slice_append_right (by simp), Block.length_val, Nat.add_sub_cancel_left]
  have hend : 32 + i - 16 = i + 16 := by omega
  rw [hend]
  exact (array_eq_some h).symm

/-- A hello names its route. -/
theorem routable_hello {route : RelayRoute} (hvalid : route.Valid)
    (htype : messageType = clientHelloType ∧ bodyLength = clientHelloBodyLength ∨
      messageType = serverHelloType ∧ bodyLength = serverHelloBodyLength)
    (hbody : body.length = bodyLength) (hnetwork : field body 0 16 = some route.networkId)
    (hsource : field body 16 16 = some route.sourceNodeId)
    (hdestination : field body 32 16 = some route.destinationNodeId) :
    Routable route ((commonHeader messageType bodyLength messageId).val ++ body) := by
  obtain ⟨hmagic, hversion, hat⟩ := commonHeader_magic messageType bodyLength messageId body
  refine ⟨hvalid, fun relayId leaseId sequence => ?_⟩
  have hvisible : validateVisibleRoute (route.frame relayId leaseId sequence
      ((commonHeader messageType bodyLength messageId).val ++ body)) = some () := by
    refine if_neg ?_
    simp only [not_or, not_not]
    exact ⟨slice_of_field hnetwork, slice_of_field hsource, slice_of_field hdestination⟩
  unfold validateRelayPayload
  simp only [RelayRoute.frame, hmagic, hversion, hat, long_enough, ne_eq, not_true_eq_false, or_self,
    if_false, Option.bind_eq_bind, Option.bind_some]
  unfold RelayRoute.frame at hvisible
  rcases htype with ⟨rfl, rfl⟩ | ⟨rfl, rfl⟩
  · rw [if_neg (by decide), if_pos rfl, validateHandshakePayload_append (by decide) hbody]
    exact hvisible
  · rw [if_neg (by decide), if_neg (by decide), if_pos rfl,
      validateHandshakePayload_append (by decide) hbody]
    exact hvisible

theorem routable_finish {route : RelayRoute} (hvalid : route.Valid)
    (htype : messageType = clientFinishType ∨ messageType = serverFinishType)
    (hbody : body.length = finishBodyLength) :
    Routable route ((commonHeader messageType finishBodyLength messageId).val ++ body) := by
  obtain ⟨hmagic, hversion, hat⟩ := commonHeader_magic messageType finishBodyLength messageId body
  refine ⟨hvalid, fun relayId leaseId sequence => ?_⟩
  unfold validateRelayPayload
  simp only [RelayRoute.frame, hmagic, hversion, hat, long_enough, ne_eq, not_true_eq_false, or_self,
    if_false, Option.bind_eq_bind, Option.bind_some]
  rcases htype with rfl | rfl
  · rw [if_neg (by decide), if_neg (by decide), if_neg (by decide), if_pos (by decide)]
    exact validateHandshakePayload_append (by decide) hbody
  · rw [if_neg (by decide), if_neg (by decide), if_neg (by decide), if_pos (by decide)]
    exact validateHandshakePayload_append (by decide) hbody

end Handshake

/-- A data packet names its route in its header. -/
theorem routable_data {route : RelayRoute} (hvalid : route.Valid) {header : DataHeader}
    (hflags : validFlags header.packetType header.flags = true)
    (hnetwork : header.networkId = route.networkId) (hsource : header.sourceNodeId = route.sourceNodeId)
    (hdestination : header.destinationNodeId = route.destinationNodeId) {sealed : Bytes}
    (hlength : sealed.length = header.payloadLength.toNat + dataTagLength) :
    Routable route (header.encode ++ sealed) := by
  have hparse := DataHeader.parse_encode header hflags sealed
  have htotal : (header.encode ++ sealed).length =
      dataHeaderLength + header.payloadLength.toNat + dataTagLength := by
    rw [List.length_append, DataHeader.length_encode, hlength]
    omega
  have hshort : ¬(header.encode ++ sealed).length < commonHeaderLength := by
    rw [htotal]
    unfold dataHeaderLength commonHeaderLength
    omega
  have hmagic : slice (header.encode ++ sealed) 0 4 = magic := by
    simp [DataHeader.encode, magic, slice]
  have hversion : (header.encode ++ sealed)[4]? = some 1 := by
    simp [DataHeader.encode, magic, version]
  have htype : (header.encode ++ sealed)[5]? = some header.packetType.toByte := by
    simp [DataHeader.encode, magic]
  refine ⟨hvalid, fun relayId leaseId sequence => ?_⟩
  unfold validateRelayPayload
  simp only [RelayRoute.frame, hmagic, hversion, htype, hshort, ne_eq, not_true_eq_false, or_self,
    if_false, Option.bind_eq_bind, Option.bind_some]
  rw [if_pos (by cases header.packetType <;> decide)]
  unfold validateDataPayload
  simp only [hparse, Option.bind_eq_bind, Option.bind_some, htotal, hnetwork, hsource, hdestination,
    ne_eq, not_true_eq_false, or_self, if_false]

/-- A relay carries a datagram of its route exactly if the frame around it is no longer than a frame
may be. -/
theorem encodeRelayFrame_isSome {route : RelayRoute} {relayId leaseId : Block 16} {payload : Bytes}
    (h : Routable route payload) (hrelay : relayId ≠ zeros 16) (hlease : leaseId ≠ zeros 16)
    (sequence : UInt64) :
    (∃ encoded, encodeRelayFrame (route.frame relayId leaseId sequence payload) = some encoded ∧
        encoded.length ≤ relayMaxFrameLength) ↔
      payload.length ≤ relayMaxFrameLength - relayFrameHeaderLength := by
  obtain ⟨⟨hnetwork, hsource, hdestination, hdistinct⟩, hpayload⟩ := h
  have hvalid := hpayload relayId leaseId sequence
  have hne : payload.isEmpty = false := by
    cases payload with
    | nil => simp [validateRelayPayload, RelayRoute.frame, commonHeaderLength] at hvalid
    | cons _ _ => rfl
  unfold encodeRelayFrame
  constructor
  · rintro ⟨encoded, hencoded, _⟩
    split at hencoded
    next => simp at hencoded
    next hguard =>
      simp only [not_or, not_lt] at hguard
      exact hguard.2.2.2.2.2.2.2
  · intro hlength
    have hguard : ¬((route.frame relayId leaseId sequence payload).networkId = zeros 16 ∨
        (route.frame relayId leaseId sequence payload).relayId = zeros 16 ∨
        (route.frame relayId leaseId sequence payload).sourceNodeId = zeros 16 ∨
        (route.frame relayId leaseId sequence payload).destinationNodeId = zeros 16 ∨
        (route.frame relayId leaseId sequence payload).sourceNodeId =
          (route.frame relayId leaseId sequence payload).destinationNodeId ∨
        (route.frame relayId leaseId sequence payload).leaseId = zeros 16 ∨
        (route.frame relayId leaseId sequence payload).payload.isEmpty = true ∨
        (route.frame relayId leaseId sequence payload).payload.length >
          relayMaxFrameLength - relayFrameHeaderLength) := by
      simp only [not_or, not_lt]
      exact ⟨hnetwork, hrelay, hsource, hdestination, hdistinct, hlease, by simp [RelayRoute.frame, hne],
        hlength⟩
    have hfits : ¬(route.frame relayId leaseId sequence payload).payload.length ≥ 2 ^ 16 := by
      show ¬payload.length ≥ 2 ^ 16
      unfold relayMaxFrameLength relayFrameHeaderLength at hlength
      omega
    rw [if_neg hguard, hvalid, Option.bind_eq_bind, Option.bind_some, if_neg hfits]
    refine ⟨_, rfl, ?_⟩
    simp only [List.length_append, Block.length_val, RelayRoute.frame]
    unfold relayMaxFrameLength relayFrameHeaderLength at *
    omega

section Machines

variable {c : Crypto}

/-- Every `ClientHello` is one for a relay. -/
theorem ClientHelloSent.start_routable {parameters : ClientHandshakeParameters}
    {identitySigningKey : SigningKey} {machine : ClientHelloSent}
    (h : ClientHelloSent.start c parameters identitySigningKey = some machine) :
    machine.context = parameters.context ∧
      Routable ⟨parameters.context.networkId, parameters.context.localNodeId,
        parameters.context.peerNodeId⟩ machine.encoded ∧
      machine.encoded.length = commonHeaderLength + clientHelloBodyLength := by
  obtain ⟨⟨hcontext, _⟩, rfl⟩ := (start_eq_some_iff c parameters identitySigningKey machine).mp h
  refine ⟨rfl, ?_, length_clientHelloSigned c parameters identitySigningKey⟩
  have hlength := length_clientHelloSigned c parameters identitySigningKey
  have hbody := clientHelloBody parameters (parameters.ephemeralPrivateKey.publicKey c)
    (c.sign identitySigningKey (clientAuthDomain ++ clientHelloUnsigned parameters
      (parameters.ephemeralPrivateKey.publicKey c)))
  obtain ⟨rest, hrest⟩ : ∃ rest, clientHelloSigned c parameters identitySigningKey =
      (commonHeader clientHelloType clientHelloBodyLength parameters.messageId).val ++ rest := by
    unfold clientHelloSigned clientHelloUnsigned
    simp only [List.append_assoc]
    exact ⟨_, rfl⟩
  have hdrop : (clientHelloSigned c parameters identitySigningKey).drop commonHeaderLength = rest := by
    rw [hrest]
    exact List.drop_left' (Block.length_val _)
  unfold clientHelloSigned at hdrop
  rw [hdrop] at hbody
  show Routable _ (clientHelloSigned c parameters identitySigningKey)
  rw [hrest, List.length_append, Block.length_val] at hlength
  rw [hrest]
  refine routable_hello (HandshakeContext.valid_route hcontext) (Or.inl ⟨rfl, rfl⟩) ?_
    hbody.networkId hbody.sourceNodeId hbody.destinationNodeId
  unfold commonHeaderLength at hlength
  omega

theorem ServerHelloSent.accept_routable {clientHello : Bytes} {parameters : ServerHandshakeParameters}
    {identitySigningKey : SigningKey} {controllerVerifyingKey : VerifyingKey} {now : UInt64}
    {machine : ServerHelloSent}
    (h : ServerHelloSent.accept c clientHello parameters identitySigningKey controllerVerifyingKey now =
      some machine) :
    machine.context = parameters.context ∧
      Routable ⟨parameters.context.networkId, parameters.context.localNodeId,
        parameters.context.peerNodeId⟩ machine.encoded ∧
      machine.encoded.length = commonHeaderLength + serverHelloBodyLength := by
  obtain ⟨⟨hcontext, _⟩, parsed, _, _, _, _, _, rfl⟩ := (accept_eq_some_iff c clientHello parameters
    identitySigningKey controllerVerifyingKey now machine).mp h
  have hlength := length_serverHelloSigned c parameters identitySigningKey clientHello parsed
  refine ⟨rfl, ?_, hlength⟩
  have hbody := serverHelloBody parameters parsed.messageId parsed.clientNonce
    (parameters.ephemeralPrivateKey.publicKey c) (c.sha256 clientHello)
    (c.sign identitySigningKey (serverAuthDomain ++ (c.sha256 clientHello).val ++
      serverHelloUnsigned parameters parsed.messageId parsed.clientNonce
        (parameters.ephemeralPrivateKey.publicKey c) (c.sha256 clientHello)))
  obtain ⟨rest, hrest⟩ : ∃ rest,
      serverHelloSigned c parameters identitySigningKey clientHello parsed =
        (commonHeader serverHelloType serverHelloBodyLength parsed.messageId).val ++ rest := by
    unfold serverHelloSigned serverHelloUnsigned
    simp only [List.append_assoc]
    exact ⟨_, rfl⟩
  have hdrop : (serverHelloSigned c parameters identitySigningKey clientHello parsed).drop
      commonHeaderLength = rest := by
    rw [hrest]
    exact List.drop_left' (Block.length_val _)
  unfold serverHelloSigned at hdrop
  rw [hdrop] at hbody
  show Routable _ (serverHelloSigned c parameters identitySigningKey clientHello parsed)
  rw [hrest, List.length_append, Block.length_val] at hlength
  rw [hrest]
  refine routable_hello (HandshakeContext.valid_route hcontext) (Or.inr ⟨rfl, rfl⟩) ?_
    hbody.networkId hbody.sourceNodeId hbody.destinationNodeId
  unfold commonHeaderLength at hlength
  omega

theorem encodeFinish_routable (haead : AeadCorrect c) {route : RelayRoute} (hvalid : route.Valid)
    {messageType : UInt8} (htype : messageType = clientFinishType ∨ messageType = serverFinishType)
    {messageId : UInt32} {sessionId : Block 16} {key : Block 32} {nonceSalt : Block 4}
    {plaintext : Block 32} {encoded : Bytes}
    (h : encodeFinish c messageType messageId sessionId key nonceSalt plaintext = some encoded) :
    Routable route encoded ∧ encoded.length = commonHeaderLength + finishBodyLength := by
  rw [encodeFinish_eq] at h
  obtain ⟨⟨ciphertext, tag⟩, hencrypt, rfl⟩ := Option.map_eq_some_iff.mp h
  have hciphertext : ciphertext.length = 32 := by
    rw [haead.length hencrypt, Block.length_val]
  dsimp only
  refine ⟨?_, ?_⟩
  · unfold finishAad
    simp only [List.append_assoc]
    refine routable_finish hvalid htype ?_
    simp [hciphertext, finishBodyLength]
  · simp only [List.length_append, length_finishAad, hciphertext, Block.length_val]
    rfl

/-- What a sender seals is for the relay it stands at, and 112 bytes longer than what it carries. -/
theorem sealPacket_routable (haead : AeadCorrect c) {s s' : DataSender} {packetType : PacketType}
    {flags : DataFlags} {pathId : UInt32} {plaintext datagram : Bytes}
    (hvalid : (RelayRoute.mk s.networkId s.sourceNodeId s.destinationNodeId).Valid)
    (h : s.sealPacket c packetType flags pathId plaintext = (some datagram, s')) :
    Routable ⟨s.networkId, s.sourceNodeId, s.destinationNodeId⟩ datagram ∧
      datagram.length = dataHeaderLength + plaintext.length + dataTagLength := by
  unfold DataSender.sealPacket at h
  split at h
  next => simp at h
  next hguard =>
    simp only [not_or, Bool.not_eq_true', Bool.not_eq_false, not_lt] at hguard
    split at h
    next => simp at h
    next =>
      split at h
      next => simp at h
      next hfits =>
        dsimp only at h
        split at h
        next => simp at h
        next ciphertext tag hencrypt =>
          split at h
          next => simp at h
          next =>
            obtain ⟨hdatagram, _⟩ := Prod.mk.inj h
            rw [← Option.some.inj hdatagram, List.append_assoc]
            have hround : (UInt16.ofNat plaintext.length).toNat = plaintext.length := by
              rw [UInt16.toNat_ofNat']
              omega
            have hciphertext := haead.length hencrypt
            refine ⟨routable_data hvalid hguard.1 rfl rfl rfl ?_, ?_⟩
            · rw [List.length_append, hciphertext, Block.length_val]
              exact congrArg (fun n => n + 16) hround.symm
            · rw [List.length_append, DataHeader.length_encode, List.length_append, hciphertext,
                Block.length_val, Nat.add_assoc]
              rfl

end Machines

end XsNexus
