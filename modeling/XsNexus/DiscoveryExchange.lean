import Mathlib.Data.Set.Function
import XsNexus.ObservedEndpoints

namespace XsNexus

open ByteCodec MachineWords

/-- Ed25519 verifies what it signs, and nothing else is a signature of a key that stays with its owner. -/
structure SignaturesHold (c : Crypto) : Prop where
  fromBytes : ∀ key, c.verifyingKeyFromBytes (c.verifyingKey key).bytes = some (c.verifyingKey key)
  verifies : ∀ key message, c.verifyStrict (c.verifyingKey key) message (c.sign key message) = true
  unforged : ∀ key message signature,
    c.verifyStrict (c.verifyingKey key) message signature = true → signature = c.sign key message

namespace DiscoveryRequest

variable {c : Crypto} {networkId nodeId requestId : Block 16} {clientTime : UInt64} {credential : Block 200}
  {identity : SigningKey} {request : DiscoveryRequest}

/-- The fields of a request are where the server reads them. -/
structure Laid (c : Crypto) (clientTime : UInt64) (credential : Block 200) (identity : SigningKey)
    (request : DiscoveryRequest) : Prop where
  header : validDiscoveryHeader request.encoded.val 1 discoveryRequestLength = true
  networkId : field request.encoded.val 12 16 = some request.networkId
  nodeId : field request.encoded.val 28 16 = some request.nodeId
  requestId : field request.encoded.val 44 16 = some request.requestId
  clientTime : field request.encoded.val 60 8 = some (u64ToBe clientTime)
  credentialLength : field request.encoded.val 68 2 = some (u16ToBe 200)
  credential : slice request.encoded.val 70 270 = credential.val
  signature : field request.encoded.val 270 64 =
    some (c.sign identity (discoveryRequestDomain ++ request.encoded.val.take 270))

theorem new_laid (h : new c networkId nodeId requestId clientTime credential identity = some request) :
    Laid c clientTime credential identity request ∧
      (request.networkId = networkId ∧ request.nodeId = nodeId ∧ request.requestId = requestId) ∧
      ¬(networkId = zeros 16 ∨ nodeId = zeros 16 ∨ requestId = zeros 16 ∨ clientTime = 0 ∨
        nodeId ≠ XsNexus.nodeId c (c.verifyingKey identity).bytes) := by
  unfold new at h
  split at h
  next => simp at h
  next hguard =>
    have heq := Option.some.inj h
    obtain ⟨signed, hsigned⟩ : ∃ signed : Block 270, signed.val = (encodeDiscoveryHeader 1 334).val ++
        (networkId.val ++ (nodeId.val ++ (requestId.val ++ ((u64ToBe clientTime).val ++
          ((u16ToBe 200).val ++ credential.val))))) := ⟨⟨_, by simp⟩, rfl⟩
    have hencoded : request.encoded.val =
        signed.val ++ (c.sign identity (discoveryRequestDomain ++ signed.val)).val := by
      rw [← heq, hsigned]
      simp only [List.append_assoc]
    have hnames : request.networkId = networkId ∧ request.nodeId = nodeId ∧ request.requestId = requestId := by
      rw [← heq]
      exact ⟨rfl, rfl, rfl⟩
    refine ⟨?_, hnames, hguard⟩
    obtain ⟨hnetwork, hnode, hid⟩ := hnames
    have hfield : ∀ {i n : Nat}, i + n ≤ 270 → field request.encoded.val i n = field signed.val i n := by
      intro i n hle
      rw [hencoded]
      exact field_append_of_le (by rwa [Block.length_val])
    have htake : request.encoded.val.take 270 = signed.val := by
      rw [hencoded]
      exact List.take_left' signed.property
    refine ⟨?_, ?_, ?_, ?_, ?_, ?_, ?_, ?_⟩
    · rw [hencoded, hsigned, List.append_assoc]
      exact @validDiscoveryHeader_encode 1 334 _ (by simp)
    · rw [hfield (by omega), hsigned, hnetwork]
      simp (disch := simp) only [field_append_right, field_append_left, Block.length_val, Nat.reduceSub]
    · rw [hfield (by omega), hsigned, hnode]
      simp (disch := simp) only [field_append_right, field_append_left, Block.length_val, Nat.reduceSub]
    · rw [hfield (by omega), hsigned, hid]
      simp (disch := simp) only [field_append_right, field_append_left, Block.length_val, Nat.reduceSub]
    · rw [hfield (by omega), hsigned]
      simp (disch := simp) only [field_append_right, field_append_left, Block.length_val, Nat.reduceSub]
    · rw [hfield (by omega), hsigned]
      simp (disch := simp) only [field_append_right, field_append_left, Block.length_val, Nat.reduceSub]
    · have hcredential : field request.encoded.val 70 200 = some credential := by
        rw [hfield (by omega), hsigned]
        simp (disch := simp) only [field_append_right, field_self, Block.length_val, Nat.reduceSub]
      exact (field_eq_some hcredential).symm
    · rw [htake, hencoded, field_append_right (by rw [Block.length_val]), Block.length_val, Nat.sub_self,
        field_self]

/-- The server verifies a request within the window and reads the fields it was built from. -/
theorem verify_new (hc : SignaturesHold c) {key : VerifyingKey} {now : UInt64} {claims : VerifiedCredential}
    (h : new c networkId nodeId requestId clientTime credential identity = some request)
    (hclaims : verifyCredential c credential.val key now = some claims)
    (hnetwork : claims.networkId = networkId) (hnode : claims.nodeId = nodeId)
    (hidentity : claims.identityPublicKey = (c.verifyingKey identity).bytes)
    (hfresh : timeIsFresh clientTime now = true) :
    verifyDiscoveryRequest c request.encoded.val key now = some {
      networkId := networkId
      nodeId := nodeId
      identityPublicKey := (c.verifyingKey identity).bytes
      credentialSerial := claims.serial
      requestId := requestId
      requestHash := c.sha256 request.encoded.val } := by
  obtain ⟨hlaid, ⟨hn, hd, hr⟩, hguard⟩ := new_laid h
  simp only [not_or, not_not] at hguard
  obtain ⟨hn0, hd0, hr0, ht0, hid⟩ := hguard
  have hlength : (200 : UInt16).toNat = XsNexus.credentialLength := rfl
  unfold verifyDiscoveryRequest
  simp only [hlaid.header, hlaid.networkId, hlaid.nodeId, hlaid.requestId, hlaid.clientTime,
    hlaid.credentialLength, hlaid.credential, hlaid.signature, hn, hd, hr, hn0, hd0, hr0, ht0, hclaims, hnetwork,
    hnode, hidentity, ← hid, hfresh, hlength, hc.fromBytes, hc.verifies, u64FromBe_toBe, u16FromBe_toBe,
    Bool.not_true, Bool.false_eq_true, if_false, Option.bind_eq_bind, Option.bind_some, or_self, ne_eq,
    not_true_eq_false]

/-- What the server reads of a request is what the client sent. -/
theorem verified_fields {key : VerifyingKey} {now : UInt64} {verified : VerifiedDiscoveryRequest}
    (h : new c networkId nodeId requestId clientTime credential identity = some request)
    (hverified : verifyDiscoveryRequest c request.encoded.val key now = some verified) :
    verified.networkId = request.networkId ∧ verified.nodeId = request.nodeId ∧
      verified.requestId = request.requestId ∧ verified.requestHash = c.sha256 request.encoded.val := by
  obtain ⟨hlaid, _, _⟩ := new_laid h
  unfold verifyDiscoveryRequest at hverified
  rw [hlaid.networkId, hlaid.nodeId, hlaid.requestId, hlaid.clientTime, hlaid.credentialLength] at hverified
  simp only [Option.bind_eq_bind, Option.bind_some] at hverified
  split at hverified
  next => simp at hverified
  split at hverified
  next => simp at hverified
  next =>
    obtain ⟨claims, _, hverified⟩ := Option.bind_eq_some_iff.mp hverified
    split at hverified
    next => simp at hverified
    next =>
      obtain ⟨verifyingKey, _, hverified⟩ := Option.bind_eq_some_iff.mp hverified
      obtain ⟨signature, _, hverified⟩ := Option.bind_eq_some_iff.mp hverified
      split at hverified
      next => simp at hverified
      next =>
        cases Option.some.inj hverified
        exact ⟨rfl, rfl, rfl, rfl⟩

end DiscoveryRequest

/-- What the Controller signs in the response to a request. -/
def signedResponse (c : Crypto) (request : DiscoveryRequest) (serverTime : UInt64) (endpoint : SocketAddr) :
    Block 124 :=
  ⟨(encodeDiscoveryHeader 2 188).val ++ request.networkId.val ++ request.nodeId.val ++
    request.requestId.val ++ (u64ToBe serverTime).val ++ (encodeObservedEndpoint endpoint).val ++
    (c.sha256 request.encoded.val).val, by simp⟩

theorem signedResponse_unscoped (c : Crypto) (request : DiscoveryRequest) (serverTime : UInt64)
    (endpoint : SocketAddr) :
    signedResponse c request serverTime endpoint.unscoped = signedResponse c request serverTime endpoint := by
  cases endpoint <;> rfl

section Responses

variable {c : Crypto} {request : DiscoveryRequest} {encoded : Bytes} {key : VerifyingKey} {now serverTime : UInt64}
  {endpoint : SocketAddr}

theorem signedResponse_fields (signature : Block 64) :
    let encoded := (signedResponse c request serverTime endpoint).val ++ signature.val
    validDiscoveryHeader encoded 2 discoveryResponseLength = true ∧
      field encoded 12 16 = some request.networkId ∧ field encoded 28 16 = some request.nodeId ∧
      field encoded 44 16 = some request.requestId ∧ field encoded 60 8 = some (u64ToBe serverTime) ∧
      field encoded 68 24 = some (encodeObservedEndpoint endpoint) ∧
      field encoded 92 32 = some (c.sha256 request.encoded.val) ∧ field encoded 124 64 = some signature ∧
      encoded.take 124 = (signedResponse c request serverTime endpoint).val := by
  intro encoded
  have hbytes : encoded = (encodeDiscoveryHeader 2 188).val ++ (request.networkId.val ++ (request.nodeId.val ++
      (request.requestId.val ++ ((u64ToBe serverTime).val ++ ((encodeObservedEndpoint endpoint).val ++
        ((c.sha256 request.encoded.val).val ++ signature.val)))))) := by
    show (encodeDiscoveryHeader 2 188).val ++ request.networkId.val ++ request.nodeId.val ++
      request.requestId.val ++ (u64ToBe serverTime).val ++ (encodeObservedEndpoint endpoint).val ++
      (c.sha256 request.encoded.val).val ++ signature.val = _
    simp only [List.append_assoc]
  refine ⟨?_, ?_, ?_, ?_, ?_, ?_, ?_, ?_, ?_⟩
  · rw [hbytes]
    exact @validDiscoveryHeader_encode 2 188 _ (by simp)
  · rw [hbytes]
    simp (disch := simp) only [field_append_right, field_append_left, Block.length_val, Nat.reduceSub]
  · rw [hbytes]
    simp (disch := simp) only [field_append_right, field_append_left, Block.length_val, Nat.reduceSub]
  · rw [hbytes]
    simp (disch := simp) only [field_append_right, field_append_left, Block.length_val, Nat.reduceSub]
  · rw [hbytes]
    simp (disch := simp) only [field_append_right, field_append_left, Block.length_val, Nat.reduceSub]
  · rw [hbytes]
    simp (disch := simp) only [field_append_right, field_append_left, Block.length_val, Nat.reduceSub]
  · rw [hbytes]
    simp (disch := simp) only [field_append_right, field_append_left, Block.length_val, Nat.reduceSub]
  · rw [hbytes]
    simp (disch := simp) only [field_append_right, field_self, Block.length_val, Nat.reduceSub]
  · exact List.take_left' (signedResponse c request serverTime endpoint).property

/-- The responses that a request accepts are those signed over its identifiers, its hash, and the time and
the endpoint they come to. -/
theorem verifyDiscoveryResponse_iff {result : VerifiedDiscoveryResponse} :
    verifyDiscoveryResponse c encoded request key now = some result ↔
      ∃ signature : Block 64,
        encoded = (signedResponse c request result.serverTime result.observedEndpoint).val ++ signature.val ∧
        timeIsFresh result.serverTime now = true ∧ validObservedEndpoint result.observedEndpoint = true ∧
        result.observedEndpoint.unscoped = result.observedEndpoint ∧
        c.verifyStrict key (discoveryResponseDomain ++
          (signedResponse c request result.serverTime result.observedEndpoint).val) signature = true := by
  constructor
  · intro h
    unfold verifyDiscoveryResponse at h
    split at h
    next => simp at h
    next hheader =>
      obtain ⟨networkId, hnetwork, h⟩ := Option.bind_eq_some_iff.mp h
      obtain ⟨nodeId, hnode, h⟩ := Option.bind_eq_some_iff.mp h
      obtain ⟨requestId, hid, h⟩ := Option.bind_eq_some_iff.mp h
      obtain ⟨time, htime, h⟩ := Option.bind_eq_some_iff.mp h
      obtain ⟨bytes, hbytes, h⟩ := Option.bind_eq_some_iff.mp h
      obtain ⟨observed, hobserved, h⟩ := Option.bind_eq_some_iff.mp h
      obtain ⟨hash, hhash, h⟩ := Option.bind_eq_some_iff.mp h
      split at h
      next => simp at h
      next hguard =>
        obtain ⟨signature, hsignature, h⟩ := Option.bind_eq_some_iff.mp h
        split at h
        next => simp at h
        next hverified =>
          cases Option.some.inj h
          simp only [not_or, not_not, Bool.not_eq_true, Bool.not_eq_false'] at hguard hheader hverified
          obtain ⟨hsame, hsameNode, hsameId, hsameHash, hfresh, hvalid⟩ := hguard
          have hlength : encoded.length = 188 := by
            unfold validDiscoveryHeader at hheader
            simp only [Bool.and_eq_true, decide_eq_true_eq] at hheader
            exact hheader.1.1.1.1.1.1
          have hstart := @encodeDiscoveryHeader_of_valid _ _ 188 hheader
          have hencoded := encode_decodeObservedEndpoint hobserved
          have hsigned : (signedResponse c request (u64FromBe time) observed).val = encoded.take 124 := by
            show (encodeDiscoveryHeader 2 188).val ++ request.networkId.val ++ request.nodeId.val ++
              request.requestId.val ++ (u64ToBe (u64FromBe time)).val ++ (encodeObservedEndpoint observed).val ++
              (c.sha256 request.encoded.val).val = _
            rw [hstart, ← hsame, ← hsameNode, ← hsameId, ← hsameHash, hencoded, u64ToBe_fromBe,
              field_eq_some hnetwork, field_eq_some hnode, field_eq_some hid, field_eq_some htime,
              field_eq_some hbytes, field_eq_some hhash]
            simp (disch := omega) only [Nat.reduceAdd, slice_append_slice]
            exact take_slice encoded 124
          have hlast : signature.val = encoded.drop 124 := by
            rw [field_eq_some hsignature, slice, List.take_of_length_le (by omega)]
          refine ⟨signature, ?_, hfresh, hvalid, ?_, ?_⟩
          · show encoded = (signedResponse c request (u64FromBe time) observed).val ++ signature.val
            rw [hsigned, hlast, List.take_append_drop]
          · have hround := decode_encodeObservedEndpoint observed
            rw [hencoded, hobserved] at hround
            exact (Option.some.inj hround).symm
          · show c.verifyStrict key (discoveryResponseDomain ++
              (signedResponse c request (u64FromBe time) observed).val) signature = true
            rw [hsigned]
            exact hverified
  · rintro ⟨signature, rfl, hfresh, hvalid, hplain, hverified⟩
    obtain ⟨hheader, hnetwork, hnode, hid, htime, hbytes, hhash, hsignature, htake⟩ :=
      @signedResponse_fields c request result.serverTime result.observedEndpoint signature
    unfold verifyDiscoveryResponse
    simp only [hheader, hnetwork, hnode, hid, htime, hbytes, hhash, hsignature, htake, hfresh, hverified,
      decode_encodeObservedEndpoint, hplain, hvalid, u64FromBe_toBe, Bool.not_true, Bool.false_eq_true, if_false,
      Option.bind_eq_bind, Option.bind_some, or_self, ne_eq, not_true_eq_false]

theorem discoveryResponse_eq {verified : VerifiedDiscoveryRequest} {signingKey : SigningKey}
    (hnetwork : verified.networkId = request.networkId) (hnode : verified.nodeId = request.nodeId)
    (hid : verified.requestId = request.requestId)
    (hhash : verified.requestHash = c.sha256 request.encoded.val) :
    (discoveryResponse c verified endpoint serverTime signingKey).map Subtype.val =
      if serverTime = 0 ∨ !validObservedEndpoint endpoint then none
      else some ((signedResponse c request serverTime endpoint).val ++
        (c.sign signingKey
          (discoveryResponseDomain ++ (signedResponse c request serverTime endpoint).val)).val) := by
  unfold discoveryResponse
  split
  next => rfl
  next =>
    simp only [Option.map_some, hnetwork, hnode, hid, hhash]
    rfl

end Responses

/-- A request verifies to its fields, the response to it comes to the endpoint and the time it was made
from, and it is accepted for no other request. Endpoints that are valid observations and responses that are
accepted have one encoding each. -/
theorem discovery_exchange {c : Crypto} (hc : SignaturesHold c) {hashed : Set Bytes}
    (hsha : Set.InjOn c.sha256 hashed) :
    (∀ networkId nodeId requestId clientTime (credential : Block 200) identity request key now claims,
      DiscoveryRequest.new c networkId nodeId requestId clientTime credential identity = some request →
      verifyCredential c credential.val key now = some claims → claims.networkId = networkId →
      claims.nodeId = nodeId → claims.identityPublicKey = (c.verifyingKey identity).bytes →
      timeIsFresh clientTime now = true →
      verifyDiscoveryRequest c request.encoded.val key now = some {
        networkId := networkId
        nodeId := nodeId
        identityPublicKey := (c.verifyingKey identity).bytes
        credentialSerial := claims.serial
        requestId := requestId
        requestHash := c.sha256 request.encoded.val }) ∧
    (∀ networkId nodeId requestId clientTime (credential : Block 200) identity request key time verified,
      DiscoveryRequest.new c networkId nodeId requestId clientTime credential identity = some request →
      verifyDiscoveryRequest c request.encoded.val key time = some verified →
      (∀ endpoint serverTime signingKey now, validObservedEndpoint endpoint = true → serverTime ≠ 0 →
        timeIsFresh serverTime now = true →
        ∃ response result, discoveryResponse c verified endpoint serverTime signingKey = some response ∧
          verifyDiscoveryResponse c response.val request (c.verifyingKey signingKey) now = some result ∧
          result.observedEndpoint.ip = endpoint.ip ∧ result.observedEndpoint.port = endpoint.port ∧
          result.serverTime = serverTime) ∧
      ∀ endpoint serverTime signingKey response other otherKey now result,
        request.encoded.val ∈ hashed → other.encoded.val ∈ hashed →
        discoveryResponse c verified endpoint serverTime signingKey = some response →
        verifyDiscoveryResponse c response.val other otherKey now = some result →
        other.encoded = request.encoded) ∧
    (∀ encoded endpoint, decodeObservedEndpoint encoded = some endpoint →
      validObservedEndpoint endpoint = true → encodeEndpoint endpoint = some encoded) ∧
    (∀ endpoint encoded, encodeEndpoint endpoint = some encoded →
      ∃ decoded, decodeObservedEndpoint encoded = some decoded ∧ decoded.ip = endpoint.ip ∧
        decoded.port = endpoint.port) ∧
    (∀ request signingKey encoded other now later result,
      verifyDiscoveryResponse c encoded request (c.verifyingKey signingKey) now = some result →
      verifyDiscoveryResponse c other request (c.verifyingKey signingKey) later = some result →
      encoded = other) := by
  refine ⟨?_, ?_, ?_, ?_, ?_⟩
  · intro networkId nodeId requestId clientTime credential identity request key now claims hnew hclaims hnetwork
      hnode hidentity hfresh
    exact DiscoveryRequest.verify_new hc hnew hclaims hnetwork hnode hidentity hfresh
  · intro networkId nodeId requestId clientTime credential identity request key time verified hnew hverified
    obtain ⟨hnetwork, hnode, hid, hhash⟩ := DiscoveryRequest.verified_fields hnew hverified
    refine ⟨?_, ?_⟩
    · intro endpoint serverTime signingKey now hvalid htime hfresh
      have hresponse := @discoveryResponse_eq c request serverTime endpoint verified signingKey hnetwork hnode
        hid hhash
      rw [if_neg (by simp [htime, hvalid])] at hresponse
      obtain ⟨response, hsome, hbytes⟩ := Option.map_eq_some_iff.mp hresponse
      refine ⟨response, ⟨endpoint.unscoped, serverTime⟩, hsome, ?_, endpoint.ip_unscoped, endpoint.port_unscoped,
        rfl⟩
      rw [verifyDiscoveryResponse_iff]
      refine ⟨_, ?_, hfresh, ?_, ?_, hc.verifies signingKey _⟩
      · rw [hbytes, signedResponse_unscoped]
      · exact (validObservedEndpoint_unscoped endpoint).trans hvalid
      · cases endpoint <;> rfl
    · intro endpoint serverTime signingKey response other otherKey now result hin hother hsome haccepted
      have hresponse := @discoveryResponse_eq c request serverTime endpoint verified signingKey hnetwork hnode
        hid hhash
      rw [hsome] at hresponse
      split at hresponse
      next => simp at hresponse
      next =>
        have hbytes := Option.some.inj hresponse
        obtain ⟨signature, hencoded, _⟩ := verifyDiscoveryResponse_iff.mp haccepted
        have hmade := @signedResponse_fields c request serverTime endpoint
          (c.sign signingKey
            (discoveryResponseDomain ++ (signedResponse c request serverTime endpoint).val))
        have hread := @signedResponse_fields c other result.serverTime result.observedEndpoint signature
        have hsame : c.sha256 request.encoded.val = c.sha256 other.encoded.val := by
          have hfirst := hmade.2.2.2.2.2.2.1
          have hsecond := hread.2.2.2.2.2.2.1
          rw [← hencoded] at hsecond
          rw [← hbytes, hsecond] at hfirst
          exact (Option.some.inj hfirst).symm
        exact Subtype.ext (hsha hother hin hsame.symm)
  · intro encoded endpoint hdecoded hvalid
    rw [encodeEndpoint, hvalid, encode_decodeObservedEndpoint hdecoded]
    rfl
  · intro endpoint encoded hencoded
    unfold encodeEndpoint at hencoded
    split at hencoded
    next => simp at hencoded
    next =>
      cases Option.some.inj hencoded
      exact ⟨_, decode_encodeObservedEndpoint endpoint, endpoint.ip_unscoped, endpoint.port_unscoped⟩
  · intro request signingKey encoded other now later result hfirst hsecond
    obtain ⟨signature, hencoded, _, _, _, hverified⟩ := verifyDiscoveryResponse_iff.mp hfirst
    obtain ⟨signature', hencoded', _, _, _, hverified'⟩ := verifyDiscoveryResponse_iff.mp hsecond
    rw [hencoded, hencoded', hc.unforged _ _ _ hverified, hc.unforged _ _ _ hverified']

theorem signaturesHold_transparent : SignaturesHold .transparent := by
  refine ⟨fun key => rfl, fun key message => ?_, fun key message signature h => ?_⟩
  · exact beq_self_eq_true _
  · exact Subtype.ext (eq_of_beq h)

theorem discovery_exchange_sample : ∃ request verified response result,
    DiscoveryRequest.new .transparent (fill 16 21) (nodeId .transparent sampleIdentityKey.seed) (fill 16 5)
        1700000201 (sampleCredential sampleIdentityKey (.new 100 88 0 10)) sampleIdentityKey = some request ∧
      verifyDiscoveryRequest .transparent request.encoded.val ⟨sampleControllerKey.seed⟩ 1700000202 =
        some verified ∧
      discoveryResponse .transparent verified sampleEndpoint 1700000203 sampleControllerKey = some response ∧
      verifyDiscoveryResponse .transparent response.val request ⟨sampleControllerKey.seed⟩ 1700000204 =
        some result ∧
      result.observedEndpoint.ip = sampleEndpoint.ip ∧ result.serverTime = 1700000203 := by
  obtain ⟨request, hnew⟩ : ∃ request, DiscoveryRequest.new .transparent (fill 16 21)
      (nodeId .transparent sampleIdentityKey.seed) (fill 16 5) 1700000201
      (sampleCredential sampleIdentityKey (.new 100 88 0 10)) sampleIdentityKey = some request :=
    Option.isSome_iff_exists.mp (by decide +kernel)
  have hcredential : (verifyCredential .transparent (sampleCredential sampleIdentityKey (.new 100 88 0 10)).val
      ⟨sampleControllerKey.seed⟩ 1700000202).map
        (fun claims => (claims.networkId, claims.nodeId, claims.identityPublicKey)) =
      some (fill 16 21, nodeId .transparent sampleIdentityKey.seed, sampleIdentityKey.seed) := by
    decide +kernel
  obtain ⟨claims, hclaims, hfields⟩ := Option.map_eq_some_iff.mp hcredential
  simp only [Prod.mk.injEq] at hfields
  obtain ⟨hrequest, hresponse, _⟩ := @discovery_exchange .transparent signaturesHold_transparent
    {request.encoded.val} (Set.injOn_singleton _ _)
  have hverified := hrequest _ _ _ _ _ _ request _ 1700000202 claims hnew hclaims hfields.1 hfields.2.1
    hfields.2.2 (by decide)
  obtain ⟨response, result, hsome, haccepted, hip, _, htime⟩ := (hresponse _ _ _ _ _ _ request _ _ _ hnew
    hverified).1 sampleEndpoint 1700000203 sampleControllerKey 1700000204 (by decide) (by decide) (by decide)
  exact ⟨request, _, response, result, hnew, hverified, hsome, haccepted, hip, htime⟩

/-- `decode_endpoint` takes a port that `encode_endpoint` refuses. -/
theorem decoded_endpoint_refused : ¬∀ encoded endpoint,
    decodeObservedEndpoint encoded = some endpoint → encodeEndpoint endpoint = some encoded := by
  intro h
  have hdecoded : decodeObservedEndpoint ⟨[4, 0, 0, 0, 192, 0, 2, 1] ++ List.replicate 16 0, rfl⟩ =
      some (.v4 ⟨.new 192 0 2 1, 0⟩) := by
    decide +kernel
  have hencoded := h _ _ hdecoded
  have hnone : encodeEndpoint (.v4 ⟨.new 192 0 2 1, 0⟩) = none := by decide +kernel
  rw [hnone] at hencoded
  cases hencoded

end XsNexus
