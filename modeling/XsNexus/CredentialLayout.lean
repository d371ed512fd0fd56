import XsNexus.Credential

namespace ByteCodec

theorem field_append_of_le {a b : Bytes} {i n : Nat} (h : i + n ≤ a.length) :
    field (a ++ b) i n = field a i n := by
  unfold field slice
  rw [List.take_append_of_le_length h]

@[simp] theorem field_self {n : Nat} (block : Block n) : field block.val 0 n = some block := by
  have h := field_append_left block []
  rw [List.append_nil] at h
  exact h

end ByteCodec

namespace XsNexus

open ByteCodec

/-- The claims as a verifier has them. -/
def CredentialClaims.verified (claims : CredentialClaims) (c : Crypto) (signingKey : SigningKey) :
    VerifiedCredential where
  networkId := claims.networkId
  nodeId := nodeId c claims.identityPublicKey
  identityPublicKey := claims.identityPublicKey
  virtualIpv4 := claims.virtualIpv4
  serial := claims.serial
  notBefore := claims.notBefore
  notAfter := claims.notAfter
  roleBitmap := claims.roleBitmap
  roleSetDigest := claims.roleSetDigest
  controllerKeyId := controllerKeyId c (c.verifyingKey signingKey)

theorem fromOctets_octets (a : Ipv4Addr) : Ipv4Addr.fromOctets a.octets = a := by
  have hlt := a.bits.isLt
  unfold Ipv4Addr.fromOctets Ipv4Addr.octets
  rw [beNat_beBytes, Nat.mod_eq_of_lt (by omega), BitVec.ofNat_toNat, BitVec.setWidth_eq]

/-- Each field of a credential is where the verifier reads it. -/
theorem credentialSigned_fields (c : Crypto) (claims : CredentialClaims) (signingKey : SigningKey) :
    field (credentialSigned c claims signingKey).val 4 16 = some claims.networkId ∧
      field (credentialSigned c claims signingKey).val 20 16 =
        some (nodeId c claims.identityPublicKey) ∧
      field (credentialSigned c claims signingKey).val 36 32 = some claims.identityPublicKey ∧
      field (credentialSigned c claims signingKey).val 68 4 = some claims.virtualIpv4.octets ∧
      field (credentialSigned c claims signingKey).val 72 8 = some (u64ToBe claims.serial) ∧
      field (credentialSigned c claims signingKey).val 80 8 = some (u64ToBe claims.notBefore) ∧
      field (credentialSigned c claims signingKey).val 88 8 = some (u64ToBe claims.notAfter) ∧
      field (credentialSigned c claims signingKey).val 96 4 = some (u32ToBe claims.roleBitmap) ∧
      field (credentialSigned c claims signingKey).val 100 32 = some claims.roleSetDigest ∧
      field (credentialSigned c claims signingKey).val 132 4 =
        some (u32ToBe (controllerKeyId c (c.verifyingKey signingKey))) := by
  unfold credentialSigned
  refine ⟨?_, ?_, ?_, ?_, ?_, ?_, ?_, ?_, ?_, ?_⟩ <;>
    simp (disch := simp) only [field_append_of_le, field_append_right, field_self, List.length_append,
      Block.length_val, List.length_cons, List.length_nil, Nat.reduceAdd, Nat.reduceSub]

/-- A credential verifies to its claims, unless a verifier refuses these. -/
theorem verifyCredential_signCredential {c : Crypto} {claims : CredentialClaims}
    {signingKey : SigningKey} {now : UInt64}
    (hsign : ∀ message,
      c.verifyStrict (c.verifyingKey signingKey) message (c.sign signingKey message) = true) :
    verifyCredential c (signCredential c claims signingKey).val (c.verifyingKey signingKey) now =
      if claims.networkId = zeros 16 ∨ claims.serial = 0 ∨ claims.notBefore > now ∨
          now ≥ claims.notAfter ∨ claims.notAfter ≤ claims.notBefore ∨
          claims.virtualIpv4.isUnspecified ∨ claims.virtualIpv4.isMulticast ∨
          claims.virtualIpv4 = Ipv4Addr.BROADCAST then
        none
      else some (claims.verified c signingKey) := by
  obtain ⟨signed, hsigned⟩ : ∃ signed, signed = credentialSigned c claims signingKey := ⟨_, rfl⟩
  have hbytes : (signCredential c claims signingKey).val =
      signed.val ++ (c.sign signingKey (credentialDomain ++ signed.val)).val := by
    rw [hsigned]
    rfl
  have hfield : ∀ {i n : Nat}, i + n ≤ 136 →
      field (signCredential c claims signingKey).val i n = field signed.val i n := by
    intro i n h
    rw [hbytes]
    exact field_append_of_le (by simp [h])
  have hsignature : field (signCredential c claims signingKey).val credentialSignedLength 64 =
      some (c.sign signingKey (credentialDomain ++ signed.val)) := by
    have hlength : signed.val.length = credentialSignedLength := signed.property
    rw [hbytes, field_append_right (Nat.le_of_eq hlength), hlength, Nat.sub_self, field_self]
  have hinput : (signCredential c claims signingKey).val.take credentialSignedLength = signed.val := by
    rw [hbytes]
    exact List.take_left' signed.property
  have hform : ¬((signCredential c claims signingKey).val[0]? ≠ some 1 ∨
      slice (signCredential c claims signingKey).val 1 4 ≠ (zeros 3).val) := by
    rw [hbytes, hsigned]
    unfold credentialSigned
    simp [slice, zeros]
  obtain ⟨hnetwork, hnode, hidentity, hip, hserial, hbefore, hafter, hroles, hdigest, hkey⟩ :=
    credentialSigned_fields c claims signingKey
  rw [← hsigned] at hnetwork hnode hidentity hip hserial hbefore hafter hroles hdigest hkey
  unfold verifyCredential
  obtain ⟨bytes, harray, hval⟩ : ∃ bytes, array credentialLength (signCredential c claims signingKey).val =
      some bytes ∧ bytes.val = (signCredential c claims signingKey).val :=
    ⟨_, array_of_length (signCredential c claims signingKey).property, rfl⟩
  rw [harray, Option.bind_eq_bind, Option.bind_some, hval, if_neg hform]
  simp (disch := decide) only [hfield, hnetwork, hnode, hidentity, hip, hserial, hbefore, hafter, hroles,
    hdigest, hkey, hsignature, hinput, hsign, fromOctets_octets, u64FromBe_toBe, u32FromBe_toBe,
    Option.bind_eq_bind, Option.bind_some, ne_eq, not_true_eq_false, false_or, or_false, Bool.not_true,
    Bool.false_eq_true, if_false]
  rfl

end XsNexus
