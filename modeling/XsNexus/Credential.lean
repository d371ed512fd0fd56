import XsNexus.Address
import XsNexus.Crypto

namespace XsNexus

open ByteCodec

def credentialLength : Nat := 200

def credentialSignedLength : Nat := 136

/-- `b"XSP/1 credential v1"` -/
def credentialDomain : Bytes := "XSP/1 credential v1".toUTF8.toList

/-- `b"XSP/1 node id v1"` -/
def nodeIdDomain : Bytes := "XSP/1 node id v1".toUTF8.toList

structure CredentialClaims where
  networkId : Block 16
  identityPublicKey : Block 32
  virtualIpv4 : Ipv4Addr
  serial : UInt64
  notBefore : UInt64
  notAfter : UInt64
  roleBitmap : UInt32
  roleSetDigest : Block 32
deriving DecidableEq

structure VerifiedCredential where
  networkId : Block 16
  nodeId : Block 16
  identityPublicKey : Block 32
  virtualIpv4 : Ipv4Addr
  serial : UInt64
  notBefore : UInt64
  notAfter : UInt64
  roleBitmap : UInt32
  roleSetDigest : Block 32
  controllerKeyId : UInt32
deriving DecidableEq

def nodeId (c : Crypto) (identityPublicKey : Block 32) : Block 16 :=
  ⟨(c.sha256 (nodeIdDomain ++ identityPublicKey.val)).val.take 16, by simp⟩

def controllerKeyId (c : Crypto) (verifyingKey : VerifyingKey) : UInt32 :=
  u32FromBe ⟨(c.sha256 verifyingKey.bytes.val).val.take 4, by simp⟩

/-- The bytes of a credential before its signature. -/
def credentialSigned (c : Crypto) (claims : CredentialClaims) (signingKey : SigningKey) : Block 136 :=
  ⟨[1, 0, 0, 0] ++ claims.networkId.val ++ (nodeId c claims.identityPublicKey).val ++
    claims.identityPublicKey.val ++ claims.virtualIpv4.octets.val ++ (u64ToBe claims.serial).val ++
    (u64ToBe claims.notBefore).val ++ (u64ToBe claims.notAfter).val ++
    (u32ToBe claims.roleBitmap).val ++ claims.roleSetDigest.val ++
    (u32ToBe (controllerKeyId c (c.verifyingKey signingKey))).val, by simp⟩

def signCredential (c : Crypto) (claims : CredentialClaims) (signingKey : SigningKey) : Block 200 :=
  let signed := credentialSigned c claims signingKey
  ⟨signed.val ++ (c.sign signingKey (credentialDomain ++ signed.val)).val, by simp⟩

def verifyCredential (c : Crypto) (credential : Bytes) (verifyingKey : VerifyingKey) (now : UInt64) :
    Option VerifiedCredential := do
  let bytes ← array credentialLength credential
  if bytes.val[0]? ≠ some 1 ∨ slice bytes.val 1 4 ≠ (zeros 3).val then none
  else
    let networkId ← field bytes.val 4 16
    let encodedNodeId ← field bytes.val 20 16
    let identityPublicKey ← field bytes.val 36 32
    let virtualIpv4 := Ipv4Addr.fromOctets (← field bytes.val 68 4)
    let serial := u64FromBe (← field bytes.val 72 8)
    let notBefore := u64FromBe (← field bytes.val 80 8)
    let notAfter := u64FromBe (← field bytes.val 88 8)
    let roleBitmap := u32FromBe (← field bytes.val 96 4)
    let roleDigest ← field bytes.val 100 32
    let encodedKeyId := u32FromBe (← field bytes.val 132 4)
    if networkId = zeros 16 ∨ encodedNodeId ≠ nodeId c identityPublicKey ∨ serial = 0 ∨
        notBefore > now ∨ now ≥ notAfter ∨ notAfter ≤ notBefore ∨ virtualIpv4.isUnspecified ∨
        virtualIpv4.isMulticast ∨ virtualIpv4 = Ipv4Addr.BROADCAST ∨
        encodedKeyId ≠ controllerKeyId c verifyingKey then
      none
    else
      let signature ← field bytes.val credentialSignedLength 64
      let signingInput := credentialDomain ++ bytes.val.take credentialSignedLength
      if !c.verifyStrict verifyingKey signingInput signature then none
      else
        some {
          networkId := networkId
          nodeId := encodedNodeId
          identityPublicKey := identityPublicKey
          virtualIpv4 := virtualIpv4
          serial := serial
          notBefore := notBefore
          notAfter := notAfter
          roleBitmap := roleBitmap
          roleSetDigest := roleDigest
          controllerKeyId := encodedKeyId }

/-- A credential is checked against the time it is given and decodes the same at every other. -/
theorem verifyCredential_cases {c : Crypto} {credential : Bytes} {verifyingKey : VerifyingKey}
    {now : UInt64} {verified : VerifiedCredential}
    (h : verifyCredential c credential verifyingKey now = some verified) :
    verified.notBefore ≤ now ∧ now < verified.notAfter ∧
      ∀ {later : UInt64} {other : VerifiedCredential},
        verifyCredential c credential verifyingKey later = some other → other = verified := by
  obtain ⟨bytes, hb, h⟩ := Option.bind_eq_some_iff.mp h
  split at h
  next => simp at h
  next hform =>
    obtain ⟨networkId, h1, h⟩ := Option.bind_eq_some_iff.mp h
    obtain ⟨encodedNodeId, h2, h⟩ := Option.bind_eq_some_iff.mp h
    obtain ⟨identityPublicKey, h3, h⟩ := Option.bind_eq_some_iff.mp h
    obtain ⟨virtualIpv4, h4, h⟩ := Option.bind_eq_some_iff.mp h
    obtain ⟨serial, h5, h⟩ := Option.bind_eq_some_iff.mp h
    obtain ⟨notBefore, h6, h⟩ := Option.bind_eq_some_iff.mp h
    obtain ⟨notAfter, h7, h⟩ := Option.bind_eq_some_iff.mp h
    obtain ⟨roleBitmap, h8, h⟩ := Option.bind_eq_some_iff.mp h
    obtain ⟨roleDigest, h9, h⟩ := Option.bind_eq_some_iff.mp h
    obtain ⟨encodedKeyId, h10, h⟩ := Option.bind_eq_some_iff.mp h
    dsimp only at h
    split at h
    next => simp at h
    next hguard =>
      obtain ⟨signature, hs, h⟩ := Option.bind_eq_some_iff.mp h
      split at h
      next => simp at h
      next =>
        cases Option.some.inj h
        simp only [not_or] at hguard
        refine ⟨UInt64.not_lt.mp hguard.2.2.2.1, UInt64.not_le.mp hguard.2.2.2.2.1, ?_⟩
        intro later other ho
        unfold verifyCredential at ho
        rw [hb, Option.bind_eq_bind, Option.bind_some, if_neg hform] at ho
        simp only [h1, h2, h3, h4, h5, h6, h7, h8, h9, h10, hs, Option.bind_eq_bind, Option.bind_some] at ho
        split at ho
        next => simp at ho
        next => exact (Option.some.inj ho).symm

def sampleControllerKey : SigningKey := ⟨fill 32 12⟩

def sampleIdentityKey : SigningKey := ⟨fill 32 11⟩

def sampleCredential (identityKey : SigningKey) (virtualIpv4 : Ipv4Addr) : Block 200 :=
  signCredential .transparent {
    networkId := fill 16 21
    identityPublicKey := identityKey.seed
    virtualIpv4 := virtualIpv4
    serial := 7
    notBefore := 1700000000
    notAfter := 1700010000
    roleBitmap := 1
    roleSetDigest := fill 32 31 } sampleControllerKey

end XsNexus
