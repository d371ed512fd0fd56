import XsNexus.ByteCodec

namespace XsNexus

open ByteCodec

/-- An Ed25519 secret key; its public half is `Crypto.verifyingKey`. -/
structure SigningKey where
  seed : Block 32
deriving DecidableEq

/-- The compressed bytes of an Ed25519 public key. -/
structure VerifyingKey where
  bytes : Block 32
deriving DecidableEq

/-- The primitives the protocol takes from other crates. -/
structure Crypto where
  sha256 : Bytes → Block 32
  hkdfExtract : (salt input : Bytes) → Block 32
  hkdfExpand : (prk : Block 32) → (info : Bytes) → (length : Nat) → Option (Block length)
  encrypt : (key : Block 32) → (nonce : Block 12) → (aad plaintext : Bytes) →
    Option (Bytes × Block 16)
  decrypt : (key : Block 32) → (nonce : Block 12) → (aad ciphertext : Bytes) → (tag : Block 16) →
    Option Bytes
  verifyingKey : SigningKey → VerifyingKey
  verifyingKeyFromBytes : Block 32 → Option VerifyingKey
  sign : SigningKey → Bytes → Block 64
  verifyStrict : VerifyingKey → Bytes → Block 64 → Bool
  x25519 : (scalar point : Block 32) → Block 32

/-- `X25519_BASEPOINT_BYTES` -/
def x25519Basepoint : Block 32 := ⟨9 :: List.replicate 31 0, by simp⟩

/-- A checksum in the place of a hash. -/
def checksum (n : Nat) (bytes : Bytes) : Block n :=
  ⟨beBytes n (bytes.foldl (fun acc b => (acc * 257 + b.toNat + 1) % 256 ^ n) 0), length_beBytes n _⟩

/-- Primitives without secrecy that still undo each other: what one side signs, seals or agrees on
checks on the other. -/
def Crypto.transparent : Crypto where
  sha256 := checksum 32
  hkdfExtract salt input := checksum 32 (salt ++ input)
  hkdfExpand prk info n := some (checksum n (prk.val ++ info))
  encrypt key nonce aad plaintext :=
    some (plaintext, checksum 16 (key.val ++ nonce.val ++ aad ++ plaintext))
  decrypt key nonce aad ciphertext tag :=
    if tag = checksum 16 (key.val ++ nonce.val ++ aad ++ ciphertext) then some ciphertext else none
  verifyingKey key := ⟨key.seed⟩
  verifyingKeyFromBytes bytes := some ⟨bytes⟩
  sign key message := ⟨key.seed.val ++ (checksum 32 message).val, by simp⟩
  verifyStrict key message signature :=
    signature.val == key.bytes.val ++ (checksum 32 message).val
  x25519 scalar point := ⟨List.zipWith (· * ·) scalar.val point.val, by simp⟩

end XsNexus
