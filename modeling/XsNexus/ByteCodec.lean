import Mathlib.Tactic

namespace ByteCodec

abbrev Bytes := List UInt8

/-- A byte array of fixed length. -/
abbrev Block (n : Nat) := { bytes : Bytes // bytes.length = n }

/-- The bytes from index `i` up to but not including `j`. -/
def slice (bytes : Bytes) (i j : Nat) : Bytes := (bytes.take j).drop i

def array (n : Nat) (bytes : Bytes) : Option (Block n) :=
  if h : bytes.length = n then some ⟨bytes, h⟩ else none

@[simp] theorem Block.length_val {n : Nat} (block : Block n) : block.val.length = n :=
  block.property

/-- The `n` bytes from index `i` on. -/
def field (encoded : Bytes) (i n : Nat) : Option (Block n) := array n (slice encoded i (i + n))

def zeros (n : Nat) : Block n := ⟨List.replicate n 0, List.length_replicate⟩

/-- `[b; n]` -/
def fill (n : Nat) (b : UInt8) : Block n := ⟨List.replicate n b, List.length_replicate⟩

def beNat (bytes : Bytes) : Nat := bytes.foldl (fun acc b => acc * 256 + b.toNat) 0

def beBytes (k v : Nat) : Bytes :=
  match k with
  | 0 => []
  | k + 1 => beBytes k (v / 256) ++ [UInt8.ofNat v]

theorem length_slice (bytes : Bytes) {i j : Nat} (hj : j ≤ bytes.length) :
    (slice bytes i j).length = j - i := by
  simp [slice]
  omega

theorem slice_append_right {a b : Bytes} {i j : Nat} (h : a.length ≤ i) :
    slice (a ++ b) i j = slice b (i - a.length) (j - a.length) := by
  rcases Nat.lt_or_ge j a.length with hj | hj
  · simp only [slice, List.take_append, List.drop_append]
    have h0 : j - a.length = 0 := by omega
    rw [List.drop_eq_nil_of_le (by simp; omega), h0]
    simp
  · simp only [slice, List.take_append, List.drop_append, List.take_of_length_le hj,
      List.drop_eq_nil_of_le h, List.nil_append]

theorem array_of_length {n : Nat} {bytes : Bytes} (h : bytes.length = n) :
    array n bytes = some ⟨bytes, h⟩ := by
  simp [array, h]

theorem array_eq_some {n : Nat} {bytes : Bytes} {block : Block n} (h : array n bytes = some block) :
    block.val = bytes := by
  unfold array at h
  split at h
  next => exact (congrArg Subtype.val (Option.some.inj h)).symm
  next => simp at h

theorem field_append_right {a b : Bytes} {i n : Nat} (h : a.length ≤ i) :
    field (a ++ b) i n = field b (i - a.length) n := by
  have hj : i + n - a.length = i - a.length + n := by omega
  rw [field, slice_append_right h, hj, field]

theorem field_append_left {n : Nat} (block : Block n) (b : Bytes) :
    field (block.val ++ b) 0 n = some block := by
  have hs : slice (block.val ++ b) 0 (0 + n) = block.val := by simp [slice]
  rw [field, hs, array_of_length block.property]

@[simp] theorem length_beBytes (k v : Nat) : (beBytes k v).length = k := by
  induction k generalizing v with
  | zero => rfl
  | succ k ih => simp [beBytes, ih]

theorem beNat_append_singleton (bytes : Bytes) (b : UInt8) :
    beNat (bytes ++ [b]) = beNat bytes * 256 + b.toNat := by
  simp [beNat]

theorem beNat_beBytes (k v : Nat) : beNat (beBytes k v) = v % 256 ^ k := by
  induction k generalizing v with
  | zero => simp [beBytes, beNat, Nat.mod_one]
  | succ k ih =>
    rw [beBytes, beNat_append_singleton, ih, pow_succ, mul_comm (256 ^ k), Nat.mod_mul]
    simp
    omega

theorem beNat_lt (bytes : Bytes) : beNat bytes < 256 ^ bytes.length := by
  induction bytes using List.reverseRecOn with
  | nil => simp [beNat]
  | append_singleton bytes b ih =>
    have := b.toNat_lt
    rw [beNat_append_singleton, List.length_append, List.length_singleton, pow_succ]
    omega

theorem beBytes_beNat (bytes : Bytes) : beBytes bytes.length (beNat bytes) = bytes := by
  induction bytes using List.reverseRecOn with
  | nil => rfl
  | append_singleton bytes b ih =>
    have := b.toNat_lt
    have hdiv : (beNat bytes * 256 + b.toNat) / 256 = beNat bytes := by omega
    have hmod : UInt8.ofNat (beNat bytes * 256 + b.toNat) = b := by
      apply UInt8.toNat_inj.mp
      simp
    rw [List.length_append, List.length_singleton, beBytes, beNat_append_singleton, hdiv, ih, hmod]

def u16FromBe (block : Block 2) : UInt16 := UInt16.ofNat (beNat block.val)

def u32FromBe (block : Block 4) : UInt32 := UInt32.ofNat (beNat block.val)

def u64FromBe (block : Block 8) : UInt64 := UInt64.ofNat (beNat block.val)

def u16ToBe (v : UInt16) : Block 2 := ⟨beBytes 2 v.toNat, length_beBytes 2 _⟩

def u32ToBe (v : UInt32) : Block 4 := ⟨beBytes 4 v.toNat, length_beBytes 4 _⟩

def u64ToBe (v : UInt64) : Block 8 := ⟨beBytes 8 v.toNat, length_beBytes 8 _⟩

@[simp] theorem u64FromBe_toBe (v : UInt64) : u64FromBe (u64ToBe v) = v := by
  have := v.toNat_lt
  apply UInt64.toNat_inj.mp
  simp only [u64FromBe, u64ToBe, beNat_beBytes, UInt64.toNat_ofNat']
  omega

@[simp] theorem u32FromBe_toBe (v : UInt32) : u32FromBe (u32ToBe v) = v := by
  have := v.toNat_lt
  apply UInt32.toNat_inj.mp
  simp only [u32FromBe, u32ToBe, beNat_beBytes, UInt32.toNat_ofNat']
  omega

@[simp] theorem u16FromBe_toBe (v : UInt16) : u16FromBe (u16ToBe v) = v := by
  have := v.toNat_lt
  apply UInt16.toNat_inj.mp
  simp only [u16FromBe, u16ToBe, beNat_beBytes, UInt16.toNat_ofNat']
  omega

end ByteCodec
