import XsNexus.ByteCodec

namespace ByteCodec

theorem take_slice (bytes : Bytes) (n : Nat) : slice bytes 0 n = bytes.take n := List.drop_zero

/-- Neighbouring slices are one slice. -/
theorem slice_append_slice (bytes : Bytes) {i j k : Nat} (hij : i ≤ j) (hjk : j ≤ k) :
    slice bytes i j ++ slice bytes j k = slice bytes i k := by
  unfold slice
  have htake : bytes.take j = (bytes.take k).take j := by
    rw [List.take_take, Nat.min_eq_left hjk]
  have hdrop : (bytes.take k).drop j = ((bytes.take k).drop i).drop (j - i) := by
    rw [List.drop_drop, Nat.add_sub_cancel' hij]
  rw [htake, List.drop_take, hdrop]
  exact List.take_append_drop (j - i) _

theorem slice_append_drop (bytes : Bytes) (n : Nat) : slice bytes 0 n ++ bytes.drop n = bytes := by
  rw [take_slice, List.take_append_drop]

theorem slice_cons {bytes : Bytes} {i j : Nat} {b : UInt8} (h : bytes[i]? = some b) (hij : i < j) :
    slice bytes i j = b :: slice bytes (i + 1) j := by
  have hat : (bytes.take j)[i]? = some b := by
    rw [List.getElem?_take_of_lt hij, h]
  obtain ⟨hlt, heq⟩ := List.getElem?_eq_some_iff.mp hat
  unfold slice
  rw [List.drop_eq_getElem_cons hlt, heq]

theorem slice_pair {bytes : Bytes} {i : Nat} {b c : UInt8} (hb : bytes[i]? = some b)
    (hc : bytes[i + 1]? = some c) : slice bytes i (i + 2) = [b, c] := by
  rw [slice_cons hb (by omega), slice_cons hc (by omega)]
  have hnil : slice bytes (i + 1 + 1) (i + 2) = [] := by
    unfold slice
    exact List.drop_eq_nil_of_le (by simp)
  rw [hnil]

theorem field_eq_some {encoded : Bytes} {i n : Nat} {block : Block n}
    (h : field encoded i n = some block) : block.val = slice encoded i (i + n) := array_eq_some h

theorem beBytes_beNat_mod {n modulus : Nat} (block : Block n) (h : modulus = 256 ^ n) :
    beBytes n (beNat block.val % modulus) = block.val := by
  have hlt := beNat_lt block.val
  have hround := beBytes_beNat block.val
  rw [Block.length_val] at hlt hround
  rw [h, Nat.mod_eq_of_lt hlt, hround]

@[simp] theorem u16ToBe_fromBe (block : Block 2) : u16ToBe (u16FromBe block) = block := by
  apply Subtype.ext
  show beBytes 2 (UInt16.ofNat (beNat block.val)).toNat = block.val
  have hvalue : (UInt16.ofNat (beNat block.val)).toNat = beNat block.val % 2 ^ 16 :=
    UInt16.toNat_ofNat'
  rw [hvalue]
  exact beBytes_beNat_mod block (by norm_num)

@[simp] theorem u32ToBe_fromBe (block : Block 4) : u32ToBe (u32FromBe block) = block := by
  apply Subtype.ext
  show beBytes 4 (UInt32.ofNat (beNat block.val)).toNat = block.val
  have hvalue : (UInt32.ofNat (beNat block.val)).toNat = beNat block.val % 2 ^ 32 :=
    UInt32.toNat_ofNat'
  rw [hvalue]
  exact beBytes_beNat_mod block (by norm_num)

@[simp] theorem u64ToBe_fromBe (block : Block 8) : u64ToBe (u64FromBe block) = block := by
  apply Subtype.ext
  show beBytes 8 (UInt64.ofNat (beNat block.val)).toNat = block.val
  have hvalue : (UInt64.ofNat (beNat block.val)).toNat = beNat block.val % 2 ^ 64 :=
    UInt64.toNat_ofNat'
  rw [hvalue]
  exact beBytes_beNat_mod block (by norm_num)

end ByteCodec
