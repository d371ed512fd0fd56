import Mathlib.Tactic

namespace WordBits

/-- A bitmap stored as 64-bit words, lowest bits first. -/
abbrev Words (n : Nat) := Vector (BitVec 64) n

def bitAt {n : Nat} (words : Words n) (o : Nat) : Bool :=
  (words[o / 64]?.getD 0).getLsbD (o % 64)

/-- `words[i] |= x`, without effect outside the array. -/
def orWord {n : Nat} (words : Words n) (i : Nat) (x : BitVec 64) : Words n :=
  words.setIfInBounds i (words[i]?.getD 0 ||| x)

theorem bitAt_orWord {n : Nat} (words : Words n) {i : Nat} (hi : i < n) (x : BitVec 64) (o : Nat) :
    bitAt (orWord words i x) o = (bitAt words o || (decide (o / 64 = i) && x.getLsbD (o % 64))) := by
  unfold bitAt orWord
  by_cases h : o / 64 = i
  · subst h
    simp [hi]
  · have h' : i ≠ o / 64 := fun e => h e.symm
    simp [h, h']

theorem bitAt_replicate_zero {n : Nat} (o : Nat) : bitAt (Vector.replicate n 0#64) o = false := by
  unfold bitAt
  by_cases h : o / 64 < n
  · simp [h]
  · rw [Vector.getElem?_eq_none (by omega)]
    simp

/-- Bits of a list of words that starts at word `source`. -/
def listBitAt (rest : List (BitVec 64)) (o : Nat) : Bool :=
  (rest[o / 64]?.getD 0).getLsbD (o % 64)

theorem bitAt_eq_listBitAt {n : Nat} (words : Words n) (o : Nat) :
    bitAt words o = listBitAt words.toList o := by
  simp [bitAt, listBitAt]

theorem listBitAt_cons_low {word : BitVec 64} {rest : List (BitVec 64)} {o : Nat} (h : o < 64) :
    listBitAt (word :: rest) o = word.getLsbD o := by
  have hd : o / 64 = 0 := by omega
  have hm : o % 64 = o := by omega
  simp [listBitAt, hd, hm]

theorem listBitAt_cons_high {word : BitVec 64} {rest : List (BitVec 64)} {o : Nat} (h : 64 ≤ o) :
    listBitAt (word :: rest) o = listBitAt rest (o - 64) := by
  have hd : o / 64 = (o - 64) / 64 + 1 := by omega
  have hm : o % 64 = (o - 64) % 64 := by omega
  simp [listBitAt, hd, hm]

/-- One source word of a left shift, split over the target word and its successor. -/
def spillWord {n : Nat} (words : Words n) (target bitShift : Nat) (word : BitVec 64) : Words n :=
  let low := orWord words target (word <<< bitShift)
  if bitShift ≠ 0 ∧ target + 1 < n then orWord low (target + 1) (word >>> (64 - bitShift)) else low

theorem bitAt_spillWord {n : Nat} (words : Words n) {target bitShift o : Nat} (word : BitVec 64)
    (ht : target < n) (hb : bitShift < 64) (ho : o < 64 * n) :
    bitAt (spillWord words target bitShift word) o =
      (bitAt words o || (decide (64 * target + bitShift ≤ o) &&
        word.getLsbD (o - (64 * target + bitShift)))) := by
  have hlow : ∀ k, o / 64 = k → (word <<< bitShift).getLsbD (o % 64) =
      (decide (64 * k + bitShift ≤ o) && word.getLsbD (o - (64 * k + bitShift))) := by
    intro k hk
    rw [BitVec.getLsbD_shiftLeft]
    have hsub : o % 64 - bitShift = o - (64 * k + bitShift) := by omega
    rw [hsub]
    by_cases hle : 64 * k + bitShift ≤ o
    · have h1 : o % 64 < 64 := by omega
      have h2 : ¬ o % 64 < bitShift := by omega
      simp [hle, h1, h2]
    · have h2 : o % 64 < bitShift := by omega
      simp [hle, h2]
  have hfar : o / 64 ≠ target → o / 64 ≠ target + 1 → (decide (64 * target + bitShift ≤ o) &&
      word.getLsbD (o - (64 * target + bitShift))) = false := by
    intro h0 h1
    by_cases hle : 64 * target + bitShift ≤ o
    · rw [BitVec.getLsbD_of_ge _ _ (by omega)]
      simp
    · simp [hle]
  unfold spillWord
  by_cases h : bitShift ≠ 0 ∧ target + 1 < n
  · rw [if_pos h, bitAt_orWord _ h.2, bitAt_orWord _ ht]
    rcases Nat.lt_trichotomy (o / 64) target with hlt | heq | hgt
    · have h1 : o / 64 ≠ target + 1 := by omega
      simp [Nat.ne_of_lt hlt, h1, hfar (by omega) h1]
    · have h1 : target ≠ target + 1 := by omega
      simp [heq, hlow target heq]
    · by_cases hs : o / 64 = target + 1
      · have hle : 64 * target + bitShift ≤ o := by omega
        have hadd : 64 - bitShift + o % 64 = o - (64 * target + bitShift) := by omega
        simp [hs, hle, BitVec.getLsbD_ushiftRight, hadd]
      · simp [Nat.ne_of_gt hgt, hs, hfar (by omega) hs]
  · rw [if_neg h, bitAt_orWord _ ht]
    by_cases h0 : o / 64 = target
    · simp [h0, hlow target h0]
    · have hnone : (decide (64 * target + bitShift ≤ o) &&
          word.getLsbD (o - (64 * target + bitShift))) = false := by
        by_cases hs : o / 64 = target + 1
        · -- no bit spills: either the shift is word aligned or the array ends at the target
          have hzero : bitShift = 0 := by
            by_contra hne
            exact h ⟨hne, by omega⟩
          rw [BitVec.getLsbD_of_ge _ _ (by omega)]
          simp
        · exact hfar h0 hs
      rw [hnone]
      simp [h0]

/-- The word loop of a left shift by `64 * wordShift + bitShift`: source words in order, stopping
at the first one whose target lies outside the array. -/
def shiftLoop {n : Nat} (wordShift bitShift : Nat) : Nat → List (BitVec 64) → Words n → Words n
  | _, [], words => words
  | source, word :: rest, words =>
    if n ≤ source + wordShift then words
    else shiftLoop wordShift bitShift (source + 1) rest
      (spillWord words (source + wordShift) bitShift word)

theorem bitAt_shiftLoop {n wordShift bitShift o : Nat} (hb : bitShift < 64) (ho : o < 64 * n)
    (rest : List (BitVec 64)) (source : Nat) (words : Words n) :
    bitAt (shiftLoop wordShift bitShift source rest words) o =
      (bitAt words o || (decide (64 * (source + wordShift) + bitShift ≤ o) &&
        listBitAt rest (o - (64 * (source + wordShift) + bitShift)))) := by
  induction rest generalizing source words with
  | nil => simp [shiftLoop, listBitAt]
  | cons word rest ih =>
    unfold shiftLoop
    split
    next h =>
      have hle : ¬ 64 * (source + wordShift) + bitShift ≤ o := by omega
      simp [hle]
    next h =>
      rw [ih, bitAt_spillWord _ _ (by omega) hb ho, Bool.or_assoc]
      congr 1
      by_cases hle : 64 * (source + wordShift) + bitShift ≤ o
      · by_cases hnear : o - (64 * (source + wordShift) + bitShift) < 64
        · have hnext : ¬ 64 * (source + 1 + wordShift) + bitShift ≤ o := by omega
          simp [hle, hnext, listBitAt_cons_low hnear]
        · have hnext : 64 * (source + 1 + wordShift) + bitShift ≤ o := by omega
          have hsub : o - (64 * (source + wordShift) + bitShift) - 64 =
              o - (64 * (source + 1 + wordShift) + bitShift) := by omega
          rw [listBitAt_cons_high (by omega), hsub, BitVec.getLsbD_of_ge _ _ (by omega)]
          simp [hle, hnext]
      · have hnext : ¬ 64 * (source + 1 + wordShift) + bitShift ≤ o := by omega
        simp [hle, hnext]

/-- A bitmap shifted towards the higher offsets; what leaves the array is lost. -/
theorem bitAt_shiftLoop_zero {n distance o : Nat} (ho : o < 64 * n) (words : Words n) :
    bitAt (shiftLoop (distance / 64) (distance % 64) 0 words.toList (Vector.replicate n 0#64)) o =
      (decide (distance ≤ o) && bitAt words (o - distance)) := by
  have hd : 64 * (0 + distance / 64) + distance % 64 = distance := by omega
  rw [bitAt_shiftLoop (by omega) ho, bitAt_replicate_zero, ← bitAt_eq_listBitAt, hd]
  simp

end WordBits
