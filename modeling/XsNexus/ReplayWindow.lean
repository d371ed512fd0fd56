import XsNexus.WordBits
import XsNexus.SlidingWindow

namespace XsNexus

open WordBits SlidingWindow

def replayWindowBits : Nat := 1024

def replayWindowWords : Nat := replayWindowBits / 64

def maxSequenceAdvance : UInt64 := (1 : UInt64) <<< (20 : UInt64)

structure ReplayWindow where
  highest : Option UInt64
  words : Words replayWindowWords
deriving DecidableEq

namespace ReplayWindow

def new : ReplayWindow := ⟨none, Vector.replicate replayWindowWords 0#64⟩

def bitIsSet (w : ReplayWindow) (offset : Nat) : Bool :=
  (w.words[offset / 64]?.getD 0) &&& (1#64 <<< (offset % 64)) != 0#64

def shift (words : Words replayWindowWords) (distance : Nat) : Words replayWindowWords :=
  if replayWindowBits ≤ distance then Vector.replicate replayWindowWords 0#64
  else shiftLoop (distance / 64) (distance % 64) 0 words.toList
    (Vector.replicate replayWindowWords 0#64)

def precheck (w : ReplayWindow) (sequence : UInt64) : Option Unit :=
  match w.highest with
  | none => if sequence > maxSequenceAdvance then none else some ()
  | some highest =>
    if sequence > highest then
      if sequence - highest > maxSequenceAdvance then none else some ()
    else
      let offset := highest - sequence
      if offset ≥ 1024 then none
      else if w.bitIsSet offset.toNat then none
      else some ()

/-- The mutation and the result are separate: a failing call keeps what it has written. -/
def commit (w : ReplayWindow) (sequence : UInt64) : Option Unit × ReplayWindow :=
  match w.precheck sequence with
  | none => (none, w)
  | some () =>
    match w.highest with
    | none => (some (), ⟨some sequence, w.words.setIfInBounds 0 1#64⟩)
    | some highest =>
      if sequence > highest then
        let distance := (sequence - highest).toNat
        (some (), ⟨some sequence, orWord (shift w.words distance) 0 1#64⟩)
      else
        let offset := (highest - sequence).toNat
        (some (), ⟨some highest, orWord w.words (offset / 64) (1#64 <<< (offset % 64))⟩)

theorem bitIsSet_eq_bitAt (w : ReplayWindow) (offset : Nat) :
    w.bitIsSet offset = bitAt w.words offset := by
  unfold bitIsSet bitAt
  generalize w.words[offset / 64]?.getD 0 = word
  have hlt : offset % 64 < 64 := by omega
  have hone : 1#64 <<< (offset % 64) = BitVec.twoPow 64 (offset % 64) := by
    simp [BitVec.twoPow_eq]
  rw [hone, BitVec.and_twoPow]
  cases hbit : word.getLsbD (offset % 64)
  · simp
  · simp only [if_true, bne_iff_ne, ne_eq]
    intro hzero
    have := congrArg (fun v => v.getLsbD (offset % 64)) hzero
    simp [hlt] at this

theorem bitAt_shift (words : Words replayWindowWords) {distance o : Nat}
    (ho : o < replayWindowBits) :
    bitAt (shift words distance) o = (decide (distance ≤ o) && bitAt words (o - distance)) := by
  unfold shift
  split
  next h =>
    have hle : ¬ distance ≤ o := by omega
    simp [bitAt_replicate_zero, hle]
  next h => exact bitAt_shiftLoop_zero (by unfold replayWindowWords replayWindowBits at *; omega) words

theorem getLsbD_one_shiftLeft {k o : Nat} (ho : o < 64) :
    (1#64 <<< k).getLsbD o = decide (o = k) := by
  simp only [BitVec.getLsbD_shiftLeft, ho, BitVec.getLsbD_one, decide_true, Bool.true_and]
  by_cases h : o = k
  · simp [h]
  · by_cases hk : o < k
    · simp [h, hk]
    · have : ¬ o - k = 0 := by omega
      simp [h, this]

/-- The window holds exactly the accepted sequences that are still within its width. -/
def Holds (w : ReplayWindow) (seen : Finset Nat) : Prop :=
  Tracks replayWindowBits (w.highest.map UInt64.toNat) (bitAt w.words) seen

theorem holds_new : new.Holds ∅ :=
  tracks_empty fun _ _ => bitAt_replicate_zero _

theorem precheck_eq_some_iff {w : ReplayWindow} {seen : Finset Nat} (h : w.Holds seen)
    (sequence : UInt64) :
    w.precheck sequence = some () ↔ Admits replayWindowBits (2 ^ 20) seen sequence.toNat := by
  have hmax : maxSequenceAdvance.toNat = 2 ^ 20 := by decide
  unfold precheck
  cases hh : w.highest with
  | none =>
    have ht : Tracks replayWindowBits none (bitAt w.words) seen := by simpa [Holds, hh] using h
    rw [(ht.empty rfl).1, admits_empty, ← hmax, ← UInt64.le_iff_toNat_le]
    simp
  | some highest =>
    have ht : Tracks replayWindowBits (some highest.toNat) (bitAt w.words) seen := by
      simpa [Holds, hh] using h
    by_cases hs : sequence > highest
    · have hlt := UInt64.lt_iff_toNat_lt.mp hs
      have hsub := UInt64.toNat_sub_of_le sequence highest (UInt64.le_of_lt hs)
      rw [ht.admits_above hlt, ← hmax, ← hsub, ← UInt64.le_iff_toNat_le]
      simp [hs]
    · have hle : sequence ≤ highest := UInt64.not_lt.mp hs
      have hsub := UInt64.toNat_sub_of_le highest sequence hle
      have hof : (highest - sequence ≥ 1024) ↔ ¬ highest.toNat - sequence.toNat < 1024 := by
        rw [ge_iff_le, UInt64.le_iff_toNat_le, hsub]
        simp
      rw [ht.admits_below (UInt64.le_iff_toNat_le.mp hle)]
      simp only [hs, if_false, bitIsSet_eq_bitAt, hsub, hof, replayWindowBits]
      by_cases hw : highest.toNat - sequence.toNat < 1024
      · simp [hw]
      · simp [hw]

theorem commit_eq_none_of_precheck {w : ReplayWindow} {sequence : UInt64}
    (h : w.precheck sequence = none) : w.commit sequence = (none, w) := by
  simp [commit, h]

/-- A commit fails only where the check before it does. -/
theorem commit_succeeds {w : ReplayWindow} {sequence : UInt64} (h : w.precheck sequence = some ()) :
    ∃ w', w.commit sequence = (some (), w') := by
  unfold commit
  rw [h]
  split
  next habsurd => simp at habsurd
  next =>
    split
    next => exact ⟨_, rfl⟩
    next =>
      split
      next => exact ⟨_, rfl⟩
      next => exact ⟨_, rfl⟩

theorem commit_eq_none {w w' : ReplayWindow} {sequence : UInt64}
    (h : w.commit sequence = (none, w')) : w' = w := by
  unfold commit at h
  split at h
  next => exact (congrArg Prod.snd h).symm
  next =>
    split at h
    next => exact absurd (congrArg Prod.fst h) (by simp)
    next =>
      split at h
      next => exact absurd (congrArg Prod.fst h) (by simp)
      next => exact absurd (congrArg Prod.fst h) (by simp)

/-- A passed check is enough for a commit: the commit repeats it and cannot fail otherwise. -/
theorem commit_of_precheck {w : ReplayWindow} {seen : Finset Nat} (h : w.Holds seen)
    {sequence : UInt64} (hp : w.precheck sequence = some ()) :
    ∃ w', w.commit sequence = (some (), w') ∧ w'.Holds (insert sequence.toNat seen) := by
  have hwidth : 0 < replayWindowWords := by decide
  unfold commit
  rw [hp]
  cases hh : w.highest with
  | none =>
    have ht : Tracks replayWindowBits none (bitAt w.words) seen := by simpa [Holds, hh] using h
    refine ⟨_, rfl, ht.first fun o ho => ?_⟩
    have hz := (ht.empty rfl).2 o ho
    by_cases h0 : o / 64 = 0
    · have hlt : o < 64 := by omega
      have hmod : o % 64 = o := by omega
      simp [bitAt, h0, hwidth, hmod, BitVec.getLsbD_one]
    · have hne : ¬ o = 0 := by omega
      have h0' : ¬ 0 = o / 64 := fun e => h0 e.symm
      simpa [bitAt, h0', hne] using hz
  | some highest =>
    have ht : Tracks replayWindowBits (some highest.toNat) (bitAt w.words) seen := by
      simpa [Holds, hh] using h
    by_cases hs : sequence > highest
    · have hlt := UInt64.lt_iff_toNat_lt.mp hs
      have hsub := UInt64.toNat_sub_of_le sequence highest (UInt64.le_of_lt hs)
      simp only [hs, if_true]
      refine ⟨_, rfl, ht.advance hlt fun o ho => ?_⟩
      rw [bitAt_orWord _ hwidth, bitAt_shift _ ho, hsub, Bool.or_comm]
      congr 1
      by_cases h0 : o = 0
      · subst h0
        rfl
      · by_cases hd : o / 64 = 0
        · have hmod : o % 64 = o := by omega
          simp [h0, hd, hmod, BitVec.getLsbD_one]
        · simp [h0, hd]
    · have hle : sequence ≤ highest := UInt64.not_lt.mp hs
      have hsub := UInt64.toNat_sub_of_le highest sequence hle
      have hbound : highest.toNat - sequence.toNat < replayWindowBits := by
        have := (precheck_eq_some_iff h sequence).mp hp
        exact ((ht.admits_below (UInt64.le_iff_toNat_le.mp hle)).mp this).1
      simp only [hs, if_false]
      refine ⟨_, rfl, ht.fill (UInt64.le_iff_toNat_le.mp hle) fun o ho => ?_⟩
      have hin : (highest.toNat - sequence.toNat) / 64 < replayWindowWords := by
        unfold replayWindowWords replayWindowBits at *
        omega
      rw [hsub, bitAt_orWord _ hin, getLsbD_one_shiftLeft (by omega)]
      congr 1
      rw [← Bool.decide_and]
      exact decide_eq_decide.mpr (by omega)

theorem commit_eq_some {w w' : ReplayWindow} {seen : Finset Nat} (h : w.Holds seen)
    {sequence : UInt64} (hc : w.commit sequence = (some (), w')) :
    sequence.toNat ∉ seen ∧ w'.Holds (insert sequence.toNat seen) := by
  cases hp : w.precheck sequence with
  | none => simp [commit_eq_none_of_precheck hp] at hc
  | some u =>
    obtain ⟨w'', hc', hh⟩ := commit_of_precheck h hp
    cases hc.symm.trans hc'
    exact ⟨((precheck_eq_some_iff h sequence).mp hp).1, hh⟩

end ReplayWindow

end XsNexus
