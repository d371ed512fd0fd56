import XsNexus.ReplayWindow

namespace XsNexus

open WordBits SlidingWindow

namespace ReplayWindow

def shiftedLeft (word : BitVec 64) (distance : Nat) : Option (BitVec 64) :=
  if distance < 64 then some (word <<< distance) else none

def shiftedRight (word : BitVec 64) (distance : Nat) : Option (BitVec 64) :=
  if distance < 64 then some (word >>> distance) else none

def difference (left right : UInt64) : Option UInt64 := if right ≤ left then some (left - right) else none

/-- `words[i] |= x`, as `orWord` is, with an index that is checked. -/
def orWordAt {n : Nat} (words : Words n) (i : Nat) (x : BitVec 64) : Option (Words n) :=
  if i < n then some (orWord words i x) else none

/-- The code as it runs: `none` is a panic on an index, a shift or a difference out of range. -/
def bitIsSetAt (w : ReplayWindow) (offset : Nat) : Option Bool := do
  let word ← w.words[offset / 64]?
  let bit ← shiftedLeft 1#64 (offset % 64)
  some (word &&& bit != 0#64)

def spillWordAt {n : Nat} (words : Words n) (target bitShift : Nat) (word : BitVec 64) :
    Option (Words n) := do
  let low ← shiftedLeft word bitShift
  let words ← orWordAt words target low
  if bitShift ≠ 0 ∧ target + 1 < n then do
    let high ← shiftedRight word (64 - bitShift)
    orWordAt words (target + 1) high
  else some words

def shiftLoopAt {n : Nat} (wordShift bitShift : Nat) :
    Nat → List (BitVec 64) → Words n → Option (Words n)
  | _, [], words => some words
  | source, word :: rest, words =>
    if n ≤ source + wordShift then some words
    else do
      let words ← spillWordAt words (source + wordShift) bitShift word
      shiftLoopAt wordShift bitShift (source + 1) rest words

def shiftAt (words : Words replayWindowWords) (distance : Nat) : Option (Words replayWindowWords) :=
  if replayWindowBits ≤ distance then some (Vector.replicate replayWindowWords 0#64)
  else shiftLoopAt (distance / 64) (distance % 64) 0 words.toList
    (Vector.replicate replayWindowWords 0#64)

/-- The `precheck` of the receiver of data packets. -/
def protocolPrecheck (w : ReplayWindow) (sequence : UInt64) : Option (Option Unit) :=
  match w.highest with
  | none => some (if sequence > maxSequenceAdvance then none else some ())
  | some highest =>
    if sequence > highest then do
      let advance ← difference sequence highest
      some (if advance > maxSequenceAdvance then none else some ())
    else do
      let offset ← difference highest sequence
      if offset ≥ 1024 then some none
      else do
        let marked ← w.bitIsSetAt offset.toNat
        some (if marked then none else some ())

/-- The `precheck` of a lease of the relay. -/
def relayPrecheck (w : ReplayWindow) (sequence : UInt64) : Option (Option Unit) :=
  match w.highest with
  | none => some (if sequence ≤ maxSequenceAdvance then some () else none)
  | some highest =>
    if sequence > highest then do
      let advance ← difference sequence highest
      some (if advance ≤ maxSequenceAdvance then some () else none)
    else do
      let offset ← difference highest sequence
      if offset.toNat ≥ replayWindowBits then some none
      else do
        let marked ← w.bitIsSetAt offset.toNat
        some (if marked then none else some ())

/-- What both commits do with a sequence that passed. -/
def record (w : ReplayWindow) (sequence : UInt64) : Option ReplayWindow :=
  match w.highest with
  | none => if 0 < replayWindowWords then some ⟨some sequence, w.words.setIfInBounds 0 1#64⟩ else none
  | some highest =>
    if sequence > highest then do
      let distance ← difference sequence highest
      let words ← shiftAt w.words distance.toNat
      let words ← orWordAt words 0 1#64
      some ⟨some sequence, words⟩
    else do
      let offset ← difference highest sequence
      let bit ← shiftedLeft 1#64 (offset.toNat % 64)
      let words ← orWordAt w.words (offset.toNat / 64) bit
      some ⟨some highest, words⟩

def commitAfter (precheck : ReplayWindow → UInt64 → Option (Option Unit)) (w : ReplayWindow)
    (sequence : UInt64) : Option (Option Unit × ReplayWindow) := do
  match ← precheck w sequence with
  | none => some (none, w)
  | some () =>
    let w ← w.record sequence
    some (some (), w)

def protocolCommit : ReplayWindow → UInt64 → Option (Option Unit × ReplayWindow) :=
  commitAfter protocolPrecheck

def relayCommit : ReplayWindow → UInt64 → Option (Option Unit × ReplayWindow) :=
  commitAfter relayPrecheck

/-- A call with the sequences accepted so far, the last one first. -/
def commitNext (commit : ReplayWindow → UInt64 → Option (Option Unit × ReplayWindow))
    (progress : ReplayWindow × List UInt64) (sequence : UInt64) :
    Option (ReplayWindow × List UInt64) := do
  let (answer, w) ← commit progress.1 sequence
  match answer with
  | none => some (w, progress.2)
  | some () => some (w, sequence :: progress.2)

def commitAll (commit : ReplayWindow → UInt64 → Option (Option Unit × ReplayWindow))
    (sequences : List UInt64) : Option (ReplayWindow × List UInt64) :=
  sequences.foldlM (commitNext commit) (new, [])

section Panics

variable (w : ReplayWindow)

theorem difference_of_le {left right : UInt64} (h : right ≤ left) :
    difference left right = some (left - right) := if_pos h

theorem bitIsSetAt_eq {offset : Nat} (h : offset < replayWindowBits) :
    w.bitIsSetAt offset = some (w.bitIsSet offset) := by
  have hword : offset / 64 < replayWindowWords := by
    unfold replayWindowWords replayWindowBits at *
    omega
  have hbit : offset % 64 < 64 := Nat.mod_lt _ (by omega)
  unfold bitIsSetAt bitIsSet shiftedLeft
  rw [Vector.getElem?_eq_getElem hword, if_pos hbit]
  rfl

theorem spillWordAt_eq {n : Nat} {words : Words n} {target bitShift : Nat} {word : BitVec 64}
    (htarget : target < n) (hbit : bitShift < 64) :
    spillWordAt words target bitShift word = some (spillWord words target bitShift word) := by
  unfold spillWordAt spillWord shiftedLeft orWordAt
  rw [if_pos hbit, Option.bind_eq_bind, Option.bind_some, if_pos htarget, Option.bind_eq_bind,
    Option.bind_some]
  by_cases hspill : bitShift ≠ 0 ∧ target + 1 < n
  · have hright : 64 - bitShift < 64 := by
      have := hspill.1
      omega
    rw [if_pos hspill, if_pos hspill, shiftedRight, if_pos hright, Option.bind_some, if_pos hspill.2]
  · rw [if_neg hspill, if_neg hspill]

theorem shiftLoopAt_eq {n wordShift bitShift : Nat} (hbit : bitShift < 64) (rest : List (BitVec 64))
    (source : Nat) (words : Words n) :
    shiftLoopAt wordShift bitShift source rest words =
      some (shiftLoop wordShift bitShift source rest words) := by
  induction rest generalizing source words with
  | nil => rfl
  | cons word rest ih =>
    unfold shiftLoopAt shiftLoop
    by_cases hout : n ≤ source + wordShift
    · rw [if_pos hout, if_pos hout]
    · rw [if_neg hout, if_neg hout, spillWordAt_eq (Nat.lt_of_not_le hout) hbit, Option.bind_eq_bind,
        Option.bind_some, ih]

theorem shiftAt_eq (words : Words replayWindowWords) (distance : Nat) :
    shiftAt words distance = some (shift words distance) := by
  unfold shiftAt shift
  split
  next => rfl
  next => exact shiftLoopAt_eq (Nat.mod_lt _ (by omega)) _ _ _

theorem offset_lt {highest sequence : UInt64} (h : ¬highest - sequence ≥ 1024) :
    (highest - sequence).toNat < replayWindowBits := by
  rw [ge_iff_le, UInt64.le_iff_toNat_le] at h
  have hwidth : (1024 : UInt64).toNat = replayWindowBits := rfl
  omega

theorem protocolPrecheck_eq (sequence : UInt64) :
    w.protocolPrecheck sequence = some (w.precheck sequence) := by
  unfold protocolPrecheck precheck
  cases w.highest with
  | none => rfl
  | some highest =>
    by_cases habove : sequence > highest
    · simp only [if_pos habove]
      rw [difference_of_le (UInt64.le_of_lt habove)]
      rfl
    · simp only [if_neg habove]
      rw [difference_of_le (UInt64.not_lt.mp habove), Option.bind_eq_bind, Option.bind_some]
      by_cases hold : highest - sequence ≥ 1024
      · rw [if_pos hold, if_pos hold]
      · rw [if_neg hold, if_neg hold, bitIsSetAt_eq w (offset_lt hold)]
        rfl

/-- The two checks are one. -/
theorem relayPrecheck_eq (sequence : UInt64) :
    w.relayPrecheck sequence = w.protocolPrecheck sequence := by
  unfold relayPrecheck protocolPrecheck
  have hswap : ∀ advance : UInt64, (if advance ≤ maxSequenceAdvance then some () else none) =
      if advance > maxSequenceAdvance then none else some () := by
    intro advance
    by_cases h : advance > maxSequenceAdvance
    · rw [if_pos h, if_neg (UInt64.not_le.mpr h)]
    · rw [if_neg h, if_pos (UInt64.not_lt.mp h)]
  cases w.highest with
  | none => simp only [hswap]
  | some highest =>
    have hwidth : ∀ offset : UInt64, offset.toNat ≥ replayWindowBits ↔ offset ≥ 1024 := by
      intro offset
      rw [ge_iff_le, ge_iff_le, UInt64.le_iff_toNat_le]
      rfl
    simp only [hswap, hwidth]

theorem record_of_precheck {sequence : UInt64} (h : w.precheck sequence = some ()) :
    w.record sequence = some (w.commit sequence).2 ∧ (w.commit sequence).1 = some () := by
  have hwords : 0 < replayWindowWords := by decide
  unfold commit
  rw [h]
  unfold record
  cases hhighest : w.highest with
  | none => exact ⟨if_pos hwords, rfl⟩
  | some highest =>
    by_cases habove : sequence > highest
    · simp only [if_pos habove]
      rw [difference_of_le (UInt64.le_of_lt habove), Option.bind_eq_bind, Option.bind_some, shiftAt_eq,
        Option.bind_eq_bind, Option.bind_some, orWordAt, if_pos hwords]
      exact ⟨rfl, trivial⟩
    · have hbound : (highest - sequence).toNat < replayWindowBits := by
        refine offset_lt fun hold => ?_
        unfold precheck at h
        rw [hhighest] at h
        simp [habove, hold] at h
      have hword : (highest - sequence).toNat / 64 < replayWindowWords := by
        unfold replayWindowWords replayWindowBits at *
        omega
      simp only [if_neg habove]
      rw [difference_of_le (UInt64.not_lt.mp habove), Option.bind_eq_bind, Option.bind_some, shiftedLeft,
        if_pos (Nat.mod_lt _ (by omega)), Option.bind_eq_bind, Option.bind_some, orWordAt, if_pos hword]
      exact ⟨rfl, trivial⟩

/-- No commit panics. -/
theorem protocolCommit_eq (sequence : UInt64) : protocolCommit w sequence = some (w.commit sequence) := by
  unfold protocolCommit commitAfter
  rw [protocolPrecheck_eq, Option.bind_eq_bind, Option.bind_some]
  cases hp : w.precheck sequence with
  | none => exact congrArg some (commit_eq_none_of_precheck hp).symm
  | some _ =>
    obtain ⟨hrecord, hanswer⟩ := w.record_of_precheck hp
    show (w.record sequence >>= fun w => some (some (), w)) = _
    rw [hrecord, ← hanswer]
    rfl

theorem relayCommit_eq (sequence : UInt64) : relayCommit w sequence = some (w.commit sequence) := by
  rw [← protocolCommit_eq]
  unfold relayCommit protocolCommit commitAfter
  rw [relayPrecheck_eq]

end Panics

/-- Not accepted before, and not too far above or below the highest accepted. -/
def Acceptable (accepted : List UInt64) (s : UInt64) : Prop :=
  s ∉ accepted ∧ ((accepted = [] ∧ s.toNat ≤ 2 ^ 20) ∨
    ∃ h ∈ accepted, (∀ x ∈ accepted, x ≤ h) ∧
      ((h < s ∧ s.toNat - h.toNat ≤ 2 ^ 20) ∨ (s ≤ h ∧ h.toNat - s.toNat < 1024)))

def numbers (accepted : List UInt64) : Finset Nat := (accepted.map UInt64.toNat).toFinset

theorem mem_numbers {accepted : List UInt64} {s : UInt64} : s.toNat ∈ numbers accepted ↔ s ∈ accepted := by
  simp only [numbers, List.mem_toFinset, List.mem_map]
  constructor
  · rintro ⟨x, hx, heq⟩
    exact UInt64.toNat_inj.mp heq ▸ hx
  · exact fun h => ⟨s, h, rfl⟩

theorem exists_greatest {accepted : List UInt64} (h : accepted ≠ []) :
    ∃ g ∈ accepted, ∀ x ∈ accepted, x ≤ g := by
  induction accepted with
  | nil => exact absurd rfl h
  | cons s accepted ih =>
    by_cases hempty : accepted = []
    · exact ⟨s, List.mem_cons_self, by simp [hempty]⟩
    · obtain ⟨g, hg, hmax⟩ := ih hempty
      rcases UInt64.le_total g s with hle | hle
      · refine ⟨s, List.mem_cons_self, List.forall_mem_cons.mpr ⟨UInt64.le_refl s, fun x hx => ?_⟩⟩
        exact UInt64.le_trans (hmax x hx) hle
      · exact ⟨g, List.mem_cons_of_mem _ hg, List.forall_mem_cons.mpr ⟨hle, hmax⟩⟩

theorem admits_iff_acceptable (accepted : List UInt64) (s : UInt64) :
    Admits replayWindowBits (2 ^ 20) (numbers accepted) s.toNat ↔ Acceptable accepted s := by
  have hnumber : ∀ {n : Nat}, n ∈ numbers accepted ↔ ∃ x ∈ accepted, x.toNat = n := by
    intro n
    simp [numbers]
  unfold Admits Acceptable
  rw [mem_numbers]
  refine and_congr_right fun _ => ?_
  by_cases hempty : accepted = []
  · subst hempty
    simp [numbers]
  obtain ⟨g, hg, hmax⟩ := exists_greatest hempty
  have hne : numbers accepted ≠ ∅ := Finset.ne_empty_of_mem (mem_numbers.mpr hg)
  constructor
  · rintro ⟨-, hnear⟩
    obtain ⟨habove, hbelow⟩ := hnear g.toNat (mem_numbers.mpr hg) fun n hn => by
      obtain ⟨x, hx, rfl⟩ := hnumber.mp hn
      exact UInt64.le_iff_toNat_le.mp (hmax x hx)
    refine Or.inr ⟨g, hg, hmax, ?_⟩
    rcases UInt64.lt_or_le g s with hlt | hle
    · exact Or.inl ⟨hlt, by omega⟩
    · refine Or.inr ⟨hle, ?_⟩
      have hwidth : replayWindowBits = 1024 := rfl
      omega
  · rintro (⟨habsurd, -⟩ | ⟨h, hh, hgreatest, hnear⟩)
    · exact absurd habsurd hempty
    · refine ⟨fun habsurd => absurd habsurd hne, fun n hn hle => ?_⟩
      obtain ⟨x, hx, rfl⟩ := hnumber.mp hn
      have hxh := UInt64.le_iff_toNat_le.mp (hgreatest x hx)
      have hhx := hle h.toNat (mem_numbers.mpr hh)
      have hwidth : replayWindowBits = 1024 := rfl
      rcases hnear with ⟨hlt, hfar⟩ | ⟨hle, hfar⟩
      · have := UInt64.lt_iff_toNat_lt.mp hlt
        omega
      · have := UInt64.le_iff_toNat_le.mp hle
        omega

theorem holds_of_commitNext {w w' : ReplayWindow} {accepted accepted' : List UInt64} {sequence : UInt64}
    (h : w.Holds (numbers accepted))
    (hnext : commitNext protocolCommit (w, accepted) sequence = some (w', accepted')) :
    w'.Holds (numbers accepted') := by
  unfold commitNext at hnext
  rw [protocolCommit_eq, Option.bind_eq_bind, Option.bind_some] at hnext
  cases hcommit : w.commit sequence with
  | mk answer w'' =>
    rw [hcommit] at hnext
    cases answer with
    | none =>
      cases hnext
      rw [commit_eq_none hcommit]
      exact h
    | some _ =>
      cases hnext
      have hinsert : numbers (sequence :: accepted) = insert sequence.toNat (numbers accepted) := by
        simp [numbers]
      rw [hinsert]
      exact (commit_eq_some h hcommit).2

theorem commitAll_protocol (sequences : List UInt64) :
    ∃ w accepted, commitAll protocolCommit sequences = some (w, accepted) ∧
      w.Holds (numbers accepted) := by
  have hrun : ∀ (sequences : List UInt64) {w : ReplayWindow} {accepted : List UInt64},
      w.Holds (numbers accepted) → ∃ w' accepted',
        sequences.foldlM (commitNext protocolCommit) (w, accepted) = some (w', accepted') ∧
          w'.Holds (numbers accepted') := by
    intro sequences
    induction sequences with
    | nil => exact fun {w accepted} h => ⟨w, accepted, rfl, h⟩
    | cons sequence sequences ih =>
      intro w accepted h
      obtain ⟨⟨w', accepted'⟩, hnext⟩ : ∃ progress,
          commitNext protocolCommit (w, accepted) sequence = some progress := by
        unfold commitNext
        rw [protocolCommit_eq, Option.bind_eq_bind, Option.bind_some]
        cases hcommit : w.commit sequence with
        | mk answer after =>
          cases answer with
          | none => exact ⟨(after, accepted), by simp only⟩
          | some _ => exact ⟨(after, sequence :: accepted), by simp only⟩
      obtain ⟨w'', accepted'', hrest, hholds⟩ := ih (holds_of_commitNext h hnext)
      refine ⟨w'', accepted'', ?_, hholds⟩
      rw [List.foldlM_cons, hnext]
      exact hrest
  exact hrun sequences holds_new

/-- Both windows after any calls: no call panicked, they accepted the same sequences, and they answer
every next call alike, by what was accepted. -/
theorem replay_windows_accept (sequences : List UInt64) :
    ∃ w accepted, commitAll protocolCommit sequences = some (w, accepted) ∧
      commitAll relayCommit sequences = some (w, accepted) ∧
      ∀ s : UInt64, ∃ answer w', protocolCommit w s = some (answer, w') ∧
        relayCommit w s = some (answer, w') ∧ protocolPrecheck w s = some answer ∧
        relayPrecheck w s = some answer ∧ (answer = some () ↔ Acceptable accepted s) ∧
        (answer = none → w' = w) := by
  have hsame : relayCommit = protocolCommit := by
    funext w s
    rw [relayCommit_eq, protocolCommit_eq]
  obtain ⟨w, accepted, hrun, hholds⟩ := commitAll_protocol sequences
  refine ⟨w, accepted, hrun, by rw [hsame]; exact hrun, fun s => ?_⟩
  have hanswer : (w.commit s).1 = w.precheck s := by
    cases hp : w.precheck s with
    | none => rw [commit_eq_none_of_precheck hp]
    | some _ =>
      obtain ⟨w', hcommit⟩ := commit_succeeds hp
      rw [hcommit]
  refine ⟨w.precheck s, (w.commit s).2, ?_, ?_, protocolPrecheck_eq w s, ?_, ?_, ?_⟩
  · rw [protocolCommit_eq, ← hanswer]
  · rw [relayCommit_eq, ← hanswer]
  · rw [relayPrecheck_eq, protocolPrecheck_eq]
  · rw [precheck_eq_some_iff hholds, admits_iff_acceptable]
  · intro hnone
    rw [commit_eq_none_of_precheck hnone]

end ReplayWindow

end XsNexus
