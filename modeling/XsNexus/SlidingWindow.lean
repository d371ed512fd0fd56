import Mathlib.Data.Finset.Insert
import Mathlib.Tactic

namespace SlidingWindow

/-- An anti-replay window over the numbers accepted so far: a number is admitted once, not further
than `advance` above the highest and not `width` or more below it. -/
def Admits (width advance : Nat) (seen : Finset Nat) (s : Nat) : Prop :=
  s ∉ seen ∧ (seen = ∅ → s ≤ advance) ∧
    ∀ h ∈ seen, (∀ x ∈ seen, x ≤ h) → s ≤ h + advance ∧ h < s + width

/-- A highest number and a bitmap of the offsets below it represent the accepted numbers. -/
structure Tracks (width : Nat) (highest : Option Nat) (marked : Nat → Bool) (seen : Finset Nat) :
    Prop where
  empty : highest = none → seen = ∅ ∧ ∀ o < width, marked o = false
  greatest : ∀ h, highest = some h → h ∈ seen ∧ ∀ x ∈ seen, x ≤ h
  bits : ∀ h, highest = some h → ∀ o < width, (marked o = true ↔ o ≤ h ∧ h - o ∈ seen)

theorem tracks_empty {width : Nat} {marked : Nat → Bool} (h : ∀ o < width, marked o = false) :
    Tracks width none marked ∅ :=
  ⟨fun _ => ⟨rfl, h⟩, by simp, by simp⟩

theorem admits_empty {width advance s : Nat} : Admits width advance ∅ s ↔ s ≤ advance := by
  simp [Admits]

theorem Tracks.admits_above {width advance h s : Nat} {marked : Nat → Bool} {seen : Finset Nat}
    (t : Tracks width (some h) marked seen) (hs : h < s) :
    Admits width advance seen s ↔ s - h ≤ advance := by
  obtain ⟨hm, hmax⟩ := t.greatest h rfl
  constructor
  · intro ha
    have := (ha.2.2 h hm hmax).1
    omega
  · intro ha
    refine ⟨fun hin => ?_, fun he => ?_, fun g hg hgmax => ?_⟩
    · have := hmax s hin
      omega
    · simp [he] at hm
    · have h1 := hmax g hg
      have h2 := hgmax h hm
      omega

theorem Tracks.admits_below {width advance h s : Nat} {marked : Nat → Bool} {seen : Finset Nat}
    (t : Tracks width (some h) marked seen) (hs : s ≤ h) :
    Admits width advance seen s ↔ h - s < width ∧ marked (h - s) = false := by
  obtain ⟨hm, hmax⟩ := t.greatest h rfl
  have hback : h - (h - s) = s := by omega
  constructor
  · intro ha
    have hw := (ha.2.2 h hm hmax).2
    refine ⟨by omega, ?_⟩
    have hb := t.bits h rfl (h - s) (by omega)
    rw [hback] at hb
    rw [Bool.eq_false_iff]
    exact fun hmark => ha.1 (hb.mp hmark).2
  · rintro ⟨hw, hmark⟩
    have hb := t.bits h rfl (h - s) hw
    rw [hback, hmark] at hb
    refine ⟨fun hin => by simpa using hb.mpr ⟨by omega, hin⟩, fun he => ?_, fun g hg hgmax => ?_⟩
    · simp [he] at hm
    · have h1 := hmax g hg
      have h2 := hgmax h hm
      omega

theorem Tracks.first {width s : Nat} {marked marked' : Nat → Bool} {seen : Finset Nat}
    (t : Tracks width none marked seen) (hm : ∀ o < width, marked' o = decide (o = 0)) :
    Tracks width (some s) marked' (insert s seen) := by
  rw [(t.empty rfl).1]
  refine ⟨by simp, by simp, fun h he o ho => ?_⟩
  cases Option.some.inj he
  rw [hm o ho]
  simp
  omega

theorem Tracks.advance {width h s : Nat} {marked marked' : Nat → Bool} {seen : Finset Nat}
    (t : Tracks width (some h) marked seen) (hs : h < s)
    (hm : ∀ o < width,
      marked' o = (decide (o = 0) || (decide (s - h ≤ o) && marked (o - (s - h))))) :
    Tracks width (some s) marked' (insert s seen) := by
  obtain ⟨hin, hmax⟩ := t.greatest h rfl
  refine ⟨by simp, fun g he => ?_, fun g he o ho => ?_⟩
  · cases Option.some.inj he
    refine ⟨by simp, fun x hx => ?_⟩
    rcases Finset.mem_insert.mp hx with rfl | hx
    · exact le_rfl
    · have := hmax x hx
      omega
  · cases Option.some.inj he
    rw [hm o ho]
    by_cases h0 : o = 0
    · simp [h0]
    · by_cases hd : s - h ≤ o
      · have hb := t.bits h rfl (o - (s - h)) (by omega)
        simp only [h0, hd, decide_false, decide_true, Bool.false_or, Bool.true_and, hb,
          Finset.mem_insert]
        constructor
        · rintro ⟨h1, h2⟩
          have he : h - (o - (s - h)) = s - o := by omega
          rw [he] at h2
          exact ⟨by omega, Or.inr h2⟩
        · rintro ⟨h1, h2⟩
          rcases h2 with h2 | h2
          · omega
          · have := hmax _ h2
            have he : h - (o - (s - h)) = s - o := by omega
            exact ⟨by omega, by rw [he]; exact h2⟩
      · have hout : s - o ∉ seen := fun hx => by
          have := hmax _ hx
          omega
        simp only [h0, hd, decide_false, Bool.false_or, Bool.false_and, Bool.false_eq_true,
          Finset.mem_insert, hout, or_false, false_iff]
        omega

theorem Tracks.fill {width h s : Nat} {marked marked' : Nat → Bool} {seen : Finset Nat}
    (t : Tracks width (some h) marked seen) (hs : s ≤ h)
    (hm : ∀ o < width, marked' o = (marked o || decide (o = h - s))) :
    Tracks width (some h) marked' (insert s seen) := by
  obtain ⟨hin, hmax⟩ := t.greatest h rfl
  refine ⟨by simp, fun g he => ?_, fun g he o ho => ?_⟩
  · cases Option.some.inj he
    refine ⟨by simp [hin], fun x hx => ?_⟩
    rcases Finset.mem_insert.mp hx with rfl | hx
    · exact hs
    · exact hmax x hx
  · cases Option.some.inj he
    rw [hm o ho, Bool.or_eq_true, t.bits h rfl o ho, decide_eq_true_eq, Finset.mem_insert]
    constructor
    · rintro (⟨h1, h2⟩ | h1)
      · exact ⟨h1, Or.inr h2⟩
      · exact ⟨by omega, Or.inl (by omega)⟩
    · rintro ⟨h1, h2 | h2⟩
      · exact Or.inr (by omega)
      · exact Or.inl ⟨h1, h2⟩

end SlidingWindow
