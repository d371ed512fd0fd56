import Mathlib.Order.Lattice

namespace NewestWins

variable {α ν : Type*} [LinearOrder ν] (version : α → ν)

/-- A register that keeps what it has until something newer is offered. -/
def keep (stored offered : α) : α := if version stored < version offered then offered else stored

def newest (stored : α) (offers : List α) : α := offers.foldl (keep version) stored

theorem le_keep (stored offered : α) : version stored ≤ version (keep version stored offered) := by
  unfold keep
  split
  next h => exact h.le
  next => exact le_refl _

theorem keep_eq_or (stored offered : α) :
    keep version stored offered = stored ∨ keep version stored offered = offered := by
  unfold keep
  split
  · exact Or.inr rfl
  · exact Or.inl rfl

theorem offered_le_keep (stored offered : α) : version offered ≤ version (keep version stored offered) := by
  unfold keep
  split
  next => exact le_refl _
  next h => exact not_lt.mp h

theorem le_newest (stored : α) (offers : List α) : version stored ≤ version (newest version stored offers) := by
  induction offers generalizing stored with
  | nil => exact le_refl _
  | cons offered offers ih => exact (le_keep version stored offered).trans (ih _)

theorem newest_mem (stored : α) (offers : List α) :
    newest version stored offers = stored ∨ newest version stored offers ∈ offers := by
  induction offers generalizing stored with
  | nil => exact Or.inl rfl
  | cons offered offers ih =>
    show newest version (keep version stored offered) offers = stored ∨
      newest version (keep version stored offered) offers ∈ offered :: offers
    rcases ih (keep version stored offered) with hkept | hmem
    · rw [hkept]
      rcases keep_eq_or version stored offered with heq | heq
      · exact Or.inl heq
      · rw [heq]
        exact Or.inr List.mem_cons_self
    · exact Or.inr (List.mem_cons_of_mem _ hmem)

variable {version} {stored : α} {offers : List α} {x : α}

theorem le_newest_of_mem (hx : x ∈ offers) : version x ≤ version (newest version stored offers) := by
  induction offers generalizing stored with
  | nil => simp at hx
  | cons offered offers ih =>
    rcases List.mem_cons.mp hx with rfl | hx
    · exact (offered_le_keep version stored x).trans (le_newest version _ offers)
    · exact ih hx

/-- Without anything newer the register does not change. -/
theorem newest_eq_stored (h : ∀ x ∈ offers, version x ≤ version stored) :
    newest version stored offers = stored := by
  induction offers with
  | nil => rfl
  | cons offered offers ih =>
    obtain ⟨hfirst, hrest⟩ := List.forall_mem_cons.mp h
    show newest version (keep version stored offered) offers = stored
    have hkept : keep version stored offered = stored := if_neg (not_lt.mpr hfirst)
    rw [hkept]
    exact ih hrest

/-- Where a version names one thing, the newest offer wins. -/
theorem newest_eq_of_max (distinct : ∀ y ∈ offers, ∀ z ∈ offers, version y = version z → y = z)
    (hx : x ∈ offers) (hnewer : version stored < version x)
    (hmax : ∀ y ∈ offers, version y ≤ version x) : newest version stored offers = x := by
  have hle : version x ≤ version (newest version stored offers) := le_newest_of_mem hx
  rcases newest_mem version stored offers with hstored | hmem
  · rw [hstored] at hle
    exact absurd hle (not_le.mpr hnewer)
  · exact distinct _ hmem x hx (le_antisymm (hmax _ hmem) hle)

/-- Neither the order of the offers nor their repetition matters. -/
theorem newest_congr (distinct : ∀ y ∈ offers, ∀ z ∈ offers, version y = version z → y = z)
    {offers' : List α} (hsame : ∀ y, y ∈ offers' ↔ y ∈ offers) :
    newest version stored offers' = newest version stored offers := by
  rcases newest_mem version stored offers with hstored | hmem
  · have hnone : ∀ y ∈ offers', version y ≤ version stored := by
      intro y hy
      have hle : version y ≤ version (newest version stored offers) := le_newest_of_mem ((hsame y).mp hy)
      rwa [hstored] at hle
    rw [hstored, newest_eq_stored hnone]
  · by_cases hnewer : version stored < version (newest version stored offers)
    · refine newest_eq_of_max ?_ ((hsame _).mpr hmem) hnewer ?_
      · intro y hy z hz
        exact distinct y ((hsame y).mp hy) z ((hsame z).mp hz)
      · intro y hy
        exact le_newest_of_mem ((hsame y).mp hy)
    · have hnone : ∀ y ∈ offers, version y ≤ version stored := fun y hy =>
        (le_newest_of_mem hy).trans (not_lt.mp hnewer)
      rw [newest_eq_stored hnone]
      exact newest_eq_stored fun y hy => hnone y ((hsame y).mp hy)

end NewestWins
