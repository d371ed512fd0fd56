import Mathlib.Data.List.Perm.Basic
import Mathlib.Tactic

namespace SortedSet

variable {α : Type*} (lt : α → α → Prop) [DecidableRel lt]

/-- A set as the list of its elements in their order. -/
def insert (a : α) : List α → List α
  | [] => [a]
  | b :: l => if lt a b then a :: b :: l else if lt b a then b :: insert a l else b :: l

variable {lt}

theorem mem_insert (htri : ∀ {a b}, ¬lt a b → ¬lt b a → a = b) {a x : α} {l : List α} :
    x ∈ insert lt a l ↔ x = a ∨ x ∈ l := by
  induction l with
  | nil => simp [insert]
  | cons b l ih =>
    unfold insert
    by_cases hab : lt a b
    · rw [if_pos hab, List.mem_cons]
    · rw [if_neg hab]
      by_cases hba : lt b a
      · rw [if_pos hba, List.mem_cons, ih, List.mem_cons]
        exact or_left_comm
      · rw [if_neg hba, htri hab hba]
        simp

theorem pairwise_insert (htrans : ∀ {a b c}, lt a b → lt b c → lt a c)
    (htri : ∀ {a b}, ¬lt a b → ¬lt b a → a = b) (a : α) {l : List α} (h : l.Pairwise lt) :
    (insert lt a l).Pairwise lt := by
  induction l with
  | nil => exact List.pairwise_singleton lt a
  | cons b l ih =>
    obtain ⟨hfirst, hrest⟩ := List.pairwise_cons.mp h
    unfold insert
    by_cases hab : lt a b
    · rw [if_pos hab]
      refine List.pairwise_cons.mpr ⟨fun x hx => ?_, h⟩
      rcases List.mem_cons.mp hx with rfl | hx
      · exact hab
      · exact htrans hab (hfirst x hx)
    · rw [if_neg hab]
      by_cases hba : lt b a
      · rw [if_pos hba]
        refine List.pairwise_cons.mpr ⟨fun x hx => ?_, ih hrest⟩
        rcases (mem_insert htri).mp hx with rfl | hx
        · exact hba
        · exact hfirst x hx
      · rw [if_neg hba]
        exact h

omit [DecidableRel lt] in
theorem nodup_of_pairwise (hirrefl : ∀ a, ¬lt a a) {l : List α} (h : l.Pairwise lt) : l.Nodup := by
  refine h.imp ?_
  intro a b hab heq
  exact hirrefl b (heq ▸ hab)

omit [DecidableRel lt] in
/-- The elements of two lists are counted once each. -/
theorem length_eq_dedup [DecidableEq α] (hirrefl : ∀ a, ¬lt a a) {l l' : List α} (h : l.Pairwise lt)
    (hmem : ∀ x, x ∈ l ↔ x ∈ l') : l.length = l'.dedup.length := by
  have hnodup := nodup_of_pairwise hirrefl h
  refine ((List.perm_ext_iff_of_nodup hnodup (List.nodup_dedup l')).mpr fun x => ?_).length_eq
  rw [List.mem_dedup, hmem]

end SortedSet
