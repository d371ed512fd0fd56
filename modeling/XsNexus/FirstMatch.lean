import Mathlib.Data.List.Pairwise

namespace FirstMatch

variable {α : Type*}

/-- The one of the elements with `p` that stands before all others of them. -/
structure IsBest (before : α → α → Prop) (p : α → Bool) (l : List α) (x : α) : Prop where
  mem : x ∈ l
  holds : p x = true
  best : ∀ y ∈ l, p y = true → y = x ∨ before x y

section Sorted

variable {before : α → α → Prop} {p : α → Bool} {l : List α} {x y : α}

theorem isBest_of_find? (sorted : l.Pairwise before) (h : l.find? p = some x) :
    IsBest before p l x := by
  induction l with
  | nil => simp at h
  | cons a l ih =>
    obtain ⟨hfirst, hrest⟩ := List.pairwise_cons.mp sorted
    by_cases ha : p a = true
    · rw [List.find?_cons_of_pos ha] at h
      have heq := Option.some.inj h
      subst heq
      refine ⟨List.mem_cons_self, ha, ?_⟩
      intro y hy _
      rcases List.mem_cons.mp hy with rfl | hy
      · exact Or.inl rfl
      · exact Or.inr (hfirst y hy)
    · rw [List.find?_cons_of_neg (by simpa using ha)] at h
      have hbest := ih hrest h
      refine ⟨List.mem_cons_of_mem a hbest.mem, hbest.holds, ?_⟩
      intro y hy hpy
      rcases List.mem_cons.mp hy with rfl | hy
      · exact absurd hpy ha
      · exact hbest.best y hy hpy

theorem IsBest.unique (asymm : ∀ a b, before a b → ¬before b a) (hx : IsBest before p l x)
    (hy : IsBest before p l y) : x = y := by
  rcases hx.best y hy.mem hy.holds with heq | hxy
  · exact heq.symm
  · rcases hy.best x hx.mem hx.holds with heq | hyx
    · exact heq
    · exact absurd hyx (asymm x y hxy)

/-- In a list in order, the first match is the best. -/
theorem find?_eq_some_iff (sorted : l.Pairwise before) (asymm : ∀ a b, before a b → ¬before b a) :
    l.find? p = some x ↔ IsBest before p l x := by
  constructor
  · exact isBest_of_find? sorted
  · intro hbest
    cases hfind : l.find? p with
    | none =>
      have hnone := List.find?_eq_none.mp hfind x hbest.mem
      exact absurd hbest.holds hnone
    | some y => exact congrArg some ((isBest_of_find? sorted hfind).unique asymm hbest)

/-- Of two elements of a list in order, one is before the other. -/
theorem related_of_pairwise (sorted : l.Pairwise before) (hx : x ∈ l) (hy : y ∈ l) (hne : x ≠ y) :
    before x y ∨ before y x := by
  have hsymm : Std.Symm fun a b => before a b ∨ before b a := ⟨fun _ _ h => h.symm⟩
  have heither : l.Pairwise fun a b => before a b ∨ before b a := sorted.imp fun h => Or.inl h
  exact heither.forall hx hy hne

end Sorted

end FirstMatch
