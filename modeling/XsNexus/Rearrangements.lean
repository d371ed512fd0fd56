import Mathlib.Data.List.Sort
import XsNexus.Checks

namespace Rearrangements

open Checks

universe u

variable {α β κ ε : Type*}

/-- Two lists whose elements correspond under a relation, in whichever order. -/
def Rearranged (R : α → β → Prop) (l : List α) (l' : List β) : Prop :=
  ∃ middle, l.Perm middle ∧ List.Forall₂ R middle l'

section Rearranged

variable {R : α → β → Prop} {l : List α} {l' : List β}

theorem Rearranged.length_eq (h : Rearranged R l l') : l.length = l'.length := by
  obtain ⟨middle, hperm, hall⟩ := h
  rw [hperm.length_eq, hall.length_eq]

theorem map_eq_of_forall₂ {f : α → κ} {g : β → κ} (hfg : ∀ a b, R a b → f a = g b)
    (h : List.Forall₂ R l l') : l.map f = l'.map g := by
  induction h with
  | nil => rfl
  | cons hab _ ih => rw [List.map_cons, List.map_cons, hfg _ _ hab, ih]

theorem Rearranged.map_perm {f : α → κ} {g : β → κ} (hfg : ∀ a b, R a b → f a = g b)
    (h : Rearranged R l l') : (l.map f).Perm (l'.map g) := by
  obtain ⟨middle, hperm, hall⟩ := h
  rw [← map_eq_of_forall₂ hfg hall]
  exact hperm.map f

theorem Rearranged.symm {R' : β → α → Prop} (hR : ∀ a b, R a b → R' b a) (h : Rearranged R l l') :
    Rearranged R' l' l := by
  obtain ⟨middle, hperm, hall⟩ := h
  have hback : List.Forall₂ R' l' middle := (hall.imp hR).flip
  have hcomp : Relation.Comp (List.Forall₂ R') List.Perm l' l := ⟨middle, hback, hperm.symm⟩
  rw [List.forall₂_comp_perm_eq_perm_comp_forall₂] at hcomp
  exact hcomp

theorem rearranged_of_perm {l l' : List α} {R : α → α → Prop} (hR : ∀ a, R a a) (h : l.Perm l') :
    Rearranged R l l' := ⟨l', h, List.forall₂_same.mpr fun a _ => hR a⟩

end Rearranged

section Checked

/-- The only error of a result -/
def FailsWith (e : ε) (x : Except ε α) : Prop := ∀ e', x = .error e' → e' = e

variable {e : ε}

/-- Results with one error are the same when they succeed alike. -/
theorem FailsWith.eq {x y : Except ε α} (hx : FailsWith e x) (hy : FailsWith e y)
    (h : ∀ a, x = .ok a → y = .ok a) (h' : ∀ a, y = .ok a → x = .ok a) : x = y := by
  cases x with
  | ok a => exact (h a rfl).symm
  | error e' =>
    cases y with
    | ok a => exact h' a rfl
    | error e'' => rw [hx e' rfl, hy e'' rfl]

theorem FailsWith.ok (a : α) : FailsWith e (.ok a : Except ε α) := by
  intro e' he
  cases he

theorem FailsWith.error : FailsWith e (.error e : Except ε α) := by
  intro e' he
  cases he
  rfl

theorem FailsWith.bind {α β : Type u} {x : Except ε α} {f : α → Except ε β} (hx : FailsWith e x)
    (hf : ∀ a, FailsWith e (f a)) : FailsWith e (x >>= f) := by
  cases x with
  | ok a => exact hf a
  | error e' =>
    intro e'' he
    cases he
    exact hx e' rfl

theorem FailsWith.ite {p : Prop} [Decidable p] {x y : Except ε α} (hx : FailsWith e x) (hy : FailsWith e y) :
    FailsWith e (if p then x else y) := by
  by_cases h : p
  · rwa [if_pos h]
  · rwa [if_neg h]

theorem FailsWith.okOr (x : Option α) : FailsWith e (okOr e x) := by
  cases x with
  | none => exact FailsWith.error
  | some a => exact FailsWith.ok a

theorem FailsWith.mapError {ε' : Type*} (x : Except ε' α) : FailsWith e (x.mapError fun _ => e) := by
  cases x with
  | ok a => exact FailsWith.ok a
  | error e' => exact FailsWith.error

theorem FailsWith.mapM {α β : Type u} {f : α → Except ε β} (hf : ∀ a, FailsWith e (f a)) (l : List α) :
    FailsWith e (l.mapM f) := by
  induction l with
  | nil => exact FailsWith.ok _
  | cons a l ih =>
    rw [List.mapM_cons]
    exact (hf a).bind fun _ => ih.bind fun _ => FailsWith.ok _

theorem FailsWith.foldlM {σ α : Type u} {step : σ → α → Except ε σ} (hstep : ∀ s a, FailsWith e (step s a))
    (l : List α) (s : σ) : FailsWith e (l.foldlM step s) := by
  induction l generalizing s with
  | nil => exact FailsWith.ok s
  | cons a l ih =>
    rw [List.foldlM_cons]
    exact (hstep s a).bind ih

theorem mapM_perm {α β : Type u} {f : α → Except ε β} {l l' : List α} {values : List β} (h : l.Perm l')
    (hl : l.mapM f = .ok values) : ∃ values', l'.mapM f = .ok values' ∧ values.Perm values' := by
  obtain ⟨values', hall, hperm⟩ := List.perm_comp_forall₂ h.symm (mapM_ok.mp hl)
  exact ⟨values', mapM_ok.mpr hall, hperm.symm⟩

theorem mapM_congr_forall₂ {α α' β : Type u} {R : α → α' → Prop} {f : α → Except ε β} {g : α' → Except ε β}
    (hfg : ∀ a b, R a b → f a = g b) {l : List α} {l' : List α'} (h : List.Forall₂ R l l') :
    l.mapM f = l'.mapM g := by
  induction h with
  | nil => rfl
  | cons hab _ ih => rw [List.mapM_cons, List.mapM_cons, hfg _ _ hab, ih]

end Checked

section Sorting

/-- First by a number, then by another order -/
def Ranked (key : α → ℤ) (rest : α → α → Prop) (a b : α) : Prop := key a < key b ∨ key a = key b ∧ rest a b

variable {key : α → ℤ} {rest : α → α → Prop}

instance [Std.Total rest] : Std.Total (Ranked key rest) where
  total a b := by
    unfold Ranked
    rcases Std.Total.total (r := rest) a b with h | h
    · by_cases hlt : key b < key a
      · exact Or.inr (Or.inl hlt)
      · by_cases hle : key a < key b
        · exact Or.inl (Or.inl hle)
        · exact Or.inl (Or.inr ⟨by omega, h⟩)
    · by_cases hlt : key a < key b
      · exact Or.inl (Or.inl hlt)
      · by_cases hle : key b < key a
        · exact Or.inr (Or.inl hle)
        · exact Or.inr (Or.inr ⟨by omega, h⟩)

instance [IsTrans α rest] : IsTrans α (Ranked key rest) where
  trans a b c hab hbc := by
    unfold Ranked at *
    rcases hab with hab | ⟨hab, hrest⟩
    · refine Or.inl ?_
      rcases hbc with hbc | ⟨hbc, _⟩ <;> omega
    · rcases hbc with hbc | ⟨hbc, hrest'⟩
      · exact Or.inl (by omega)
      · exact Or.inr ⟨by omega, IsTrans.trans a b c hrest hrest'⟩

theorem Ranked.same {a b : α} (hab : Ranked key rest a b) (hba : Ranked key rest b a) :
    key a = key b ∧ rest a b ∧ rest b a := by
  unfold Ranked at *
  rcases hab with hab | ⟨hkey, hab⟩
  · omega
  · rcases hba with hba | ⟨_, hba⟩
    · omega
    · exact ⟨hkey, hab, hba⟩

variable {le : α → α → Prop} [DecidableRel le] [Std.Total le] [IsTrans α le] {l l' : List α}

/-- A sort forgets the order in which it finds elements that it tells apart. -/
theorem insertionSort_eq_of_perm (h : l.Perm l') (hanti : ∀ a ∈ l, ∀ b ∈ l, le a b → le b a → a = b) :
    l.insertionSort le = l'.insertionSort le := by
  have hperm : (l.insertionSort le).Perm (l'.insertionSort le) :=
    ((List.perm_insertionSort le l).trans h).trans (List.perm_insertionSort le l').symm
  refine List.Perm.eq_of_pairwise ?_ (List.pairwise_insertionSort le l) (List.pairwise_insertionSort le l') hperm
  intro a b ha hb
  have hb' := h.mem_iff.mpr ((List.mem_insertionSort le).mp hb)
  exact hanti a ((List.mem_insertionSort le).mp ha) b hb'

/-- The only list in strict order with these elements is the sorted one. -/
theorem insertionSort_eq_of_strict {lt : α → α → Prop} (hlt : ∀ a b, lt a b → le a b ∧ ¬le b a) (h : l.Perm l')
    (hstrict : l'.Pairwise lt) : l.insertionSort le = l' := by
  have hsorted : l'.Pairwise le := hstrict.imp fun hab => (hlt _ _ hab).1
  have hanti : ∀ a ∈ l', ∀ b ∈ l', le a b → le b a → a = b := by
    intro a ha b hb hab hba
    by_contra hne
    have hor : lt a b ∨ lt b a := by
      clear hsorted h
      induction hstrict with
      | nil => cases ha
      | cons hfirst _ ih =>
        rcases List.mem_cons.mp ha with rfl | hrest
        · rcases List.mem_cons.mp hb with rfl | hrest'
          · exact absurd rfl hne
          · exact Or.inl (hfirst b hrest')
        · rcases List.mem_cons.mp hb with rfl | hrest'
          · exact Or.inr (hfirst a hrest)
          · exact ih hrest hrest'
    rcases hor with hlab | hlba
    · exact (hlt a b hlab).2 hba
    · exact (hlt b a hlba).2 hab
  have hsort := insertionSort_eq_of_perm h.symm hanti
  rw [hsorted.insertionSort_eq] at hsort
  exact hsort.symm

end Sorting

end Rearrangements
