import XsNexus.MapLoops
import Mathlib.Algebra.Order.BigOperators.Group.Finset

namespace FiniteMap

open Finset

variable {K V M : Type*} [DecidableEq K] [AddCommMonoid M]

/-- The sum of what the values of a map weigh. -/
def total (weight : K → V → M) (m : Map K V) : M :=
  (m.entries.map fun entry => weight entry.1 entry.2).sum

/-- What a map weighs at one key. -/
def weightAt (weight : K → V → M) (m : Map K V) (k : K) : M :=
  ((m.lookup k).map (weight k)).getD 0

theorem weightAt_of_notMem {weight : K → V → M} {m : Map K V} {k : K} (h : k ∉ m) :
    weightAt weight m k = 0 := by
  have hnone : m.lookup k = none := AList.lookup_eq_none.mpr h
  rw [weightAt, hnone]
  rfl

theorem sum_entries (g : K → M) (m : Map K V) :
    (m.entries.map fun entry => g entry.1).sum = ∑ k ∈ m.keys.toFinset, g k := by
  have hkeys : m.keys.Nodup := m.keys_nodup
  have hmap : m.keys.map g = m.entries.map fun entry => g entry.1 := by
    show (m.entries.map Sigma.fst).map g = _
    rw [List.map_map]
    rfl
  rw [List.sum_toFinset g hkeys, hmap]

/-- The total is taken key by key, over any set of keys that holds those of the map. -/
theorem total_eq_sum (weight : K → V → M) {m : Map K V} {keys : Finset K}
    (h : ∀ k ∈ m, k ∈ keys) : total weight m = ∑ k ∈ keys, weightAt weight m k := by
  have hweights : total weight m =
      (m.entries.map fun entry => weightAt weight m entry.1).sum := by
    unfold total
    refine congrArg List.sum (List.map_congr_left fun entry hentry => ?_)
    have hl : m.lookup entry.1 = some entry.2 := lookup_eq_some.mpr hentry
    rw [weightAt, hl]
    rfl
  have hsubset : m.keys.toFinset ⊆ keys := by
    intro k hk
    exact h k (AList.mem_keys.mpr (List.mem_toFinset.mp hk))
  rw [hweights, sum_entries]
  refine Finset.sum_subset hsubset fun k _ hk => weightAt_of_notMem fun hm => hk ?_
  exact List.mem_toFinset.mpr (AList.mem_keys.mp hm)

/-- The entries a loop picks from a map weigh what it picks at each key. -/
theorem sum_filterMap_entries {X : Type*} (weight : X → M) (pick : K → V → Option X) {m : Map K V}
    {keys : Finset K} (h : ∀ k ∈ m, k ∈ keys) :
    ((m.entries.filterMap fun entry => pick entry.1 entry.2).map weight).sum =
      ∑ k ∈ keys, (((m.lookup k).bind (pick k)).map weight).getD 0 := by
  have hpicked : ∀ entries : List (Sigma fun _ : K => V),
      ((entries.filterMap fun entry => pick entry.1 entry.2).map weight).sum =
        (entries.map fun entry => ((pick entry.1 entry.2).map weight).getD 0).sum := by
    intro entries
    induction entries with
    | nil => rfl
    | cons entry entries ih =>
      cases hpick : pick entry.1 entry.2 with
      | none => simp [hpick, ih]
      | some x => simp [hpick, ih]
  have htotal := total_eq_sum (fun k v => ((pick k v).map weight).getD 0) h
  rw [hpicked]
  refine htotal.trans (Finset.sum_congr rfl fun k _ => ?_)
  unfold weightAt
  cases m.lookup k with
  | none => rfl
  | some v => rfl

/-- A map whose every value stays, weighing no less, weighs no less. -/
theorem total_le_total [PartialOrder M] [IsOrderedAddMonoid M] {weight : K → V → M}
    {m m' : Map K V} (hpositive : ∀ k v, 0 ≤ weight k v)
    (h : ∀ k v, m.lookup k = some v → ∃ v', m'.lookup k = some v' ∧ weight k v ≤ weight k v') :
    total weight m ≤ total weight m' := by
  have hm : ∀ k ∈ m, k ∈ m.keys.toFinset ∪ m'.keys.toFinset := fun k hk =>
    Finset.mem_union_left _ (List.mem_toFinset.mpr (AList.mem_keys.mp hk))
  have hm' : ∀ k ∈ m', k ∈ m.keys.toFinset ∪ m'.keys.toFinset := fun k hk =>
    Finset.mem_union_right _ (List.mem_toFinset.mpr (AList.mem_keys.mp hk))
  rw [total_eq_sum weight hm, total_eq_sum weight hm']
  refine Finset.sum_le_sum fun k _ => ?_
  unfold weightAt
  cases hl : m.lookup k with
  | none =>
    cases m'.lookup k with
    | none => exact le_refl _
    | some v' => exact hpositive k v'
  | some v =>
    obtain ⟨v', hv', hle⟩ := h k v hl
    rw [hv']
    exact hle

end FiniteMap
