import Mathlib.Data.List.AList
import Mathlib.Tactic

namespace FiniteMap

variable {K V : Type*} [DecidableEq K]

abbrev Map (K V : Type*) := AList fun _ : K => V

def size (m : Map K V) : Nat := m.keys.length

theorem lookup_insert_eq (m : Map K V) (k k' : K) (v : V) :
    (m.insert k v).lookup k' = if k' = k then some v else m.lookup k' := by
  split
  next h =>
    subst h
    exact AList.lookup_insert m
  next h => exact AList.lookup_insert_ne h

theorem lookup_erase_eq (m : Map K V) (k k' : K) :
    (m.erase k).lookup k' = if k' = k then none else m.lookup k' := by
  split
  next h =>
    subst h
    exact AList.lookup_erase k' m
  next h => exact AList.lookup_erase_ne h

theorem mem_iff_lookup {m : Map K V} {k : K} : k ∈ m ↔ ∃ v, m.lookup k = some v := by
  rw [← AList.lookup_isSome, Option.isSome_iff_exists]

theorem size_insert_of_mem {m : Map K V} {k : K} (h : k ∈ m) (v : V) :
    size (m.insert k v) = size m := by
  have hm : k ∈ m.keys := AList.mem_keys.mp h
  have hpos := List.length_pos_of_mem hm
  simp only [size, AList.keys_insert, List.length_cons, List.length_erase_of_mem hm]
  omega

theorem size_insert_of_notMem {m : Map K V} {k : K} (h : k ∉ m) (v : V) :
    size (m.insert k v) = size m + 1 := by
  have hm : k ∉ m.keys := fun hk => h (AList.mem_keys.mpr hk)
  simp only [size, AList.keys_insert, List.length_cons, List.erase_of_not_mem hm]

theorem size_erase_of_mem {m : Map K V} {k : K} (h : k ∈ m) : size (m.erase k) + 1 = size m := by
  have hm : k ∈ m.keys := AList.mem_keys.mp h
  have hpos := List.length_pos_of_mem hm
  simp only [size, AList.keys_erase, List.length_erase_of_mem hm]
  omega

theorem size_erase_le (m : Map K V) (k : K) : size (m.erase k) ≤ size m := by
  simp only [size, AList.keys_erase]
  exact List.length_erase_le

/-- The map without the given keys, removed one after the other. -/
def eraseAll (m : Map K V) (ks : List K) : Map K V := ks.foldl (fun m k => m.erase k) m

theorem lookup_eraseAll (m : Map K V) (ks : List K) (k : K) :
    (eraseAll m ks).lookup k = if k ∈ ks then none else m.lookup k := by
  induction ks generalizing m with
  | nil => simp [eraseAll]
  | cons head ks ih =>
    have hstep : eraseAll m (head :: ks) = eraseAll (m.erase head) ks := rfl
    rw [hstep, ih, lookup_erase_eq]
    by_cases hk : k = head
    · simp [hk]
    · simp [hk]

omit [DecidableEq K] in
theorem keys_map {W : Type*} (g : K → V → W) (entries : List (Sigma fun _ : K => V)) :
    (entries.map fun entry => (⟨entry.1, g entry.1 entry.2⟩ : Sigma fun _ : K => W)).keys =
      entries.keys := by
  simp [List.keys]

/-- The map with every value replaced in its place. -/
def mapWithKey {W : Type*} (g : K → V → W) (m : Map K V) : Map K W :=
  ⟨m.entries.map fun entry => ⟨entry.1, g entry.1 entry.2⟩, by
    rw [List.NodupKeys, keys_map]
    exact m.nodupKeys⟩

omit [DecidableEq K] in
theorem size_mapWithKey {W : Type*} (g : K → V → W) (m : Map K V) :
    size (mapWithKey g m) = size m :=
  congrArg List.length (keys_map g m.entries)

omit [DecidableEq K] in
theorem size_eq_length_entries (m : Map K V) : size m = m.entries.length := by
  simp [size, AList.keys, List.keys]

end FiniteMap
