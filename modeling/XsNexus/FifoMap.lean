import XsNexus.FiniteMap

namespace FifoMap

open FiniteMap

variable {K V : Type*} [DecidableEq K]

/-- The queue lists the keys of the map, each once. -/
structure Lists (order : List K) (m : Map K V) : Prop where
  nodup : order.Nodup
  mem_iff : ∀ k, k ∈ order ↔ k ∈ m

/-- Drops the oldest keys while the map holds `maximum` or more. -/
def evictOldest (maximum : Nat) : List K → Map K V → List K × Map K V
  | [], m => ([], m)
  | oldest :: order, m =>
    if size m ≥ maximum then evictOldest maximum order (m.erase oldest) else (oldest :: order, m)

/-- Drops the oldest keys up to the first one worth keeping. -/
def pruneFront (keep : V → Bool) : List K → Map K V → List K × Map K V
  | [], m => ([], m)
  | oldest :: order, m =>
    if (m.lookup oldest).any keep then (oldest :: order, m)
    else pruneFront keep order (m.erase oldest)

omit [DecidableEq K] in
theorem lists_empty : Lists ([] : List K) (∅ : Map K V) :=
  ⟨List.nodup_nil, fun k => by simp⟩

omit [DecidableEq K] in
theorem Lists.length_eq {order : List K} {m : Map K V} (h : Lists order m) :
    order.length = size m := by
  have hperm : order.Perm m.keys := by
    refine (List.perm_ext_iff_of_nodup h.nodup m.keys_nodup).mpr fun k => ?_
    rw [h.mem_iff k, AList.mem_keys]
  exact hperm.length_eq

theorem Lists.push {order : List K} {m : Map K V} (h : Lists order m) {k : K} (hk : k ∉ m) (v : V) :
    Lists (order ++ [k]) (m.insert k v) := by
  refine ⟨?_, fun k' => ?_⟩
  · refine List.nodup_append.mpr ⟨h.nodup, List.nodup_singleton _, ?_⟩
    intro a ha b hb heq
    cases List.mem_singleton.mp hb
    rw [heq, h.mem_iff] at ha
    exact hk ha
  · rw [List.mem_append, List.mem_singleton, AList.mem_insert, h.mem_iff]
    exact Or.comm

theorem Lists.drop {oldest : K} {order : List K} {m : Map K V} (h : Lists (oldest :: order) m) :
    Lists order (m.erase oldest) := by
  obtain ⟨hhead, htail⟩ := List.nodup_cons.mp h.nodup
  refine ⟨htail, fun k => ?_⟩
  rw [AList.mem_erase, ← h.mem_iff, List.mem_cons]
  constructor
  · intro hk
    refine ⟨fun heq => ?_, Or.inr hk⟩
    rw [heq] at hk
    exact hhead hk
  · intro hk
    exact hk.2.resolve_left hk.1

theorem Lists.evictOldest {order : List K} {m : Map K V} (h : Lists order m) (maximum : Nat) :
    Lists (evictOldest maximum order m).1 (evictOldest maximum order m).2 := by
  induction order generalizing m with
  | nil => exact h
  | cons oldest order ih =>
    unfold FifoMap.evictOldest
    split
    next => exact ih h.drop
    next => exact h

theorem Lists.pruneFront {order : List K} {m : Map K V} (h : Lists order m) (keep : V → Bool) :
    Lists (pruneFront keep order m).1 (pruneFront keep order m).2 := by
  induction order generalizing m with
  | nil => exact h
  | cons oldest order ih =>
    unfold FifoMap.pruneFront
    split
    next => exact h
    next => exact ih h.drop

/-- What is looked up after an eviction was there before it. -/
theorem lookup_evictOldest_eq_some {order : List K} {m : Map K V} {maximum : Nat} {k : K} {v : V}
    (h : (evictOldest maximum order m).2.lookup k = some v) : m.lookup k = some v := by
  induction order generalizing m with
  | nil => exact h
  | cons oldest order ih =>
    unfold evictOldest at h
    split at h
    next =>
      have hold := ih h
      rw [lookup_erase_eq] at hold
      split at hold
      next => simp at hold
      next => exact hold
    next => exact h

/-- An eviction takes no more keys than it has to, and the oldest first. -/
theorem lookup_evictOldest_of_kept {order : List K} {m : Map K V} (hl : Lists order m) {maximum : Nat}
    {k : K} (hk : k ∉ order.take (size m + 1 - maximum)) :
    (evictOldest maximum order m).2.lookup k = m.lookup k := by
  induction order generalizing m with
  | nil => rfl
  | cons oldest order ih =>
    unfold evictOldest
    split
    next hfull =>
      have hm : oldest ∈ m := (hl.mem_iff oldest).mp (List.mem_cons_self ..)
      have hsize := size_erase_of_mem hm
      have hcount : size m + 1 - maximum = size (m.erase oldest) + 1 - maximum + 1 := by omega
      rw [hcount, List.take_succ_cons, List.mem_cons, not_or] at hk
      rw [ih hl.drop hk.2, lookup_erase_eq, if_neg hk.1]
    next => rfl

/-- A value worth keeping stays, wherever its key stands in the queue. -/
theorem lookup_pruneFront_of_keep {order : List K} {m : Map K V} {keep : V → Bool} {k : K} {v : V}
    (h : m.lookup k = some v) (hkeep : keep v = true) :
    (pruneFront keep order m).2.lookup k = some v := by
  induction order generalizing m with
  | nil => exact h
  | cons oldest order ih =>
    unfold pruneFront
    split
    next => exact h
    next hdrop =>
      refine ih ?_
      rw [lookup_erase_eq, if_neg]
      · exact h
      · intro heq
        rw [← heq, h] at hdrop
        exact hdrop hkeep

end FifoMap
