import XsNexus.FiniteMap

namespace FiniteMap

variable {K V ε τ : Type*} [DecidableEq K]

omit [DecidableEq K] in
theorem mem_entries_mapWithKey {W : Type*} {g : K → V → W} {m : Map K V} {k : K} {w : W} :
    (⟨k, w⟩ : Sigma fun _ : K => W) ∈ (mapWithKey g m).entries ↔
      ∃ v, (⟨k, v⟩ : Sigma fun _ : K => V) ∈ m.entries ∧ g k v = w := by
  constructor
  · intro h
    obtain ⟨⟨k', v⟩, hm, heq⟩ := List.mem_map.mp h
    cases heq
    exact ⟨v, hm, rfl⟩
  · rintro ⟨v, hm, rfl⟩
    exact List.mem_map.mpr ⟨⟨k, v⟩, hm, rfl⟩

theorem lookup_eq_some {m : Map K V} {k : K} {v : V} :
    m.lookup k = some v ↔ (⟨k, v⟩ : Sigma fun _ : K => V) ∈ m.entries :=
  AList.mem_lookup_iff

theorem lookup_mapWithKey {W : Type*} (g : K → V → W) (m : Map K V) (k : K) :
    (mapWithKey g m).lookup k = (m.lookup k).map (g k) := by
  ext w
  rw [lookup_eq_some, mem_entries_mapWithKey]
  simp only [Option.map_eq_some_iff, lookup_eq_some]

theorem entries_eraseAll_eq_nil {m : Map K V} {ks : List K} (h : ∀ k ∈ m, k ∈ ks) :
    (eraseAll m ks).entries = [] := by
  refine List.eq_nil_iff_forall_not_mem.mpr fun entry hentry => ?_
  have hl := lookup_eq_some.mpr hentry
  rw [lookup_eraseAll] at hl
  split at hl
  next => simp at hl
  next hnot => exact hnot (h entry.1 (mem_iff_lookup.mpr ⟨_, hl⟩))

/-- A loop over the entries of a map that replaces each value in its place and may stop on the way. -/
def visitEntries (body : K → V → τ → Except ε τ × V) :
    List (Sigma fun _ : K => V) → τ → Except ε τ × List (Sigma fun _ : K => V)
  | [], progress => (.ok progress, [])
  | entry :: entries, progress =>
    match body entry.1 entry.2 progress with
    | (.error e, value) => (.error e, ⟨entry.1, value⟩ :: entries)
    | (.ok progress, value) =>
      let (result, entries) := visitEntries body entries progress
      (result, ⟨entry.1, value⟩ :: entries)

omit [DecidableEq K] in
theorem keys_visitEntries (body : K → V → τ → Except ε τ × V) (entries : List (Sigma fun _ : K => V))
    (progress : τ) : (visitEntries body entries progress).2.keys = entries.keys := by
  induction entries generalizing progress with
  | nil => rfl
  | cons entry entries ih =>
    unfold visitEntries
    split
    next => simp
    next progress' _ _ =>
      have hrest := ih progress'
      simp only [List.keys_cons, hrest]

/-- `for value in map.values_mut()` with a body that may fail. -/
def visit (body : K → V → τ → Except ε τ × V) (m : Map K V) (progress : τ) :
    Except ε τ × Map K V :=
  ((visitEntries body m.entries progress).1, ⟨(visitEntries body m.entries progress).2, by
    rw [List.NodupKeys, keys_visitEntries]
    exact m.nodupKeys⟩)

omit [DecidableEq K] in
theorem mem_visitEntries {body : K → V → τ → Except ε τ × V} {entries : List (Sigma fun _ : K => V)}
    {progress : τ} {k : K} {w : V}
    (h : (⟨k, w⟩ : Sigma fun _ : K => V) ∈ (visitEntries body entries progress).2) :
    ∃ v, (⟨k, v⟩ : Sigma fun _ : K => V) ∈ entries ∧ (w = v ∨ ∃ reached, w = (body k v reached).2) := by
  induction entries generalizing progress with
  | nil => simp [visitEntries] at h
  | cons entry entries ih =>
    unfold visitEntries at h
    split at h
    next e value hbody =>
      rcases List.mem_cons.mp h with heq | h
      · cases heq
        exact ⟨entry.2, List.mem_cons_self, Or.inr ⟨progress, by rw [hbody]⟩⟩
      · exact ⟨w, List.mem_cons_of_mem _ h, Or.inl rfl⟩
    next progress' value hbody =>
      rcases List.mem_cons.mp h with heq | h
      · cases heq
        exact ⟨entry.2, List.mem_cons_self, Or.inr ⟨progress, by rw [hbody]⟩⟩
      · obtain ⟨v, hv, hw⟩ := ih h
        exact ⟨v, List.mem_cons_of_mem _ hv, hw⟩

/-- Every value after the loop is one from before it, visited or not yet reached. -/
theorem lookup_visit {body : K → V → τ → Except ε τ × V} {m : Map K V} {progress : τ} {k : K} {w : V}
    (h : (visit body m progress).2.lookup k = some w) :
    ∃ v, m.lookup k = some v ∧ (w = v ∨ ∃ reached, w = (body k v reached).2) := by
  obtain ⟨v, hv, hw⟩ := mem_visitEntries (lookup_eq_some.mp h)
  exact ⟨v, lookup_eq_some.mpr hv, hw⟩

omit [DecidableEq K] in
theorem mem_visit {body : K → V → τ → Except ε τ × V} {m : Map K V} {progress : τ} {k : K} :
    k ∈ (visit body m progress).2 ↔ k ∈ m := by
  show k ∈ (visitEntries body m.entries progress).2.keys ↔ k ∈ m.entries.keys
  rw [keys_visitEntries]

omit [DecidableEq K] in
theorem visitEntries_preserves {body : K → V → τ → Except ε τ × V} {P : τ → Prop}
    {entries : List (Sigma fun _ : K => V)} {progress final : τ}
    (hbody : ∀ {entry progress progress' w}, entry ∈ entries → P progress →
      body entry.1 entry.2 progress = (.ok progress', w) → P progress') (hstart : P progress)
    (h : (visitEntries body entries progress).1 = .ok final) : P final := by
  induction entries generalizing progress with
  | nil =>
    cases h
    exact hstart
  | cons entry entries ih =>
    unfold visitEntries at h
    split at h
    next => simp at h
    next progress' value hstep =>
      have hfirst := hbody List.mem_cons_self hstart hstep
      exact ih (fun hmem => hbody (List.mem_cons_of_mem _ hmem)) hfirst h

/-- What the body keeps for every value of the map, the loop keeps. -/
theorem visit_preserves {body : K → V → τ → Except ε τ × V} {P : τ → Prop} {m : Map K V}
    {progress final : τ}
    (hbody : ∀ {k v progress progress' w}, m.lookup k = some v → P progress →
      body k v progress = (.ok progress', w) → P progress') (hstart : P progress)
    (h : (visit body m progress).1 = .ok final) : P final :=
  visitEntries_preserves (fun hmem => hbody (lookup_eq_some.mpr hmem)) hstart h

section Grows

variable {body : K → V → τ → Except ε τ × V} {Grows : τ → τ → Prop}
  (hrefl : ∀ progress, Grows progress progress)
  (htrans : ∀ {a b c}, Grows a b → Grows b c → Grows a c)
  (hbody : ∀ {k v progress progress' w}, body k v progress = (.ok progress', w) →
    Grows progress progress')

include hrefl htrans hbody

omit [DecidableEq K] in
theorem visitEntries_grows {entries : List (Sigma fun _ : K => V)} {progress final : τ}
    (h : (visitEntries body entries progress).1 = .ok final) : Grows progress final := by
  induction entries generalizing progress with
  | nil =>
    cases h
    exact hrefl _
  | cons entry entries ih =>
    unfold visitEntries at h
    split at h
    next => simp at h
    next progress' value hstep => exact htrans (hbody hstep) (ih h)

omit [DecidableEq K] in
theorem visitEntries_ok {entries : List (Sigma fun _ : K => V)} {progress final : τ}
    (h : (visitEntries body entries progress).1 = .ok final) {k : K} {w : V}
    (hw : (⟨k, w⟩ : Sigma fun _ : K => V) ∈ (visitEntries body entries progress).2) :
    ∃ v before after, (⟨k, v⟩ : Sigma fun _ : K => V) ∈ entries ∧
      body k v before = (.ok after, w) ∧ Grows progress before ∧ Grows after final := by
  induction entries generalizing progress with
  | nil => simp [visitEntries] at hw
  | cons entry entries ih =>
    unfold visitEntries at h hw
    split at h
    next => simp at h
    next progress' value hstep =>
      rw [hstep] at hw
      rcases List.mem_cons.mp hw with heq | hw
      · cases heq
        exact ⟨entry.2, progress, progress', List.mem_cons_self, hstep, hrefl _,
          visitEntries_grows hrefl htrans hbody h⟩
      · obtain ⟨v, before, after, hv, hvisit, hb, ha⟩ := ih h hw
        exact ⟨v, before, after, List.mem_cons_of_mem _ hv, hvisit, htrans (hbody hstep) hb, ha⟩

/-- A loop that comes to its end has visited every value. -/
theorem lookup_visit_ok {m : Map K V} {progress final : τ}
    (h : (visit body m progress).1 = .ok final) {k : K} {w : V}
    (hw : (visit body m progress).2.lookup k = some w) :
    ∃ v before after, m.lookup k = some v ∧ body k v before = (.ok after, w) ∧
      Grows progress before ∧ Grows after final := by
  obtain ⟨v, before, after, hv, hvisit, hb, ha⟩ :=
    visitEntries_ok hrefl htrans hbody h (lookup_eq_some.mp hw)
  exact ⟨v, before, after, lookup_eq_some.mpr hv, hvisit, hb, ha⟩

end Grows

end FiniteMap
