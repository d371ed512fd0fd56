import Mathlib.Tactic

namespace Checks

universe u

variable {ε α σ : Type*}

theorem bind_ok {α β : Type u} {x : Except ε α} {f : α → Except ε β} {b : β} :
    x >>= f = .ok b ↔ ∃ a, x = .ok a ∧ f a = .ok b := by
  cases x <;> simp [bind, Except.bind]

theorem map_ok {β : Type*} {g : α → β} {x : Except ε α} {b : β} :
    x.map g = .ok b ↔ ∃ a, x = .ok a ∧ g a = b := by
  cases x <;> simp [Except.map]

theorem mapError_ok {ε' : Type*} {g : ε → ε'} {x : Except ε α} {a : α} :
    x.mapError g = .ok a ↔ x = .ok a := by
  cases x <;> simp [Except.mapError]

theorem guard_ok {p : Prop} [Decidable p] {e : ε} {x : Except ε α} {a : α} :
    (if p then .error e else x) = .ok a ↔ ¬p ∧ x = .ok a := by
  by_cases h : p <;> simp [h]

/-- `ok_or` -/
def okOr (e : ε) : Option α → Except ε α
  | none => .error e
  | some a => .ok a

theorem okOr_ok {e : ε} {x : Option α} {a : α} : okOr e x = .ok a ↔ x = some a := by
  cases x <;> simp [okOr]

theorem length_foldlM {step : σ → α → Except ε σ} (size : σ → Nat)
    (h : ∀ {s a s'}, step s a = .ok s' → size s' = size s + 1) {l : List α} {s s' : σ}
    (hl : l.foldlM step s = .ok s') : size s' = size s + l.length := by
  induction l generalizing s with
  | nil =>
    cases hl
    rfl
  | cons a l ih =>
    rw [List.foldlM_cons] at hl
    obtain ⟨s1, h1, h2⟩ := bind_ok.mp hl
    rw [ih h2, h h1, List.length_cons]
    omega

theorem mapM_ok {α β : Type u} {f : α → Except ε β} {l : List α} {l' : List β} :
    l.mapM f = .ok l' ↔ List.Forall₂ (fun a b => f a = .ok b) l l' := by
  induction l generalizing l' with
  | nil =>
    rw [List.mapM_nil, List.forall₂_nil_left_iff]
    constructor
    · intro h
      cases h
      rfl
    · rintro rfl
      rfl
  | cons a l ih =>
    rw [List.mapM_cons, List.forall₂_cons_left_iff]
    constructor
    · intro h
      obtain ⟨b, hb, h⟩ := bind_ok.mp h
      obtain ⟨rest, hrest, h⟩ := bind_ok.mp h
      cases h
      exact ⟨b, rest, hb, ih.mp hrest, rfl⟩
    · rintro ⟨b, rest, hb, hrest, rfl⟩
      exact bind_ok.mpr ⟨b, hb, bind_ok.mpr ⟨rest, ih.mpr hrest, rfl⟩⟩

theorem mem_mapM {α β : Type u} {f : α → Except ε β} {l : List α} {l' : List β}
    (h : l.mapM f = .ok l') {b : β} (hb : b ∈ l') : ∃ a ∈ l, f a = .ok b := by
  have hall := mapM_ok.mp h
  clear h
  induction hall with
  | nil => simp at hb
  | cons hab _ ih =>
    rcases List.mem_cons.mp hb with rfl | hb
    · exact ⟨_, List.mem_cons_self, hab⟩
    · obtain ⟨a, ha, hf⟩ := ih hb
      exact ⟨a, List.mem_cons_of_mem _ ha, hf⟩

theorem exists_mem_mapM {α β : Type u} {f : α → Except ε β} {l : List α} {l' : List β}
    (h : l.mapM f = .ok l') {a : α} (ha : a ∈ l) : ∃ b ∈ l', f a = .ok b := by
  have hall := mapM_ok.mp h
  clear h
  induction hall with
  | nil => simp at ha
  | cons hab _ ih =>
    rcases List.mem_cons.mp ha with rfl | ha
    · exact ⟨_, List.mem_cons_self, hab⟩
    · obtain ⟨b, hb, hf⟩ := ih ha
      exact ⟨b, List.mem_cons_of_mem _ hb, hf⟩

theorem forM_ok {check : α → Except ε Unit} {l : List α} :
    l.forM check = .ok () ↔ ∀ a ∈ l, check a = .ok () := by
  induction l with
  | nil =>
    constructor
    · simp
    · exact fun _ => rfl
  | cons a l ih =>
    have hstep : (a :: l).forM check = check a >>= fun _ => l.forM check := rfl
    rw [hstep, bind_ok, List.forall_mem_cons, ← ih]
    constructor
    · rintro ⟨_, hfirst, hrest⟩
      exact ⟨hfirst, hrest⟩
    · rintro ⟨hfirst, hrest⟩
      exact ⟨(), hfirst, hrest⟩

/-- A loop that another one follows on a part of its state. -/
theorem foldlM_view {τ : Type*} {step : σ → α → Except ε σ} {step' : τ → α → Except ε τ} (view : σ → τ)
    (h : ∀ {s a s'}, step s a = .ok s' → step' (view s) a = .ok (view s')) {l : List α} {s s' : σ}
    (hl : l.foldlM step s = .ok s') : l.foldlM step' (view s) = .ok (view s') := by
  induction l generalizing s with
  | nil =>
    cases hl
    rfl
  | cons a l ih =>
    rw [List.foldlM_cons] at hl ⊢
    obtain ⟨s1, h1, h2⟩ := bind_ok.mp hl
    exact bind_ok.mpr ⟨view s1, h h1, ih h2⟩

/-- A loop that stops at the first element it refuses. What passes is good by itself and not blocked
by an element before it. -/
structure Guard (step : σ → α → Except ε σ) (Good : α → Prop) (Clash : α → α → Prop)
    (Blocked : σ → α → Prop) : Prop where
  passed : ∀ {s a s'}, step s a = .ok s' → Good a ∧ ¬Blocked s a
  remembered : ∀ {s a s'}, step s a = .ok s' → ∀ b, Clash a b ∨ Blocked s b → Blocked s' b

theorem Guard.of_foldlM {step : σ → α → Except ε σ} {Good : α → Prop} {Clash : α → α → Prop}
    {Blocked : σ → α → Prop} (guard : Guard step Good Clash Blocked) {l : List α} {s s' : σ}
    (h : l.foldlM step s = .ok s') :
    (∀ a ∈ l, Good a) ∧ l.Pairwise (fun a b => ¬Clash a b) ∧ ∀ a ∈ l, ¬Blocked s a := by
  induction l generalizing s with
  | nil => simp
  | cons a l ih =>
    rw [List.foldlM_cons] at h
    obtain ⟨s1, h1, h2⟩ := bind_ok.mp h
    obtain ⟨hgood, hfree⟩ := guard.passed h1
    obtain ⟨hgoods, hpair, hfrees⟩ := ih h2
    have hafter := guard.remembered h1
    refine ⟨?_, ?_, ?_⟩
    · exact List.forall_mem_cons.mpr ⟨hgood, hgoods⟩
    · refine List.pairwise_cons.mpr ⟨fun b hb hclash => ?_, hpair⟩
      exact hfrees b hb (hafter b (Or.inl hclash))
    · refine List.forall_mem_cons.mpr ⟨hfree, fun b hb hblocked => ?_⟩
      exact hfrees b hb (hafter b (Or.inr hblocked))

/-- A guarded loop that lets through all else there is room for. -/
structure Loop (step : σ → α → Except ε σ) (Good : α → Prop) (Clash : α → α → Prop)
    (Blocked : σ → α → Prop) (cost : α → Nat) (room : σ → Nat) : Prop where
  passes : ∀ s a, (∃ s', step s a = .ok s') ↔ Good a ∧ ¬Blocked s a ∧ cost a ≤ room s
  blocked_after : ∀ {s a s'}, step s a = .ok s' → ∀ b, Blocked s' b ↔ Clash a b ∨ Blocked s b
  room_after : ∀ {s a s'}, step s a = .ok s' → room s' = room s - cost a

namespace Loop

variable {step : σ → α → Except ε σ} {Good : α → Prop} {Clash : α → α → Prop}
  {Blocked : σ → α → Prop} {cost : α → Nat} {room : σ → Nat}

theorem guard (loop : Loop step Good Clash Blocked cost room) : Guard step Good Clash Blocked where
  passed h := by
    obtain ⟨hgood, hfree, _⟩ := (loop.passes _ _).mp ⟨_, h⟩
    exact ⟨hgood, hfree⟩
  remembered h b := (loop.blocked_after h b).mpr

theorem sum_cost_le (loop : Loop step Good Clash Blocked cost room) {l : List α} {s s' : σ}
    (h : l.foldlM step s = .ok s') : (l.map cost).sum ≤ room s := by
  induction l generalizing s with
  | nil => simp
  | cons a l ih =>
    rw [List.foldlM_cons] at h
    obtain ⟨s1, h1, h2⟩ := bind_ok.mp h
    have hroom := ((loop.passes s a).mp ⟨s1, h1⟩).2.2
    have hleft := loop.room_after h1
    have hrest := ih h2
    rw [List.map_cons, List.sum_cons]
    omega

theorem foldlM_ok (loop : Loop step Good Clash Blocked cost room) (l : List α) (s : σ) :
    (∃ s', l.foldlM step s = .ok s') ↔
      ((∀ a ∈ l, Good a) ∧ l.Pairwise (fun a b => ¬Clash a b) ∧ ∀ a ∈ l, ¬Blocked s a) ∧
        (l.map cost).sum ≤ room s := by
  constructor
  · rintro ⟨s', h⟩
    exact ⟨loop.guard.of_foldlM h, loop.sum_cost_le h⟩
  · rintro ⟨⟨hgoods, hpair, hfrees⟩, hsum⟩
    induction l generalizing s with
    | nil => exact ⟨s, rfl⟩
    | cons a l ih =>
      rw [List.map_cons, List.sum_cons] at hsum
      obtain ⟨hclash, hpair⟩ := List.pairwise_cons.mp hpair
      obtain ⟨hgood, hgoods⟩ := List.forall_mem_cons.mp hgoods
      obtain ⟨hfree, hfrees⟩ := List.forall_mem_cons.mp hfrees
      obtain ⟨s1, h1⟩ := (loop.passes s a).mpr ⟨hgood, hfree, by omega⟩
      have hafter := loop.blocked_after h1
      have hleft := loop.room_after h1
      have hrest : ∀ b ∈ l, ¬Blocked s1 b := by
        intro b hb
        rw [hafter b]
        rintro (hc | hblocked)
        · exact hclash b hb hc
        · exact hfrees b hb hblocked
      obtain ⟨s', h2⟩ := ih s1 (by omega) hgoods hpair hrest
      exact ⟨s', by rw [List.foldlM_cons]; exact bind_ok.mpr ⟨s1, h1, h2⟩⟩

theorem blocked_foldlM (loop : Loop step Good Clash Blocked cost room) {l : List α} {s s' : σ}
    (h : l.foldlM step s = .ok s') (b : α) :
    Blocked s' b ↔ (∃ a ∈ l, Clash a b) ∨ Blocked s b := by
  induction l generalizing s with
  | nil =>
    cases h
    simp
  | cons a l ih =>
    rw [List.foldlM_cons] at h
    obtain ⟨s1, h1, h2⟩ := bind_ok.mp h
    rw [ih h2, loop.blocked_after h1 b]
    simp only [List.mem_cons, exists_eq_or_imp]
    rw [or_assoc, or_left_comm]

end Loop

/-- The elements whose key is neither among `seen` nor the key of an element before. -/
def distinctBy {κ : Type*} [DecidableEq κ] (key : α → κ) (seen : List κ) : List α → List α
  | [] => []
  | a :: l =>
    if key a ∈ seen then distinctBy key seen l else a :: distinctBy key (key a :: seen) l

section Distinct

variable {κ : Type*} [DecidableEq κ] (key : α → κ)

theorem distinctBy_sublist (seen : List κ) (l : List α) :
    List.Sublist (distinctBy key seen l) l := by
  induction l generalizing seen with
  | nil => exact List.Sublist.refl _
  | cons a l ih =>
    unfold distinctBy
    split
    next => exact (ih seen).cons a
    next => exact (ih _).cons_cons a

theorem key_notMem_of_mem_distinctBy {seen : List κ} {l : List α} {a : α}
    (h : a ∈ distinctBy key seen l) : key a ∉ seen := by
  induction l generalizing seen with
  | nil => simp [distinctBy] at h
  | cons b l ih =>
    unfold distinctBy at h
    split at h
    next => exact ih h
    next hb =>
      rcases List.mem_cons.mp h with rfl | h
      · exact hb
      · intro hseen
        exact ih h (List.mem_cons_of_mem _ hseen)

theorem nodup_map_distinctBy (seen : List κ) (l : List α) :
    ((distinctBy key seen l).map key).Nodup := by
  induction l generalizing seen with
  | nil => simp [distinctBy]
  | cons a l ih =>
    unfold distinctBy
    split
    next => exact ih seen
    next =>
      rw [List.map_cons, List.nodup_cons]
      refine ⟨?_, ih _⟩
      intro hmem
      obtain ⟨b, hb, hkey⟩ := List.mem_map.mp hmem
      have hnot := key_notMem_of_mem_distinctBy key hb
      exact hnot (by simp [hkey])

theorem mem_distinctBy_id [DecidableEq α] {a : α} {l : List α} (seen : List α) :
    a ∈ distinctBy id seen l ↔ a ∉ seen ∧ a ∈ l := by
  induction l generalizing seen with
  | nil => simp [distinctBy]
  | cons b l ih =>
    unfold distinctBy
    simp only [id_eq]
    split
    next hb =>
      rw [ih, List.mem_cons]
      constructor
      · exact fun ⟨hnew, hmem⟩ => ⟨hnew, Or.inr hmem⟩
      · rintro ⟨hnew, rfl | hmem⟩
        · exact absurd hb hnew
        · exact ⟨hnew, hmem⟩
    next hb =>
      rw [List.mem_cons, ih, List.mem_cons, List.mem_cons]
      by_cases hab : a = b
      · simp [hab, hb]
      · simp [hab]

theorem map_distinctBy (seen : List κ) (l : List α) :
    (distinctBy key seen l).map key = distinctBy id seen (l.map key) := by
  induction l generalizing seen with
  | nil => rfl
  | cons a l ih =>
    rw [List.map_cons]
    unfold distinctBy
    simp only [id_eq]
    split
    next => exact ih seen
    next => rw [List.map_cons, ih]

theorem distinctBy_eq_nil {l : List α} : distinctBy key [] l = [] ↔ l = [] := by
  cases l with
  | nil => simp [distinctBy]
  | cons a l => simp [distinctBy]

/-- A list with no key twice passes, and takes its keys from the list behind it. -/
theorem distinctBy_append {l : List α} (h : (l.map key).Nodup) {seen : List κ}
    (hfresh : ∀ a ∈ l, key a ∉ seen) (l' : List α) :
    distinctBy key seen (l ++ l') = l ++ distinctBy key ((l.map key).reverse ++ seen) l' := by
  induction l generalizing seen with
  | nil => rfl
  | cons a l ih =>
    rw [List.map_cons, List.nodup_cons] at h
    obtain ⟨hkey, hnodup⟩ := h
    obtain ⟨hfirst, hrest⟩ := List.forall_mem_cons.mp hfresh
    have hnext : ∀ b ∈ l, key b ∉ key a :: seen := by
      intro b hb hmem
      rcases List.mem_cons.mp hmem with heq | hseen
      · exact hkey (List.mem_map.mpr ⟨b, hb, heq⟩)
      · exact hrest b hb hseen
    have hstep : distinctBy key seen (a :: (l ++ l')) =
        a :: distinctBy key (key a :: seen) (l ++ l') := if_neg hfirst
    rw [List.cons_append, hstep, ih hnodup hnext, List.cons_append, List.map_cons, List.reverse_cons,
      List.append_assoc, List.singleton_append]

theorem distinctBy_of_nodup {l : List α} (h : (l.map key).Nodup) (seen : List κ) :
    distinctBy key seen l = l.filter fun a => key a ∉ seen := by
  induction l generalizing seen with
  | nil => rfl
  | cons a l ih =>
    rw [List.map_cons, List.nodup_cons] at h
    obtain ⟨hkey, hnodup⟩ := h
    unfold distinctBy
    by_cases hseen : key a ∈ seen
    · rw [if_pos hseen, ih hnodup, List.filter_cons_of_neg (by simpa using hseen)]
    · rw [if_neg hseen, ih hnodup, List.filter_cons_of_pos (by simpa using hseen)]
      refine congrArg (a :: ·) (List.filter_congr fun b hb => ?_)
      have hne : key b ≠ key a := fun heq => hkey (List.mem_map.mpr ⟨b, hb, heq⟩)
      simp [hne]

end Distinct

/-- Neighbours in a list that is in order. -/
theorem zip_tail_of_pairwise {r : α → α → Prop} {l : List α} (h : l.Pairwise r) :
    ∀ pair ∈ l.zip l.tail, r pair.1 pair.2 := by
  induction l with
  | nil => simp
  | cons a l ih =>
    obtain ⟨hfirst, hrest⟩ := List.pairwise_cons.mp h
    cases l with
    | nil => simp
    | cons b l =>
      rintro pair hpair
      rcases List.mem_cons.mp hpair with rfl | hpair
      · exact hfirst b List.mem_cons_self
      · exact ih hrest pair hpair

end Checks
