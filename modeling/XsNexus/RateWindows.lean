import Mathlib.Tactic

namespace RateWindows

variable {Event : Type*} (time weight : Event → Nat)

def load (events : List Event) : Nat := (events.map weight).sum

/-- The events of a half-open interval -/
def within (length start : Nat) (events : List Event) : List Event :=
  events.filter fun event => start ≤ time event ∧ time event < start + length

@[simp] theorem load_nil : load weight ([] : List Event) = 0 := rfl

@[simp] theorem load_append (events more : List Event) :
    load weight (events ++ more) = load weight events + load weight more := by
  simp [load]

@[simp] theorem load_singleton (event : Event) : load weight [event] = weight event := by
  simp [load]

theorem load_one (events : List Event) : load (fun _ => 1) events = events.length := by
  simp [load]

theorem load_sublist {events more : List Event} (h : events.Sublist more) :
    load weight events ≤ load weight more :=
  (h.map weight).sum_le_sum (fun _ _ => Nat.zero_le _)

theorem within_append (length start : Nat) (events more : List Event) :
    within time length start (events ++ more) =
      within time length start events ++ within time length start more := List.filter_append _ _

theorem load_within_le (length start : Nat) (events : List Event) :
    load weight (within time length start events) ≤ load weight events :=
  load_sublist weight List.filter_sublist

/-- A meter with windows of fixed length, the current one opened at `opened`: what it has taken in the
windows before and in this one. -/
structure Metered (window : Event → Nat) (length limit opened : Nat) (older current : List Event) :
    Prop where
  current_le : load weight current ≤ limit
  older_le : ∀ start, opened < start + length → load weight (within time length start older) ≤ limit
  interval_le : ∀ start, load weight (within time length start (older ++ current)) ≤ 2 * limit
  window_le : ∀ value, load weight (older.filter fun event => window event = value) ≤ limit
  older_time : ∀ event ∈ older, time event ≤ opened
  older_window : ∀ event ∈ older, window event < opened
  current_window : ∀ event ∈ current, window event = opened
  opening : older ≠ [] → ∃ event ∈ current, time event = opened

namespace Metered

variable {time weight} {window : Event → Nat} {length limit opened : Nat} {older current : List Event}

theorem start (opened : Nat) : Metered time weight window length limit opened [] [] where
  current_le := Nat.zero_le _
  older_le _ _ := Nat.zero_le _
  interval_le _ := Nat.zero_le _
  window_le _ := Nat.zero_le _
  older_time _ h := nomatch h
  older_window _ h := nomatch h
  current_window _ h := nomatch h
  opening h := absurd rfl h

theorem load_window (h : Metered time weight window length limit opened older current) (value : Nat) :
    load weight ((older ++ current).filter fun event => window event = value) ≤ limit := by
  rw [List.filter_append, load_append]
  by_cases hvalue : value = opened
  · have hnone : older.filter (fun event => window event = value) = [] := by
      refine List.filter_eq_nil_iff.mpr fun event hevent => ?_
      have hlt := h.older_window event hevent
      simp only [decide_eq_true_eq]
      omega
    have hcurrent := load_sublist weight
      (List.filter_sublist (p := fun event => decide (window event = value)) (l := current))
    have hle := h.current_le
    rw [hnone, load_nil]
    omega
  · have hnone : current.filter (fun event => window event = value) = [] := by
      refine List.filter_eq_nil_iff.mpr fun event hevent => ?_
      have heq := h.current_window event hevent
      simp only [decide_eq_true_eq]
      omega
    have hle := h.window_le value
    rw [hnone, load_nil]
    omega

/-- One more event in the current window. -/
theorem stay (h : Metered time weight window length limit opened older current) (event : Event)
    (hload : load weight current + weight event ≤ limit) (hwindow : window event = opened)
    (hlatest : ∀ earlier ∈ current, time earlier ≤ time event) :
    Metered time weight window length limit opened older (current ++ [event]) where
  current_le := by
    rw [load_append, load_singleton]
    exact hload
  older_le := h.older_le
  interval_le start := by
    by_cases hin : start ≤ time event ∧ time event < start + length
    · have holder : load weight (within time length start older) ≤ limit := by
        by_cases hempty : older = []
        · rw [hempty]
          exact Nat.zero_le _
        · obtain ⟨first, hfirst, hopened⟩ := h.opening hempty
          have hle := hlatest first hfirst
          exact h.older_le start (by omega)
      have hcurrent := load_within_le time weight length start (current ++ [event])
      rw [load_append, load_singleton] at hcurrent
      rw [within_append, load_append]
      omega
    · have hnone : within time length start [event] = [] := by
        refine List.filter_eq_nil_iff.mpr fun other hother => ?_
        rw [List.mem_singleton.mp hother, decide_eq_true_iff]
        exact hin
      rw [← List.append_assoc, within_append, hnone, List.append_nil]
      exact h.interval_le start
  window_le := h.window_le
  older_time := h.older_time
  older_window := h.older_window
  current_window other hother := by
    rcases List.mem_append.mp hother with hold | hnew
    · exact h.current_window other hold
    · rw [List.mem_singleton.mp hnew]
      exact hwindow
  opening hne := by
    obtain ⟨first, hfirst, hopened⟩ := h.opening hne
    exact ⟨first, List.mem_append_left _ hfirst, hopened⟩

/-- The first event of the next window. -/
theorem reset (h : Metered time weight window length limit opened older current) (event : Event)
    (hlength : 0 < length) (hload : weight event ≤ limit) (hover : opened + length ≤ time event)
    (hwindow : window event = time event)
    (hlatest : ∀ earlier ∈ older ++ current, time earlier ≤ time event) :
    Metered time weight window length limit (time event) (older ++ current) [event] := by
  -- an interval that reaches the event begins after the last window opened
  have hlate : ∀ start, time event < start + length →
      load weight (within time length start (older ++ current)) ≤ limit := by
    intro start hstart
    have hnone : within time length start older = [] := by
      refine List.filter_eq_nil_iff.mpr fun other hother => ?_
      have hbefore := h.older_time other hother
      simp only [decide_eq_true_eq]
      omega
    have hcurrent := load_within_le time weight length start current
    have hle := h.current_le
    rw [within_append, hnone, List.nil_append]
    omega
  refine ⟨by simpa using hload, hlate, fun start => ?_, h.load_window, hlatest, fun other hother => ?_,
    fun other hother => ?_, fun _ => ⟨event, List.mem_singleton_self _, rfl⟩⟩
  · by_cases hin : start ≤ time event ∧ time event < start + length
    · have hbefore := hlate start hin.2
      have hevent := load_within_le time weight length start [event]
      rw [load_singleton] at hevent
      rw [within_append, load_append]
      omega
    · have hnone : within time length start [event] = [] := by
        refine List.filter_eq_nil_iff.mpr fun other hother => ?_
        rw [List.mem_singleton.mp hother, decide_eq_true_iff]
        exact hin
      rw [within_append, hnone, List.append_nil]
      exact h.interval_le start
  · rcases List.mem_append.mp hother with hold | hnew
    · have hlt := h.older_window other hold
      omega
    · have heq := h.current_window other hnew
      omega
  · rw [List.mem_singleton.mp hother]
    exact hwindow

end Metered

end RateWindows
