import Mathlib.Tactic

namespace Runs

variable {σ ι ο : Type*}

/-- The state a machine is in after a list of inputs. -/
def final (step : σ → ι → ο × σ) : σ → List ι → σ
  | s, [] => s
  | s, i :: is => final step (step s i).2 is

/-- The inputs of a run, each with the output of its step. -/
def trace (step : σ → ι → ο × σ) : σ → List ι → List (ι × ο)
  | _, [] => []
  | s, i :: is => (i, (step s i).1) :: trace step (step s i).2 is

/-- Every step of the run meets the condition in the state it is taken from. -/
def Along (step : σ → ι → ο × σ) (cond : σ → ι → Prop) : σ → List ι → Prop
  | _, [] => True
  | s, i :: is => cond s i ∧ Along step cond (step s i).2 is

instance decidableAlong {step : σ → ι → ο × σ} {cond : σ → ι → Prop}
    [∀ s i, Decidable (cond s i)] : (s : σ) → (is : List ι) → Decidable (Along step cond s is)
  | _, [] => isTrue trivial
  | s, i :: is =>
    have : Decidable (Along step cond (step s i).2 is) := decidableAlong (step s i).2 is
    inferInstanceAs (Decidable (cond s i ∧ Along step cond (step s i).2 is))

theorem final_append (step : σ → ι → ο × σ) (s : σ) (is js : List ι) :
    final step s (is ++ js) = final step (final step s is) js := by
  induction is generalizing s with
  | nil => rfl
  | cons i is ih => exact ih _

theorem trace_append (step : σ → ι → ο × σ) (s : σ) (is js : List ι) :
    trace step s (is ++ js) = trace step s is ++ trace step (final step s is) js := by
  induction is generalizing s with
  | nil => rfl
  | cons i is ih => simp [trace, final, ih]

theorem trace_inputs (step : σ → ι → ο × σ) (s : σ) (is : List ι) :
    (trace step s is).map Prod.fst = is := by
  induction is generalizing s with
  | nil => rfl
  | cons i is ih => simp [trace, ih]

theorem along_true (step : σ → ι → ο × σ) (s : σ) (is : List ι) :
    Along step (fun _ _ => True) s is := by
  induction is generalizing s with
  | nil => trivial
  | cons i is ih => exact ⟨trivial, ih _⟩

theorem along_append {step : σ → ι → ο × σ} {cond : σ → ι → Prop} {s : σ} {is js : List ι} :
    Along step cond s (is ++ js) ↔
      Along step cond s is ∧ Along step cond (final step s is) js := by
  induction is generalizing s with
  | nil => simp [Along, final]
  | cons i is ih => simp only [List.cons_append, Along, final, ih, and_assoc]

/-- The condition holds of each step of a run, in the state that the steps before it lead to. -/
theorem along_iff {step : σ → ι → ο × σ} {cond : σ → ι → Prop} {s : σ} {is : List ι} :
    Along step cond s is ↔ ∀ js i, js ++ [i] <+: is → cond (final step s js) i := by
  induction is generalizing s with
  | nil => simp [Along]
  | cons i is ih =>
    simp only [Along, ih]
    constructor
    · rintro ⟨hfirst, hrest⟩ js j hjs
      cases js with
      | nil =>
        obtain ⟨rfl, _⟩ := List.cons_prefix_cons.mp hjs
        exact hfirst
      | cons k js =>
        obtain ⟨rfl, hprefix⟩ := List.cons_prefix_cons.mp hjs
        exact hrest js j hprefix
    · intro h
      exact ⟨h [] i (List.prefix_cons_inj i |>.mpr List.nil_prefix),
        fun js j hjs => h (i :: js) j (List.prefix_cons_inj i |>.mpr hjs)⟩

/-- What one step preserves of the state and of the history before it holds after every run. -/
theorem run_preserves {step : σ → ι → ο × σ} {cond : σ → ι → Prop}
    {P : σ → List (ι × ο) → Prop}
    (preserve : ∀ s history i, P s history → cond s i →
      P (step s i).2 (history ++ [(i, (step s i).1)]))
    {s : σ} {history : List (ι × ο)} (is : List ι) (start : P s history)
    (along : Along step cond s is) : P (final step s is) (history ++ trace step s is) := by
  induction is generalizing s history with
  | nil => simpa [final, trace] using start
  | cons i is ih =>
    have hh := ih (preserve s history i start along.1) along.2
    simpa [final, trace] using hh

theorem run_invariant {step : σ → ι → ο × σ} {P : σ → List (ι × ο) → Prop}
    (preserve : ∀ s history i, P s history → P (step s i).2 (history ++ [(i, (step s i).1)]))
    {s : σ} (is : List ι) (start : P s []) : P (final step s is) (trace step s is) := by
  have hh := run_preserves (fun s history i h _ => preserve s history i h) is start
    (along_true step s is)
  simpa using hh

theorem run_keeps {step : σ → ι → ο × σ} {cond : σ → ι → Prop} {P : σ → Prop}
    (keep : ∀ s i, P s → cond s i → P (step s i).2) {s : σ} (is : List ι) (start : P s)
    (along : Along step cond s is) : P (final step s is) := by
  induction is generalizing s with
  | nil => exact start
  | cons i is ih => exact ih (keep s i start along.1) along.2

/-- What the steps of a run give, one after the other. -/
def collect {α : Type*} (step : σ → ι → ο × σ) (g : σ → ι → List α) : σ → List ι → List α
  | _, [] => []
  | s, i :: is => g s i ++ collect step g (step s i).2 is

/-- Where each step hands on from the front what it does not keep, every run does. -/
theorem collect_conserves {α : Type*} {step : σ → ι → ο × σ} {contents : σ → List α}
    {put taken : σ → ι → List α}
    (h : ∀ s i, contents s ++ put s i = taken s i ++ contents (step s i).2) (s : σ) (is : List ι) :
    contents s ++ collect step put s is = collect step taken s is ++ contents (final step s is) := by
  induction is generalizing s with
  | nil => simp [collect, final]
  | cons i is ih =>
    calc contents s ++ (put s i ++ collect step put (step s i).2 is)
        = taken s i ++ (contents (step s i).2 ++ collect step put (step s i).2 is) := by
          rw [← List.append_assoc, h, List.append_assoc]
      _ = (taken s i ++ collect step taken (step s i).2 is) ++ contents (final step s (i :: is)) := by
          rw [ih, List.append_assoc]
          rfl

end Runs
