import XsNexus.Runs

namespace Runs

variable {σ ι ο ε : Type*}

/-- The second list is the first one less some elements that are idle. -/
inductive Omits (Idle : ε → Prop) : List ε → List ε → Prop
  | nil : Omits Idle [] []
  | keep {e : ε} {l l' : List ε} (rest : Omits Idle l l') : Omits Idle (e :: l) (e :: l')
  | omitted {e : ε} {l l' : List ε} (idle : Idle e) (rest : Omits Idle l l') : Omits Idle (e :: l) l'

theorem Omits.sublist {Idle : ε → Prop} {l l' : List ε} (h : Omits Idle l l') : l'.Sublist l := by
  induction h with
  | nil => exact List.Sublist.refl _
  | keep _ ih => exact ih.cons_cons _
  | omitted _ _ ih => exact ih.cons _

/-- Where idle steps keep the state, the inputs that are left give the outputs they gave and the same
state in the end. -/
theorem trace_of_omits {step : σ → ι → ο × σ} {Idle : ι × ο → Prop}
    (keeps : ∀ s i, Idle (i, (step s i).1) → (step s i).2 = s) {s : σ} {is : List ι}
    {events : List (ι × ο)} (h : Omits Idle (trace step s is) events) :
    trace step s (events.map Prod.fst) = events ∧
      final step s (events.map Prod.fst) = final step s is := by
  induction is generalizing s events with
  | nil =>
    cases h
    exact ⟨rfl, rfl⟩
  | cons i is ih =>
    cases h with
    | keep rest =>
      obtain ⟨htrace, hfinal⟩ := ih rest
      exact ⟨congrArg ((i, (step s i).1) :: ·) htrace, hfinal⟩
    | omitted idle rest =>
      have hstate := keeps s i idle
      rw [hstate] at rest
      obtain ⟨htrace, hfinal⟩ := ih rest
      refine ⟨htrace, hfinal.trans ?_⟩
      show final step s is = final step (step s i).2 is
      rw [hstate]

end Runs
