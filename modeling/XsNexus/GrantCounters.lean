import Mathlib.Tactic

namespace GrantCounters

variable {ι R G : Type*}

/-- A place that asks for grants and counts under the one it holds. -/
structure Holder (R G : Type*) where
  pending : Option R
  lease : Option (G × Nat)

def Holder.empty : Holder R G := ⟨none, none⟩

/-- What one step does to a place: its request is dropped, kept or a new one, and it loses its grant,
counts on under it, or takes the grant of its request, which starts the count again. -/
structure Moves (requestOf : G → R) (drawn : Option R) (before : Holder R G) (sent : Option (G × Nat))
    (after : Holder R G) : Prop where
  pending : after.pending = none ∨ after.pending = before.pending ∨
    ∃ request, drawn = some request ∧ after.pending = some request
  lease : after.lease = none ∨
    (∃ grant count count', before.lease = some (grant, count) ∧ after.lease = some (grant, count') ∧
      count ≤ count') ∨
    ∃ grant, before.pending = some (requestOf grant) ∧ after.lease = some (grant, 0) ∧
      after.pending = none
  sent : ∀ grant count, sent = some (grant, count) →
    before.lease = some (grant, count) ∧ ∃ count', after.lease = some (grant, count') ∧ count < count'

/-- A step of all places, in which some of them send. -/
structure Step (requestOf : G → R) (before : ι → Holder R G) (drawn : ι → Option R)
    (out : List (G × Nat)) (after : ι → Holder R G) : Prop where
  moves : ∃ (places : List ι) (sent : ι → Option (G × Nat)), places.Nodup ∧
    out = places.filterMap sent ∧ ∀ i, Moves requestOf (drawn i) (before i) (sent i) (after i)

/-- The requests of a step are new ones. -/
structure Fresh (used : Set R) (drawn : ι → Option R) (used' : Set R) : Prop where
  notUsed : ∀ i request, drawn i = some request → request ∉ used ∧ request ∈ used'
  distinct : ∀ i j request, drawn i = some request → drawn j = some request → i = j
  kept : used ⊆ used'

/-- The counts under one grant only rise. -/
def Rises (out : List (G × Nat)) : Prop :=
  out.Pairwise fun earlier later => earlier.1 = later.1 → earlier.2 < later.2

structure Invariant (requestOf : G → R) (places : ι → Holder R G) (used : Set R) (spent : Set G)
    (out : List (G × Nat)) : Prop where
  asked : ∀ i request, (places i).pending = some request → request ∈ used
  apart : ∀ i j request, (places i).pending = some request → (places j).pending = some request → i = j
  granted : ∀ grant ∈ spent, requestOf grant ∈ used
  settled : ∀ grant ∈ spent, ∀ i, (places i).pending ≠ some (requestOf grant)
  held : ∀ i grant count, (places i).lease = some (grant, count) → grant ∈ spent
  alone : ∀ i j grant count count', (places i).lease = some (grant, count) →
    (places j).lease = some (grant, count') → i = j
  known : ∀ sent ∈ out, sent.1 ∈ spent
  below : ∀ i grant count, (places i).lease = some (grant, count) →
    ∀ sent ∈ out, sent.1 = grant → sent.2 < count
  rises : Rises out

theorem invariant_empty (requestOf : G → R) :
    Invariant requestOf (fun _ : ι => Holder.empty) ∅ ∅ [] where
  asked := by simp [Holder.empty]
  apart := by simp [Holder.empty]
  granted := by simp
  settled := by simp
  held := by simp [Holder.empty]
  alone := by simp [Holder.empty]
  known := by simp
  below := by simp [Holder.empty]
  rises := List.Pairwise.nil

variable {requestOf : G → R} {before after : ι → Holder R G} {used used' : Set R} {spent : Set G}
  {out out' : List (G × Nat)} {drawn : ι → Option R}

/-- The grants that have been held, once the step is over. -/
def spentAfter (spent : Set G) (after : ι → Holder R G) : Set G :=
  spent ∪ {grant | ∃ i count, (after i).lease = some (grant, count)}

/-- A step that takes no grant: it counts by one, and may send, or sends nothing. -/
theorem Moves.of_count {request : Option R} {h h' : Holder R G} {sent : Option (G × Nat)}
    (hpending : h'.pending = none ∨ h'.pending = h.pending ∨
      ∃ asked, request = some asked ∧ h'.pending = some asked)
    (hlease : (sent = none ∧ (h'.lease = none ∨ h'.lease = h.lease)) ∨
      ∃ grant count, h.lease = some (grant, count) ∧ h'.lease = some (grant, count + 1) ∧
        ∀ event, sent = some event → event = (grant, count)) :
    Moves requestOf request h sent h' := by
  refine ⟨hpending, ?_, fun grant count hsent => ?_⟩
  · rcases hlease with ⟨_, hnone | hsame⟩ | ⟨grant, count, hbefore, hafter, _⟩
    · exact .inl hnone
    · cases hheld : h.lease with
      | none => exact .inl (hsame.trans hheld)
      | some held => exact .inr (.inl ⟨held.1, held.2, held.2, rfl, hsame.trans hheld, le_refl _⟩)
    · exact .inr (.inl ⟨grant, count, count + 1, hbefore, hafter, Nat.le_succ count⟩)
  · rcases hlease with ⟨hnone, _⟩ | ⟨grant', count', hbefore, hafter, hevent⟩
    · rw [hnone] at hsent
      cases hsent
    · cases hevent _ hsent
      exact ⟨hbefore, count + 1, hafter, Nat.lt_succ_self count⟩

/-- A number that is counted need not be sent. -/
theorem Moves.quiet {request : Option R} {h h' : Holder R G} {sent : Option (G × Nat)}
    (hm : Moves requestOf request h sent h') : Moves requestOf request h none h' :=
  ⟨hm.pending, hm.lease, by simp⟩

theorem Moves.refl (requestOf : G → R) (h : Holder R G) : Moves requestOf none h none h :=
  .of_count (.inr (.inl rfl)) (.inl ⟨rfl, .inr rfl⟩)

/-- A grant that is held after the step has been held before, or answers the request of its place. -/
theorem Moves.held_cases {request : Option R} {h h' : Holder R G} {sent : Option (G × Nat)}
    (hm : Moves requestOf request h sent h') {grant : G} {count : Nat}
    (hheld : h'.lease = some (grant, count)) :
    (∃ count', h.lease = some (grant, count') ∧ count' ≤ count) ∨
      h.pending = some (requestOf grant) ∧ count = 0 ∧ h'.pending = none := by
  rcases hm.lease with hnone | ⟨grant', start, stop, hbefore, hafter, hle⟩ | ⟨grant', hask, hafter, hnone⟩
  · rw [hnone] at hheld
    cases hheld
  · rw [hafter] at hheld
    cases hheld
    exact .inl ⟨start, hbefore, hle⟩
  · rw [hafter] at hheld
    cases hheld
    exact .inr ⟨hask, rfl, hnone⟩

/-- A request that is open after the step was open before, or is a new one. -/
theorem Moves.pending_cases {request : Option R} {h h' : Holder R G} {sent : Option (G × Nat)}
    (hm : Moves requestOf request h sent h') {asked : R} (hasked : h'.pending = some asked) :
    h.pending = some asked ∨ request = some asked := by
  rcases hm.pending with hnone | hsame | ⟨drawn, hdrawn, hafter⟩
  · rw [hnone] at hasked
    cases hasked
  · exact .inl (hsame ▸ hasked)
  · rw [hafter] at hasked
    exact .inr (hdrawn.trans hasked)

/-- A grant that is taken answers an open request, so it has not been held before. -/
theorem Invariant.not_spent (h : Invariant requestOf before used spent out) {i : ι} {grant : G}
    (hask : (before i).pending = some (requestOf grant)) : grant ∉ spent :=
  fun hspent => h.settled grant hspent i hask

section Step

variable {sent : ι → Option (G × Nat)}
  (hmoves : ∀ i, Moves requestOf (drawn i) (before i) (sent i) (after i))

include hmoves

theorem Invariant.granted_step (h : Invariant requestOf before used spent out) {grant : G}
    (hgrant : grant ∈ spentAfter spent after) : requestOf grant ∈ used := by
  rcases hgrant with hspent | ⟨i, count, hheld⟩
  · exact h.granted grant hspent
  · rcases (hmoves i).held_cases hheld with ⟨count', hbefore, _⟩ | ⟨hask, _, _⟩
    · exact h.granted grant (h.held i grant count' hbefore)
    · exact h.asked i _ hask

theorem Invariant.asked_step (h : Invariant requestOf before used spent out)
    (hfresh : Fresh used drawn used') {i : ι} {request : R}
    (hasked : (after i).pending = some request) : request ∈ used' := by
  rcases (hmoves i).pending_cases hasked with hbefore | hdrawn
  · exact hfresh.kept (h.asked i request hbefore)
  · exact (hfresh.notUsed i request hdrawn).2

theorem Invariant.apart_step (h : Invariant requestOf before used spent out)
    (hfresh : Fresh used drawn used') {i j : ι} {request : R}
    (hi : (after i).pending = some request) (hj : (after j).pending = some request) : i = j := by
  rcases (hmoves i).pending_cases hi with hi | hi
  · rcases (hmoves j).pending_cases hj with hj | hj
    · exact h.apart i j request hi hj
    · exact absurd (h.asked i request hi) (hfresh.notUsed j request hj).1
  · rcases (hmoves j).pending_cases hj with hj | hj
    · exact absurd (h.asked j request hj) (hfresh.notUsed i request hi).1
    · exact hfresh.distinct i j request hi hj

theorem Invariant.settled_step (h : Invariant requestOf before used spent out)
    (hfresh : Fresh used drawn used') {grant : G} (hgrant : grant ∈ spentAfter spent after) (i : ι) :
    (after i).pending ≠ some (requestOf grant) := by
  intro hasked
  rcases (hmoves i).pending_cases hasked with hbefore | hdrawn
  · rcases hgrant with hspent | ⟨j, count, hheld⟩
    · exact h.settled grant hspent i hbefore
    · rcases (hmoves j).held_cases hheld with ⟨count', hlease, _⟩ | ⟨hask, _, hnone⟩
      · exact h.settled grant (h.held j grant count' hlease) i hbefore
      · rw [h.apart i j _ hbefore hask, hnone] at hasked
        cases hasked
  · exact (hfresh.notUsed i _ hdrawn).1 (h.granted_step hmoves hgrant)

theorem Invariant.alone_step (h : Invariant requestOf before used spent out) {i j : ι} {grant : G}
    {count count' : Nat} (hi : (after i).lease = some (grant, count))
    (hj : (after j).lease = some (grant, count')) : i = j := by
  rcases (hmoves i).held_cases hi with ⟨_, hi, _⟩ | ⟨hi, _, _⟩
  · rcases (hmoves j).held_cases hj with ⟨_, hj, _⟩ | ⟨hj, _, _⟩
    · exact h.alone i j grant _ _ hi hj
    · exact absurd (h.held i grant _ hi) (h.not_spent hj)
  · rcases (hmoves j).held_cases hj with ⟨_, hj, _⟩ | ⟨hj, _, _⟩
    · exact absurd (h.held j grant _ hj) (h.not_spent hi)
    · exact h.apart i j _ hi hj

theorem Invariant.below_step (h : Invariant requestOf before used spent out) {i : ι} {grant : G}
    {count : Nat} (hheld : (after i).lease = some (grant, count)) {event : G × Nat}
    (hgrant : event.1 = grant) (hevent : event ∈ out ∨ ∃ j, sent j = some event) : event.2 < count := by
  subst hgrant
  rcases (hmoves i).held_cases hheld with ⟨start, hlease, hle⟩ | ⟨hask, _, _⟩
  · rcases hevent with hold | ⟨j, hj⟩
    · have hlt := h.below i event.1 start hlease event hold rfl
      omega
    · obtain ⟨hbefore, stop, hafter, hlt⟩ := (hmoves j).sent event.1 event.2 hj
      rw [h.alone i j event.1 start event.2 hlease hbefore, hafter] at hheld
      cases hheld
      exact hlt
  · rcases hevent with hold | ⟨j, hj⟩
    · exact absurd (h.known event hold) (h.not_spent hask)
    · exact absurd (h.held j event.1 event.2 ((hmoves j).sent _ _ hj).1) (h.not_spent hask)

theorem Invariant.rises_step (h : Invariant requestOf before used spent out) {places : List ι}
    (hplaces : places.Nodup) : Rises (out ++ places.filterMap sent) := by
  refine List.pairwise_append.mpr ⟨h.rises, ?_, fun earlier hearlier later hlater hgrant => ?_⟩
  · refine List.pairwise_filterMap.mpr (hplaces.imp fun {i j} hne event hi event' hj hgrant => ?_)
    have hbefore := ((hmoves i).sent event.1 event.2 hi).1
    have hbefore' := ((hmoves j).sent event'.1 event'.2 hj).1
    rw [hgrant] at hbefore
    exact absurd (h.alone i j event'.1 event.2 event'.2 hbefore hbefore') hne
  · obtain ⟨j, _, hj⟩ := List.mem_filterMap.mp hlater
    exact h.below j later.1 later.2 ((hmoves j).sent later.1 later.2 hj).1 earlier hearlier hgrant

end Step

/-- A step keeps the invariant, and with it that the counts of each grant rise. -/
theorem Invariant.step (h : Invariant requestOf before used spent out)
    (hfresh : Fresh used drawn used') (hstep : Step requestOf before drawn out' after) :
    Invariant requestOf after used' (spentAfter spent after) (out ++ out') := by
  obtain ⟨places, sent, hplaces, hout, hmoves⟩ := hstep.moves
  have hsent : ∀ event ∈ out', ∃ i, sent i = some event := by
    intro event hevent
    rw [hout] at hevent
    obtain ⟨i, _, hi⟩ := List.mem_filterMap.mp hevent
    exact ⟨i, hi⟩
  exact {
    asked := fun i request => h.asked_step hmoves hfresh
    apart := fun i j request => h.apart_step hmoves hfresh
    granted := fun grant hgrant => hfresh.kept (h.granted_step hmoves hgrant)
    settled := fun grant hgrant i => h.settled_step hmoves hfresh hgrant i
    held := fun i grant count hheld => .inr ⟨i, count, hheld⟩
    alone := fun i j grant count count' => h.alone_step hmoves
    known := fun event hevent => by
      rcases List.mem_append.mp hevent with hold | hnew
      · exact .inl (h.known event hold)
      · obtain ⟨i, hi⟩ := hsent event hnew
        exact .inl (h.held i event.1 event.2 ((hmoves i).sent _ _ hi).1)
    below := fun i grant count hheld event hevent hgrant =>
      h.below_step hmoves hheld hgrant ((List.mem_append.mp hevent).imp id (hsent event))
    rises := hout ▸ h.rises_step hmoves hplaces }

end GrantCounters
