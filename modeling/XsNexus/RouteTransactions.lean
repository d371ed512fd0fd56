import XsNexus.RouteRecovery

namespace XsNexus

open Checks HostPrograms HostPrograms.Program

namespace WindowsRouteManager

/-- A backend each of whose creations and deletions takes effect exactly or fails without effect. -/
structure ExactBackend where
  Host : Type
  Outcome : Type
  perform : (op : HostOp) → Outcome → Host → op.Answer × Host
  routes : Host → Set RouteKey
  create_ok : ∀ {key outcome host after}, perform (.route .create key) outcome host = (.ok (), after) →
    key ∉ routes host ∧ routes after = insert key (routes host)
  delete_ok : ∀ {key outcome host after}, perform (.route .delete key) outcome host = (.ok (), after) →
    key ∈ routes host ∧ routes after = routes host \ {key}
  change_error : ∀ {change key outcome host error after},
    perform (.route change key) outcome host = (.error error, after) → routes after = routes host

/-- What a transaction leaves of a table where it succeeds, and where it fails with every undoing
change done: a failed stage of deletions keeps the routes that the stage before it created. -/
def Leaves (before after : Set RouteKey) (owned desired : List RouteKey) :
    Option (Except ExecuteError Unit) → Prop
  | some (.ok _) => ∀ key, key ∈ after ↔ key ∈ desired ∨ (key ∈ before ∧ key ∉ owned)
  | some (.error (.add _ _ failures)) => failures = [] → after = before
  | some (.error (.remove _ _ failures)) =>
    failures = [] → after = before ∪ {key | key ∈ desired ∧ key ∉ owned}
  | none => True

/-- The promise of a transaction on the table with the given keys: it touches only the given routes,
and whatever the failures it leaves what it should. -/
def Transacts (table owned desired : List RouteKey) (plan : ReconcilePlan) : Prop :=
  (executePlan plan).Only (Touches (owned ++ desired)) ∧
    ∀ (backend : ExactBackend) (before : backend.Host) (outcomes : List backend.Outcome),
      backend.routes before = {key | key ∈ table} →
        Leaves (backend.routes before)
          (backend.routes ((executePlan plan).exec backend.perform outcomes before).2) owned desired
          ((executePlan plan).exec backend.perform outcomes before).1

section Changes

variable {change : Change} {key : RouteKey} {keys : List RouteKey} {table : Set RouteKey}

def Change.opposite : Change → Change
  | .create => .delete
  | .delete => .create

/-- Where a change can take effect: only a route that is not there is created, only one that is there
is deleted. -/
def Change.Fits (change : Change) (key : RouteKey) (table : Set RouteKey) : Prop :=
  match change with
  | .create => key ∉ table
  | .delete => key ∈ table

/-- The table after the change of all the routes. -/
def Change.applied (change : Change) (keys : List RouteKey) (table : Set RouteKey) : Set RouteKey :=
  match change with
  | .create => table ∪ {key | key ∈ keys}
  | .delete => table \ {key | key ∈ keys}

@[simp] theorem Change.applied_nil : change.applied [] table = table := by
  cases change <;> simp [applied]

@[simp] theorem Change.applied_reverse : change.applied keys.reverse table = change.applied keys table := by
  cases change <;> simp [applied]

theorem Change.applied_concat :
    change.applied [key] (change.applied keys table) = change.applied (keys ++ [key]) table := by
  cases change with
  | create =>
    ext other
    simp only [applied, Set.mem_union, Set.mem_ofPred_eq, List.mem_append, List.mem_singleton]
    tauto
  | delete =>
    ext other
    simp only [applied, Set.mem_sdiff, Set.mem_ofPred_eq, List.mem_append, List.mem_singleton]
    tauto

/-- The opposite change of a route takes its own change back. -/
theorem Change.opposite_applied (hkey : key ∉ keys) (hfits : change.Fits key table) :
    change.opposite.applied [key] (change.applied (key :: keys) table) = change.applied keys table := by
  cases change with
  | create =>
    ext other
    have habsent : other = key → other ∉ table := fun heq => heq ▸ hfits
    have hlast : other = key → other ∉ keys := fun heq => heq ▸ hkey
    simp only [opposite, applied, Set.mem_sdiff, Set.mem_union, Set.mem_ofPred_eq, List.mem_cons,
      List.not_mem_nil, or_false]
    tauto
  | delete =>
    ext other
    have hpresent : other = key → other ∈ table := fun heq => heq ▸ hfits
    have hlast : other = key → other ∉ keys := fun heq => heq ▸ hkey
    simp only [opposite, applied, Set.mem_sdiff, Set.mem_union, Set.mem_ofPred_eq, List.mem_cons,
      List.not_mem_nil, or_false]
    tauto

/-- A change that can still take effect has not been made yet. -/
theorem Change.Fits.of_applied (h : change.Fits key (change.applied keys table)) :
    key ∉ keys ∧ change.Fits key table := by
  cases change with
  | create =>
    have h : key ∉ table ∪ {key | key ∈ keys} := h
    rw [Set.mem_union, not_or] at h
    exact ⟨h.2, h.1⟩
  | delete => exact ⟨h.2, h.1⟩

end Changes

section Backend

variable {backend : ExactBackend} {host : backend.Host}

theorem route_call (change : Change) (key : RouteKey) (outcome : backend.Outcome) :
    (∃ after, backend.perform (.route change key) outcome host = (.ok (), after)) ∨
      ∃ error after, backend.perform (.route change key) outcome host = (.error error, after) := by
  cases h : backend.perform (.route change key) outcome host with
  | mk answer after =>
    rcases (answer : Except IpHelperError Unit) with error | _
    · exact Or.inr ⟨error, after, rfl⟩
    · exact Or.inl ⟨after, rfl⟩

theorem ExactBackend.change_ok {change : Change} {key : RouteKey} {outcome : backend.Outcome}
    {after : backend.Host} (h : backend.perform (.route change key) outcome host = (.ok (), after)) :
    change.Fits key (backend.routes host) ∧
      backend.routes after = change.applied [key] (backend.routes host) := by
  cases change with
  | create =>
    obtain ⟨habsent, hroutes⟩ := backend.create_ok h
    refine ⟨habsent, hroutes.trans ?_⟩
    ext other
    simp [Change.applied, or_comm]
  | delete =>
    obtain ⟨hpresent, hroutes⟩ := backend.delete_ok h
    refine ⟨hpresent, hroutes.trans ?_⟩
    ext other
    simp [Change.applied]

theorem keeps_anything {α : Type} (program : HostProgram α) (host : backend.Host) :
    program.Keeps backend.perform (fun _ => True) (fun _ _ => True) host := by
  induction program generalizing host with
  | done result => trivial
  | call op next ih => exact ⟨trivial, fun outcome => ih _ _⟩

/-- The opposite changes without a failure take back what was changed. -/
theorem changeAll_opposite_keeps {change : Change} {base : Set RouteKey} {keys : List RouteKey}
    (hnodup : keys.Nodup) (hfits : ∀ key ∈ keys, change.Fits key base)
    (hhost : backend.routes host = change.applied keys base) :
    (changeAll change.opposite keys).Keeps backend.perform (fun _ => True)
      (fun failures after => failures = [] → backend.routes after = base) host := by
  induction keys generalizing host with
  | nil => exact fun _ => hhost.trans Change.applied_nil
  | cons key keys ih =>
    obtain ⟨hkey, hnodup⟩ := List.nodup_cons.mp hnodup
    obtain ⟨hfirst, hrest⟩ := List.forall_mem_cons.mp hfits
    refine ⟨trivial, fun outcome => ?_⟩
    rcases route_call change.opposite key outcome with ⟨after, hcall⟩ | ⟨error, after, hcall⟩
    · rw [hcall]
      refine ih hnodup hrest ?_
      rw [(ExactBackend.change_ok hcall).2, hhost, Change.opposite_applied hkey hfirst]
    · rw [hcall]
      refine Keeps.bind ((keeps_anything _ _).mono fun failures _ _ hnone => ?_)
      exact nomatch hnone

/-- What a loop of changes leaves: the change of all routes, or with a failure and every undoing change
done the table it began with. -/
def LoopLeaves (base all after : Set RouteKey) :
    Option (RouteKey × IpHelperError × List (RouteKey × IpHelperError)) → Prop
  | none => after = all
  | some (_, _, failures) => failures = [] → after = base

theorem changeOrUndo_keeps (change : Change) {base : Set RouteKey} {changed keys : List RouteKey}
    (hnodup : changed.Nodup) (hfits : ∀ key ∈ changed, change.Fits key base)
    (hhost : backend.routes host = change.applied changed base) :
    (changeOrUndo change change.opposite changed keys).Keeps backend.perform (fun _ => True)
      (fun result after =>
        LoopLeaves base (change.applied (changed ++ keys) base) (backend.routes after) result) host := by
  induction keys generalizing changed host with
  | nil => simpa [LoopLeaves, changeOrUndo, HostPrograms.Program.Keeps] using hhost
  | cons key keys ih =>
    refine ⟨trivial, fun outcome => ?_⟩
    rcases route_call change key outcome with ⟨after, hcall⟩ | ⟨error, after, hcall⟩
    · rw [hcall]
      -- what is changed now was not changed by the loop before
      obtain ⟨hready, hroutes⟩ := ExactBackend.change_ok hcall
      rw [hhost] at hready
      obtain ⟨hnew, hfirst⟩ := hready.of_applied
      have happend : changed ++ key :: keys = (changed ++ [key]) ++ keys := by simp
      rw [happend]
      refine ih ?_ ?_ ?_
      · exact hnodup.append (List.nodup_singleton key) (List.disjoint_singleton.mpr hnew)
      · intro other hother
        rcases List.mem_append.mp hother with hold | hlast
        · exact hfits other hold
        · rw [List.mem_singleton.mp hlast]
          exact hfirst
      · rw [hroutes, hhost, Change.applied_concat]
    · rw [hcall]
      have hkept : backend.routes after = change.applied changed.reverse base := by
        rw [backend.change_error hcall, hhost, Change.applied_reverse]
      have hundone := changeAll_opposite_keeps (List.nodup_reverse.mpr hnodup)
        (fun other hother => hfits other (List.mem_reverse.mp hother)) hkept
      exact Keeps.bind (hundone.mono fun failures left hleft => hleft)

end Backend

section Plans

variable {interfaceLuid : UInt64} {desired : List Ipv4Net} {owned : List RouteKey}
  {system : List SystemRoute} {plan : ReconcilePlan}

/-- The plan is the difference of the two lists, and the owned routes are in the table. -/
theorem planReconcile_difference (h : planReconcile interfaceLuid desired owned system = .ok plan) :
    (∀ key ∈ owned, key ∈ system.map (·.key)) ∧
      plan.additions = sortRoutes ((desired.map (RouteKey.ofPrefix interfaceLuid)).filter (· ∉ owned)) ∧
      plan.removals =
        sortRoutes (owned.filter (· ∉ desired.map (RouteKey.ofPrefix interfaceLuid))) := by
  obtain ⟨_, h⟩ := guard_ok.mp h
  obtain ⟨keys, hkeys, h⟩ := bind_ok.mp h
  obtain ⟨rfl, _⟩ := RouteKey.mapM_project hkeys
  obtain ⟨_, _, h⟩ := bind_ok.mp h
  obtain ⟨_, _, h⟩ := bind_ok.mp h
  obtain ⟨hdrift, h⟩ := guard_ok.mp h
  obtain ⟨_, h⟩ := guard_ok.mp h
  refine ⟨?_, ?_, ?_⟩
  · intro key hkey
    have hstill : stillOwned system key = true := by
      by_contra hnot
      refine hdrift (List.any_eq_true.mpr ⟨key, hkey, ?_⟩)
      rw [Bool.or_eq_true]
      exact Or.inr (by simpa using hnot)
    unfold stillOwned at hstill
    split at hstill
    next => simp at hstill
    next entry hfind =>
      have hentry : entry.key = key := by simpa using List.find?_some hfind
      exact List.mem_map.mpr ⟨entry, List.mem_of_find?_eq_some hfind, hentry⟩
  · rw [← Except.ok.inj h]
  · rw [← Except.ok.inj h]

@[simp] theorem mem_sortRoutes {key : RouteKey} {keys : List RouteKey} :
    key ∈ sortRoutes keys ↔ key ∈ keys := List.mem_insertionSort _

theorem executePlan_leaves {table keys owned : List RouteKey} {plan : ReconcilePlan}
    (htable : ∀ key ∈ owned, key ∈ table)
    (hadditions : plan.additions = sortRoutes (keys.filter (· ∉ owned)))
    (hremovals : plan.removals = sortRoutes (owned.filter (· ∉ keys))) (backend : ExactBackend)
    {before : backend.Host} (hbefore : backend.routes before = {key | key ∈ table}) :
    (executePlan plan).Keeps backend.perform (fun _ => True)
      (fun result after => Leaves (backend.routes before) (backend.routes after) owned keys (some result))
      before := by
  have hadd : {key | key ∈ plan.additions} = {key | key ∈ keys ∧ key ∉ owned} := by
    ext key
    rw [Set.mem_ofPred_eq, hadditions, mem_sortRoutes, List.mem_filter, decide_eq_true_iff]
    rfl
  have hremove : {key | key ∈ plan.removals} = {key | key ∈ owned ∧ key ∉ keys} := by
    ext key
    rw [Set.mem_ofPred_eq, hremovals, mem_sortRoutes, List.mem_filter, decide_eq_true_iff]
    rfl
  have hcreate : (changeOrUndo .create .delete [] plan.additions).Keeps backend.perform (fun _ => True)
      (fun result after => LoopLeaves (backend.routes before)
        (backend.routes before ∪ {key | key ∈ [] ++ plan.additions}) (backend.routes after) result) before :=
    changeOrUndo_keeps .create List.nodup_nil (by simp) Change.applied_nil.symm
  refine Keeps.bind (hcreate.mono ?_)
  rintro (_ | ⟨route, source, failures⟩) middle hmiddle
  · have hmiddle : backend.routes middle = backend.routes before ∪ {key | key ∈ plan.additions} := hmiddle
    rw [hadd] at hmiddle
    have hdelete : (changeOrUndo .delete .create [] plan.removals).Keeps backend.perform (fun _ => True)
        (fun result after => LoopLeaves (backend.routes middle)
          (backend.routes middle \ {key | key ∈ [] ++ plan.removals}) (backend.routes after) result) middle :=
      changeOrUndo_keeps .delete List.nodup_nil (by simp) Change.applied_nil.symm
    refine Keeps.bind (hdelete.mono ?_)
    rintro (_ | ⟨route, source, failures⟩) after hafter
    · intro key
      have hafter : backend.routes after = backend.routes middle \ {key | key ∈ plan.removals} := hafter
      rw [hafter, hremove, hmiddle, hbefore]
      simp only [Set.mem_sdiff, Set.mem_union, Set.mem_ofPred_eq]
      have hkey := htable key
      tauto
    · intro hnone
      rw [← hmiddle]
      exact hafter hnone
  · exact hmiddle

theorem executePlan_touches {keys owned : List RouteKey} {plan : ReconcilePlan}
    (hadditions : plan.additions = sortRoutes (keys.filter (· ∉ owned)))
    (hremovals : plan.removals = sortRoutes (owned.filter (· ∉ keys))) :
    (executePlan plan).Only (Touches (owned ++ keys)) := by
  refine executePlan_only (fun route hroute => ?_) fun route hroute => ?_
  · rw [hadditions, mem_sortRoutes, List.mem_filter] at hroute
    exact List.mem_append_right _ hroute.1
  · rw [hremovals, mem_sortRoutes, List.mem_filter] at hroute
    exact List.mem_append_left _ hroute.1

end Plans

theorem execute_plan_transacts {interfaceLuid : UInt64} {desired : List Ipv4Net} {owned : List RouteKey}
    {system : List SystemRoute} {plan : ReconcilePlan}
    (hplan : planReconcile interfaceLuid desired owned system = .ok plan) :
    Transacts (system.map (·.key)) owned (desired.map (RouteKey.ofPrefix interfaceLuid)) plan := by
  obtain ⟨htable, hadditions, hremovals⟩ := planReconcile_difference hplan
  refine ⟨executePlan_touches hadditions hremovals, fun backend before outcomes hbefore => ?_⟩
  have hleft := exec_of_keeps (executePlan_leaves htable hadditions hremovals backend hbefore) outcomes
  cases hrun : (executePlan plan).exec backend.perform outcomes before with
  | mk result after =>
    rw [hrun] at hleft
    cases result with
    | none => trivial
    | some result => exact hleft

/-- The calls on a table, each refused with an error or carried out where it can be. -/
def changeTable (op : HostOp) (refused : Option IpHelperError) (table : List RouteKey) :
    op.Answer × List RouteKey :=
  match op, refused with
  | .route _ _, some error => (.error error, table)
  | .route .create key, none =>
    if key ∈ table then (.error objectAlreadyExists, table) else (.ok (), key :: table)
  | .route .delete key, none =>
    if key ∈ table then (.ok (), table.filter (· ≠ key)) else (.error notFound, table)
  | .address _ _ _ _, _ => (.ok (), table)
  | .dadState _ _ _, _ => (.ok .preferred, table)
  | .waitDadPoll, _ => ((), table)

section Tables

variable {key : RouteKey} {refused : Option IpHelperError} {table after : List RouteKey}

theorem changeTable_create (h : changeTable (.route .create key) refused table = (.ok (), after)) :
    key ∉ table ∧ after = key :: table := by
  cases refused with
  | some error => exact nomatch (Prod.mk.inj h).1
  | none =>
    by_cases hpresent : key ∈ table
    · simp only [changeTable, if_pos hpresent] at h
      exact nomatch (Prod.mk.inj h).1
    · simp only [changeTable, if_neg hpresent] at h
      exact ⟨hpresent, (Prod.mk.inj h).2.symm⟩

theorem changeTable_delete (h : changeTable (.route .delete key) refused table = (.ok (), after)) :
    key ∈ table ∧ after = table.filter (· ≠ key) := by
  cases refused with
  | some error => exact nomatch (Prod.mk.inj h).1
  | none =>
    by_cases hpresent : key ∈ table
    · simp only [changeTable, if_pos hpresent] at h
      exact ⟨hpresent, (Prod.mk.inj h).2.symm⟩
    · simp only [changeTable, if_neg hpresent] at h
      exact nomatch (Prod.mk.inj h).1

theorem changeTable_error {change : Change} {error : IpHelperError}
    (h : changeTable (.route change key) refused table = (.error error, after)) : after = table := by
  cases refused with
  | some refusal => cases change <;> exact (Prod.mk.inj h).2.symm
  | none =>
    by_cases hpresent : key ∈ table
    · cases change with
      | create =>
        simp only [changeTable, if_pos hpresent] at h
        exact (Prod.mk.inj h).2.symm
      | delete =>
        simp only [changeTable, if_pos hpresent] at h
        exact nomatch (Prod.mk.inj h).1
    · cases change with
      | create =>
        simp only [changeTable, if_neg hpresent] at h
        exact nomatch (Prod.mk.inj h).1
      | delete =>
        simp only [changeTable, if_neg hpresent] at h
        exact (Prod.mk.inj h).2.symm

end Tables

def routeTable : ExactBackend where
  Host := List RouteKey
  Outcome := Option IpHelperError
  perform := changeTable
  routes table := {key | key ∈ table}
  create_ok h := by
    obtain ⟨habsent, rfl⟩ := changeTable_create h
    refine ⟨habsent, ?_⟩
    ext other
    simp
  delete_ok h := by
    obtain ⟨hpresent, rfl⟩ := changeTable_delete h
    refine ⟨hpresent, ?_⟩
    ext other
    simp
  change_error h := by rw [changeTable_error h]

/-- The route to 192.168.`third`.0/24 over the interface 7 -/
def sampleRoute (third : Nat) : RouteKey :=
  .ofPrefix 7 ⟨⟨BitVec.ofNat 32 (0xC0A80000 + third * 256)⟩, 24, Ipv4Net.le_24⟩

/-- The office route of another interface -/
def officeRoute : SystemRoute := ⟨⟨⟨.new 172 16 0 0, 16, Ipv4Net.le_16⟩, 9, .new 192 0 2 1, 5⟩, false⟩

theorem execute_plan_transacts_office :
    Transacts [sampleRoute 10, officeRoute.key, sampleRoute 20, sampleRoute 30]
      [sampleRoute 10, sampleRoute 20, sampleRoute 30] [sampleRoute 50, sampleRoute 20, sampleRoute 40]
      ⟨[sampleRoute 40, sampleRoute 50], [sampleRoute 50, sampleRoute 40],
        [sampleRoute 10, sampleRoute 30]⟩ :=
  execute_plan_transacts (show planReconcile 7
      [(sampleRoute 50).subnetPrefix, (sampleRoute 20).subnetPrefix, (sampleRoute 40).subnetPrefix]
      [sampleRoute 10, sampleRoute 20, sampleRoute 30]
      [⟨sampleRoute 10, true⟩, officeRoute, ⟨sampleRoute 20, true⟩, ⟨sampleRoute 30, true⟩] =
    .ok ⟨[sampleRoute 40, sampleRoute 50], [sampleRoute 50, sampleRoute 40],
      [sampleRoute 10, sampleRoute 30]⟩ by decide +kernel)

/-- The owned route is to be replaced: where its deletion fails, both routes are left. -/
theorem execute_plan_keeps_additions :
    planReconcile 7 [(sampleRoute 20).subnetPrefix] [sampleRoute 10] [⟨sampleRoute 10, true⟩] =
      .ok ⟨[sampleRoute 20], [sampleRoute 20], [sampleRoute 10]⟩ ∧
    (executePlan ⟨[sampleRoute 20], [sampleRoute 20], [sampleRoute 10]⟩).exec routeTable.perform
        [none, some 5] [sampleRoute 10] =
      (some (.error (.remove (sampleRoute 10) 5 [])), [sampleRoute 20, sampleRoute 10]) ∧
    routeTable.routes [sampleRoute 20, sampleRoute 10] ≠ routeTable.routes [sampleRoute 10] := by
  refine ⟨by decide +kernel, ?_, ?_⟩
  · have habsent : sampleRoute 20 ∉ [sampleRoute 10] := by decide +kernel
    simp only [executePlan, changeOrUndo, bind_call, exec, routeTable, changeTable, if_neg habsent]
    rfl
  · intro hsame
    have hmem : sampleRoute 20 ∈ routeTable.routes [sampleRoute 10] :=
      hsame ▸ (List.mem_cons_self : sampleRoute 20 ∈ [sampleRoute 20, sampleRoute 10])
    have habsent : sampleRoute 20 ∉ [sampleRoute 10] := by decide +kernel
    exact habsent hmem

end WindowsRouteManager

end XsNexus
