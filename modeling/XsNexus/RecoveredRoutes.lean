import XsNexus.RouteRecovery

namespace XsNexus

open Checks HostPrograms HostPrograms.Program

namespace WindowsRouteManager

/-- What the preparation of a network has in hand when it begins to change the host: the table it read,
the transaction it planned and the manifest it wrote. -/
structure Prepared (interfaceLuid : UInt64) (address : Ipv4Addr) (prefixLength : UInt8)
    (desired : List Ipv4Net) (before : RouteHost) where
  system : List SystemRoute
  snapshot : snapshotRoutes before.rows = some system
  plan : ReconcilePlan
  planned : planReconcile interfaceLuid desired [] system = .ok plan
  routes : List RouteKey
  prepared : preparedRoutes interfaceLuid desired = .ok routes
  state : ManifestState
  manifest : NetworkManifest
  recorded : NetworkManifest.new state interfaceLuid address prefixLength routes = .ok manifest

theorem requireUnique_ok {routes : List RouteKey} : requireUnique routes = .ok () ↔ routes.Nodup := by
  unfold requireUnique
  by_cases h : routes.Nodup
  · simp [h]
  · simp [h]

theorem planReconcile_ok {interfaceLuid : UInt64} {desired : List Ipv4Net} {system : List SystemRoute}
    {plan : ReconcilePlan} (h : planReconcile interfaceLuid desired [] system = .ok plan) :
    (desired.map (RouteKey.ofPrefix interfaceLuid)).Nodup ∧
      (∀ net ∈ desired, net.network = net.addr) ∧
      (∀ net ∈ desired, ∀ existing ∈ system, overlaps existing.key.subnetPrefix net →
        existing.projectOwned) ∧
      plan.additions = sortRoutes (desired.map (RouteKey.ofPrefix interfaceLuid)) ∧
      plan.removals = [] := by
  unfold planReconcile at h
  obtain ⟨_, h⟩ := guard_ok.mp h
  obtain ⟨keys, hkeys, h⟩ := bind_ok.mp h
  obtain ⟨_, hunique, h⟩ := bind_ok.mp h
  obtain ⟨_, _, h⟩ := bind_ok.mp h
  obtain ⟨_, h⟩ := guard_ok.mp h
  obtain ⟨hconflict, h⟩ := guard_ok.mp h
  obtain ⟨rfl, hgood⟩ := RouteKey.mapM_project hkeys
  refine ⟨requireUnique_ok.mp hunique, fun net hnet => (hgood net hnet).2.2.1, ?_, ?_, ?_⟩
  · intro net hnet existing hexisting hoverlap
    by_contra howned
    refine hconflict (List.any_eq_true.mpr ⟨_, List.mem_map_of_mem hnet,
      List.any_eq_true.mpr ⟨existing, hexisting, ?_⟩⟩)
    have hsame : overlaps existing.key.subnetPrefix
        (RouteKey.ofPrefix interfaceLuid net).subnetPrefix = true := hoverlap
    rw [hsame]
    simpa using howned
  · cases h
    simp
  · cases h
    rfl

namespace Prepared

variable {interfaceLuid : UInt64} {address : Ipv4Addr} {prefixLength : UInt8} {desired : List Ipv4Net}
  {before : RouteHost} (p : Prepared interfaceLuid address prefixLength desired before)

theorem validated : p.manifest = ⟨1, p.state, interfaceLuid, address, prefixLength, p.routes⟩ ∧
    p.manifest.validate = .ok () := by
  obtain ⟨_, hvalidate, heq⟩ := bind_ok.mp p.recorded
  have hsame := Except.ok.inj heq
  exact ⟨hsame.symm, hsame ▸ hvalidate⟩

theorem manifest_routes : p.manifest.routes = p.routes := by rw [p.validated.1]

theorem routes_perm : p.manifest.routes.Perm (desired.map (RouteKey.ofPrefix interfaceLuid)) := by
  obtain ⟨keys, hkeys, heq⟩ := bind_ok.mp p.prepared
  obtain ⟨rfl, _⟩ := RouteKey.mapM_project hkeys
  rw [p.manifest_routes, ← Except.ok.inj heq]
  exact List.perm_insertionSort _ _

theorem mem_routes {route : RouteKey} :
    route ∈ p.manifest.routes ↔ ∃ net ∈ desired, RouteKey.ofPrefix interfaceLuid net = route := by
  rw [p.routes_perm.mem_iff, List.mem_map]

theorem canonical : ∀ route ∈ p.manifest.routes, Canonical interfaceLuid route := by
  intro route hroute
  obtain ⟨net, hnet, rfl⟩ := p.mem_routes.mp hroute
  exact ⟨rfl, (planReconcile_ok p.planned).2.1 net hnet⟩

theorem nodup : p.manifest.routes.Nodup :=
  p.routes_perm.nodup_iff.mpr (planReconcile_ok p.planned).1

theorem additions_perm : p.plan.additions.Perm p.manifest.routes := by
  rw [(planReconcile_ok p.planned).2.2.2.1]
  exact (List.perm_insertionSort _ _).trans p.routes_perm.symm

theorem executePlan_only : (executePlan p.plan).Only (Touches p.manifest.routes) := by
  refine WindowsRouteManager.executePlan_only (fun route h => p.additions_perm.mem_iff.mp h) ?_
  rw [(planReconcile_ok p.planned).2.2.2.2]
  simp

theorem provisionNetwork_only (maximumDadPolls : Nat) :
    (provisionNetwork interfaceLuid address prefixLength maximumDadPolls p.plan).Only
      (Touches p.manifest.routes) :=
  WindowsRouteManager.provisionNetwork_only p.executePlan_only maximumDadPolls

include p in
theorem addressValid : addressRowValid interfaceLuid address prefixLength := by
  obtain ⟨heq, hvalidate⟩ := p.validated
  rw [heq] at hvalidate
  unfold NetworkManifest.validate at hvalidate
  obtain ⟨_, hvalidate⟩ := guard_ok.mp hvalidate
  obtain ⟨hgood, _⟩ := guard_ok.mp hvalidate
  simp only [not_or, not_not] at hgood
  obtain ⟨hluid, hlength, hsafe⟩ := hgood
  have hspecified : ¬address.isUnspecified := by
    have hsafe : safeHostAddress address prefixLength = true := by simpa using hsafe
    unfold safeHostAddress at hsafe
    rw [dif_pos (by omega)] at hsafe
    simp only [Bool.and_eq_true] at hsafe
    simpa using hsafe.1.1.1.2
  simp [addressRowValid, hluid, hlength, hspecified]

theorem reads : List.Forall₂ (fun row route => systemRoute row = some route) before.rows p.system :=
  (snapshotRoutes_some.mp p.snapshot).2

/-- A row of the initial table that stands for a recorded route has its very key. -/
theorem recorded_of_sameEntry {row : ForwardRow} {existing : SystemRoute} (hread : systemRoute row = some existing)
    (hexisting : existing ∈ p.system) {route : RouteKey} (hroute : route ∈ p.manifest.routes)
    (hsame : sameEntry row route) : existing.key = route := by
  have hcanonical := p.canonical route hroute
  obtain ⟨hnet, hluid, hnext⟩ := (sameEntry_iff (systemRoute_read hread) hcanonical).mp hsame
  obtain ⟨net, hmem, rfl⟩ := p.mem_routes.mp hroute
  have howned : existing.projectOwned := by
    refine (planReconcile_ok p.planned).2.2.1 net hmem existing hexisting ?_
    rw [hnet]
    exact overlaps_self net
  obtain ⟨_, hmetric⟩ := (systemRoute_read hread).owned howned
  calc existing.key
      = ⟨existing.key.subnetPrefix, existing.key.interfaceLuid, existing.key.nextHop,
          existing.key.metric⟩ := rfl
    _ = RouteKey.ofPrefix interfaceLuid net := by rw [hnet, hluid, hnext, hmetric]; rfl

end Prepared

/-- No route of the system overlaps a desired prefix. -/
def Unused (desired : List Ipv4Net) (system : List SystemRoute) : Prop :=
  ∀ net ∈ desired, ∀ existing ∈ system, ¬overlaps existing.key.subnetPrefix net

/-- The rows of routes that the manifest does not record stay, also while any plan of a recovery from
it runs. -/
def KeepsUnrecorded (manifest : NetworkManifest) (before crashed : RouteHost) : Prop :=
  ∀ row ∈ before.rows, ∀ existing, systemRoute row = some existing → existing.key ∉ manifest.routes →
    row ∈ crashed.rows ∧
      ∀ system addressPresent plan, planRecovery manifest system addressPresent = .ok plan →
        ∀ outcomes, row ∈ ((executeRecovery manifest plan).exec perform outcomes crashed).2.rows

theorem mem_dedupAfter {last route : RouteKey} {routes : List RouteKey} :
    route ∈ last :: dedupAfter last routes ↔ route ∈ last :: routes := by
  induction routes generalizing last with
  | nil => rfl
  | cons first routes ih =>
    unfold dedupAfter
    by_cases hsame : first = last
    · rw [if_pos hsame, ih, hsame]
      simp
    · rw [if_neg hsame, List.mem_cons, ih, List.mem_cons, List.mem_cons, List.mem_cons]

theorem mem_dedupNeighbours {routes : List RouteKey} {route : RouteKey} :
    route ∈ dedupNeighbours routes ↔ route ∈ routes := by
  cases routes with
  | nil => rfl
  | cons first routes => exact mem_dedupAfter

/-- A plan deletes recorded routes that the snapshot has. -/
theorem planRecovery_routes {manifest : NetworkManifest} {system : List SystemRoute}
    {addressPresent : Bool} {plan : RecoveryPlan}
    (h : planRecovery manifest system addressPresent = .ok plan) :
    (∀ route ∈ plan.routes, route ∈ manifest.routes) ∧
      ∀ recorded ∈ manifest.routes, ∀ existing ∈ system,
        overlaps existing.key.subnetPrefix recorded.subnetPrefix →
          existing.key = recorded ∧ recorded ∈ plan.routes := by
  obtain ⟨_, _, h⟩ := bind_ok.mp h
  obtain ⟨_, h⟩ := guard_ok.mp h
  obtain ⟨found, hfound, h⟩ := bind_ok.mp h
  have hrecover : ∀ {recorded : RouteKey} {routes : List RouteKey},
      recoverRoute system recorded = .ok routes → (∀ route ∈ routes, route = recorded) ∧
        ∀ existing ∈ system, overlaps existing.key.subnetPrefix recorded.subnetPrefix →
          existing.key = recorded ∧ recorded ∈ routes := by
    intro recorded routes hroutes
    refine ⟨fun route hroute => ?_, fun existing hexisting hoverlap => ?_⟩
    · obtain ⟨current, _, hcurrent⟩ := mem_mapM hroutes hroute
      split at hcurrent
      next => exact (Except.ok.inj hcurrent).symm
      next => cases hcurrent
    · have hall := mapM_ok.mp hroutes
      have hmem : existing ∈ system.filter fun current =>
          overlaps current.key.subnetPrefix recorded.subnetPrefix :=
        List.mem_filter.mpr ⟨hexisting, hoverlap⟩
      obtain ⟨i, hi, heq⟩ := List.mem_iff_getElem.mp hmem
      have hlength := hall.length_eq
      have hget := hall.get hi (by omega)
      simp only [List.get_eq_getElem, heq] at hget
      split at hget
      next hsame =>
        refine ⟨hsame.1, ?_⟩
        rw [Except.ok.inj hget]
        exact List.getElem_mem _
      next => cases hget
  have hmem : ∀ route, route ∈ plan.routes ↔ ∃ routes ∈ found, route ∈ routes := by
    intro route
    rw [← Except.ok.inj h, mem_dedupNeighbours, sortRoutes, List.mem_insertionSort, List.mem_flatten]
  refine ⟨fun route hroute => ?_, fun recorded hrecorded existing hexisting hoverlap => ?_⟩
  · obtain ⟨routes, hroutes, hroute⟩ := (hmem route).mp hroute
    obtain ⟨recorded, hrecorded, hok⟩ := mem_mapM hfound hroutes
    rw [(hrecover hok).1 route hroute]
    exact hrecorded
  · obtain ⟨routes, hroutes, hok⟩ := exists_mem_mapM hfound hrecorded
    obtain ⟨hkey, hin⟩ := (hrecover hok).2 existing hexisting hoverlap
    exact ⟨hkey, (hmem recorded).mpr ⟨routes, hroutes, hin⟩⟩

/-- The run in which no call fails creates every route. -/
theorem changeOrUndo_create {before : List ForwardRow} {routes : List RouteKey} {interfaceLuid : UInt64}
    (hroutes : ∀ route ∈ routes, Canonical interfaceLuid route)
    (hbefore : ∀ row ∈ before, ∀ route ∈ routes, ¬sameEntry row route) (dad : DadState)
    {changed rest : List RouteKey} (hnodup : (changed ++ rest).Nodup)
    (hmem : ∀ route ∈ changed ++ rest, route ∈ routes) {host : RouteHost}
    (hrows : host.rows = before ++ changed.map routeRow) :
    ∃ after, (changeOrUndo .create .delete changed rest).complete perform ⟨none, dad⟩ host = (none, after) ∧
      after.rows = before ++ (changed ++ rest).map routeRow := by
  induction rest generalizing changed host with
  | nil =>
    refine ⟨host, rfl, ?_⟩
    rw [hrows, List.append_nil]
  | cons route rest ih =>
    have hroute : route ∈ routes := hmem route (by simp)
    have hfresh : route ∉ changed := by
      intro h
      have := (List.nodup_append.mp hnodup).2.2 route h route List.mem_cons_self
      exact this rfl
    have habsent : ¬(host.rows.any fun row => sameEntry row route) = true := by
      intro hany
      obtain ⟨row, hrow, hsame⟩ := List.any_eq_true.mp hany
      rw [hrows] at hrow
      rcases List.mem_append.mp hrow with hold | hnew
      · exact hbefore row hold route hroute hsame
      · obtain ⟨key, hkey, rfl⟩ := List.mem_map.mp hnew
        have hkeyRoute : key ∈ routes := hmem key (List.mem_append_left _ hkey)
        have heq := (sameEntry_routeRow (hroutes key hkeyRoute) (hroutes route hroute)).mp hsame
        exact hfresh (heq ▸ hkey)
    have hstep : perform (.route .create route) ⟨none, dad⟩ host =
        (.ok (), { host with rows := host.rows ++ [routeRow route] }) := by
      simp only [perform, if_neg habsent]
    have hsplit : changed ++ route :: rest = changed ++ [route] ++ rest := by simp
    rw [hsplit] at hnodup hmem
    have hnext : ({ host with rows := host.rows ++ [routeRow route] } : RouteHost).rows =
        before ++ (changed ++ [route]).map routeRow := by
      show host.rows ++ [routeRow route] = _
      rw [hrows, List.map_append, List.append_assoc]
      rfl
    obtain ⟨after, hrun, hafter⟩ := ih hnodup hmem hnext
    refine ⟨after, ?_, by rw [hafter, hsplit]⟩
    unfold changeOrUndo complete
    rw [hstep]
    exact hrun

/-- Deletions that do not fail leave no row of their routes. -/
theorem changeAll_gone (dad : DadState) (deleted : List RouteKey) (host : RouteHost) :
    ∀ row ∈ ((changeAll .delete deleted).complete perform ⟨none, dad⟩ host).2.rows,
      row ∈ host.rows ∧ ∀ route ∈ deleted, ¬sameEntry row route := by
  induction deleted generalizing host with
  | nil => exact fun row hrow => ⟨hrow, by simp⟩
  | cons route deleted ih =>
    intro row hrow
    by_cases hpresent : host.rows.any fun row => sameEntry row route
    · have hstep : perform (.route .delete route) ⟨none, dad⟩ host =
          (.ok (), { host with rows := host.rows.filter fun row => !sameEntry row route }) := by
        simp only [perform, if_pos hpresent]
      unfold changeAll complete at hrow
      rw [hstep] at hrow
      obtain ⟨hmem, hgone⟩ := ih _ row hrow
      obtain ⟨hold, hother⟩ := List.mem_filter.mp hmem
      exact ⟨hold, List.forall_mem_cons.mpr ⟨by simpa using hother, hgone⟩⟩
    · have hstep : perform (.route .delete route) ⟨none, dad⟩ host = (.error notFound, host) := by
        simp only [perform, if_neg hpresent]
      unfold changeAll complete at hrow
      rw [hstep] at hrow
      dsimp only at hrow
      rw [complete_bind] at hrow
      obtain ⟨hold, hgone⟩ := ih host row hrow
      refine ⟨hold, List.forall_mem_cons.mpr ⟨fun hsame => ?_, hgone⟩⟩
      exact hpresent (List.any_eq_true.mpr ⟨row, hold, hsame⟩)

theorem recoverAddress_rows (manifest : NetworkManifest) (plan : RecoveryPlan) (outcome : HostOutcome)
    (host : RouteHost) : ((recoverAddress manifest plan).complete perform outcome host).2.rows = host.rows := by
  unfold recoverAddress
  split
  next =>
    have hrows := perform_rows (.address .delete manifest.interfaceLuid manifest.address
      manifest.prefixLength) outcome host
    simp only [reduceCtorEq, false_and, exists_false, or_false] at hrows
    exact hrows
  next => rfl

/-- A recovery that does not fail leaves no row of the routes of its plan. -/
theorem executeRecovery_gone {manifest : NetworkManifest} {plan : RecoveryPlan} (dad : DadState)
    (host : RouteHost) : ∀ row ∈ ((executeRecovery manifest plan).complete perform ⟨none, dad⟩ host).2.rows,
      ∀ route ∈ plan.routes, ¬sameEntry row route := by
  intro row hrow route hroute
  unfold executeRecovery at hrow
  rw [complete_bind, complete_bind] at hrow
  have hsame : row ∈ ((recoverAddress manifest plan).complete perform ⟨none, dad⟩
      ((changeAll .delete plan.routes.reverse).complete perform ⟨none, dad⟩ host).2).2.rows := by
    revert hrow
    split
    next => exact id
    next => exact id
  rw [recoverAddress_rows] at hsame
  exact (changeAll_gone dad plan.routes.reverse host row hsame).2 route (List.mem_reverse.mpr hroute)

namespace Prepared

variable {interfaceLuid : UInt64} {address : Ipv4Addr} {prefixLength : UInt8} {desired : List Ipv4Net}
  {before : RouteHost} (p : Prepared interfaceLuid address prefixLength desired before)

theorem existing_of_row {row : ForwardRow} (hrow : row ∈ before.rows) :
    ∃ existing ∈ p.system, systemRoute row = some existing := by
  obtain ⟨i, hi, rfl⟩ := List.mem_iff_getElem.mp hrow
  have hlength := p.reads.length_eq
  exact ⟨p.system[i], List.getElem_mem _, p.reads.get hi (by omega)⟩

theorem row_of_existing {existing : SystemRoute} (h : existing ∈ p.system) :
    ∃ row ∈ before.rows, systemRoute row = some existing := by
  obtain ⟨i, hi, rfl⟩ := List.mem_iff_getElem.mp h
  have hlength := p.reads.length_eq
  exact ⟨before.rows[i], List.getElem_mem _, p.reads.get (by omega) hi⟩

/-- A row whose key the manifest does not record stands for none of its routes. -/
theorem other_of_unrecorded {row : ForwardRow} (hrow : row ∈ before.rows) {existing : SystemRoute}
    (hread : systemRoute row = some existing) (hkey : existing.key ∉ p.manifest.routes) :
    ∀ route ∈ p.manifest.routes, ¬sameEntry row route := by
  intro route hroute hsame
  obtain ⟨existing', hexisting, hread'⟩ := p.existing_of_row hrow
  rw [hread] at hread'
  cases hread'
  exact hkey (p.recorded_of_sameEntry hread hexisting hroute hsame ▸ hroute)

/-- No run deletes a route that the manifest does not record. -/
theorem keepsUnrecorded (maximumDadPolls : Nat) (outcomes : List HostOutcome) :
    KeepsUnrecorded p.manifest before ((provisionNetwork interfaceLuid address prefixLength
      maximumDadPolls p.plan).exec perform outcomes before).2 := by
  intro row hrow existing hread hkey
  have hother := p.other_of_unrecorded hrow hread hkey
  have hkeeps : ∀ {op : HostOp}, Touches p.manifest.routes op → ∀ (outcome : HostOutcome) {host : RouteHost},
      row ∈ host.rows → row ∈ (perform op outcome host).2.rows :=
    fun hop outcome _ hmem => perform_mem hop outcome hother hmem
  have hcrashed := (p.provisionNetwork_only maximumDadPolls).exec hkeeps outcomes hrow
  refine ⟨hcrashed, fun system addressPresent plan hplan outcomes' => ?_⟩
  exact (executeRecovery_only p.manifest (planRecovery_routes hplan).1).exec hkeeps outcomes' hcrashed

theorem length_routes : p.manifest.routes.length = desired.length := by
  rw [p.routes_perm.length_eq, List.length_map]

section Unused

variable (hunused : Unused desired p.system)

include hunused

theorem clear : ∀ existing ∈ p.system, ∀ route ∈ p.manifest.routes,
    ¬overlaps existing.key.subnetPrefix route.subnetPrefix := by
  intro existing hexisting route hroute
  obtain ⟨net, hnet, rfl⟩ := p.mem_routes.mp hroute
  exact hunused net hnet existing hexisting

theorem noRow : ∀ row ∈ before.rows, ∀ route ∈ p.manifest.routes, ¬sameEntry row route := by
  intro row hrow route hroute hsame
  obtain ⟨existing, hexisting, hread⟩ := p.existing_of_row hrow
  have hkey := p.recorded_of_sameEntry hread hexisting hroute hsame
  refine p.clear hunused existing hexisting route hroute ?_
  rw [hkey]
  exact overlaps_self _

theorem between (maximumDadPolls : Nat) (outcomes : List HostOutcome) :
    Between before.rows p.manifest.routes ((provisionNetwork interfaceLuid address prefixLength
      maximumDadPolls p.plan).exec perform outcomes before).2 := by
  have hkeeps : ∀ {op : HostOp}, Touches p.manifest.routes op → ∀ (outcome : HostOutcome) {host : RouteHost},
      Between before.rows p.manifest.routes host →
        Between before.rows p.manifest.routes (perform op outcome host).2 :=
    fun hop outcome _ h => perform_between p.canonical (p.noRow hunused) hop outcome h
  exact (p.provisionNetwork_only maximumDadPolls).exec hkeeps outcomes
    ⟨[], List.nodup_nil, by simp, by simp⟩

/-- A run that can create routes may create all of them. -/
theorem complete_rows {maximumDadPolls : Nat} (hpolls : maximumDadPolls ≠ 0)
    (haddress : (interfaceLuid, address) ∉ before.addresses) :
    ∃ outcomes, ((provisionNetwork interfaceLuid address prefixLength maximumDadPolls p.plan).exec perform
      outcomes before).2.rows = before.rows ++ p.plan.additions.map routeRow := by
  have hvalid := p.addressValid
  obtain ⟨added, hadded⟩ : ∃ added : RouteHost, added =
      { before with addresses := (interfaceLuid, address) :: before.addresses } := ⟨_, rfl⟩
  have hcreate : perform (.address .create interfaceLuid address prefixLength) ⟨none, .preferred⟩ before =
      (.ok (), added) := by
    rw [hadded]
    simp [perform, hvalid, haddress]
  have hdad : perform (.dadState interfaceLuid address prefixLength) ⟨none, .preferred⟩ added =
      (.ok .preferred, added) := by
    rw [hadded]
    simp [perform, hvalid]
  have hrows : added.rows = before.rows ++ [].map routeRow := by
    rw [hadded]
    simp
  have hnodup : ([] ++ p.plan.additions).Nodup := p.additions_perm.nodup_iff.mpr p.nodup
  obtain ⟨after, hafter, hafterRows⟩ := changeOrUndo_create p.canonical (p.noRow hunused) .preferred hnodup
    (fun route h => p.additions_perm.mem_iff.mp h) hrows
  have hplan : (executePlan p.plan).complete perform ⟨none, .preferred⟩ added = (.ok (), after) := by
    unfold executePlan
    rw [complete_bind, hafter]
    show ((changeOrUndo .delete .create [] p.plan.removals).bind _).complete perform _ after = _
    rw [(planReconcile_ok p.planned).2.2.2.2]
    rfl
  obtain ⟨polls, rfl⟩ := Nat.exists_eq_succ_of_ne_zero hpolls
  have hcomplete : (provisionNetwork interfaceLuid address prefixLength (polls + 1) p.plan).complete perform
      ⟨none, .preferred⟩ before = (.ok (), after) := by
    unfold provisionNetwork complete
    rw [hcreate]
    show (pollDad interfaceLuid address prefixLength p.plan (polls + 1)).complete perform _ added = _
    unfold pollDad complete
    rw [hdad]
    show ((executePlan p.plan).bind _).complete perform _ added = _
    rw [complete_bind, hplan]
    rfl
  obtain ⟨outcomes, hrun⟩ := exists_exec_of_complete hcomplete
  refine ⟨outcomes, ?_⟩
  rw [hrun]
  exact hafterRows

end Unused

/-- A run that cannot create a route leaves the rows alone. -/
theorem rows_of_not_started {maximumDadPolls : Nat}
    (h : maximumDadPolls = 0 ∨ (interfaceLuid, address) ∈ before.addresses) (outcomes : List HostOutcome) :
    ((provisionNetwork interfaceLuid address prefixLength maximumDadPolls p.plan).exec perform outcomes
      before).2.rows = before.rows := by
  rcases h with rfl | hpresent
  · have honly : (provisionNetwork interfaceLuid address prefixLength 0 p.plan).Only (Touches []) := by
      refine ⟨trivial, ?_⟩
      rintro (error | _)
      · trivial
      · exact cleanAddress_only _
    have hkeeps : ∀ {op : HostOp}, Touches [] op → ∀ (outcome : HostOutcome) {host : RouteHost},
        host.rows = before.rows → (perform op outcome host).2.rows = before.rows := by
      intro op hop outcome host hrows
      rcases perform_rows op outcome host with hsame | ⟨route, rfl, _⟩ | ⟨route, rfl, _⟩
      · rw [hsame, hrows]
      · exact absurd hop (by simp [Touches])
      · exact absurd hop (by simp [Touches])
    exact honly.exec hkeeps outcomes rfl
  · cases outcomes with
    | nil => rfl
    | cons outcome outcomes =>
      have hfails : ∃ error, perform (.address .create interfaceLuid address prefixLength) outcome before =
          (.error error, before) := by
        obtain ⟨error, dad⟩ := outcome
        have hvalid := p.addressValid
        cases error with
        | none => exact ⟨objectAlreadyExists, by simp [perform, hvalid, hpresent]⟩
        | some error => exact ⟨error, by simp [perform, hvalid]⟩
      obtain ⟨error, hfails⟩ := hfails
      unfold provisionNetwork exec
      rw [hfails]
      rfl

end Prepared

/-- The recovery after a crash anywhere in the preparation, and what it and the preparation delete. -/
theorem route_recovery_iff {interfaceLuid : UInt64} {address : Ipv4Addr} {prefixLength : UInt8}
    {desired : List Ipv4Net} {before : RouteHost}
    (p : Prepared interfaceLuid address prefixLength desired before)
    (hdisjoint : desired.Pairwise fun left right => ¬overlaps left right) (maximumDadPolls : Nat) :
    (∀ outcomes : List HostOutcome,
      let crashed := ((provisionNetwork interfaceLuid address prefixLength maximumDadPolls p.plan).exec
        perform outcomes before).2
      Recovers p.manifest before.rows crashed ∧ KeepsUnrecorded p.manifest before crashed) ↔
    Unused desired p.system ∧
      (maximumDadPolls ≠ 0 → (interfaceLuid, address) ∉ before.addresses →
        before.rows.length + desired.length ≤ maxSystemRoutes) := by
  constructor
  · intro h
    have hunused : Unused desired p.system := by
      intro net hnet existing hexisting hoverlap
      obtain ⟨system, addressPresent, plan, hsystem, _, hplan, hrecovers⟩ := (h []).1
      obtain ⟨after, hrun, hrows, _⟩ := hrecovers .invalid
      have hsame : system = p.system := Option.some.inj (hsystem.symm.trans p.snapshot)
      have hrecorded : RouteKey.ofPrefix interfaceLuid net ∈ p.manifest.routes :=
        p.mem_routes.mpr ⟨net, hnet, rfl⟩
      obtain ⟨hkey, hdeleted⟩ := (planRecovery_routes hplan).2 _ hrecorded existing (hsame ▸ hexisting)
        hoverlap
      obtain ⟨row, hrow, hread⟩ := p.row_of_existing hexisting
      have hsameEntry : sameEntry row (RouteKey.ofPrefix interfaceLuid net) := by
        rw [sameEntry_iff (systemRoute_read hread) (p.canonical _ hrecorded), hkey]
        exact ⟨rfl, rfl, rfl⟩
      have hleft : row ∈ ((executeRecovery p.manifest plan).complete perform ⟨none, .invalid⟩
          ((provisionNetwork interfaceLuid address prefixLength maximumDadPolls p.plan).exec perform []
            before).2).2.rows := by
        rw [hrun, hrows]
        exact hrow
      exact executeRecovery_gone .invalid _ row hleft _ hdeleted hsameEntry
    refine ⟨hunused, fun hpolls haddress => ?_⟩
    obtain ⟨outcomes, hrows⟩ := p.complete_rows hunused hpolls haddress
    obtain ⟨system, _, _, hsystem, _⟩ := (h outcomes).1
    have hbounded := (snapshotRoutes_some.mp hsystem).1
    rw [hrows, List.length_append, List.length_map, p.additions_perm.length_eq, p.length_routes] at hbounded
    exact hbounded
  · rintro ⟨hunused, hroom⟩ outcomes
    refine ⟨?_, p.keepsUnrecorded maximumDadPolls outcomes⟩
    have hbetween := p.between hunused maximumDadPolls outcomes
    have hlength : ((provisionNetwork interfaceLuid address prefixLength maximumDadPolls p.plan).exec perform
        outcomes before).2.rows.length ≤ maxSystemRoutes := by
      by_cases hstarted : maximumDadPolls = 0 ∨ (interfaceLuid, address) ∈ before.addresses
      · rw [p.rows_of_not_started hstarted outcomes]
        exact (snapshotRoutes_some.mp p.snapshot).1
      · obtain ⟨hpolls, haddress⟩ := not_or.mp hstarted
        obtain ⟨created, hnodup, hcreated, hrows⟩ := hbetween
        have hle := (hnodup.subperm hcreated).length_le
        have hroom := hroom hpolls haddress
        have hroutes := p.length_routes
        rw [hrows, List.length_append, List.length_map]
        omega
    have hapart : ∀ a ∈ p.manifest.routes, ∀ b ∈ p.manifest.routes,
        overlaps a.subnetPrefix b.subnetPrefix → a = b := by
      intro a ha b hb hoverlap
      obtain ⟨net, hnet, rfl⟩ := p.mem_routes.mp ha
      obtain ⟨net', hnet', rfl⟩ := p.mem_routes.mp hb
      by_contra hne
      have hdistinct : net ≠ net' := fun heq => hne (by rw [heq])
      have hsymm : Std.Symm fun left right => ¬(overlaps left right = true) :=
        ⟨fun left right h => by rwa [overlaps_comm]⟩
      exact hdisjoint.forall hnet hnet' hdistinct hoverlap
    have hvalid : addressRowValid p.manifest.interfaceLuid p.manifest.address p.manifest.prefixLength := by
      rw [p.validated.1]
      exact p.addressValid
    exact recovers_of_between p.validated.2 hvalid p.canonical p.nodup hapart p.reads (p.clear hunused)
      (p.noRow hunused) hbetween hlength

def labNet : Ipv4Net := ⟨.new 192 168 50 0, 24, Ipv4Net.le_24⟩

def plantNet : Ipv4Net := ⟨.new 172 20 8 0, 24, Ipv4Net.le_24⟩

def labPlan : ReconcilePlan where
  additions := [.ofPrefix 7 plantNet, .ofPrefix 7 labNet]
  compensation := [.ofPrefix 7 labNet, .ofPrefix 7 plantNet]
  removals := []

def labManifest : NetworkManifest where
  schemaVersion := 1
  state := .preparing
  interfaceLuid := 7
  address := .new 100 88 0 10
  prefixLength := 16
  routes := [.ofPrefix 7 plantNet, .ofPrefix 7 labNet]

/-- Routes over other interfaces, one of them like those of the project. -/
def otherRoutes : List SystemRoute :=
  [⟨.ofPrefix 8 ⟨.new 10 1 0 0, 16, Ipv4Net.le_16⟩, true⟩,
    ⟨⟨⟨.new 192 168 60 0, 24, Ipv4Net.le_24⟩, 9, .new 192 0 2 1, 25⟩, false⟩]

/-- A route like those of the project over another interface. -/
def campusKey : RouteKey := .ofPrefix 8 ⟨.new 192 168 0 0, 16, Ipv4Net.le_16⟩

def labHost : RouteHost :=
  ⟨otherRoutes.map fun existing => routeRow existing.key, [(9, .new 192 0 2 7)]⟩

theorem lab_recorded :
    preparedRoutes 7 [labNet, plantNet] = .ok labManifest.routes ∧
      NetworkManifest.new .preparing 7 (.new 100 88 0 10) 16 labManifest.routes = .ok labManifest := by
  decide +kernel

theorem lab_planned :
    (snapshotRoutes labHost.rows = some otherRoutes ∧
      planReconcile 7 [labNet, plantNet] [] otherRoutes = .ok labPlan) ∧
      snapshotRoutes [routeRow campusKey] = some [⟨campusKey, true⟩] ∧
        planReconcile 7 [labNet, plantNet] [] [⟨campusKey, true⟩] = .ok labPlan := by
  decide +kernel

def labPrepared : Prepared 7 (.new 100 88 0 10) 16 [labNet, plantNet] labHost where
  system := otherRoutes
  snapshot := lab_planned.1.1
  plan := labPlan
  planned := lab_planned.1.2
  routes := labManifest.routes
  prepared := lab_recorded.1
  state := .preparing
  manifest := labManifest
  recorded := lab_recorded.2

def campusPrepared :
    Prepared 7 (.new 100 88 0 10) 16 [labNet, plantNet] ⟨[routeRow campusKey], []⟩ where
  system := [⟨campusKey, true⟩]
  snapshot := lab_planned.2.1
  plan := labPlan
  planned := lab_planned.2.2
  routes := labManifest.routes
  prepared := lab_recorded.1
  state := .preparing
  manifest := labManifest
  recorded := lab_recorded.2

theorem lab_disjoint : [labNet, plantNet].Pairwise fun left right => ¬overlaps left right := by
  decide +kernel

/-- Two routes are prepared on a host with routes of its own, whatever fails or crashes. -/
theorem route_recovery_sample : Unused [labNet, plantNet] otherRoutes ∧
    ∀ outcomes : List HostOutcome,
      let crashed := ((provisionNetwork 7 (.new 100 88 0 10) 16 100 labPlan).exec perform outcomes
        labHost).2
      Recovers labManifest labHost.rows crashed ∧ KeepsUnrecorded labManifest labHost crashed := by
  have hunused : Unused [labNet, plantNet] otherRoutes := by
    show ∀ net ∈ [labNet, plantNet], ∀ existing ∈ otherRoutes, ¬overlaps existing.key.subnetPrefix net
    decide +kernel
  have hroom : labHost.rows.length + [labNet, plantNet].length ≤ maxSystemRoutes := by decide
  exact ⟨hunused, (route_recovery_iff labPrepared lab_disjoint 100).mpr ⟨hunused, fun _ _ => hroom⟩⟩

/-- A crash before the first call: the recovery refuses the table that the preparation accepted. -/
theorem accepted_overlap_not_recovered :
    ¬∀ {interfaceLuid : UInt64} {address : Ipv4Addr} {prefixLength : UInt8} {desired : List Ipv4Net}
      {before : RouteHost} (p : Prepared interfaceLuid address prefixLength desired before),
      (desired.Pairwise fun left right => ¬overlaps left right) →
      ∀ (maximumDadPolls : Nat) (outcomes : List HostOutcome),
        Recovers p.manifest before.rows ((provisionNetwork interfaceLuid address prefixLength
          maximumDadPolls p.plan).exec perform outcomes before).2 := by
  intro h
  obtain ⟨system, addressPresent, plan, hsystem, _, hplan, _⟩ :=
    h campusPrepared lab_disjoint 100 []
  have hsame : system = [⟨campusKey, true⟩] := Option.some.inj (hsystem.symm.trans lab_planned.2.1)
  subst hsame
  have hrefused : ∀ present, planRecovery labManifest [⟨campusKey, true⟩] present =
      .error .ownershipDrift := by decide +kernel
  have hplan : planRecovery labManifest [⟨campusKey, true⟩] addressPresent = .ok plan := hplan
  rw [hrefused] at hplan
  cases hplan

end WindowsRouteManager

end XsNexus
