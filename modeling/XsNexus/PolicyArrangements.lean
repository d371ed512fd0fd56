import XsNexus.CanonicalPolicies
import XsNexus.PublishedCandidates

namespace XsNexus

open ByteCodec Checks FiniteMap Rearrangements

variable {p : Platform}

section Policies

/-- Policies that differ in the order in which their parts are written -/
structure SamePolicy (first second : ReplaceAclPolicyRequest) : Prop where
  expectedPolicyVersion : first.expectedPolicyVersion = second.expectedPolicyVersion
  groups : Rearranged SameGroup first.groups second.groups
  rules : Rearranged SameRule first.rules second.rules

theorem canonicalRules_perm {first second : List AclRule} (h : Rearranged SameRule first second) :
    (canonicalRules first).Perm (canonicalRules second) :=
  (perm_canonicalRules h).trans (List.perm_insertionSort aclRuleLe _).symm

theorem validatePolicyReferences_perm {rules rules' : List AclRule} (h : rules.Perm rules')
    (groups : List AclGroupRequest) (ids : Map String Uuid) (nodes : List NodeRow)
    (subnetRoutes : List ConfigurationSubnetRoute) :
    validatePolicyReferences rules groups ids nodes subnetRoutes =
      validatePolicyReferences rules' groups ids nodes subnetRoutes := by
  unfold validatePolicyReferences
  rw [(h.flatMap_right _).all_eq]

/-- Rules that two arrangements sort differently compile in neither of them. -/
theorem compile_of_unlike {first second : List AclRule} (h : Rearranged SameRule first second)
    (hne : canonicalRules first ≠ canonicalRules second) (f : Formats) {configuration : ConfigurationPayload}
    (hrules : configuration.policies = canonicalRules first) :
    (AclPolicy.compile f configuration).mapError (fun _ => ApiError.validation) = .error .validation := by
  cases hcompile : AclPolicy.compile f configuration with
  | error e => rfl
  | ok policy =>
    have hsorted := (AclPolicy.compiled_of_compile hcompile).sorted
    rw [hrules] at hsorted
    exact absurd (canonicalRules_eq_of_strict h hsorted).symm hne

/-- A policy is answered alike in whichever order it is written. -/
theorem replaceAclPolicy_same (state : AppState) (db : Database) (networkId : Uuid) (times : Times)
    {first second : ReplaceAclPolicyRequest} (h : SamePolicy first second) :
    replaceAclPolicy p state db networkId first times = replaceAclPolicy p state db networkId second times := by
  obtain ⟨hversion, hgroups, hrules⟩ := h
  have hperm := canonicalRules_perm hrules
  have hrules' := hrules.symm fun _ _ => SameRule.symm
  unfold replaceAclPolicy
  rw [hversion, hgroups.length_eq, hrules.length_eq, canonicalGroups_eq hgroups]
  by_cases heq : canonicalRules first.rules = canonicalRules second.rules
  · rw [heq]
  · refine if_congr Iff.rfl rfl (congrArg (Bind.bind _) (funext fun groups => ?_))
    refine congrArg (Bind.bind _) (funext fun network => ?_)
    refine if_congr Iff.rfl rfl ?_
    dsimp only
    rw [validatePolicyReferences_perm hperm]
    refine congrArg (Bind.bind _) (funext fun _ => congrArg (Bind.bind _) (funext fun members => ?_))
    refine if_congr Iff.rfl rfl ?_
    rw [compile_of_unlike hrules heq p.formats rfl, compile_of_unlike hrules' (Ne.symm heq) p.formats rfl]
    rfl

end Policies

section Routes

variable {ids : Map String Uuid} {suggestions : List (Uuid × Ipv4Net × String)} {addressPool : String}

def PersistedSubnetRoute.scope (persisted : PersistedSubnetRoute) : Uuid × Ipv4Net × String :=
  (persisted.gatewayDatabaseId, persisted.subnetPrefix, persisted.route.interfaceName)

def persistedRoute (p : Platform) (route : SubnetRouteApprovalRequest) (gatewayDatabaseId : Uuid)
    (net : Ipv4Net) : PersistedSubnetRoute where
  route := {
    routeId := route.routeId
    subnetPrefix := p.formats.ipv4NetText net
    gatewayNodeIdBase64 := route.gatewayNodeIdBase64
    mode := route.mode
    interfaceName := route.interfaceName
    priority := route.priority }
  subnetPrefix := net
  gatewayDatabaseId := gatewayDatabaseId
  enabled := route.enabled

/-- What one route of a request is prepared to, apart from the routes before it -/
structure PreparedRoute (p : Platform) (ids : Map String Uuid) (suggestions : List (Uuid × Ipv4Net × String))
    (addressPool : String) (route : SubnetRouteApprovalRequest) (persisted : PersistedSubnetRoute) : Prop where
  gateway : ids.lookup route.gatewayNodeIdBase64 = some persisted.gatewayDatabaseId
  subnetPrefix : validateSubnetRouteSuggestion p.formats route.subnetPrefix route.interfaceName addressPool =
    .ok persisted.subnetPrefix
  suggested : persisted.scope ∈ suggestions
  made : persisted = persistedRoute p route persisted.gatewayDatabaseId persisted.subnetPrefix

def RoutePreparation.add (progress : RoutePreparation) (persisted : PersistedSubnetRoute) : RoutePreparation where
  routeIds := persisted.route.routeId :: progress.routeIds
  activeScopes := persisted.scope :: progress.activeScopes
  persisted := progress.persisted ++ [persisted]
  enabled := if persisted.enabled then progress.enabled ++ [persisted.route] else progress.enabled

/-- Apart from the routes before it, in turn -/
structure FreshRoute (progress : RoutePreparation) (persisted : PersistedSubnetRoute) : Prop where
  routeId : persisted.route.routeId ∉ progress.routeIds
  scope : persisted.scope ∉ progress.activeScopes

theorem prepareSubnetRoute_ok_iff {progress progress' : RoutePreparation} {route : SubnetRouteApprovalRequest} :
    prepareSubnetRoute p ids suggestions addressPool progress route = .ok progress' ↔
      ∃ persisted, PreparedRoute p ids suggestions addressPool route persisted ∧ FreshRoute progress persisted ∧
        progress.add persisted = progress' := by
  constructor
  · intro h
    obtain ⟨hid, h⟩ := guard_ok.mp h
    obtain ⟨gateway, hgateway, h⟩ := bind_ok.mp h
    obtain ⟨net, hnet, h⟩ := bind_ok.mp h
    obtain ⟨hscope, h⟩ := guard_ok.mp h
    rw [not_or, not_not] at hscope
    refine ⟨persistedRoute p route gateway net, ⟨okOr_ok.mp hgateway, mapError_ok.mp hnet, hscope.1, rfl⟩,
      ⟨hid, hscope.2⟩, ?_⟩
    exact Except.ok.inj h
  · rintro ⟨⟨record, net, gateway, enabled⟩, ⟨hgateway, hnet, hscope, hmade⟩, ⟨hid, hfresh⟩, rfl⟩
    dsimp only [persistedRoute] at hmade
    cases hmade
    refine guard_ok.mpr ⟨hid, bind_ok.mpr ⟨gateway, okOr_ok.mpr hgateway, bind_ok.mpr
      ⟨net, mapError_ok.mpr hnet, guard_ok.mpr ⟨?_, rfl⟩⟩⟩⟩
    rw [not_or, not_not]
    exact ⟨hscope, hfresh⟩

/-- Routes apart from each other and from those before -/
structure RoutesFresh (progress : RoutePreparation) (added : List PersistedSubnetRoute) : Prop where
  routeIds : (added.map fun persisted => persisted.route.routeId).Nodup
  scopes : (added.map PersistedSubnetRoute.scope).Nodup
  fresh : ∀ persisted ∈ added, FreshRoute progress persisted

theorem routesFresh_cons {progress : RoutePreparation} {first : PersistedSubnetRoute}
    {rest : List PersistedSubnetRoute} :
    RoutesFresh progress (first :: rest) ↔ FreshRoute progress first ∧ RoutesFresh (progress.add first) rest := by
  constructor
  · rintro ⟨hids, hscopes, hfresh⟩
    obtain ⟨hid, hids⟩ := List.nodup_cons.mp hids
    obtain ⟨hscope, hscopes⟩ := List.nodup_cons.mp hscopes
    obtain ⟨hfirst, hrest⟩ := List.forall_mem_cons.mp hfresh
    refine ⟨hfirst, hids, hscopes, fun persisted hmem => ⟨fun h => ?_, fun h => ?_⟩⟩
    · rcases List.mem_cons.mp h with heq | h
      · exact hid (List.mem_map.mpr ⟨persisted, hmem, heq⟩)
      · exact (hrest persisted hmem).routeId h
    · rcases List.mem_cons.mp h with heq | h
      · exact hscope (List.mem_map.mpr ⟨persisted, hmem, heq⟩)
      · exact (hrest persisted hmem).scope h
  · rintro ⟨hfirst, hids, hscopes, hrest⟩
    refine ⟨List.nodup_cons.mpr ⟨fun h => ?_, hids⟩, List.nodup_cons.mpr ⟨fun h => ?_, hscopes⟩,
      List.forall_mem_cons.mpr ⟨hfirst, fun persisted hmem => ?_⟩⟩
    · obtain ⟨other, hother, heq⟩ := List.mem_map.mp h
      exact (hrest other hother).routeId (List.mem_cons.mpr (Or.inl heq))
    · obtain ⟨other, hother, heq⟩ := List.mem_map.mp h
      exact (hrest other hother).scope (List.mem_cons.mpr (Or.inl heq))
    · obtain ⟨hid, hscope⟩ := hrest persisted hmem
      exact ⟨fun h => hid (List.mem_cons_of_mem _ h), fun h => hscope (List.mem_cons_of_mem _ h)⟩

/-- The loop over the routes prepares each by itself and asks that they are apart. -/
theorem prepareRoutes_ok_iff {routes : List SubnetRouteApprovalRequest} {progress progress' : RoutePreparation} :
    routes.foldlM (prepareSubnetRoute p ids suggestions addressPool) progress = .ok progress' ↔
      ∃ added, List.Forall₂ (PreparedRoute p ids suggestions addressPool) routes added ∧
        RoutesFresh progress added ∧ added.foldl RoutePreparation.add progress = progress' := by
  induction routes generalizing progress with
  | nil =>
    constructor
    · intro h
      cases h
      exact ⟨[], List.Forall₂.nil, ⟨List.nodup_nil, List.nodup_nil, by simp⟩, rfl⟩
    · rintro ⟨added, hall, _, rfl⟩
      cases hall
      rfl
  | cons route routes ih =>
    rw [List.foldlM_cons]
    constructor
    · intro h
      obtain ⟨next, hnext, hrest⟩ := bind_ok.mp h
      obtain ⟨first, hfirst, hfresh, rfl⟩ := prepareSubnetRoute_ok_iff.mp hnext
      obtain ⟨added, hall, hapart, rfl⟩ := ih.mp hrest
      exact ⟨first :: added, List.Forall₂.cons hfirst hall, routesFresh_cons.mpr ⟨hfresh, hapart⟩, rfl⟩
    · rintro ⟨added, hall, hapart, rfl⟩
      cases hall with
      | cons hfirst hall =>
        obtain ⟨hfresh, hapart⟩ := routesFresh_cons.mp hapart
        exact bind_ok.mpr ⟨_, prepareSubnetRoute_ok_iff.mpr ⟨_, hfirst, hfresh, rfl⟩,
          ih.mpr ⟨_, hall, hapart, rfl⟩⟩

theorem foldl_add (added : List PersistedSubnetRoute) (progress : RoutePreparation) :
    (added.foldl RoutePreparation.add progress).persisted = progress.persisted ++ added ∧
      (added.foldl RoutePreparation.add progress).enabled =
        progress.enabled ++ (added.filter PersistedSubnetRoute.enabled).map PersistedSubnetRoute.route := by
  induction added generalizing progress with
  | nil => simp
  | cons first added ih =>
    obtain ⟨hpersisted, henabled⟩ := ih (progress.add first)
    rw [List.foldl_cons, hpersisted, henabled]
    cases hfirst : first.enabled with
    | true => simp [RoutePreparation.add, hfirst]
    | false => simp [RoutePreparation.add, hfirst]

theorem RoutesFresh.perm {progress : RoutePreparation} {added added' : List PersistedSubnetRoute}
    (h : RoutesFresh progress added) (hperm : added.Perm added') : RoutesFresh progress added' :=
  ⟨(hperm.map _).nodup_iff.mp h.routeIds, (hperm.map _).nodup_iff.mp h.scopes,
    fun persisted hmem => h.fresh persisted (hperm.mem_iff.mpr hmem)⟩

theorem canonicalSubnetRoutes_fails (routes : List ConfigurationSubnetRoute) :
    FailsWith .validation (canonicalSubnetRoutes p routes) := by
  refine (FailsWith.mapM (fun route => ?_) routes).bind fun _ => FailsWith.ok _
  exact (FailsWith.okOr _).bind fun _ => FailsWith.ok _

/-- What `canonical_subnet_routes` reads of a route -/
def parsedRoute (p : Platform) (route : ConfigurationSubnetRoute) :
    Except ApiError (Ipv4Net × ConfigurationSubnetRoute) := do
  let net ← okOr ApiError.validation (p.formats.ipv4Net route.subnetPrefix)
  .ok (net, route)

theorem parsedRoute_ok {route : ConfigurationSubnetRoute} {parsed : Ipv4Net × ConfigurationSubnetRoute}
    (h : parsedRoute p route = .ok parsed) :
    p.formats.ipv4Net route.subnetPrefix = some parsed.1 ∧ parsed.2 = route := by
  obtain ⟨net, hnet, h⟩ := bind_ok.mp h
  cases h
  exact ⟨okOr_ok.mp hnet, rfl⟩

theorem map_parsedRoutes {routes : List ConfigurationSubnetRoute}
    {parsed : List (Ipv4Net × ConfigurationSubnetRoute)} (h : routes.mapM (parsedRoute p) = .ok parsed) :
    parsed.map Prod.snd = routes := by
  have hall := mapM_ok.mp h
  clear h
  induction hall with
  | nil => rfl
  | cons hfirst _ ih => rw [List.map_cons, ih, (parsedRoute_ok hfirst).2]

theorem canonicalSubnetRoutes_of_perm {routes routes' canonical : List ConfigurationSubnetRoute}
    (h : routes.Perm routes') (hnodup : (routes.map ConfigurationSubnetRoute.routeId).Nodup)
    (hcanonical : canonicalSubnetRoutes p routes = .ok canonical) :
    canonicalSubnetRoutes p routes' = .ok canonical := by
  obtain ⟨parsed, hparsed, hcanonical⟩ := bind_ok.mp hcanonical
  obtain ⟨parsed', hparsed', hperm⟩ := mapM_perm h hparsed
  refine bind_ok.mpr ⟨parsed', hparsed', ?_⟩
  rw [← map_parsedRoutes hparsed, List.map_map] at hnodup
  have hsort : parsed.insertionSort subnetRouteLe = parsed'.insertionSort subnetRouteLe :=
    insertionSort_eq_of_perm hperm fun left hleft right hright hab hba =>
      List.inj_on_of_nodup_map hnodup hleft hright (routeId_of_same hab hba)
  rw [← hsort]
  exact hcanonical

theorem canonicalSubnetRoutes_perm {routes routes' : List ConfigurationSubnetRoute} (h : routes.Perm routes')
    (hnodup : (routes.map ConfigurationSubnetRoute.routeId).Nodup) :
    canonicalSubnetRoutes p routes = canonicalSubnetRoutes p routes' :=
  (canonicalSubnetRoutes_fails routes).eq (canonicalSubnetRoutes_fails routes')
    (fun _ => canonicalSubnetRoutes_of_perm h hnodup)
    fun _ => canonicalSubnetRoutes_of_perm h.symm ((h.map _).nodup_iff.mp hnodup)

/-- What becomes of two requests for routes: the same error, or the same policy over the same stored routes -/
def SameOutcome : Except ApiError (List PersistedSubnetRoute × List ConfigurationSubnetRoute) →
    Except ApiError (List PersistedSubnetRoute × List ConfigurationSubnetRoute) → Prop
  | .ok (persisted, enabled), .ok (persisted', enabled') => persisted.Perm persisted' ∧ enabled = enabled'
  | .error error, .error error' => error = error'
  | _, _ => False

theorem prepareRoutes_perm {routes routes' : List SubnetRouteApprovalRequest} (h : routes.Perm routes')
    {progress progress' : RoutePreparation}
    (hroutes : routes.foldlM (prepareSubnetRoute p ids suggestions addressPool) progress = .ok progress') :
    ∃ added added', progress' = added.foldl RoutePreparation.add progress ∧ RoutesFresh progress added ∧
      added.Perm added' ∧ routes'.foldlM (prepareSubnetRoute p ids suggestions addressPool) progress =
        .ok (added'.foldl RoutePreparation.add progress) := by
  obtain ⟨added, hall, hapart, hresult⟩ := prepareRoutes_ok_iff.mp hroutes
  obtain ⟨added', hall', hperm⟩ := List.perm_comp_forall₂ h.symm hall
  exact ⟨added, added', hresult.symm, hapart, hperm.symm,
    prepareRoutes_ok_iff.mpr ⟨added', hall', hapart.perm hperm.symm, rfl⟩⟩

theorem prepareSubnetRoute_fails (progress : RoutePreparation) (route : SubnetRouteApprovalRequest) :
    FailsWith .validation (prepareSubnetRoute p ids suggestions addressPool progress route) := by
  refine FailsWith.error.ite ((FailsWith.okOr _).bind fun _ => (FailsWith.mapError _).bind fun _ => ?_)
  exact FailsWith.error.ite (FailsWith.ok _)

theorem prepareSubnetRoutes_same (db : Database) (networkId : Uuid) (addressPool : String) (now : Int)
    {first second : List SubnetRouteApprovalRequest} (h : first.Perm second) :
    SameOutcome (prepareSubnetRoutes p db networkId addressPool first now)
      (prepareSubnetRoutes p db networkId addressPool second now) := by
  unfold prepareSubnetRoutes
  cases hsuggestions : loadValidSubnetSuggestions p db networkId now with
  | error error => rfl
  | ok suggestions =>
    dsimp only [Bind.bind, Except.bind]
    generalize nodeDatabaseIds p (loadPolicyNodes db networkId) = ids
    have hfails : ∀ routes : List SubnetRouteApprovalRequest, FailsWith .validation
        (routes.foldlM (prepareSubnetRoute p ids suggestions addressPool) ⟨[], [], [], []⟩) :=
      fun routes => FailsWith.foldlM prepareSubnetRoute_fails routes _
    cases hfirst : first.foldlM (prepareSubnetRoute p ids suggestions addressPool) ⟨[], [], [], []⟩ with
    | error error =>
      cases hsecond : second.foldlM (prepareSubnetRoute p ids suggestions addressPool) ⟨[], [], [], []⟩ with
      | error error' =>
        show error = error'
        rw [hfails first error hfirst, hfails second error' hsecond]
      | ok progress =>
        obtain ⟨_, _, _, _, _, hok⟩ := prepareRoutes_perm h.symm hsecond
        rw [hfirst] at hok
        cases hok
    | ok progress =>
      obtain ⟨added, added', rfl, hapart, hperm, hsecond⟩ := prepareRoutes_perm h hfirst
      rw [hsecond]
      dsimp only
      obtain ⟨hpersisted, henabled⟩ := foldl_add added ⟨[], [], [], []⟩
      obtain ⟨hpersisted', henabled'⟩ := foldl_add added' ⟨[], [], [], []⟩
      have hroutes := (hperm.filter PersistedSubnetRoute.enabled).map PersistedSubnetRoute.route
      have hnodup : (((added.filter PersistedSubnetRoute.enabled).map PersistedSubnetRoute.route).map
          ConfigurationSubnetRoute.routeId).Nodup := by
        rw [List.map_map]
        exact hapart.routeIds.sublist (List.filter_sublist.map _)
      rw [hpersisted, hpersisted', henabled, henabled']
      dsimp only [List.nil_append]
      rw [canonicalSubnetRoutes_perm hroutes hnodup]
      cases canonicalSubnetRoutes p ((added'.filter PersistedSubnetRoute.enabled).map PersistedSubnetRoute.route) with
      | error error => rfl
      | ok enabled => exact ⟨hperm, rfl⟩

/-- The strict order of the routes of a policy -/
def RouteAhead (left right : Ipv4Net × ConfigurationSubnetRoute) : Prop :=
  left.1.network.bits.toNat < right.1.network.bits.toNat ∨
    (left.1 = right.1 ∧ right.2.priority < left.2.priority)

theorem subnetRouteLe_of_ahead {left right : Ipv4Net × ConfigurationSubnetRoute} (h : RouteAhead left right) :
    subnetRouteLe left right ∧ ¬subnetRouteLe right left := by
  unfold RouteAhead at h
  unfold subnetRouteLe
  rcases h with h | ⟨hnet, hpriority⟩
  · refine ⟨Or.inl (BitVec.lt_def.mpr h), ?_⟩
    rintro (hlt | ⟨heq, _⟩)
    · have hlt := BitVec.lt_def.mp hlt
      omega
    · rw [heq] at h
      omega
  · rw [hnet]
    rw [UInt32.lt_iff_toNat_lt] at hpriority
    refine ⟨Or.inr ⟨rfl, Or.inr ⟨rfl, Or.inl (UInt32.lt_iff_toNat_lt.mpr hpriority)⟩⟩, ?_⟩
    rintro (hlt | ⟨_, hlt | ⟨_, hlt | ⟨heq, _⟩⟩⟩)
    · exact BitVec.lt_irrefl _ hlt
    · omega
    · rw [UInt32.lt_iff_toNat_lt] at hlt
      omega
    · rw [heq] at hpriority
      omega

theorem compileRoute_key {pool : Ipv4Net} {gatewayNodes : Map String ConfigurationNode}
    {progress progress' : List String × List CompiledSubnetRoute} {route : ConfigurationSubnetRoute}
    (h : SubnetRoutePolicy.compileRoute p.formats pool gatewayNodes progress route = .ok progress') :
    ∃ compiled, parsedRoute p route = .ok (compiled.subnetPrefix, route) ∧
      compiled.priority = route.priority ∧ progress'.1 = route.routeId :: progress.1 ∧
      route.routeId ∉ progress.1 ∧ progress'.2 = progress.2 ++ [compiled] := by
  obtain ⟨routeIds, before⟩ := progress
  unfold SubnetRoutePolicy.compileRoute at h
  obtain ⟨hfields, h⟩ := guard_ok.mp h
  split at h
  next => simp at h
  next net hparsed =>
    obtain ⟨_, h⟩ := guard_ok.mp h
    obtain ⟨_, h⟩ := guard_ok.mp h
    split at h
    next => simp at h
    next =>
      split at h
      next => simp at h
      next =>
        cases h
        simp only [not_or] at hfields
        have hparse : parsedRoute p route = .ok (net, route) := by
          rw [parsedRoute, hparsed]
          rfl
        exact ⟨_, hparse, rfl, rfl, hfields.2.1, rfl⟩

/-- The loop of `compile` reads what `canonical_subnet_routes` does. -/
theorem foldlM_compileRoute_keys {pool : Ipv4Net} {gatewayNodes : Map String ConfigurationNode}
    {routes : List ConfigurationSubnetRoute} {progress progress' : List String × List CompiledSubnetRoute}
    (h : routes.foldlM (SubnetRoutePolicy.compileRoute p.formats pool gatewayNodes) progress = .ok progress') :
    ∃ parsed, routes.mapM (parsedRoute p) = .ok parsed ∧
      (progress'.2.map fun compiled => (compiled.subnetPrefix, compiled.priority)) =
        (progress.2.map fun compiled => (compiled.subnetPrefix, compiled.priority)) ++
          parsed.map (fun parsed => (parsed.1, parsed.2.priority)) ∧
      (routes.map ConfigurationSubnetRoute.routeId).Nodup ∧ ∀ route ∈ routes, route.routeId ∉ progress.1 := by
  induction routes generalizing progress with
  | nil =>
    cases h
    exact ⟨[], rfl, by simp, List.nodup_nil, by simp⟩
  | cons route routes ih =>
    rw [List.foldlM_cons] at h
    obtain ⟨next, hnext, hrest⟩ := bind_ok.mp h
    obtain ⟨compiled, hparsed, hpriority, hids, hid, hcompiled⟩ := compileRoute_key hnext
    obtain ⟨parsed, hall, hkeys, hnodup, hfresh⟩ := ih hrest
    refine ⟨(compiled.subnetPrefix, route) :: parsed, ?_, ?_, List.nodup_cons.mpr ⟨fun hmem => ?_, hnodup⟩,
      List.forall_mem_cons.mpr ⟨hid, fun other hother hmem => ?_⟩⟩
    · rw [List.mapM_cons, hparsed, hall]
      rfl
    · rw [hkeys, hcompiled]
      simp [hpriority]
    · obtain ⟨other, hother, heq⟩ := List.mem_map.mp hmem
      refine hfresh other hother ?_
      rw [hids]
      exact List.mem_cons.mpr (Or.inl heq)
    · refine hfresh other hother ?_
      rw [hids]
      exact List.mem_cons_of_mem _ hmem

/-- Routes that `compile` accepts stand in the order of `canonical_subnet_routes`. -/
structure StrictRoutes (p : Platform) (routes : List ConfigurationSubnetRoute) : Prop where
  routeIds : (routes.map ConfigurationSubnetRoute.routeId).Nodup
  ahead : ∃ parsed, routes.mapM (parsedRoute p) = .ok parsed ∧ parsed.Pairwise RouteAhead

theorem strictRoutes_of_compile {configuration : ConfigurationPayload} {policy : SubnetRoutePolicy}
    (h : SubnetRoutePolicy.compile p.formats configuration = .ok policy) :
    StrictRoutes p configuration.subnetRoutes := by
  unfold SubnetRoutePolicy.compile at h
  obtain ⟨_, h⟩ := guard_ok.mp h
  split at h
  next => simp at h
  next pool hpool =>
    obtain ⟨gatewayNodes, _, h⟩ := bind_ok.mp h
    obtain ⟨⟨routeIds, compiled⟩, hloop, h⟩ := bind_ok.mp h
    obtain ⟨_, hordered, _⟩ := bind_ok.mp h
    obtain ⟨parsed, hparsed, hkeys, hnodup, _⟩ := foldlM_compileRoute_keys hloop
    have hbefore := (routesOrdered_of_ok hordered).before
    refine ⟨hnodup, parsed, hparsed, ?_⟩
    have hpairs : (parsed.map fun parsed => (parsed.1, parsed.2.priority)).Pairwise fun left right =>
        left.1.network.bits.toNat < right.1.network.bits.toNat ∨ (left.1 = right.1 ∧ right.2 < left.2) := by
      rw [List.map_nil, List.nil_append] at hkeys
      rw [← hkeys]
      exact List.pairwise_map.mpr hbefore
    have hahead := List.pairwise_map.mp hpairs
    exact hahead

/-- A strict arrangement of the routes is the canonical one. -/
theorem canonicalSubnetRoutes_of_strict {routes routes' : List ConfigurationSubnetRoute} (h : routes.Perm routes')
    (hstrict : StrictRoutes p routes') : canonicalSubnetRoutes p routes = .ok routes' := by
  obtain ⟨_, parsed', hparsed', hahead⟩ := hstrict
  obtain ⟨parsed, hparsed, hperm⟩ := mapM_perm h.symm hparsed'
  refine bind_ok.mpr ⟨parsed, hparsed, ?_⟩
  rw [insertionSort_eq_of_strict (fun _ _ => subnetRouteLe_of_ahead) hperm.symm hahead, map_parsedRoutes hparsed']

end Routes

section Accepted

structure StrictGroups (groups : List AclGroupRequest) : Prop where
  names : (groups.map AclGroupRequest.name).Pairwise strLt
  members : ∀ group ∈ groups, group.nodeIdsBase64.Pairwise strLt

structure StrictRule (rule : AclRule) : Prop where
  sources : (rule.sources.map selectorSortKey).Pairwise strLt
  destinations : (rule.destinations.map selectorSortKey).Pairwise strLt
  destinationPorts : rule.destinationPorts.Pairwise fun left right => left.end < right.start

structure StrictRules (rules : List AclRule) : Prop where
  before : rules.Pairwise RuleBefore
  ids : (rules.map AclRule.id).Nodup
  strict : ∀ rule ∈ rules, StrictRule rule

theorem strictGroups_of_canonicalGroups {groups canonical : List AclGroupRequest}
    (h : canonicalGroups p groups = .ok canonical) : StrictGroups canonical := by
  obtain ⟨sorted, hsorted, h⟩ := bind_ok.mp h
  obtain ⟨hrepeats, h⟩ := guard_ok.mp h
  cases h
  refine ⟨strict_of_repeatsNeighbour ?_ (by simpa using hrepeats), fun group hgroup => ?_⟩
  · exact List.pairwise_map.mpr (List.pairwise_insertionSort _ sorted)
  · obtain ⟨original, _, horiginal⟩ := mem_mapM hsorted ((List.mem_insertionSort _).mp hgroup)
    obtain ⟨_, horiginal⟩ := guard_ok.mp horiginal
    obtain ⟨_, _, horiginal⟩ := bind_ok.mp horiginal
    obtain ⟨hmembers, horiginal⟩ := guard_ok.mp horiginal
    cases horiginal
    exact strict_of_repeatsNeighbour (sorted_sortStrings _) (by simpa using hmembers)

theorem strict_sortSelectors {f : Formats} {routes : SubnetRoutePolicy} {selectors : List AclSelector}
    (h : validateSelectors f routes (sortSelectors selectors) = .ok ()) :
    ((sortSelectors selectors).map selectorSortKey).Pairwise strLt := by
  obtain ⟨_, h⟩ := guard_ok.mp h
  obtain ⟨keys, hkeys, _⟩ := bind_ok.mp h
  obtain ⟨⟨_, hclash, _⟩, _⟩ := ((checkSelector_loop f routes).foldlM_ok _ []).mp ⟨keys, hkeys⟩
  have hsorted : (sortSelectors selectors).Pairwise fun left right =>
      ¬strLt (selectorSortKey right) (selectorSortKey left) := List.pairwise_insertionSort _ selectors
  refine List.pairwise_map.mpr ((hsorted.and hclash).imp fun {left right} hpair => ?_)
  by_contra hnot
  exact hpair.2 (congrArg _ (selectorSortKey_injective (eq_of_not_strLt hnot hpair.1)))

theorem strictRules_of_compile {f : Formats} {configuration : ConfigurationPayload} {policy : AclPolicy}
    {rules : List AclRule} (h : AclPolicy.compile f configuration = .ok policy)
    (hrules : configuration.policies = canonicalRules rules) : StrictRules (canonicalRules rules) := by
  obtain ⟨_, h⟩ := guard_ok.mp h
  obtain ⟨_, h⟩ := guard_ok.mp h
  obtain ⟨_, _, h⟩ := bind_ok.mp h
  obtain ⟨subnetRoutes, _, h⟩ := bind_ok.mp h
  obtain ⟨_, _, h⟩ := bind_ok.mp h
  obtain ⟨last, hloop, _⟩ := bind_ok.mp h
  rw [hrules] at hloop
  obtain ⟨hbefore, hids, hvalid⟩ := checkRules_ok_iff.mp ⟨last, hloop⟩
  refine ⟨hbefore, hids, fun rule hrule => ?_⟩
  obtain ⟨original, _, rfl⟩ := List.mem_map.mp ((List.mem_insertionSort _).mp hrule)
  obtain ⟨_, hvalid⟩ := guard_ok.mp (hvalid _ hrule).2
  obtain ⟨_, hsources, hvalid⟩ := bind_ok.mp hvalid
  obtain ⟨_, hdestinations, hvalid⟩ := bind_ok.mp hvalid
  obtain ⟨_, hports, _⟩ := bind_ok.mp hvalid
  exact ⟨strict_sortSelectors hsources, strict_sortSelectors hdestinations, (ports_of_foldlM hports).1⟩

theorem replaceAclPolicy_strict {state : AppState} {db : Database} {networkId : Uuid} {times : Times}
    {request : ReplaceAclPolicyRequest} {result : ReplaceAclPolicyResponse × Database}
    (h : replaceAclPolicy p state db networkId request times = .ok result) :
    StrictRules (canonicalRules request.rules) ∧
      ∃ groups, canonicalGroups p request.groups = .ok groups ∧ StrictGroups groups := by
  obtain ⟨_, h⟩ := guard_ok.mp h
  obtain ⟨groups, hgroups, h⟩ := bind_ok.mp h
  obtain ⟨network, _, h⟩ := bind_ok.mp h
  obtain ⟨_, h⟩ := guard_ok.mp h
  obtain ⟨_, _, h⟩ := bind_ok.mp h
  obtain ⟨members, _, h⟩ := bind_ok.mp h
  obtain ⟨_, h⟩ := guard_ok.mp h
  obtain ⟨policy, hcompile, _⟩ := bind_ok.mp h
  exact ⟨strictRules_of_compile (mapError_ok.mp hcompile) rfl, groups, hgroups,
    strictGroups_of_canonicalGroups hgroups⟩

theorem replaceSubnetRoutes_strict {state : AppState} {db : Database} {networkId : Uuid} {times : Times}
    {request : ReplaceSubnetRoutesRequest} {result : ReplaceSubnetRoutesResponse × Database}
    (h : replaceSubnetRoutes p state db networkId request times = .ok result) :
    ∃ addressPool persisted enabled, prepareSubnetRoutes p db networkId addressPool request.routes
      times.transaction = .ok (persisted, enabled) ∧ StrictRoutes p enabled := by
  obtain ⟨_, h⟩ := guard_ok.mp h
  obtain ⟨network, _, h⟩ := bind_ok.mp h
  obtain ⟨_, h⟩ := guard_ok.mp h
  obtain ⟨⟨persisted, enabled⟩, hprepared, h⟩ := bind_ok.mp h
  obtain ⟨nodes, _, h⟩ := bind_ok.mp h
  obtain ⟨policy, hcompile, _⟩ := bind_ok.mp h
  exact ⟨_, persisted, enabled, hprepared, strictRoutes_of_compile (mapError_ok.mp hcompile)⟩

end Accepted

/-- The order in which a policy or its routes are written changes neither whether it is accepted nor what it
becomes, and no arrangement that compiles is lost. -/
theorem policy_order_independent (p : Platform) (state : AppState) (db : Database) (networkId : Uuid)
    (times : Times) :
    (∀ first second : ReplaceAclPolicyRequest, SamePolicy first second →
      replaceAclPolicy p state db networkId first times = replaceAclPolicy p state db networkId second times) ∧
    (∀ (addressPool : String) (first second : List SubnetRouteApprovalRequest), first.Perm second →
      SameOutcome (prepareSubnetRoutes p db networkId addressPool first times.transaction)
        (prepareSubnetRoutes p db networkId addressPool second times.transaction)) ∧
    (∀ request result, replaceAclPolicy p state db networkId request times = .ok result →
      StrictRules (canonicalRules request.rules) ∧
        ∃ groups, canonicalGroups p request.groups = .ok groups ∧ StrictGroups groups) ∧
    (∀ request result, replaceSubnetRoutes p state db networkId request times = .ok result →
      ∃ addressPool persisted enabled, prepareSubnetRoutes p db networkId addressPool request.routes
        times.transaction = .ok (persisted, enabled) ∧ StrictRoutes p enabled) ∧
    (∀ (configuration : ConfigurationPayload) (rules rules' : List AclRule) (policy : AclPolicy),
      Rearranged SameRule rules rules' →
      AclPolicy.compile p.formats { configuration with policies := rules' } = .ok policy →
      ∃ policy', AclPolicy.compile p.formats { configuration with policies := canonicalRules rules } =
        .ok policy') ∧
    (∀ (configuration : ConfigurationPayload) (routes routes' : List ConfigurationSubnetRoute)
      (policy : SubnetRoutePolicy), routes.Perm routes' →
      SubnetRoutePolicy.compile p.formats { configuration with subnetRoutes := routes' } = .ok policy →
      canonicalSubnetRoutes p routes = .ok routes') :=
  ⟨fun _ _ => replaceAclPolicy_same state db networkId times,
    fun addressPool _ _ => prepareSubnetRoutes_same db networkId addressPool times.transaction,
    fun _ _ => replaceAclPolicy_strict, fun _ _ => replaceSubnetRoutes_strict,
    fun _ _ _ _ => compile_canonicalRules,
    fun _ _ _ _ hperm hcompile => canonicalSubnetRoutes_of_strict hperm (strictRoutes_of_compile hcompile)⟩

theorem policy_order_independent_reversed : ∃ policy, AclPolicy.compile sampleFormats
    { AclPolicy.guardedPayload with policies := canonicalRules AclPolicy.guardedPayload.policies.reverse } =
      .ok policy := by
  have hcompiles : (match AclPolicy.compile sampleFormats AclPolicy.guardedPayload with
    | .ok _ => true
    | .error _ => false) = true := by decide +kernel
  have hreversed : Rearranged SameRule AclPolicy.guardedPayload.policies.reverse
      AclPolicy.guardedPayload.policies :=
    rearranged_of_perm (fun _ => ⟨rfl, rfl, rfl, rfl, List.Perm.refl _, List.Perm.refl _, List.Perm.refl _⟩)
      (List.reverse_perm _)
  split at hcompiles
  next policy hpolicy =>
    have hall := policy_order_independent { samplePlatform with formats := sampleFormats } sampleAppState .empty
      (fill 16 21) (sampleMoment 0)
    exact hall.2.2.2.2.1 AclPolicy.guardedPayload _ _ policy hreversed hpolicy
  next => cases hcompiles

end XsNexus
