import XsNexus.AddressSets
import XsNexus.Checks
import XsNexus.FirstMatch

namespace XsNexus

open Checks FiniteMap

/-- What two routes of a configuration are to each other. -/
structure RoutesApart (left right : CompiledSubnetRoute) : Prop where
  routeId : left.routeId ≠ right.routeId
  priority : left.subnetPrefix = right.subnetPrefix → left.priority ≠ right.priority
  addresses : left.subnetPrefix ≠ right.subnetPrefix →
    Disjoint left.subnetPrefix.addresses right.subnetPrefix.addresses

theorem checkRoutePair_ok {left right : CompiledSubnetRoute} :
    checkRoutePair left right = .ok () ↔ RoutesApart left right := by
  unfold checkRoutePair
  constructor
  · intro h
    obtain ⟨hid, h⟩ := guard_ok.mp h
    split at h
    next hsame =>
      obtain ⟨hpriority, _⟩ := guard_ok.mp h
      exact ⟨hid, fun _ => hpriority, fun hne => absurd hsame hne⟩
    next hne =>
      obtain ⟨hclear, _⟩ := guard_ok.mp h
      refine ⟨hid, fun hsame => absurd hsame hne, fun _ => ?_⟩
      exact not_networksOverlap_iff.mp (by simpa using hclear)
  · intro h
    rw [if_neg h.routeId]
    by_cases hsame : left.subnetPrefix = right.subnetPrefix
    · rw [if_pos hsame, if_neg (h.priority hsame)]
    · have hclear := not_networksOverlap_iff.mpr (h.addresses hsame)
      rw [if_neg hsame, hclear]
      rfl

theorem checkRoutePairs_ok {routes : List CompiledSubnetRoute} :
    checkRoutePairs routes = .ok () ↔ routes.Pairwise RoutesApart := by
  induction routes with
  | nil => exact ⟨fun _ => List.Pairwise.nil, fun _ => rfl⟩
  | cons left rest ih =>
    rw [List.pairwise_cons, ← ih, checkRoutePairs]
    constructor
    · intro h
      obtain ⟨_, hfirst, hrest⟩ := bind_ok.mp h
      refine ⟨fun right hright => checkRoutePair_ok.mp ?_, hrest⟩
      exact forM_ok.mp hfirst right hright
    · rintro ⟨hfirst, hrest⟩
      refine bind_ok.mpr ⟨(), forM_ok.mpr fun right hright => ?_, hrest⟩
      exact checkRoutePair_ok.mpr (hfirst right hright)

instance : Std.Symm RoutesApart where
  symm _ _ h :=
    ⟨h.routeId.symm, fun hsame => (h.priority hsame.symm).symm,
      fun hne => (h.addresses hne.symm).symm⟩

/-- The order `compile` insists on: by network address, and within a prefix by falling priority. -/
def RouteBefore (left right : CompiledSubnetRoute) : Prop :=
  left.subnetPrefix.network.bits.toNat < right.subnetPrefix.network.bits.toNat ∨
    (left.subnetPrefix = right.subnetPrefix ∧ right.priority < left.priority)

theorem RouteBefore.trans {a b c : CompiledSubnetRoute} (hab : RouteBefore a b)
    (hbc : RouteBefore b c) : RouteBefore a c := by
  unfold RouteBefore at *
  rcases hab with hab | ⟨hab, hpriority⟩
  · rcases hbc with hbc | ⟨hbc, _⟩
    · exact Or.inl (by omega)
    · rw [← hbc]
      exact Or.inl hab
  · rw [hab]
    rcases hbc with hbc | ⟨hbc, hpriority'⟩
    · exact Or.inl hbc
    · exact Or.inr ⟨hbc, UInt32.lt_trans hpriority' hpriority⟩

instance : Trans RouteBefore RouteBefore RouteBefore := ⟨RouteBefore.trans⟩

/-- Of two neighbours that are apart, the one in front is before the other. -/
theorem routeBefore_of_neighbours {left right : CompiledSubnetRoute}
    (horder : outOfRouteOrder left right = false) (hapart : RoutesApart left right) :
    RouteBefore left right := by
  unfold outOfRouteOrder at horder
  simp only [decide_eq_false_iff_not, not_or, not_and, GT.gt, BitVec.lt_def] at horder
  obtain ⟨hnetwork, _, hpriority, _⟩ := horder
  by_cases hsame : left.subnetPrefix = right.subnetPrefix
  · have hne := hapart.priority hsame
    have hle := hpriority hsame
    refine Or.inr ⟨hsame, ?_⟩
    rw [UInt32.lt_iff_toNat_lt] at hle ⊢
    have hvalues : left.priority.toNat ≠ right.priority.toNat := fun heq =>
      hne (UInt32.toNat_inj.mp heq)
    omega
  · by_cases hless : left.subnetPrefix.network.bits.toNat < right.subnetPrefix.network.bits.toNat
    · exact Or.inl hless
    · have hbits : left.subnetPrefix.network.bits.toNat = right.subnetPrefix.network.bits.toNat := by
        omega
      have hequal : left.subnetPrefix.network = right.subnetPrefix.network := by
        have hvector := BitVec.eq_of_toNat_eq hbits
        unfold Ipv4Net.network at hvector ⊢
        simpa using hvector
      -- prefixes of one network address overlap
      have hshared : networksOverlap left.subnetPrefix right.subnetPrefix = true :=
        networksOverlap_iff.mpr ⟨left.subnetPrefix.network, left.subnetPrefix.network_mem, by
          rw [hequal]
          exact right.subnetPrefix.network_mem⟩
      have hclear := not_networksOverlap_iff.mpr (hapart.addresses hsame)
      rw [hshared] at hclear
      cases hclear

/-- Routes as `compile` lets them through. -/
structure RoutesOrdered (routes : List CompiledSubnetRoute) : Prop where
  apart : routes.Pairwise RoutesApart
  before : routes.Pairwise RouteBefore

theorem routesOrdered_of_ok {routes : List CompiledSubnetRoute}
    (h : validateOrderAndOverlap routes = .ok ()) : RoutesOrdered routes := by
  unfold validateOrderAndOverlap at h
  obtain ⟨horder, hpairs⟩ := guard_ok.mp h
  have hapart := checkRoutePairs_ok.mp hpairs
  refine ⟨hapart, List.IsChain.pairwise (List.isChain_iff_getElem.mpr ?_)⟩
  intro i hi
  refine routeBefore_of_neighbours ?_ (List.pairwise_iff_getElem.mp hapart i (i + 1) _ hi (by omega))
  have hnone := List.any_eq_false.mp (by simpa only [Bool.not_eq_true] using horder)
  have hmem : (routes[i], routes[i + 1]) ∈ routes.zip routes.tail := by
    refine List.mem_iff_getElem.mpr ⟨i, ?_, ?_⟩
    · simp
      omega
    · simp
  simpa using hnone _ hmem

section Ordered

variable {routes : List CompiledSubnetRoute} {left right : CompiledSubnetRoute} {address : Ipv4Addr}

theorem RoutesOrdered.prefix_eq (h : RoutesOrdered routes) (hleft : left ∈ routes)
    (hright : right ∈ routes) (hl : address ∈ left.subnetPrefix.addresses)
    (hr : address ∈ right.subnetPrefix.addresses) : left.subnetPrefix = right.subnetPrefix := by
  by_contra hne
  have hroutes : left ≠ right := fun heq => hne (congrArg _ heq)
  have hapart := h.apart.forall hleft hright hroutes
  exact Set.disjoint_left.mp (hapart.addresses hne) hl hr

/-- The routes to one address stand by falling priority. -/
theorem RoutesOrdered.sorted_filter (h : RoutesOrdered routes) (destination : Ipv4Addr) :
    (routes.filter fun route => route.subnetPrefix.contains destination).Pairwise
      fun left right => right.priority < left.priority := by
  refine (h.before.filter _).imp_of_mem ?_
  intro left right hleft hright hbefore
  obtain ⟨hleft, hl⟩ := List.mem_filter.mp hleft
  obtain ⟨hright, hr⟩ := List.mem_filter.mp hright
  rcases hbefore with hnetwork | ⟨_, hpriority⟩
  · rw [h.prefix_eq hleft hright hl hr] at hnetwork
    omega
  · exact hpriority

/-- Between two routes of one prefix stand only routes of that prefix. -/
theorem RoutesOrdered.adjacent (h : RoutesOrdered routes) {i j k : Nat} (hij : i < j) (hjk : j < k)
    (hk : k < routes.length) (hsame : routes[i].subnetPrefix = routes[k].subnetPrefix) :
    routes[j].subnetPrefix = routes[k].subnetPrefix := by
  have hfirst := List.pairwise_iff_getElem.mp h.before i j (by omega) (by omega) hij
  have hlast := List.pairwise_iff_getElem.mp h.before j k (by omega) hk hjk
  rcases hfirst with hfirst | ⟨hfirst, _⟩
  · rcases hlast with hlast | ⟨hlast, _⟩
    · rw [hsame] at hfirst
      omega
    · exact hlast
  · rw [← hfirst, hsame]

theorem RoutesOrdered.falling (h : RoutesOrdered routes) {i j : Nat} (hij : i < j)
    (hj : j < routes.length) (hsame : routes[i].subnetPrefix = routes[j].subnetPrefix) :
    routes[j].priority < routes[i].priority := by
  rcases List.pairwise_iff_getElem.mp h.before i j (by omega) hj hij with hnetwork | ⟨_, hpriority⟩
  · rw [hsame] at hnetwork
    omega
  · exact hpriority

end Ordered

/-- What `compile` makes of one route. -/
structure RouteCompiled (f : Formats) (pool : Ipv4Net) (route : ConfigurationSubnetRoute)
    (compiled : CompiledSubnetRoute) : Prop where
  parsed : f.ipv4Net route.subnetPrefix = some compiled.subnetPrefix
  spelled : route.subnetPrefix = f.ipv4NetText compiled.subnetPrefix
  safe : safeSubnetPrefix compiled.subnetPrefix = true
  outside : networksOverlap compiled.subnetPrefix pool = false

namespace SubnetRoutePolicy

theorem compileRoute_ok {f : Formats} {pool : Ipv4Net} {gatewayNodes : Map String ConfigurationNode}
    {progress progress' : List String × List CompiledSubnetRoute} {route : ConfigurationSubnetRoute}
    (h : compileRoute f pool gatewayNodes progress route = .ok progress') :
    ∃ compiled, RouteCompiled f pool route compiled ∧ progress'.2 = progress.2 ++ [compiled] := by
  obtain ⟨routeIds, before⟩ := progress
  unfold compileRoute at h
  obtain ⟨_, h⟩ := guard_ok.mp h
  split at h
  next => simp at h
  next net hparsed =>
    obtain ⟨hnet, h⟩ := guard_ok.mp h
    obtain ⟨hpool, h⟩ := guard_ok.mp h
    simp only [not_or, not_not, Bool.not_eq_true', Bool.not_eq_false] at hnet
    split at h
    next => simp at h
    next =>
      split at h
      next => simp at h
      next =>
        cases h
        exact ⟨_, ⟨hparsed, hnet.1, hnet.2, by simpa using hpool⟩, rfl⟩

theorem foldlM_compileRoute {f : Formats} {pool : Ipv4Net}
    {gatewayNodes : Map String ConfigurationNode} {routes : List ConfigurationSubnetRoute}
    {progress progress' : List String × List CompiledSubnetRoute}
    (h : routes.foldlM (compileRoute f pool gatewayNodes) progress = .ok progress') :
    ∃ compiled, List.Forall₂ (RouteCompiled f pool) routes compiled ∧
      progress'.2 = progress.2 ++ compiled := by
  induction routes generalizing progress with
  | nil =>
    cases h
    exact ⟨[], List.Forall₂.nil, (List.append_nil _).symm⟩
  | cons route routes ih =>
    rw [List.foldlM_cons] at h
    obtain ⟨next, hnext, hrest⟩ := bind_ok.mp h
    obtain ⟨first, hfirst, heq⟩ := compileRoute_ok hnext
    obtain ⟨compiled, hcompiled, hall⟩ := ih hrest
    refine ⟨first :: compiled, List.Forall₂.cons hfirst hcompiled, ?_⟩
    rw [hall, heq, List.append_assoc]
    rfl

/-- A policy as `compile` makes it from a configuration. -/
structure Compiled (f : Formats) (configuration : ConfigurationPayload) (pool : Ipv4Net)
    (policy : SubnetRoutePolicy) : Prop where
  addressPool : f.ipv4Net configuration.addressPool = some pool
  routes : List.Forall₂ (RouteCompiled f pool) configuration.subnetRoutes policy.routes
  ordered : RoutesOrdered policy.routes

theorem compiled_of_compile {f : Formats} {configuration : ConfigurationPayload}
    {policy : SubnetRoutePolicy} (h : compile f configuration = .ok policy) :
    ∃ pool, Compiled f configuration pool policy := by
  unfold compile at h
  obtain ⟨_, h⟩ := guard_ok.mp h
  split at h
  next => simp at h
  next pool hpool =>
    obtain ⟨gatewayNodes, _, h⟩ := bind_ok.mp h
    obtain ⟨⟨routeIds, compiled⟩, hloop, h⟩ := bind_ok.mp h
    obtain ⟨_, hordered, h⟩ := bind_ok.mp h
    cases h
    obtain ⟨routes, hroutes, heq⟩ := foldlM_compileRoute hloop
    rw [List.nil_append] at heq
    subst heq
    exact ⟨pool, hpool, hroutes, routesOrdered_of_ok hordered⟩

section Compiled

variable {f : Formats} {configuration : ConfigurationPayload} {pool : Ipv4Net}
  {policy : SubnetRoutePolicy}

theorem Compiled.route (h : Compiled f configuration pool policy) {compiled : CompiledSubnetRoute}
    (hcompiled : compiled ∈ policy.routes) :
    ∃ route ∈ configuration.subnetRoutes, RouteCompiled f pool route compiled := by
  obtain ⟨i, hi, rfl⟩ := List.mem_iff_getElem.mp hcompiled
  obtain ⟨hlength, hget⟩ := List.forall₂_iff_get.mp h.routes
  exact ⟨_, List.get_mem _ ⟨i, by omega⟩, hget i (by omega) hi⟩

theorem Compiled.of_route (h : Compiled f configuration pool policy)
    {route : ConfigurationSubnetRoute} (hroute : route ∈ configuration.subnetRoutes) :
    ∃ compiled ∈ policy.routes, RouteCompiled f pool route compiled := by
  obtain ⟨i, hi, rfl⟩ := List.mem_iff_getElem.mp hroute
  obtain ⟨hlength, hget⟩ := List.forall₂_iff_get.mp h.routes
  exact ⟨_, List.get_mem _ ⟨i, by omega⟩, hget i hi (by omega)⟩

theorem Compiled.disjoint_pool (h : Compiled f configuration pool policy)
    {compiled : CompiledSubnetRoute} (hcompiled : compiled ∈ policy.routes) :
    Disjoint compiled.subnetPrefix.addresses pool.addresses := by
  obtain ⟨_, _, hroute⟩ := h.route hcompiled
  exact not_networksOverlap_iff.mp hroute.outside

theorem Compiled.disjoint_reserved (h : Compiled f configuration pool policy)
    {compiled : CompiledSubnetRoute} (hcompiled : compiled ∈ policy.routes) {reserved : Ipv4Net}
    (hreserved : reserved ∈ reservedPrefixes) :
    Disjoint compiled.subnetPrefix.addresses reserved.addresses := by
  obtain ⟨_, _, hroute⟩ := h.route hcompiled
  have hsafe := hroute.safe
  unfold safeSubnetPrefix at hsafe
  have hclear := List.all_eq_true.mp (Bool.and_eq_true_iff.mp hsafe).2 reserved hreserved
  exact not_networksOverlap_iff.mp (by simpa using hclear)

/-- Of the routes to a destination that can be used, the one of the highest priority is taken. -/
theorem resolveDestination_eq_some_iff (h : RoutesOrdered policy.routes) {destination : Ipv4Addr}
    {now : Int} {route : CompiledSubnetRoute} :
    policy.resolveDestination destination now = some route ↔
      route ∈ policy.routes ∧ destination ∈ route.subnetPrefix.addresses ∧
        policy.gatewayAvailable route.gatewayNodeIdBase64 now = true ∧
        ∀ other ∈ policy.routes, destination ∈ other.subnetPrefix.addresses →
          policy.gatewayAvailable other.gatewayNodeIdBase64 now = true →
          other = route ∨ other.priority < route.priority := by
  have hasymm : ∀ left right : CompiledSubnetRoute, right.priority < left.priority →
      ¬left.priority < right.priority := fun _ _ hlt hgt => UInt32.lt_asymm hlt hgt
  unfold resolveDestination
  rw [FirstMatch.find?_eq_some_iff (h.sorted_filter destination) hasymm]
  constructor
  · intro hbest
    obtain ⟨hmem, hcontains⟩ := List.mem_filter.mp hbest.mem
    refine ⟨hmem, hcontains, hbest.holds, ?_⟩
    intro other hother hin havailable
    exact hbest.best other (List.mem_filter.mpr ⟨hother, hin⟩) havailable
  · rintro ⟨hmem, hcontains, havailable, hbest⟩
    refine ⟨List.mem_filter.mpr ⟨hmem, hcontains⟩, havailable, ?_⟩
    intro other hother hin
    obtain ⟨hmem', hcontains'⟩ := List.mem_filter.mp hother
    exact hbest other hmem' hcontains' hin

theorem resolveDestination_eq_none_iff {destination : Ipv4Addr} {now : Int} :
    policy.resolveDestination destination now = none ↔
      ∀ route ∈ policy.routes, destination ∈ route.subnetPrefix.addresses →
        policy.gatewayAvailable route.gatewayNodeIdBase64 now = false := by
  unfold resolveDestination
  rw [List.find?_eq_none]
  constructor
  · intro h route hroute hcontains
    simpa using h route (List.mem_filter.mpr ⟨hroute, hcontains⟩)
  · intro h route hroute
    obtain ⟨hmem, hcontains⟩ := List.mem_filter.mp hroute
    simpa using h route hmem hcontains

end Compiled

end SubnetRoutePolicy

end XsNexus
