import Mathlib.Data.List.TakeWhile
import XsNexus.CompiledRoutes
import XsNexus.RouteConflicts

namespace XsNexus

namespace SubnetRoutePolicy

/-- The loop of `active_client_prefixes`, a group of routes of one prefix at a time. -/
def activePrefixes (policy : SubnetRoutePolicy) (localNodeIdBase64 : String) (now : Int) :
    List CompiledSubnetRoute → List Ipv4Net
  | [] => []
  | route :: rest =>
    let candidates :=
      route :: rest.takeWhile fun next => next.subnetPrefix = route.subnetPrefix
    let localIsGateway := candidates.any fun candidate =>
      candidate.gatewayNodeIdBase64 = localNodeIdBase64
    let active := candidates.any fun candidate =>
      policy.gatewayAvailable candidate.gatewayNodeIdBase64 now
    let later := activePrefixes policy localNodeIdBase64 now
      (rest.dropWhile fun next => next.subnetPrefix = route.subnetPrefix)
    if !localIsGateway && active then route.subnetPrefix :: later else later
termination_by routes => routes.length
decreasing_by
  have := (List.dropWhile_sublist (l := rest) fun next => next.subnetPrefix = route.subnetPrefix).length_le
  simp only [List.length_cons]
  omega

def activeClientPrefixes (policy : SubnetRoutePolicy) (localNodeIdBase64 : String) (now : Int) :
    List Ipv4Net :=
  policy.activePrefixes localNodeIdBase64 now policy.routes

section Groups

variable {policy : SubnetRoutePolicy} {localNodeIdBase64 : String} {now : Int}
  {route : CompiledSubnetRoute} {rest : List CompiledSubnetRoute}

/-- Behind the group of a prefix it does not come again. -/
theorem ne_of_mem_dropWhile (h : RoutesOrdered (route :: rest)) {next : CompiledSubnetRoute}
    (hnext : next ∈ rest.dropWhile fun next => next.subnetPrefix = route.subnetPrefix) :
    next.subnetPrefix ≠ route.subnetPrefix := by
  intro hsame
  obtain ⟨hfirst, hrest⟩ := List.pairwise_cons.mp h.before
  cases hlater : rest.dropWhile fun next => next.subnetPrefix = route.subnetPrefix with
  | nil =>
    rw [hlater] at hnext
    simp at hnext
  | cons head later =>
    have hhead : head.subnetPrefix ≠ route.subnetPrefix := by
      have hne := List.head_dropWhile_not
        (fun next : CompiledSubnetRoute => decide (next.subnetPrefix = route.subnetPrefix)) (l := rest)
        (by simp [hlater])
      simpa [hlater] using hne
    have hsub : (head :: later).Sublist rest := by
      rw [← hlater]
      exact List.dropWhile_sublist _
    have hmem : head ∈ rest := hsub.subset List.mem_cons_self
    have hbefore : RouteBefore route head := hfirst head hmem
    rw [hlater] at hnext
    rcases List.mem_cons.mp hnext with rfl | hnext
    · exact hhead hsame
    · have hafter : RouteBefore head next :=
        (List.pairwise_cons.mp (hrest.sublist hsub)).1 next hnext
      rcases hbefore with hbefore | ⟨hbefore, _⟩
      · rcases hafter with hafter | ⟨hafter, _⟩
        · rw [hsame] at hafter
          omega
        · exact hhead (hafter.trans hsame)
      · exact hhead hbefore.symm

theorem routesOrdered_dropWhile (h : RoutesOrdered (route :: rest)) :
    RoutesOrdered (rest.dropWhile fun next => next.subnetPrefix = route.subnetPrefix) where
  apart := (List.pairwise_cons.mp h.apart).2.sublist (List.dropWhile_sublist _)
  before := (List.pairwise_cons.mp h.before).2.sublist (List.dropWhile_sublist _)

/-- The routes of the first prefix are its group. -/
theorem mem_group_iff (h : RoutesOrdered (route :: rest)) {candidate : CompiledSubnetRoute} :
    candidate ∈ route :: rest.takeWhile (fun next => next.subnetPrefix = route.subnetPrefix) ↔
      candidate ∈ route :: rest ∧ candidate.subnetPrefix = route.subnetPrefix := by
  constructor
  · intro hmem
    rcases List.mem_cons.mp hmem with rfl | hmem
    · exact ⟨List.mem_cons_self, rfl⟩
    · have hsame := List.mem_takeWhile_imp hmem
      exact ⟨List.mem_cons_of_mem _ ((List.takeWhile_sublist _).subset hmem), by simpa using hsame⟩
  · rintro ⟨hmem, hsame⟩
    rcases List.mem_cons.mp hmem with rfl | hmem
    · exact List.mem_cons_self
    · rw [← List.takeWhile_append_dropWhile
        (p := fun next => decide (next.subnetPrefix = route.subnetPrefix)) (l := rest)] at hmem
      rcases List.mem_append.mp hmem with hgroup | hlater
      · exact List.mem_cons_of_mem _ hgroup
      · exact absurd hsame (ne_of_mem_dropWhile h hlater)

theorem mem_later_iff (h : RoutesOrdered (route :: rest)) {candidate : CompiledSubnetRoute}
    (hne : candidate.subnetPrefix ≠ route.subnetPrefix) :
    candidate ∈ rest.dropWhile (fun next => next.subnetPrefix = route.subnetPrefix) ↔
      candidate ∈ route :: rest := by
  constructor
  · intro hmem
    exact List.mem_cons_of_mem _ ((List.dropWhile_sublist _).subset hmem)
  · intro hmem
    rcases List.mem_cons.mp hmem with rfl | hmem
    · exact absurd rfl hne
    · rw [← List.takeWhile_append_dropWhile
        (p := fun next => decide (next.subnetPrefix = route.subnetPrefix)) (l := rest)] at hmem
      rcases List.mem_append.mp hmem with hgroup | hlater
      · have hsame := List.mem_takeWhile_imp hgroup
        exact absurd (by simpa using hsame) hne
      · exact hlater

/-- A prefix that can be reached, and not through the local node. -/
def ClientPrefix (policy : SubnetRoutePolicy) (localNodeIdBase64 : String) (now : Int)
    (routes : List CompiledSubnetRoute) (net : Ipv4Net) : Prop :=
  (∃ route ∈ routes, route.subnetPrefix = net ∧
      policy.gatewayAvailable route.gatewayNodeIdBase64 now = true) ∧
    ∀ route ∈ routes, route.subnetPrefix = net → route.gatewayNodeIdBase64 ≠ localNodeIdBase64

theorem clientPrefix_group (h : RoutesOrdered (route :: rest)) :
    ClientPrefix policy localNodeIdBase64 now (route :: rest) route.subnetPrefix ↔
      (!((route :: rest.takeWhile fun next => next.subnetPrefix = route.subnetPrefix).any
          fun candidate => candidate.gatewayNodeIdBase64 = localNodeIdBase64) &&
        (route :: rest.takeWhile fun next => next.subnetPrefix = route.subnetPrefix).any
          fun candidate => policy.gatewayAvailable candidate.gatewayNodeIdBase64 now) = true := by
  rw [Bool.and_eq_true, Bool.not_eq_true', List.any_eq_false, List.any_eq_true]
  constructor
  · rintro ⟨⟨candidate, hmem, hsame, havailable⟩, hother⟩
    refine ⟨fun other hgroup => ?_, candidate, (mem_group_iff h).mpr ⟨hmem, hsame⟩, havailable⟩
    obtain ⟨hin, hprefix⟩ := (mem_group_iff h).mp hgroup
    simpa using hother other hin hprefix
  · rintro ⟨hother, candidate, hgroup, havailable⟩
    obtain ⟨hmem, hsame⟩ := (mem_group_iff h).mp hgroup
    refine ⟨⟨candidate, hmem, hsame, havailable⟩, fun other hin hprefix => ?_⟩
    simpa using hother other ((mem_group_iff h).mpr ⟨hin, hprefix⟩)

theorem clientPrefix_later (h : RoutesOrdered (route :: rest)) {net : Ipv4Net} :
    ClientPrefix policy localNodeIdBase64 now
        (rest.dropWhile fun next => next.subnetPrefix = route.subnetPrefix) net ↔
      net ≠ route.subnetPrefix ∧ ClientPrefix policy localNodeIdBase64 now (route :: rest) net := by
  constructor
  · rintro ⟨⟨candidate, hmem, rfl, havailable⟩, hother⟩
    have hne := ne_of_mem_dropWhile h hmem
    refine ⟨hne, ⟨candidate, (mem_later_iff h hne).mp hmem, rfl, havailable⟩, ?_⟩
    intro other hin hsame
    exact hother other ((mem_later_iff h (by rwa [hsame])).mpr hin) hsame
  · rintro ⟨hne, ⟨candidate, hmem, rfl, havailable⟩, hother⟩
    refine ⟨⟨candidate, (mem_later_iff h hne).mpr hmem, rfl, havailable⟩, ?_⟩
    intro other hin hsame
    exact hother other ((mem_later_iff h (by rwa [hsame])).mp hin) hsame

theorem mem_activePrefixes {routes : List CompiledSubnetRoute} (h : RoutesOrdered routes)
    {net : Ipv4Net} :
    net ∈ policy.activePrefixes localNodeIdBase64 now routes ↔
      ClientPrefix policy localNodeIdBase64 now routes net := by
  fun_induction activePrefixes policy localNodeIdBase64 now routes with
  | case1 => simp [ClientPrefix]
  | case2 route rest candidates localIsGateway active later hcollected ih =>
    have hgroup := (clientPrefix_group h).mpr hcollected
    rw [List.mem_cons, ih (routesOrdered_dropWhile h), clientPrefix_later h]
    by_cases hsame : net = route.subnetPrefix
    · simp [hsame, hgroup]
    · simp [hsame]
  | case3 route rest candidates localIsGateway active later hskipped ih =>
    have hgroup := mt (clientPrefix_group h).mp hskipped
    rw [ih (routesOrdered_dropWhile h), clientPrefix_later h]
    by_cases hsame : net = route.subnetPrefix
    · simp [hsame, hgroup]
    · simp [hsame]

theorem nodup_activePrefixes {routes : List CompiledSubnetRoute} (h : RoutesOrdered routes) :
    (policy.activePrefixes localNodeIdBase64 now routes).Nodup := by
  fun_induction activePrefixes policy localNodeIdBase64 now routes with
  | case1 => exact List.nodup_nil
  | case2 route rest candidates localIsGateway active later hcollected ih =>
    refine List.nodup_cons.mpr ⟨fun hmem => ?_, ih (routesOrdered_dropWhile h)⟩
    have hlater := (mem_activePrefixes (routesOrdered_dropWhile h)).mp hmem
    exact ((clientPrefix_later h).mp hlater).1 rfl
  | case3 route rest candidates localIsGateway active later hskipped ih =>
    exact ih (routesOrdered_dropWhile h)

end Groups

/-- What every policy that compiles promises, and which route it takes. -/
theorem compile_sound {f : Formats} {configuration : ConfigurationPayload} {policy : SubnetRoutePolicy}
    (h : compile f configuration = .ok policy) :
    (policy.routes.Pairwise fun left right =>
        (left.subnetPrefix = right.subnetPrefix ∧ left.priority ≠ right.priority) ∨
          Disjoint left.subnetPrefix.addresses right.subnetPrefix.addresses) ∧
      (∃ pool, f.ipv4Net configuration.addressPool = some pool ∧ ∀ route ∈ policy.routes,
        Disjoint route.subnetPrefix.addresses pool.addresses ∧
          ∀ reserved ∈ reservedPrefixes, Disjoint route.subnetPrefix.addresses reserved.addresses) ∧
      (∀ i j k : Nat, i < j → j < k → ∀ left ∈ policy.routes[i]?, ∀ middle ∈ policy.routes[j]?,
        ∀ right ∈ policy.routes[k]?, left.subnetPrefix = right.subnetPrefix →
          middle.subnetPrefix = right.subnetPrefix) ∧
      (∀ i j : Nat, i < j → ∀ left ∈ policy.routes[i]?, ∀ right ∈ policy.routes[j]?,
        left.subnetPrefix = right.subnetPrefix → right.priority < left.priority) ∧
      (∀ (destination : Ipv4Addr) (now : Int) (route : CompiledSubnetRoute),
        policy.resolveDestination destination now = some route ↔
          route ∈ policy.routes ∧ destination ∈ route.subnetPrefix.addresses ∧
            policy.gatewayAvailable route.gatewayNodeIdBase64 now = true ∧
            ∀ other ∈ policy.routes, destination ∈ other.subnetPrefix.addresses →
              policy.gatewayAvailable other.gatewayNodeIdBase64 now = true →
              other = route ∨ other.priority < route.priority) ∧
      ∀ (destination : Ipv4Addr) (now : Int), policy.resolveDestination destination now = none ↔
        ∀ route ∈ policy.routes, destination ∈ route.subnetPrefix.addresses →
          policy.gatewayAvailable route.gatewayNodeIdBase64 now = false := by
  obtain ⟨pool, hcompiled⟩ := compiled_of_compile h
  have hordered := hcompiled.ordered
  refine ⟨hordered.apart.imp ?_, ⟨pool, hcompiled.addressPool, ?_⟩, ?_, ?_, ?_, ?_⟩
  · intro left right hapart
    by_cases hsame : left.subnetPrefix = right.subnetPrefix
    · exact Or.inl ⟨hsame, hapart.priority hsame⟩
    · exact Or.inr (hapart.addresses hsame)
  · intro route hroute
    exact ⟨hcompiled.disjoint_pool hroute, fun _ => hcompiled.disjoint_reserved hroute⟩
  · intro i j k hij hjk left hleft middle hmiddle right hright hsame
    obtain ⟨_, rfl⟩ := List.getElem?_eq_some_iff.mp hleft
    obtain ⟨_, rfl⟩ := List.getElem?_eq_some_iff.mp hmiddle
    obtain ⟨hk, rfl⟩ := List.getElem?_eq_some_iff.mp hright
    exact hordered.adjacent hij hjk hk hsame
  · intro i j hij left hleft right hright hsame
    obtain ⟨_, rfl⟩ := List.getElem?_eq_some_iff.mp hleft
    obtain ⟨hj, rfl⟩ := List.getElem?_eq_some_iff.mp hright
    exact hordered.falling hij hj hsame
  · intro destination now route
    exact resolveDestination_eq_some_iff hordered
  · intro destination now
    exact resolveDestination_eq_none_iff

/-- A second gateway of the office subnet. -/
def backupGateway : ConfigurationNode :=
  { samplePeerNode with
    nodeIdBase64 := "AgICAgICAgICAgICAgICAg"
    virtualIp := "100.88.0.12"
    directEndpoints := ["192.0.2.9:7777"] }

/-- Two subnets behind the peer, one of them behind a second gateway too. -/
def failoverPayload : ConfigurationPayload :=
  { samplePayload with
    nodes := samplePayload.nodes ++ [backupGateway]
    subnetRoutes := [
      ⟨"branch", "172.20.8.0/24", samplePeerNode.nodeIdBase64, .routed, "lan1", 100⟩,
      ⟨"office", "192.168.50.0/24", samplePeerNode.nodeIdBase64, .routed, "lan0", 200⟩,
      ⟨"office-backup", "192.168.50.0/24", backupGateway.nodeIdBase64, .routed, "lan0", 100⟩] }

def branchNet : Ipv4Net := ⟨.new 172 20 8 0, 24, Ipv4Net.le_24⟩

/-- When the candidates of the peer expire. -/
def peerExpiry : Int := 1700003700 * 10 ^ 9

theorem failoverPayload_compiles : ∃ policy, compile sampleFormats failoverPayload = .ok policy ∧
    policy.routes.map CompiledSubnetRoute.routeId = ["branch", "office", "office-backup"] ∧
    (policy.resolveDestination (.new 192 168 50 7) 0).map CompiledSubnetRoute.routeId =
      some "office" ∧
    (policy.resolveDestination (.new 192 168 50 7) peerExpiry).map CompiledSubnetRoute.routeId =
      some "office-backup" ∧
    policy.activeClientPrefixes "client" 0 = [branchNet, officeNet] ∧
    policy.activeClientPrefixes backupGateway.nodeIdBase64 0 = [branchNet] ∧
    ∀ route ∈ policy.routes, route.gatewayNodeIdBase64 ≠ "client" := by
  have hruns : (compile sampleFormats failoverPayload).toOption.any (fun policy => decide (
      policy.routes.map CompiledSubnetRoute.routeId = ["branch", "office", "office-backup"] ∧
      (policy.resolveDestination (.new 192 168 50 7) 0).map CompiledSubnetRoute.routeId =
        some "office" ∧
      (policy.resolveDestination (.new 192 168 50 7) peerExpiry).map CompiledSubnetRoute.routeId =
        some "office-backup" ∧
      policy.activeClientPrefixes "client" 0 = [branchNet, officeNet] ∧
      policy.activeClientPrefixes backupGateway.nodeIdBase64 0 = [branchNet] ∧
      ∀ route ∈ policy.routes, route.gatewayNodeIdBase64 ≠ "client")) = true := by
    decide +kernel
  rcases hcompile : compile sampleFormats failoverPayload with e | policy
  · rw [hcompile] at hruns
    cases hruns
  · rw [hcompile] at hruns
    exact ⟨policy, rfl, of_decide_eq_true hruns⟩

/-- The office is reached through the peer, and through the other gateway when the peer's candidates
have expired. -/
theorem compile_sound_office : ∃ policy, compile sampleFormats failoverPayload = .ok policy ∧
    policy.routes.map CompiledSubnetRoute.routeId = ["branch", "office", "office-backup"] ∧
    (policy.routes.Pairwise fun left right =>
      (left.subnetPrefix = right.subnetPrefix ∧ left.priority ≠ right.priority) ∨
        Disjoint left.subnetPrefix.addresses right.subnetPrefix.addresses) ∧
    ∃ first second, first.routeId = "office" ∧ second.routeId = "office-backup" ∧
      policy.resolveDestination (.new 192 168 50 7) 0 = some first ∧
      policy.resolveDestination (.new 192 168 50 7) peerExpiry = some second ∧
      policy.gatewayAvailable first.gatewayNodeIdBase64 0 = true ∧
      policy.gatewayAvailable second.gatewayNodeIdBase64 peerExpiry = true := by
  obtain ⟨policy, hpolicy, hroutes, hfirst, hsecond, _⟩ := failoverPayload_compiles
  obtain ⟨hpairs, _, _, _, hresolve, _⟩ := compile_sound hpolicy
  obtain ⟨first, hfirst, hoffice⟩ := Option.map_eq_some_iff.mp hfirst
  obtain ⟨second, hsecond, hbackup⟩ := Option.map_eq_some_iff.mp hsecond
  exact ⟨policy, hpolicy, hroutes, hpairs, first, second, hoffice, hbackup, hfirst, hsecond,
    ((hresolve _ _ _).mp hfirst).2.2.1, ((hresolve _ _ _).mp hsecond).2.2.1⟩

/-- The prefixes the kernel routes to the interface cover what the data plane has a route for. -/
theorem client_prefixes_agree {f : Formats} {configuration : ConfigurationPayload}
    {policy : SubnetRoutePolicy} (h : compile f configuration = .ok policy) (localNodeIdBase64 : String)
    (now : Int) :
    (∀ destination : Ipv4Addr,
        (∀ route ∈ policy.routes, destination ∈ route.subnetPrefix.addresses →
          route.gatewayNodeIdBase64 ≠ localNodeIdBase64) →
        ((∃ net ∈ policy.activeClientPrefixes localNodeIdBase64 now, destination ∈ net.addresses) ↔
          ∃ route, policy.resolveDestination destination now = some route)) ∧
      (policy.activeClientPrefixes localNodeIdBase64 now).Nodup ∧
      ∀ net ∈ policy.activeClientPrefixes localNodeIdBase64 now, ∀ route ∈ policy.routes,
        route.subnetPrefix = net → route.gatewayNodeIdBase64 ≠ localNodeIdBase64 := by
  obtain ⟨pool, hcompiled⟩ := compiled_of_compile h
  have hordered := hcompiled.ordered
  refine ⟨?_, nodup_activePrefixes hordered, fun net hnet => ((mem_activePrefixes hordered).mp hnet).2⟩
  intro destination hforeign
  constructor
  · rintro ⟨net, hnet, hcontains⟩
    obtain ⟨⟨route, hroute, rfl, havailable⟩, _⟩ := (mem_activePrefixes hordered).mp hnet
    cases hresolve : policy.resolveDestination destination now with
    | some route => exact ⟨route, rfl⟩
    | none =>
      have hnone := resolveDestination_eq_none_iff.mp hresolve route hroute hcontains
      rw [havailable] at hnone
      cases hnone
  · rintro ⟨route, hresolve⟩
    obtain ⟨hroute, hcontains, havailable, _⟩ := (resolveDestination_eq_some_iff hordered).mp hresolve
    refine ⟨route.subnetPrefix, (mem_activePrefixes hordered).mpr ?_, hcontains⟩
    refine ⟨⟨route, hroute, rfl, havailable⟩, fun other hother hsame => ?_⟩
    refine hforeign other hother ?_
    rw [hsame]
    exact hcontains

/-- The client reaches both subnets; the second gateway has the office itself. -/
theorem client_prefixes_agree_office : ∃ policy,
    compile sampleFormats failoverPayload = .ok policy ∧
      policy.activeClientPrefixes "client" 0 = [branchNet, officeNet] ∧
      policy.activeClientPrefixes backupGateway.nodeIdBase64 0 = [branchNet] ∧
      ∀ destination : Ipv4Addr,
        (∃ net ∈ policy.activeClientPrefixes "client" 0, destination ∈ net.addresses) ↔
          ∃ route, policy.resolveDestination destination 0 = some route := by
  obtain ⟨policy, hpolicy, _, _, _, hclient, hgateway, hforeign⟩ := failoverPayload_compiles
  exact ⟨policy, hpolicy, hclient, hgateway, fun destination =>
    (client_prefixes_agree hpolicy "client" 0).1 destination fun route hroute _ => hforeign route hroute⟩

end SubnetRoutePolicy

end XsNexus
