import XsNexus.ApplicableConfiguration
import XsNexus.RouteDiscovery
import XsNexus.WindowsRoutes

namespace XsNexus

open ByteCodec Checks FiniteMap WindowsRouteManager

/-- The body of the loop over the routes of the system. -/
def checkRouteAvailable (desired : List Ipv4Net) (projectInterfaceIndex : UInt32)
    (managed : List Ipv4Net) (route : RouteMessage) : Except AgentError Unit :=
  if route.destinationPrefixLength = 0 then .ok ()
  else
    match route.destination with
    | none => .error .network
    | some destination =>
      if h : route.destinationPrefixLength.toNat ≤ 32 then
        let existing : Ipv4Net := ⟨destination, route.destinationPrefixLength.toNat, h⟩
        let projectOwned := decide (existing ∈ managed) &&
          route.attributes.any fun entry => entry = .oif projectInterfaceIndex
        if !projectOwned && desired.any fun candidate => networksOverlap existing candidate then
          .error .network
        else .ok ()
      else .error .network

/-- `none` stands for a route that could not be read. -/
def ensureSubnetRoutesAvailable (routes : List (Option RouteMessage)) (desired : List Ipv4Net)
    (projectInterfaceIndex : UInt32) (managed : List Ipv4Net) : Except AgentError Unit :=
  if desired = [] then .ok ()
  else
    routes.forM fun
      | none => .error .network
      | some route => checkRouteAvailable desired projectInterfaceIndex managed route

namespace SubnetRoutePolicy

theorem compileRoute_safe {f : Formats} {virtualPool : Ipv4Net}
    {gatewayNodes : Map String ConfigurationNode}
    {progress progress' : List String × List CompiledSubnetRoute} {route : ConfigurationSubnetRoute}
    (h : compileRoute f virtualPool gatewayNodes progress route = .ok progress')
    (hsafe : ∀ compiled ∈ progress.2, safeSubnetPrefix compiled.subnetPrefix) :
    ∀ compiled ∈ progress'.2, safeSubnetPrefix compiled.subnetPrefix := by
  obtain ⟨routeIds, compiled⟩ := progress
  unfold compileRoute at h
  obtain ⟨_, h⟩ := guard_ok.mp h
  split at h
  next => simp at h
  next net _ =>
    obtain ⟨hnet, h⟩ := guard_ok.mp h
    obtain ⟨_, h⟩ := guard_ok.mp h
    split at h
    next => simp at h
    next =>
      split at h
      next => simp at h
      next =>
        cases h
        intro last hlast
        rcases List.mem_append.mp hlast with hold | hnew
        · exact hsafe last hold
        · have heq := List.mem_singleton.mp hnew
          subst heq
          show safeSubnetPrefix net
          simpa using (not_or.mp hnet).2

/-- The prefixes of compiled routes are safe. -/
theorem safe_of_compile {f : Formats} {configuration : ConfigurationPayload}
    {policy : SubnetRoutePolicy} (h : compile f configuration = .ok policy) :
    ∀ route ∈ policy.routes, safeSubnetPrefix route.subnetPrefix := by
  unfold compile at h
  obtain ⟨_, h⟩ := guard_ok.mp h
  split at h
  next => simp at h
  next virtualPool _ =>
    obtain ⟨gatewayNodes, _, h⟩ := bind_ok.mp h
    obtain ⟨⟨routeIds, compiled⟩, hloop, h⟩ := bind_ok.mp h
    obtain ⟨_, _, h⟩ := bind_ok.mp h
    cases h
    have hsteps : ∀ {routes : List ConfigurationSubnetRoute}
        {before after : List String × List CompiledSubnetRoute},
        routes.foldlM (compileRoute f virtualPool gatewayNodes) before = .ok after →
        (∀ route ∈ before.2, safeSubnetPrefix route.subnetPrefix) →
        ∀ route ∈ after.2, safeSubnetPrefix route.subnetPrefix := by
      intro routes
      induction routes with
      | nil =>
        intro before after hnil hsafe
        cases hnil
        exact hsafe
      | cons route routes ih =>
        intro before after hcons hsafe
        rw [List.foldlM_cons] at hcons
        obtain ⟨next, hnext, hrest⟩ := bind_ok.mp hcons
        exact ih hrest (compileRoute_safe hnext hsafe)
    exact hsteps hloop (by simp)

theorem safe_of_containsPrefix {f : Formats} {configuration : ConfigurationPayload}
    {policy : SubnetRoutePolicy} (h : compile f configuration = .ok policy) {net : Ipv4Net}
    (hnet : policy.containsPrefix net) : safeSubnetPrefix net := by
  obtain ⟨route, hroute, heq⟩ := List.any_eq_true.mp hnet
  have hsame : route.subnetPrefix = net := by simpa using heq
  rw [← hsame]
  exact safe_of_compile h route hroute

end SubnetRoutePolicy

/-- The default route overlaps every prefix. -/
theorem overlaps_default {net net' : Ipv4Net} (h : net.prefixLen = 0) : networksOverlap net net' := by
  have hmask : net.hostmask = BitVec.allOnes 32 := by
    simp [Ipv4Net.hostmask, h]
  have hall : net.contains net'.network := by
    have hzero : net.network.bits = 0 := by simp [Ipv4Net.network, hmask]
    unfold Ipv4Net.contains Ipv4Net.broadcast
    simp only [hzero, hmask, decide_eq_true_eq]
    constructor
    · exact BitVec.le_def.mpr (Nat.zero_le _)
    · rw [BitVec.or_allOnes, BitVec.le_def, BitVec.toNat_allOnes]
      have := net'.network.bits.isLt
      omega
  simp [networksOverlap, hall]

namespace WindowsRouteManager

theorem not_reserved {net : Ipv4Net} (h : safeSubnetPrefix net) :
    (1 ≤ net.prefixLen ∧ net.prefixLen ≤ 30) ∧ ¬reserved net := by
  unfold safeSubnetPrefix at h
  obtain ⟨hlength, hfree⟩ := Bool.and_eq_true_iff.mp h
  refine ⟨by simpa using hlength, ?_⟩
  intro hreserved
  obtain ⟨blocked, hblocked, hoverlap⟩ := List.any_eq_true.mp hreserved
  have hclear := List.all_eq_true.mp hfree blocked hblocked
  have : networksOverlap net blocked = true := hoverlap
  simp [this] at hclear

/-- The desired prefixes pass the checks before the routes of the system are looked at. -/
structure Judged (interfaceLuid : UInt64) (desired : List Ipv4Net) (system : List SystemRoute) :
    Prop where
  bounded : system.length ≤ maxSystemRoutes
  luid : desired ≠ [] → interfaceLuid ≠ 0
  canonical : ∀ net ∈ desired, net.network = net.addr

theorem mapM_project_ok {interfaceLuid : UInt64} {desired : List Ipv4Net}
    (hsafe : ∀ net ∈ desired, safeSubnetPrefix net) {keys : List RouteKey} :
    (desired.mapM fun net => RouteKey.project net interfaceLuid) = .ok keys ↔
      ((desired ≠ [] → interfaceLuid ≠ 0) ∧ ∀ net ∈ desired, net.network = net.addr) ∧
        keys = desired.map (RouteKey.ofPrefix interfaceLuid) := by
  constructor
  · intro h
    obtain ⟨hkeys, hgood⟩ := RouteKey.mapM_project h
    refine ⟨⟨?_, fun net hnet => (hgood net hnet).2.2.1⟩, hkeys⟩
    intro hne
    obtain ⟨net, hnet⟩ := List.exists_mem_of_ne_nil desired hne
    exact (hgood net hnet).1
  · rintro ⟨⟨hluid, hcanonical⟩, rfl⟩
    refine mapM_ok.mpr (List.forall₂_map_right_iff.mpr (List.forall₂_same.mpr ?_))
    intro net hnet
    obtain ⟨hlength, hfree⟩ := not_reserved (hsafe net hnet)
    exact RouteKey.project_ok.mpr
      ⟨⟨hluid (List.ne_nil_of_mem hnet), hlength, hcanonical net hnet, hfree⟩, rfl⟩

theorem mapM_project_error {interfaceLuid : UInt64} {desired : List Ipv4Net} {e : RoutePlanError}
    (h : (desired.mapM fun net => RouteKey.project net interfaceLuid) = .error e) :
    e = .unsafeRoute := by
  induction desired with
  | nil => cases h
  | cons net desired ih =>
    rw [List.mapM_cons] at h
    cases hkey : RouteKey.project net interfaceLuid with
    | error e' =>
      rw [hkey] at h
      cases h
      unfold RouteKey.project at hkey
      split at hkey
      next =>
        cases hkey
        rfl
      next => cases hkey
    | ok key =>
      rw [hkey] at h
      cases hkeys : desired.mapM fun net => RouteKey.project net interfaceLuid with
      | error e' =>
        rw [hkeys] at h
        cases h
        exact ih hkeys
      | ok keys =>
        rw [hkeys] at h
        cases h

/-- Some route that is not of the project overlaps a desired prefix. -/
def ForeignConflict (desired : List Ipv4Net) (system : List SystemRoute) : Prop :=
  ∃ net ∈ desired, ∃ existing ∈ system, ¬existing.projectOwned ∧
    networksOverlap existing.key.subnetPrefix net

theorem planReconcile_foreignOverlap {interfaceLuid : UInt64} {desired : List Ipv4Net}
    {system : List SystemRoute} (hsafe : ∀ net ∈ desired, safeSubnetPrefix net)
    (hset : desired.Nodup) :
    planReconcile interfaceLuid desired [] system = .error .foreignOverlap ↔
      Judged interfaceLuid desired system ∧ ForeignConflict desired system := by
  unfold planReconcile
  by_cases hbounded : system.length > maxSystemRoutes
  · rw [if_pos hbounded]
    have hnot : ¬Judged interfaceLuid desired system := fun h => by
      have := h.bounded
      omega
    simp [hnot]
  rw [if_neg hbounded]
  cases hkeys : desired.mapM fun net => RouteKey.project net interfaceLuid with
  | error e =>
    have he := mapM_project_error hkeys
    subst he
    have hnot : ¬Judged interfaceLuid desired system := by
      intro h
      have := (mapM_project_ok hsafe).mpr ⟨⟨h.luid, h.canonical⟩, rfl⟩
      rw [hkeys] at this
      cases this
    simp [hnot, bind, Except.bind]
  | ok keys =>
    obtain ⟨⟨hluid, hcanonical⟩, rfl⟩ := (mapM_project_ok hsafe).mp hkeys
    have hjudged : Judged interfaceLuid desired system :=
      ⟨Nat.le_of_not_gt hbounded, hluid, hcanonical⟩
    have hunique : requireUnique (desired.map (RouteKey.ofPrefix interfaceLuid)) = .ok () := by
      refine if_pos (hset.map ?_)
      intro net net' heq
      exact congrArg RouteKey.subnetPrefix heq
    have hempty : requireUnique [] = .ok () := if_pos List.nodup_nil
    simp only [bind, Except.bind, hunique, hempty, List.any_nil, Bool.false_eq_true, if_false]
    rw [List.any_map]
    by_cases hconflict : ForeignConflict desired system
    · rw [if_pos]
      · simp [hjudged, hconflict]
      · obtain ⟨net, hnet, existing, hexisting, howned, hoverlap⟩ := hconflict
        refine List.any_eq_true.mpr ⟨net, hnet, List.any_eq_true.mpr ⟨existing, hexisting, ?_⟩⟩
        have hsame : overlaps existing.key.subnetPrefix net = true := hoverlap
        simpa [RouteKey.ofPrefix, hsame] using howned
    · rw [if_neg]
      · simp [hconflict]
      · intro hany
        obtain ⟨net, hnet, hany⟩ := List.any_eq_true.mp hany
        obtain ⟨existing, hexisting, h⟩ := List.any_eq_true.mp hany
        obtain ⟨howned, hoverlap⟩ := Bool.and_eq_true_iff.mp h
        exact hconflict ⟨net, hnet, existing, hexisting, by simpa using howned, hoverlap⟩

end WindowsRouteManager

/-- A message of Netlink and a route of IP Helper that stand for one route. -/
def SameRoute (message : RouteMessage) (route : SystemRoute) : Prop :=
  message.destinationPrefixLength.toNat = route.key.subnetPrefix.prefixLen ∧
    (route.key.subnetPrefix.prefixLen ≠ 0 → message.destination = some route.key.subnetPrefix.addr)

/-- Some route other than a default one overlaps a desired prefix. -/
def SpecificConflict (desired : List Ipv4Net) (system : List SystemRoute) : Prop :=
  ∃ net ∈ desired, ∃ existing ∈ system, existing.key.subnetPrefix.prefixLen ≠ 0 ∧
    networksOverlap existing.key.subnetPrefix net

theorem checkRouteAvailable_ok {desired : List Ipv4Net} {projectInterfaceIndex : UInt32}
    {message : RouteMessage} {route : SystemRoute} (h : SameRoute message route) :
    checkRouteAvailable desired projectInterfaceIndex [] message = .ok () ↔
      ¬(route.key.subnetPrefix.prefixLen ≠ 0 ∧
        ∃ net ∈ desired, networksOverlap route.key.subnetPrefix net) := by
  obtain ⟨hlength, hdestination⟩ := h
  have hzero : message.destinationPrefixLength = 0 ↔ route.key.subnetPrefix.prefixLen = 0 := by
    rw [← hlength, ← UInt8.toNat_inj]
    rfl
  unfold checkRouteAvailable
  by_cases hdefault : route.key.subnetPrefix.prefixLen = 0
  · rw [if_pos (hzero.mpr hdefault)]
    simp [hdefault]
  rw [if_neg (mt hzero.mp hdefault), hdestination hdefault]
  have hle : message.destinationPrefixLength.toNat ≤ 32 := hlength ▸ route.key.subnetPrefix.prefixLen_le
  simp only [dif_pos hle]
  have hnet : (⟨route.key.subnetPrefix.addr, message.destinationPrefixLength.toNat, hle⟩ : Ipv4Net) =
      route.key.subnetPrefix := by
    cases hshape : route.key.subnetPrefix with
    | mk addr prefixLen prefixLen_le =>
      rw [hshape] at hlength
      simp only [Ipv4Net.mk.injEq, true_and]
      exact hlength
  rw [hnet, guard_ok]
  simp [hdefault]

theorem ensureSubnetRoutesAvailable_ok {desired : List Ipv4Net} {projectInterfaceIndex : UInt32}
    {messages : List RouteMessage} {system : List SystemRoute}
    (h : List.Forall₂ SameRoute messages system) :
    ensureSubnetRoutesAvailable (messages.map some) desired projectInterfaceIndex [] = .ok () ↔
      ¬SpecificConflict desired system := by
  unfold ensureSubnetRoutesAvailable
  by_cases hempty : desired = []
  · rw [if_pos hempty]
    simp [SpecificConflict, hempty]
  rw [if_neg hempty]
  have hloop : ((messages.map some).forM fun
      | none => Except.error AgentError.network
      | some route => checkRouteAvailable desired projectInterfaceIndex [] route) = .ok () ↔
      ∀ existing ∈ system, ¬(existing.key.subnetPrefix.prefixLen ≠ 0 ∧
        ∃ net ∈ desired, networksOverlap existing.key.subnetPrefix net) := by
    rw [forM_ok, List.forall_mem_map]
    induction h with
    | nil => simp
    | cons hsame _ ih =>
      rw [List.forall_mem_cons, List.forall_mem_cons, ih, ← checkRouteAvailable_ok hsame]
  rw [hloop]
  constructor
  · rintro hall ⟨net, hnet, existing, hexisting, hspecific, hoverlap⟩
    exact hall existing hexisting ⟨hspecific, net, hnet, hoverlap⟩
  · rintro hnone existing hexisting ⟨hspecific, net, hnet, hoverlap⟩
    exact hnone ⟨net, hnet, existing, hexisting, hspecific, hoverlap⟩

/-- The two scans decide alike: where a route other than a default one is in the way, Windows gets to
look and finds one in the way that is not of the project; where none is, Windows finds no desired
prefix, does not get to look, or has every default route for the project's. -/
structure ScansAgree (interfaceLuid : UInt64) (desired : List Ipv4Net) (system : List SystemRoute) :
    Prop where
  refused : SpecificConflict desired system → Judged interfaceLuid desired system ∧
    ∃ existing ∈ system, ¬existing.projectOwned ∧ (existing.key.subnetPrefix.prefixLen = 0 ∨
      ∃ net ∈ desired, networksOverlap existing.key.subnetPrefix net)
  accepted : ¬SpecificConflict desired system → desired = [] ∨
    ¬Judged interfaceLuid desired system ∨
      ∀ existing ∈ system, existing.key.subnetPrefix.prefixLen = 0 → existing.projectOwned

theorem route_conflicts_agree_iff {f : Formats} {configuration : ConfigurationPayload}
    {policy : SubnetRoutePolicy} (hcompile : SubnetRoutePolicy.compile f configuration = .ok policy)
    {desired : List Ipv4Net} (hset : desired.Nodup) (hdesired : ∀ net ∈ desired, policy.containsPrefix net)
    {messages : List RouteMessage} {system : List SystemRoute}
    (hsame : List.Forall₂ SameRoute messages system) (interfaceLuid : UInt64)
    (projectInterfaceIndex : UInt32) :
    (planReconcile interfaceLuid desired [] system = .error .foreignOverlap ↔
        ensureSubnetRoutesAvailable (messages.map some) desired projectInterfaceIndex [] ≠ .ok ()) ↔
      ScansAgree interfaceLuid desired system := by
  have hsafe : ∀ net ∈ desired, safeSubnetPrefix net := fun net hnet =>
    SubnetRoutePolicy.safe_of_containsPrefix hcompile (hdesired net hnet)
  rw [planReconcile_foreignOverlap hsafe hset, ne_eq, ensureSubnetRoutesAvailable_ok hsame, not_not]
  constructor
  · intro h
    refine ⟨fun hspecific => ?_, fun hnone => ?_⟩
    · obtain ⟨hjudged, net, hnet, existing, hexisting, howned, hoverlap⟩ := h.mpr hspecific
      exact ⟨hjudged, existing, hexisting, howned, Or.inr ⟨net, hnet, hoverlap⟩⟩
    · by_contra hleft
      obtain ⟨hne, hleft⟩ := not_or.mp hleft
      obtain ⟨hjudged, hdefault⟩ := not_or.mp hleft
      push Not at hjudged hdefault
      obtain ⟨existing, hexisting, hzero, howned⟩ := hdefault
      obtain ⟨net, hnet⟩ := List.exists_mem_of_ne_nil desired hne
      exact hnone (h.mp ⟨hjudged, net, hnet, existing, hexisting, by simpa using howned,
        overlaps_default hzero⟩)
  · intro h
    constructor
    · rintro ⟨hjudged, net, hnet, existing, hexisting, howned, hoverlap⟩
      by_contra hnone
      rcases h.accepted hnone with hempty | hunjudged | hdefault
      · simp [hempty] at hnet
      · exact hunjudged hjudged
      · by_cases hzero : existing.key.subnetPrefix.prefixLen = 0
        · exact howned (hdefault existing hexisting hzero)
        · exact hnone ⟨net, hnet, existing, hexisting, hzero, hoverlap⟩
    · intro hspecific
      obtain ⟨hjudged, existing, hexisting, howned, hway⟩ := h.refused hspecific
      rcases hway with hzero | ⟨net, hnet, hoverlap⟩
      · obtain ⟨net, hnet, _⟩ := hspecific
        exact ⟨hjudged, net, hnet, existing, hexisting, howned, overlaps_default hzero⟩
      · exact ⟨hjudged, net, hnet, existing, hexisting, howned, hoverlap⟩

/-- The configuration of the sample with a subnet behind the peer. -/
def routedPayload : ConfigurationPayload :=
  { samplePayload with
    subnetRoutes := [⟨"office", "192.168.50.0/24", samplePeerNode.nodeIdBase64, .routed, "lan0", 100⟩] }

def officeNet : Ipv4Net := ⟨.new 192 168 50 0, 24, Ipv4Net.le_24⟩

/-- A default route over another interface, as Netlink and IP Helper list it. -/
def defaultRouteMessage : RouteMessage := ⟨0, .other, .other, 254, [.oif 2, .table 254]⟩

def defaultSystemRoute : SystemRoute :=
  ⟨⟨⟨.UNSPECIFIED, 0, by omega⟩, 4, .new 192 0 2 1, 25⟩, false⟩

theorem routedPayload_compiles : ∃ policy,
    SubnetRoutePolicy.compile sampleFormats routedPayload = .ok policy ∧
      policy.containsPrefix officeNet := by
  have hruns : (match SubnetRoutePolicy.compile sampleFormats routedPayload with
    | .ok policy => policy.containsPrefix officeNet
    | .error _ => false) = true := by decide +kernel
  split at hruns
  next policy hpolicy => exact ⟨policy, hpolicy, hruns⟩
  next => cases hruns

theorem sameRoute_default : SameRoute defaultRouteMessage defaultSystemRoute :=
  ⟨rfl, fun h => absurd rfl h⟩

theorem default_route_refused_on_windows_only : ∃ policy,
    SubnetRoutePolicy.compile sampleFormats routedPayload = .ok policy ∧
      policy.containsPrefix officeNet ∧ SameRoute defaultRouteMessage defaultSystemRoute ∧
      planReconcile 7 [officeNet] [] [defaultSystemRoute] = .error .foreignOverlap ∧
      ensureSubnetRoutesAvailable [some defaultRouteMessage] [officeNet] 9 [] = .ok () := by
  obtain ⟨policy, hpolicy, hcontains⟩ := routedPayload_compiles
  exact ⟨policy, hpolicy, hcontains, sameRoute_default, by decide +kernel⟩

theorem route_conflicts_agree_sample : ∃ policy,
    SubnetRoutePolicy.compile sampleFormats routedPayload = .ok policy ∧
      ((planReconcile 7 [officeNet] [] [defaultSystemRoute] = .error .foreignOverlap ↔
          ensureSubnetRoutesAvailable [some defaultRouteMessage] [officeNet] 9 [] ≠ .ok ()) ↔
        ScansAgree 7 [officeNet] [defaultSystemRoute]) := by
  obtain ⟨policy, hpolicy, hcontains⟩ := routedPayload_compiles
  refine ⟨policy, hpolicy, route_conflicts_agree_iff hpolicy (List.nodup_singleton _) ?_
    (List.Forall₂.cons sameRoute_default List.Forall₂.nil) 7 9⟩
  intro net hnet
  rw [List.mem_singleton.mp hnet]
  exact hcontains

end XsNexus
