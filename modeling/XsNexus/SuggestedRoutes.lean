import XsNexus.AdvertisedCandidates

namespace XsNexus

open ByteCodec Checks FiniteMap

theorem suggestionLt_irrefl (a : SubnetRouteSuggestion) : ¬suggestionLt a a := by
  rintro (h | ⟨_, h⟩)
  · exact strLt_irrefl _ h
  · exact strLt_irrefl _ h

theorem suggestionLt_trans {a b d : SubnetRouteSuggestion} (hab : suggestionLt a b)
    (hbd : suggestionLt b d) : suggestionLt a d := by
  rcases hab with hab | ⟨heq, hab⟩
  · rcases hbd with hbd | ⟨heq', hbd⟩
    · exact Or.inl (strLt_trans hab hbd)
    · exact Or.inl (heq' ▸ hab)
  · rcases hbd with hbd | ⟨heq', hbd⟩
    · exact Or.inl (heq ▸ hbd)
    · exact Or.inr ⟨heq.trans heq', strLt_trans hab hbd⟩

theorem eq_of_not_suggestionLt {a b : SubnetRouteSuggestion} (hab : ¬suggestionLt a b)
    (hba : ¬suggestionLt b a) : a = b := by
  obtain ⟨hnet, hname⟩ := not_or.mp hab
  obtain ⟨hnet', hname'⟩ := not_or.mp hba
  have hsame : a.subnetPrefix = b.subnetPrefix := eq_of_not_strLt hnet hnet'
  have hnames : a.interfaceName = b.interfaceName :=
    eq_of_not_strLt (fun h => hname ⟨hsame, h⟩) (fun h => hname' ⟨hsame.symm, h⟩)
  cases a
  cases b
  simp_all

/-- The suggestions of the routes, as often as they come up. -/
def suggestedRoutes (f : Formats) (discovery : SubnetRouteDiscovery) (links : List LinkMessage)
    (routes : List RouteMessage) : List SubnetRouteSuggestion :=
  routes.filterMap fun route =>
    match suggestRoute f discovery.addressPool discovery.projectInterfaceName (interfaceNames links)
        route with
    | .ok suggestion => suggestion
    | .error _ => none

theorem suggestRoute_some {f : Formats} {addressPool projectInterfaceName : String}
    {names : Map UInt32 String} {route : RouteMessage} {suggestion : SubnetRouteSuggestion}
    (h : suggestRoute f addressPool projectInterfaceName names route = .ok (some suggestion)) :
    ∃ net, validateSubnetRouteSuggestion f suggestion.subnetPrefix suggestion.interfaceName addressPool =
      .ok net := by
  unfold suggestRoute at h
  split at h
  next => simp at h
  next =>
    split at h
    next =>
      split at h
      next => simp at h
      next =>
        split at h
        next => simp at h
        next =>
          split at h
          next =>
            dsimp only at h
            split at h
            next => simp at h
            next net hnet =>
              split at h
              next => simp at h
              next =>
                cases h
                exact ⟨net, hnet⟩
          next => simp at h
    next => simp at h

/-- One route of `collect_suggestions`. -/
def collectSuggestion (f : Formats) (discovery : SubnetRouteDiscovery) (links : List LinkMessage)
    (suggestions : List SubnetRouteSuggestion) (route : RouteMessage) :
    Except AgentError (List SubnetRouteSuggestion) := do
  match ← suggestRoute f discovery.addressPool discovery.projectInterfaceName (interfaceNames links) route with
  | none => .ok suggestions
  | some suggestion => .ok (SortedSet.insert suggestionLt suggestion suggestions)

theorem collectSuggestions_ok {f : Formats} {discovery : SubnetRouteDiscovery}
    {links : List LinkMessage} {routes : List RouteMessage} {suggestions : List SubnetRouteSuggestion}
    (h : collectSuggestions f discovery.addressPool discovery.projectInterfaceName links routes =
      .ok suggestions) :
    suggestions.Pairwise suggestionLt ∧
      ∀ suggestion, suggestion ∈ suggestions ↔ suggestion ∈ suggestedRoutes f discovery links routes := by
  unfold collectSuggestions at h
  have hgeneral : ∀ {routes : List RouteMessage} {before after : List SubnetRouteSuggestion},
      before.Pairwise suggestionLt →
      routes.foldlM (collectSuggestion f discovery links) before = .ok after →
      after.Pairwise suggestionLt ∧ ∀ suggestion, suggestion ∈ after ↔
        suggestion ∈ suggestedRoutes f discovery links routes ∨ suggestion ∈ before := by
    intro routes
    induction routes with
    | nil =>
      intro before after hbefore h
      cases h
      exact ⟨hbefore, fun suggestion => by simp [suggestedRoutes]⟩
    | cons route routes ih =>
      intro before after hbefore h
      rw [List.foldlM_cons] at h
      obtain ⟨next, hnext, h⟩ := bind_ok.mp h
      obtain ⟨answer, hanswer, hnext⟩ := bind_ok.mp hnext
      unfold suggestedRoutes at ih ⊢
      rw [List.filterMap_cons, hanswer]
      cases answer with
      | none =>
        cases hnext
        exact ih hbefore h
      | some suggestion =>
        cases hnext
        have hinserted : (SortedSet.insert suggestionLt suggestion before).Pairwise suggestionLt :=
          @SortedSet.pairwise_insert _ suggestionLt _ suggestionLt_trans eq_of_not_suggestionLt suggestion
            before hbefore
        obtain ⟨hpair, hmem⟩ := ih hinserted h
        refine ⟨hpair, fun other => ?_⟩
        rw [hmem other, SortedSet.mem_insert eq_of_not_suggestionLt, List.mem_cons]
        tauto
  obtain ⟨hpair, hmem⟩ := hgeneral List.Pairwise.nil h
  exact ⟨hpair, fun suggestion => by simpa using hmem suggestion⟩

theorem validSuggestion_text {f : Formats} {subnetPrefix interfaceName addressPool : String}
    {net : Ipv4Net}
    (h : validateSubnetRouteSuggestion f subnetPrefix interfaceName addressPool = .ok net) :
    subnetPrefix = f.ipv4NetText net := by
  unfold validateSubnetRouteSuggestion at h
  split at h
  next => simp at h
  next =>
    split at h
    next => simp at h
    next =>
      obtain ⟨hguard, h⟩ := guard_ok.mp h
      obtain ⟨_, h⟩ := guard_ok.mp h
      cases h
      exact not_not.mp fun hne => hguard (Or.inl hne)

/-- Suggestions that are each valid and differ pass the scopes. -/
theorem checkSuggestions_ok {p : Platform} {addressPool : String}
    {suggestions : List SubnetRouteSuggestion} (hnodup : suggestions.Nodup)
    (hvalid : ∀ suggestion ∈ suggestions, ∃ net, validateSubnetRouteSuggestion p.formats
      suggestion.subnetPrefix suggestion.interfaceName addressPool = .ok net)
    {scopes : List (Ipv4Net × String)}
    (hfresh : ∀ suggestion ∈ suggestions, ∀ scope ∈ scopes,
      (⟨p.formats.ipv4NetText scope.1, scope.2⟩ : SubnetRouteSuggestion) ≠ suggestion) :
    ∃ scopes', suggestions.foldlM (checkSuggestion p addressPool) scopes = .ok scopes' := by
  induction suggestions generalizing scopes with
  | nil => exact ⟨scopes, rfl⟩
  | cons suggestion rest ih =>
    obtain ⟨hnew, hrest⟩ := List.nodup_cons.mp hnodup
    obtain ⟨⟨net, hnet⟩, hvalids⟩ := List.forall_mem_cons.mp hvalid
    obtain ⟨hfirst, hfreshRest⟩ := List.forall_mem_cons.mp hfresh
    have htext := validSuggestion_text hnet
    have hsuggestion : (⟨p.formats.ipv4NetText net, suggestion.interfaceName⟩ :
        SubnetRouteSuggestion) = suggestion := by
      rw [← htext]
    have hscope : (net, suggestion.interfaceName) ∉ scopes :=
      fun hmem => hfirst _ hmem hsuggestion
    have hstep : checkSuggestion p addressPool scopes suggestion =
        .ok ((net, suggestion.interfaceName) :: scopes) :=
      bind_ok.mpr ⟨net, mapError_ok.mpr hnet, if_neg hscope⟩
    have hfreshNext : ∀ other ∈ rest, ∀ scope ∈ (net, suggestion.interfaceName) :: scopes,
        (⟨p.formats.ipv4NetText scope.1, scope.2⟩ : SubnetRouteSuggestion) ≠ other := by
      intro other hother scope hmem
      rcases List.mem_cons.mp hmem with rfl | hmem
      · rw [hsuggestion]
        rintro rfl
        exact hnew hother
      · exact hfreshRest other hother scope hmem
    obtain ⟨scopes', hscopes'⟩ := ih hrest hvalids hfreshNext
    refine ⟨scopes', ?_⟩
    rw [List.foldlM_cons]
    exact bind_ok.mpr ⟨_, hstep, hscopes'⟩

theorem subnetRouteAdvertisement_accepted_iff {p : Platform} {discovery discovery' : SubnetRouteDiscovery}
    {links : List LinkMessage} {routes : List RouteMessage} {advertisement : SubnetRouteAdvertisement}
    {generated instantNow now : Int}
    (hr : discovery.refresh p.formats (some links) (some routes) generated instantNow =
      .ok (advertisement, discovery')) {authenticated : AuthenticatedNode}
    (hnetwork : authenticated.networkId = discovery.networkId)
    (hnode : authenticated.nodeIdBase64 = discovery.nodeIdBase64)
    (hnow : generated ≤ now ∧ now ≤ generated + minutes 1) :
    validateSubnetRouteAdvertisement p authenticated advertisement discovery.addressPool now = .ok () ↔
      (suggestedRoutes p.formats discovery links routes).dedup.length ≤ maxSubnetSuggestionsPerNode := by
  obtain ⟨_, hlinks, hr⟩ := bind_ok.mp hr
  cases okOr_ok.mp hlinks
  obtain ⟨_, hroutes, hr⟩ := bind_ok.mp hr
  cases okOr_ok.mp hroutes
  obtain ⟨suggestions, hcollected, hr⟩ := bind_ok.mp hr
  cases hr
  obtain ⟨hpair, hmem⟩ := collectSuggestions_ok hcollected
  have hcount := SortedSet.length_eq_dedup suggestionLt_irrefl hpair hmem
  rw [← hcount]
  constructor
  · intro h
    obtain ⟨hguard, _⟩ := guard_ok.mp h
    simp only [not_or] at hguard
    exact Nat.not_lt.mp hguard.2.2.2.2.1
  · intro hfew
    have hvalid : ∀ suggestion ∈ suggestions, ∃ net, validateSubnetRouteSuggestion p.formats
        suggestion.subnetPrefix suggestion.interfaceName discovery.addressPool = .ok net := by
      intro suggestion hsuggestion
      obtain ⟨route, _, hroute⟩ := List.mem_filterMap.mp ((hmem suggestion).mp hsuggestion)
      split at hroute
      next answer hanswer =>
        cases hroute
        exact suggestRoute_some hanswer
      next => simp at hroute
    obtain ⟨scopes, hscopes⟩ := checkSuggestions_ok (SortedSet.nodup_of_pairwise suggestionLt_irrefl hpair)
      hvalid fun _ _ _ hscope => absurd hscope List.not_mem_nil
    refine guard_ok.mpr ⟨?_, bind_ok.mpr ⟨scopes, hscopes, rfl⟩⟩
    have htimes : now + seconds 30 < generated + subnetAdvertisementLifetime ∧
        generated + subnetAdvertisementLifetime ≤ now + minutes 15 ∧ now - minutes 5 ≤ generated ∧
        generated ≤ now + minutes 5 := by
      unfold subnetAdvertisementLifetime
      unfold minutes seconds at *
      omega
    dsimp only
    rintro (h | h | h | h | h | h | h | h | h | h)
    · exact h rfl
    · exact h hnetwork.symm
    · exact h hnode.symm
    · exact clockGeneration_ne_zero _ _ h
    · omega
    · omega
    · omega
    · omega
    · omega
    · obtain ⟨pair, hpairs, hlt⟩ := List.any_eq_true.mp h
      have hordered := zip_tail_of_pairwise hpair pair hpairs
      simp [hordered] at hlt

theorem routesSound {f : Formats} {state : NodeState} {discovery : SubnetRouteDiscovery}
    (h : ReachableRoutes f state discovery) :
    discovery.networkId = state.networkId ∧ discovery.nodeIdBase64 = state.nodeIdBase64 ∧
      discovery.addressPool = state.configurationPayload.addressPool := by
  induction h with
  | new hs =>
    unfold SubnetRouteDiscovery.new at hs
    split at hs
    next => simp at hs
    next =>
      cases hs
      exact ⟨rfl, rfl, rfl⟩
  | refresh _ hs ih =>
    obtain ⟨_, _, hs⟩ := bind_ok.mp hs
    obtain ⟨_, _, hs⟩ := bind_ok.mp hs
    obtain ⟨_, _, hs⟩ := bind_ok.mp hs
    cases hs
    exact ih

end XsNexus
