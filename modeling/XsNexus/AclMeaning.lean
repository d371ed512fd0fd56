import XsNexus.Acl
import XsNexus.PrefixSpelling

namespace XsNexus

open Checks FiniteMap

/-- A connection a policy is asked about. -/
structure Flow where
  source : Ipv4Addr
  destination : Ipv4Addr
  protocol : AclProtocol
  destinationPort : Option UInt16

def ConfigurationNode.subject (node : ConfigurationNode) : AclSubject :=
  ⟨.node node.nodeIdBase64 node.groups node.tags⟩

/-- What an address stands for in a configuration: the node that has it, or else the subnet around it. -/
inductive Resolves (f : Formats) (configuration : ConfigurationPayload) (address : Ipv4Addr) :
    AclSubject → Prop
  | node {node : ConfigurationNode} : node ∈ configuration.nodes →
      parseIpv4Addr node.virtualIp = some address → Resolves f configuration address node.subject
  | subnet {route : ConfigurationSubnetRoute} {net : Ipv4Net} :
      (∀ node ∈ configuration.nodes, parseIpv4Addr node.virtualIp ≠ some address) →
      route ∈ configuration.subnetRoutes → f.ipv4Net route.subnetPrefix = some net →
      address ∈ net.addresses → Resolves f configuration address ⟨.subnet route.subnetPrefix⟩

/-- The subjects a selector stands for. -/
def AclSelector.Covers (subject : AclSubject) : AclSelector → Prop
  | .any => True
  | .node nodeIdBase64 => ∃ groups tags, subject.kind = .node nodeIdBase64 groups tags
  | .group name => ∃ nodeIdBase64 groups tags, subject.kind = .node nodeIdBase64 groups tags ∧ name ∈ groups
  | .tag name => ∃ nodeIdBase64 groups tags, subject.kind = .node nodeIdBase64 groups tags ∧ name ∈ tags
  | .subnet cidr => subject.kind = .subnet cidr

/-- A rule speaks about a flow between two subjects. -/
structure AclRule.Matches (rule : AclRule) (source destination : AclSubject) (flow : Flow) : Prop where
  sources : ∃ selector ∈ rule.sources, selector.Covers source
  destinations : ∃ selector ∈ rule.destinations, selector.Covers destination
  protocol : rule.protocol = .any ∨ rule.protocol = flow.protocol
  port : rule.destinationPorts = [] ∨ ∃ port ∈ flow.destinationPort,
    ∃ range ∈ rule.destinationPorts, range.start ≤ port ∧ port ≤ range.end

def FlowMatches (f : Formats) (configuration : ConfigurationPayload) (flow : Flow) (rule : AclRule) :
    Prop :=
  ∃ source destination, Resolves f configuration flow.source source ∧
    Resolves f configuration flow.destination destination ∧ rule.Matches source destination flow

/-- No other rule for the flow has a higher priority, or the same and a smaller id. -/
structure BestRule (f : Formats) (configuration : ConfigurationPayload) (flow : Flow) (rule : AclRule) :
    Prop where
  mem : rule ∈ configuration.policies
  holds : FlowMatches f configuration flow rule
  best : ∀ other ∈ configuration.policies, FlowMatches f configuration flow other →
    ¬(rule.priority < other.priority ∨ (other.priority = rule.priority ∧ strLt other.id rule.id))

section Matching

theorem selectorMatches_iff {subject : AclSubject} {selector : AclSelector} :
    selectorMatches subject selector = true ↔ selector.Covers subject := by
  obtain ⟨kind⟩ := subject
  cases selector <;> cases kind <;> simp [selectorMatches, AclSelector.Covers, eq_comm]

theorem selectorsMatch_iff {selectors : List AclSelector} {subject : AclSubject} :
    selectorsMatch selectors subject = true ↔ ∃ selector ∈ selectors, selector.Covers subject := by
  unfold selectorsMatch
  rw [List.any_eq_true]
  simp only [selectorMatches_iff]

theorem protocolMatches_iff {rule packet : AclProtocol} :
    protocolMatches rule packet = true ↔ rule = .any ∨ rule = packet := by
  cases rule <;> cases packet <;> simp [protocolMatches]

theorem portMatches_iff {rule : AclRule} {destinationPort : Option UInt16} :
    portMatches rule destinationPort = true ↔ rule.destinationPorts = [] ∨
      ∃ port ∈ destinationPort, ∃ range ∈ rule.destinationPorts, range.start ≤ port ∧ port ≤ range.end := by
  unfold portMatches PortRange.contains
  cases destinationPort <;> simp

/-- The test of the loop of `evaluate`. -/
def flowTest (source destination : AclSubject) (flow : Flow) (rule : AclRule) : Bool :=
  selectorsMatch rule.sources source && selectorsMatch rule.destinations destination &&
    protocolMatches rule.protocol flow.protocol && portMatches rule flow.destinationPort

theorem flowTest_iff {source destination : AclSubject} {flow : Flow} {rule : AclRule} :
    flowTest source destination flow rule = true ↔ rule.Matches source destination flow := by
  unfold flowTest
  rw [Bool.and_eq_true, Bool.and_eq_true, Bool.and_eq_true, selectorsMatch_iff, selectorsMatch_iff,
    protocolMatches_iff, portMatches_iff]
  constructor
  · rintro ⟨⟨⟨hsources, hdestinations⟩, hprotocol⟩, hport⟩
    exact ⟨hsources, hdestinations, hprotocol, hport⟩
  · intro h
    exact ⟨⟨⟨h.sources, h.destinations⟩, h.protocol⟩, h.port⟩

end Matching

/-- The order of the rules of a policy. -/
def RuleBefore (left right : AclRule) : Prop :=
  right.priority < left.priority ∨ (left.priority = right.priority ∧ strLt left.id right.id)

theorem RuleBefore.trans {a b c : AclRule} (hab : RuleBefore a b) (hbc : RuleBefore b c) :
    RuleBefore a c := by
  unfold RuleBefore at *
  rcases hab with hab | ⟨hab, hid⟩
  · rcases hbc with hbc | ⟨hbc, _⟩
    · exact Or.inl (UInt32.lt_trans hbc hab)
    · rw [← hbc]
      exact Or.inl hab
  · rw [hab]
    rcases hbc with hbc | ⟨hbc, hid'⟩
    · exact Or.inl hbc
    · exact Or.inr ⟨hbc, strLt_trans hid hid'⟩

instance : Trans RuleBefore RuleBefore RuleBefore := ⟨RuleBefore.trans⟩

theorem RuleBefore.asymm {a b : AclRule} (hab : RuleBefore a b) : ¬RuleBefore b a := by
  intro hba
  rcases hab.trans hba with hlt | ⟨_, hid⟩
  · exact UInt32.lt_irrefl _ hlt
  · exact strLt_irrefl _ hid

namespace AclPolicy

section Loops

variable {f : Formats}

theorem insertSubject_ok {subjects subjects' : Map Ipv4Addr AclSubject} {node : ConfigurationNode}
    (h : insertSubject subjects node = .ok subjects') :
    ∃ virtualIp, parseIpv4Addr node.virtualIp = some virtualIp ∧ subjects.lookup virtualIp = none ∧
      subjects' = subjects.insert virtualIp node.subject := by
  unfold insertSubject at h
  split at h
  next => simp at h
  next virtualIp hparse =>
    obtain ⟨hguard, h⟩ := guard_ok.mp h
    cases h
    refine ⟨virtualIp, hparse, ?_, rfl⟩
    cases hlookup : subjects.lookup virtualIp with
    | none => rfl
    | some subject => exact absurd (Or.inr (Or.inr (mem_iff_lookup.mpr ⟨subject, hlookup⟩))) hguard

theorem lookup_insertSubjects {nodes : List ConfigurationNode}
    {subjects subjects' : Map Ipv4Addr AclSubject}
    (h : nodes.foldlM insertSubject subjects = .ok subjects') {address : Ipv4Addr}
    {subject : AclSubject} :
    subjects'.lookup address = some subject ↔ subjects.lookup address = some subject ∨
      ∃ node ∈ nodes, parseIpv4Addr node.virtualIp = some address ∧ node.subject = subject := by
  induction nodes generalizing subjects with
  | nil =>
    cases h
    simp
  | cons node nodes ih =>
    rw [List.foldlM_cons] at h
    obtain ⟨next, hnext, hrest⟩ := bind_ok.mp h
    obtain ⟨virtualIp, hparse, hfree, rfl⟩ := insertSubject_ok hnext
    rw [ih hrest, lookup_insert_eq]
    constructor
    · intro hcases
      rcases hcases with hnow | ⟨other, hother, hat, hsubject⟩
      · by_cases hsame : virtualIp = address
        · subst hsame
          rw [if_pos rfl] at hnow
          exact Or.inr ⟨node, List.mem_cons_self, hparse, Option.some.inj hnow⟩
        · rw [if_neg (by simpa [eq_comm] using hsame)] at hnow
          exact Or.inl hnow
      · exact Or.inr ⟨other, List.mem_cons_of_mem _ hother, hat, hsubject⟩
    · intro hcases
      rcases hcases with hbefore | ⟨other, hother, hat, hsubject⟩
      · have hne : virtualIp ≠ address := by
          intro heq
          rw [← heq, hfree] at hbefore
          cases hbefore
        rw [if_neg (by simpa [eq_comm] using hne)]
        exact Or.inl hbefore
      · rcases List.mem_cons.mp hother with rfl | hother
        · rw [hparse] at hat
          rw [if_pos (by simpa [eq_comm] using Option.some.inj hat), hsubject]
          exact Or.inl rfl
        · exact Or.inr ⟨other, hother, hat, hsubject⟩

/-- The subnets a policy knows are those of the routes. -/
structure SubnetSubjects (f : Formats) (routes : List ConfigurationSubnetRoute)
    (subjects : List (Ipv4Net × AclSubject)) : Prop where
  sound : ∀ entry ∈ subjects, ∃ route ∈ routes, f.ipv4Net route.subnetPrefix = some entry.1 ∧
    entry.2 = ⟨.subnet route.subnetPrefix⟩
  complete : ∀ route ∈ routes, ∀ net, f.ipv4Net route.subnetPrefix = some net →
    ∃ subject, (net, subject) ∈ subjects

theorem subnetSubjects_insert {routes : List ConfigurationSubnetRoute}
    {subjects subjects' : List (Ipv4Net × AclSubject)} {route : ConfigurationSubnetRoute}
    (hsubjects : SubnetSubjects f routes subjects)
    (h : insertSubnetSubject f subjects route = .ok subjects') :
    SubnetSubjects f (routes ++ [route]) subjects' := by
  unfold insertSubnetSubject at h
  split at h
  next => simp at h
  next net hnet =>
    split at h
    next hknown =>
      cases h
      refine ⟨fun entry hentry => ?_, fun other hother net' hnet' => ?_⟩
      · obtain ⟨other, hother, hrest⟩ := hsubjects.sound entry hentry
        exact ⟨other, List.mem_append_left _ hother, hrest⟩
      · rcases List.mem_append.mp hother with hother | hlast
        · exact hsubjects.complete other hother net' hnet'
        · rw [List.mem_singleton.mp hlast, hnet] at hnet'
          obtain ⟨⟨known, subject⟩, hmem, heq⟩ := List.mem_map.mp hknown
          rw [← Option.some.inj hnet', ← heq]
          exact ⟨subject, hmem⟩
    next =>
      cases h
      refine ⟨fun entry hentry => ?_, fun other hother net' hnet' => ?_⟩
      · rcases List.mem_append.mp hentry with hentry | hlast
        · obtain ⟨other, hother, hrest⟩ := hsubjects.sound entry hentry
          exact ⟨other, List.mem_append_left _ hother, hrest⟩
        · rw [List.mem_singleton.mp hlast]
          exact ⟨route, List.mem_append_right _ List.mem_cons_self, hnet, rfl⟩
      · rcases List.mem_append.mp hother with hother | hlast
        · obtain ⟨subject, hmem⟩ := hsubjects.complete other hother net' hnet'
          exact ⟨subject, List.mem_append_left _ hmem⟩
        · rw [List.mem_singleton.mp hlast, hnet] at hnet'
          rw [← Option.some.inj hnet']
          exact ⟨_, List.mem_append_right _ List.mem_cons_self⟩

theorem subnetSubjects_foldlM {before routes : List ConfigurationSubnetRoute}
    {subjects subjects' : List (Ipv4Net × AclSubject)} (hsubjects : SubnetSubjects f before subjects)
    (h : routes.foldlM (insertSubnetSubject f) subjects = .ok subjects') :
    SubnetSubjects f (before ++ routes) subjects' := by
  induction routes generalizing before subjects with
  | nil =>
    cases h
    rw [List.append_nil]
    exact hsubjects
  | cons route routes ih =>
    rw [List.foldlM_cons] at h
    obtain ⟨next, hnext, hrest⟩ := bind_ok.mp h
    have hlast := ih (subnetSubjects_insert hsubjects hnext) hrest
    rw [List.append_assoc] at hlast
    exact hlast

theorem checkRule_ok {subnetRoutes : SubnetRoutePolicy} {progress progress' : Option AclRule × List String}
    {rule : AclRule} (h : checkRule f subnetRoutes progress rule = .ok progress') :
    (∀ previous ∈ progress.1, RuleBefore previous rule) ∧ progress'.1 = some rule := by
  obtain ⟨previous, ruleIds⟩ := progress
  unfold checkRule at h
  obtain ⟨horder, h⟩ := guard_ok.mp h
  obtain ⟨_, h⟩ := guard_ok.mp h
  obtain ⟨_, _, h⟩ := bind_ok.mp h
  cases h
  refine ⟨fun last hlast => ?_, rfl⟩
  cases hlast
  simp only [Option.any_some, decide_eq_true_eq, not_or, not_and, not_not] at horder
  obtain ⟨hpriority, hid⟩ := horder
  by_cases hsame : last.priority = rule.priority
  · exact Or.inr ⟨hsame, hid hsame⟩
  · refine Or.inl ?_
    have hvalues : last.priority.toNat ≠ rule.priority.toNat := fun heq =>
      hsame (UInt32.toNat_inj.mp heq)
    rw [UInt32.lt_iff_toNat_lt] at hpriority ⊢
    omega

theorem rules_isChain {subnetRoutes : SubnetRoutePolicy} {rules : List AclRule}
    {progress progress' : Option AclRule × List String}
    (h : rules.foldlM (checkRule f subnetRoutes) progress = .ok progress') :
    (progress.1.toList ++ rules).IsChain RuleBefore := by
  induction rules generalizing progress with
  | nil =>
    cases progress.1 with
    | none => exact List.IsChain.nil
    | some previous => exact List.IsChain.singleton previous
  | cons rule rules ih =>
    rw [List.foldlM_cons] at h
    obtain ⟨next, hnext, hrest⟩ := bind_ok.mp h
    obtain ⟨hbefore, hlast⟩ := checkRule_ok hnext
    have hchain := ih hrest
    rw [hlast] at hchain
    cases hprevious : progress.1 with
    | none => exact hchain
    | some previous => exact List.isChain_cons_cons.mpr ⟨hbefore previous hprevious, hchain⟩

end Loops

section Compiled

variable {f : Formats} {configuration : ConfigurationPayload} {policy : AclPolicy}

/-- A policy as `compile` makes it from a configuration. -/
structure Compiled (f : Formats) (configuration : ConfigurationPayload) (policy : AclPolicy) : Prop where
  rules : policy.rules = configuration.policies
  sorted : configuration.policies.Pairwise RuleBefore
  nodes : ∀ address subject, policy.subjects.lookup address = some subject ↔
    ∃ node ∈ configuration.nodes, parseIpv4Addr node.virtualIp = some address ∧ node.subject = subject
  subnets : SubnetSubjects f configuration.subnetRoutes policy.subnetSubjects
  routes : ∃ pool routes, SubnetRoutePolicy.Compiled f configuration pool routes

theorem compiled_of_compile (h : compile f configuration = .ok policy) :
    Compiled f configuration policy := by
  obtain ⟨_, h⟩ := guard_ok.mp h
  obtain ⟨_, h⟩ := guard_ok.mp h
  obtain ⟨subjects, hsubjects, h⟩ := bind_ok.mp h
  obtain ⟨subnetRoutes, hroutes, h⟩ := bind_ok.mp h
  obtain ⟨subnetSubjects, hsubnets, h⟩ := bind_ok.mp h
  obtain ⟨_, hrules, h⟩ := bind_ok.mp h
  cases h
  obtain ⟨pool, hcompiled⟩ := SubnetRoutePolicy.compiled_of_compile (mapError_ok.mp hroutes)
  refine ⟨rfl, (rules_isChain hrules).pairwise, fun address subject => ?_, ?_, pool, subnetRoutes, hcompiled⟩
  · rw [lookup_insertSubjects hsubjects]
    simp
  · have hempty : SubnetSubjects f [] [] := ⟨by simp, by simp⟩
    exact subnetSubjects_foldlM hempty hsubnets

/-- `subject` finds what an address stands for, in whichever order nodes and routes are listed. -/
theorem subject_eq_some_iff (h : Compiled f configuration policy) {address : Ipv4Addr}
    {subject : AclSubject} :
    policy.subject address = some subject ↔ Resolves f configuration address subject := by
  obtain ⟨pool, routes, hroutes⟩ := h.routes
  unfold AclPolicy.subject
  cases hlookup : policy.subjects.lookup address with
  | some found =>
    obtain ⟨node, hnode, hat, rfl⟩ := (h.nodes address found).mp hlookup
    constructor
    · intro heq
      cases Option.some.inj heq
      exact Resolves.node hnode hat
    · intro hresolves
      cases hresolves with
      | node hother hthere =>
        have hsame := (h.nodes address _).mpr ⟨_, hother, hthere, rfl⟩
        rw [hlookup] at hsame
        exact hsame
      | subnet hfree _ _ _ => exact absurd hat (hfree node hnode)
  | none =>
    have hfree : ∀ node ∈ configuration.nodes, parseIpv4Addr node.virtualIp ≠ some address := by
      intro node hnode hat
      have hsome := (h.nodes address _).mpr ⟨node, hnode, hat, rfl⟩
      rw [hlookup] at hsome
      cases hsome
    rw [Option.none_or]
    constructor
    · intro hfound
      obtain ⟨entry, hentry, rfl⟩ := Option.map_eq_some_iff.mp hfound
      obtain ⟨route, hroute, hnet, hsubject⟩ := h.subnets.sound entry (List.mem_of_find?_eq_some hentry)
      have hcovers := List.find?_some hentry
      rw [hsubject]
      exact Resolves.subnet hfree hroute hnet hcovers
    · intro hresolves
      cases hresolves with
      | node hother hthere => exact absurd hthere (hfree _ hother)
      | @subnet route net _ hroute hnet hcovers =>
        obtain ⟨known, hknown⟩ := h.subnets.complete route hroute net hnet
        cases hfind : policy.subnetSubjects.find? fun entry => entry.1.contains address with
        | none => exact absurd hcovers (List.find?_eq_none.mp hfind _ hknown)
        | some entry =>
          obtain ⟨other, hother, hnet', hsubject⟩ :=
            h.subnets.sound entry (List.mem_of_find?_eq_some hfind)
          have hcovers' := List.find?_some hfind
          -- both routes are routes to the address, so they have one prefix and one text
          obtain ⟨left, hleft, hleftRow⟩ := hroutes.of_route hroute
          obtain ⟨right, hright, hrightRow⟩ := hroutes.of_route hother
          have hl := Option.some.inj (hleftRow.parsed.symm.trans hnet)
          have hr := Option.some.inj (hrightRow.parsed.symm.trans hnet')
          have hprefix : left.subnetPrefix = right.subnetPrefix :=
            hroutes.ordered.prefix_eq hleft hright (by rw [hl]; exact hcovers) (by rw [hr]; exact hcovers')
          have htext : other.subnetPrefix = route.subnetPrefix := by
            rw [hleftRow.spelled, hrightRow.spelled, hprefix]
          rw [Option.map_some, hsubject, htext]

theorem bestRule_iff (h : Compiled f configuration policy) {flow : Flow} {source destination : AclSubject}
    (hsource : policy.subject flow.source = some source)
    (hdestination : policy.subject flow.destination = some destination) {rule : AclRule} :
    policy.rules.find? (flowTest source destination flow) = some rule ↔
      BestRule f configuration flow rule := by
  have hmatches : ∀ rule : AclRule, FlowMatches f configuration flow rule ↔
      flowTest source destination flow rule = true := by
    intro rule
    rw [flowTest_iff]
    constructor
    · rintro ⟨source', destination', hsource', hdestination', hmatches⟩
      have hs := (subject_eq_some_iff h).mpr hsource'
      have hd := (subject_eq_some_iff h).mpr hdestination'
      rw [hsource] at hs
      rw [hdestination] at hd
      cases hs
      cases hd
      exact hmatches
    · intro hmatches
      exact ⟨source, destination, (subject_eq_some_iff h).mp hsource,
        (subject_eq_some_iff h).mp hdestination, hmatches⟩
  rw [h.rules, FirstMatch.find?_eq_some_iff h.sorted fun _ _ => RuleBefore.asymm]
  constructor
  · intro hbest
    refine ⟨hbest.mem, (hmatches rule).mpr hbest.holds, fun other hother hflow hbefore => ?_⟩
    rcases hbest.best other hother ((hmatches other).mp hflow) with rfl | hrule
    · exact RuleBefore.asymm hbefore hbefore
    · exact hrule.asymm hbefore
  · intro hbest
    refine ⟨hbest.mem, (hmatches rule).mp hbest.holds, fun other hother hflow => ?_⟩
    by_cases hsame : other = rule
    · exact Or.inl hsame
    · have hnot := hbest.best other hother ((hmatches other).mpr hflow)
      rcases FirstMatch.related_of_pairwise h.sorted hother hbest.mem hsame with hbefore | hafter
      · exact absurd hbefore hnot
      · exact Or.inr hafter

theorem BestRule.unique (h : Compiled f configuration policy) {flow : Flow} {left right : AclRule}
    (hleft : BestRule f configuration flow left) (hright : BestRule f configuration flow right) :
    left = right := by
  obtain ⟨source, destination, hsource, hdestination, _⟩ := hleft.holds
  have hs := (subject_eq_some_iff h).mpr hsource
  have hd := (subject_eq_some_iff h).mpr hdestination
  exact Option.some.inj (((bestRule_iff h hs hd).mpr hleft).symm.trans ((bestRule_iff h hs hd).mpr hright))

theorem evaluate_of_subjects {flow : Flow} {source destination : AclSubject}
    (hsource : policy.subject flow.source = some source)
    (hdestination : policy.subject flow.destination = some destination) :
    policy.evaluate flow.source flow.destination flow.protocol flow.destinationPort =
      match policy.rules.find? (flowTest source destination flow) with
      | some rule => ⟨decide (rule.action = .allow), some rule.id, .ruleMatch⟩
      | none => denied .defaultDeny := by
  unfold evaluate
  rw [hsource, hdestination]
  rfl

/-- What a policy says about a flow. -/
theorem evaluate_cases (h : Compiled f configuration policy) (flow : Flow) :
    (∃ rule, BestRule f configuration flow rule ∧
        policy.evaluate flow.source flow.destination flow.protocol flow.destinationPort =
          ⟨decide (rule.action = .allow), some rule.id, .ruleMatch⟩) ∨
      ((¬∃ rule, BestRule f configuration flow rule) ∧ ∃ reason,
        policy.evaluate flow.source flow.destination flow.protocol flow.destinationPort = denied reason) := by
  cases hsource : policy.subject flow.source with
  | none =>
    refine Or.inr ⟨?_, .unknownSource, ?_⟩
    · rintro ⟨rule, hbest⟩
      obtain ⟨source, _, hresolves, _⟩ := hbest.holds
      have hsome := (subject_eq_some_iff h).mpr hresolves
      rw [hsource] at hsome
      cases hsome
    · unfold evaluate
      rw [hsource]
  | some source =>
    cases hdestination : policy.subject flow.destination with
    | none =>
      refine Or.inr ⟨?_, .unknownDestination, ?_⟩
      · rintro ⟨rule, hbest⟩
        obtain ⟨_, destination, _, hresolves, _⟩ := hbest.holds
        have hsome := (subject_eq_some_iff h).mpr hresolves
        rw [hdestination] at hsome
        cases hsome
      · unfold evaluate
        rw [hsource, hdestination]
    | some destination =>
      rw [evaluate_of_subjects hsource hdestination]
      cases hfind : policy.rules.find? (flowTest source destination flow) with
      | some rule => exact Or.inl ⟨rule, (bestRule_iff h hsource hdestination).mp hfind, rfl⟩
      | none =>
        refine Or.inr ⟨?_, .defaultDeny, rfl⟩
        rintro ⟨rule, hbest⟩
        have hsome := (bestRule_iff h hsource hdestination).mpr hbest
        rw [hfind] at hsome
        cases hsome

theorem resolves_perm {nodes : List ConfigurationNode} {routes : List ConfigurationSubnetRoute}
    (hnodes : nodes.Perm configuration.nodes) (hroutes : routes.Perm configuration.subnetRoutes)
    {address : Ipv4Addr} {subject : AclSubject} :
    Resolves f { configuration with nodes := nodes, subnetRoutes := routes } address subject ↔
      Resolves f configuration address subject := by
  constructor
  · intro h
    cases h with
    | node hmem hat => exact Resolves.node (hnodes.mem_iff.mp hmem) hat
    | subnet hfree hmem hnet hcovers =>
      exact Resolves.subnet (fun node hnode => hfree node (hnodes.mem_iff.mpr hnode))
        (hroutes.mem_iff.mp hmem) hnet hcovers
  · intro h
    cases h with
    | node hmem hat => exact Resolves.node (hnodes.mem_iff.mpr hmem) hat
    | subnet hfree hmem hnet hcovers =>
      exact Resolves.subnet (fun node hnode => hfree node (hnodes.mem_iff.mp hnode))
        (hroutes.mem_iff.mpr hmem) hnet hcovers

theorem evaluate_perm (h : Compiled f configuration policy) {nodes : List ConfigurationNode}
    {routes : List ConfigurationSubnetRoute} (hnodes : nodes.Perm configuration.nodes)
    (hroutes : routes.Perm configuration.subnetRoutes) {policy' : AclPolicy}
    (h' : Compiled f { configuration with nodes := nodes, subnetRoutes := routes } policy') :
    policy'.evaluate = policy.evaluate := by
  have hsubject : policy'.subject = policy.subject := by
    funext address
    apply Option.ext
    intro subject
    show policy'.subject address = some subject ↔ policy.subject address = some subject
    rw [subject_eq_some_iff h', subject_eq_some_iff h]
    exact resolves_perm hnodes hroutes
  have hrules : policy'.rules = policy.rules := by rw [h'.rules, h.rules]
  funext source destination protocol destinationPort
  unfold evaluate
  rw [hsubject, hrules]

/-- A policy allows what the best rule for a flow allows, and nothing else. -/
theorem evaluate_meaning (h : compile f configuration = .ok policy) (flow : Flow) :
    ((policy.evaluate flow.source flow.destination flow.protocol flow.destinationPort).allowed = true ↔
        ∃ rule, BestRule f configuration flow rule ∧ rule.action = .allow) ∧
      (∀ id, (policy.evaluate flow.source flow.destination flow.protocol
            flow.destinationPort).matchedRuleId = some id ↔
          ∃ rule, BestRule f configuration flow rule ∧ rule.id = id) ∧
      (∀ left right, BestRule f configuration flow left → BestRule f configuration flow right →
        left = right) ∧
      ((∀ rule ∈ configuration.policies, ¬FlowMatches f configuration flow rule) →
        (policy.evaluate flow.source flow.destination flow.protocol flow.destinationPort).allowed = false ∧
          (policy.evaluate flow.source flow.destination flow.protocol
            flow.destinationPort).matchedRuleId = none) ∧
      ∀ (nodes : List ConfigurationNode) (routes : List ConfigurationSubnetRoute) (policy' : AclPolicy),
        nodes.Perm configuration.nodes → routes.Perm configuration.subnetRoutes →
          compile f { configuration with nodes := nodes, subnetRoutes := routes } = .ok policy' →
          policy'.evaluate = policy.evaluate := by
  have hcompiled := compiled_of_compile h
  have hcases := evaluate_cases hcompiled flow
  refine ⟨?_, ?_, fun _ _ => BestRule.unique hcompiled, ?_, ?_⟩
  · rcases hcases with ⟨rule, hbest, hdecision⟩ | ⟨hnone, reason, hdecision⟩
    · rw [hdecision]
      constructor
      · intro hallow
        exact ⟨rule, hbest, of_decide_eq_true hallow⟩
      · rintro ⟨other, hother, hallow⟩
        rw [BestRule.unique hcompiled hother hbest] at hallow
        exact decide_eq_true hallow
    · rw [hdecision]
      constructor
      · intro hallow
        cases hallow
      · rintro ⟨rule, hbest, _⟩
        exact absurd ⟨rule, hbest⟩ hnone
  · intro id
    rcases hcases with ⟨rule, hbest, hdecision⟩ | ⟨hnone, reason, hdecision⟩
    · rw [hdecision]
      constructor
      · intro hid
        exact ⟨rule, hbest, Option.some.inj hid⟩
      · rintro ⟨other, hother, hid⟩
        rw [BestRule.unique hcompiled hother hbest] at hid
        exact congrArg some hid
    · rw [hdecision]
      constructor
      · intro hid
        cases hid
      · rintro ⟨rule, hbest, _⟩
        exact absurd ⟨rule, hbest⟩ hnone
  · intro hfree
    rcases hcases with ⟨rule, hbest, _⟩ | ⟨_, reason, hdecision⟩
    · exact absurd hbest.holds (hfree rule hbest.mem)
    · rw [hdecision]
      exact ⟨rfl, rfl⟩
  · intro nodes routes policy' hnodes hroutes h'
    exact evaluate_perm hcompiled hnodes hroutes (compiled_of_compile h')

end Compiled

/-- The office subnet may be asked for its web pages, and nothing else is allowed. -/
def guardedPayload : ConfigurationPayload :=
  { routedPayload with
    policies := [
      ⟨"office-web", 20, .allow, [.any], [.subnet "192.168.50.0/24"], .tcp, [⟨80, 443⟩]⟩,
      ⟨"rest", 10, .deny, [.any], [.any], .any, []⟩] }

def officeFlow : Flow := ⟨.new 100 88 0 10, .new 192 168 50 7, .tcp, some 80⟩

theorem evaluate_meaning_office : ∃ policy, compile sampleFormats guardedPayload = .ok policy ∧
    ∃ rule, BestRule sampleFormats guardedPayload officeFlow rule ∧ rule.action = .allow := by
  have hruns : (match compile sampleFormats guardedPayload with
    | .ok policy => (policy.evaluate officeFlow.source officeFlow.destination officeFlow.protocol
        officeFlow.destinationPort).allowed
    | .error _ => false) = true := by decide +kernel
  split at hruns
  next policy hpolicy => exact ⟨policy, hpolicy, (evaluate_meaning hpolicy officeFlow).1.mp hruns⟩
  next => cases hruns

end AclPolicy

end XsNexus
