import XsNexus.CanonicalPolicies
import XsNexus.PublishedSizes

namespace XsNexus

open ByteCodec Checks FiniteMap

variable {p : Platform} {state : AppState} {db db' : Database} {networkId : Uuid} {times : Times}

/-- Rules in the order of the agents, each valid whatever the routes, that name no node, group or tag -/
structure PlainRules (f : Formats) (rules : List AclRule) : Prop where
  count : rules.length ≤ maxRules
  canonical : ∀ rule ∈ rules, canonicalRule rule = rule
  strict : rules.Pairwise RuleBefore
  ids : (rules.map AclRule.id).Nodup
  anyone : ∀ rule ∈ rules, rule.sources = [.any] ∧ rule.destinations = [.any]
  valid : ∀ rule ∈ rules, ∀ routes, validateRule f rule routes = .ok ()

variable {rules : List AclRule}

theorem PlainRules.canonicalRules_eq (h : PlainRules p.formats rules) : canonicalRules rules = rules := by
  have hmap : rules.map canonicalRule = rules := by
    refine (List.map_congr_left h.canonical).trans ?_
    exact List.map_id rules
  rw [XsNexus.canonicalRules_eq, hmap]
  exact List.Pairwise.insertionSort_eq (h.strict.imp fun hbefore => (aclRuleLe_of_before hbefore).1)

theorem PlainRules.references (h : PlainRules p.formats rules) {groups : List AclGroupRequest}
    {ids : Map String Uuid} {nodes : List NodeRow} {routes : List ConfigurationSubnetRoute} :
    validatePolicyReferences rules groups ids nodes routes = .ok () := by
  refine if_pos (List.all_eq_true.mpr fun selector hselector => ?_)
  obtain ⟨rule, hrule, hmem⟩ := List.mem_flatMap.mp hselector
  obtain ⟨hsources, hdestinations⟩ := h.anyone rule hrule
  rw [hsources, hdestinations] at hmem
  have hany : selector = .any := by simpa using hmem
  rw [hany]
  rfl

theorem PlainRules.compiles {f : Formats} (h : PlainRules f rules) {configuration : ConfigurationPayload}
    {policy : AclPolicy} (hcompile : AclPolicy.compile f configuration = .ok policy) :
    ∃ policy', AclPolicy.compile f { configuration with policies := rules } = .ok policy' := by
  obtain ⟨hversion, hcompile⟩ := guard_ok.mp hcompile
  obtain ⟨_, hcompile⟩ := guard_ok.mp hcompile
  obtain ⟨subjects, hsubjects, hcompile⟩ := bind_ok.mp hcompile
  obtain ⟨subnetRoutes, hroutes, hcompile⟩ := bind_ok.mp hcompile
  obtain ⟨subnetSubjects, hsubnets, _⟩ := bind_ok.mp hcompile
  obtain ⟨last, hrules⟩ := (@checkRules_ok_iff f subnetRoutes rules (none, [])).mpr
    ⟨h.strict, h.ids, fun rule hrule => ⟨List.not_mem_nil, h.valid rule hrule subnetRoutes⟩⟩
  exact ⟨⟨rules, subjects, subnetSubjects⟩, guard_ok.mpr ⟨hversion, guard_ok.mpr ⟨Nat.not_lt.mpr h.count,
    bind_ok.mpr ⟨subjects, hsubjects, bind_ok.mpr ⟨subnetRoutes, hroutes, bind_ok.mpr
      ⟨subnetSubjects, hsubnets, bind_ok.mpr ⟨last, hrules, rfl⟩⟩⟩⟩⟩⟩⟩

theorem loadAclPolicies_policyTables
    (hpriority : rules.Pairwise fun left right => right.priority < left.priority)
    (memberships : List GroupMembershipRow) (policyVersion : Nat) :
    loadAclPolicies p (policyTables db networkId memberships rules policyVersion) networkId = rules := by
  have hrows : ((policyTables db networkId memberships rules policyVersion).aclRules.filter
      fun row => row.networkId = networkId) = rules.map (AclRuleRow.mk networkId) := by
    dsimp only [policyTables]
    rw [List.filter_append, List.filter_filter, List.filter_eq_nil_iff.mpr (by simp), List.nil_append,
      List.filter_eq_self]
    intro row hrow
    obtain ⟨rule, _, rfl⟩ := List.mem_map.mp hrow
    exact decide_eq_true rfl
  have hsorted : (rules.map (AclRuleRow.mk networkId)).Pairwise (aclRuleRowLe p) :=
    List.pairwise_map.mpr (hpriority.imp Or.inl)
  unfold loadAclPolicies
  rw [hrows, hsorted.insertionSort_eq, List.map_map]
  exact List.map_id rules

theorem network_policyTables (db : Database) (networkId : Uuid) (memberships : List GroupMembershipRow)
    (rules : List AclRule) (policyVersion : Nat) :
    (policyTables db networkId memberships rules policyVersion).network networkId =
      (db.network networkId).map fun network => { network with policyVersion := policyVersion } := by
  unfold Database.network policyTables
  dsimp only
  rw [List.find?_map]
  have hkey : ((fun network : NetworkRow => decide (network.id = networkId)) ∘ fun network =>
      if network.id = networkId then { network with policyVersion := policyVersion } else network) =
        fun network => decide (network.id = networkId) := by
    funext network
    rw [Function.comp_apply]
    split <;> rfl
  rw [hkey]
  cases hfind : db.networks.find? fun network => decide (network.id = networkId) with
  | none => rfl
  | some network =>
    have hid : network.id = networkId := by simpa using List.find?_some hfind
    rw [Option.map_some, Option.map_some, if_pos hid]

/-- A network that takes the empty policy takes plain rules as well, if the text of the configuration with
them is short enough. -/
theorem replaceAclPolicy_plain (h : PlainRules p.formats rules)
    (hpriority : rules.Pairwise fun left right => right.priority < left.priority)
    {version : UInt64} {response : ReplaceAclPolicyResponse}
    (hempty : replaceAclPolicy p state db networkId ⟨version, [], []⟩ times = .ok (response, db')) :
    ∃ network payload bytes,
      Publishes p state (policyTables db networkId [] [] (version + 1).toNat) networkId times network payload
        bytes ∧
      payload.policies = [] ∧
      ∀ text, p.configurationPayloadText { payload with policies := rules } = some text →
        text.length ≤ maxConfigurationPayloadBytes →
        Publishes p state (policyTables db networkId [] rules (version + 1).toNat) networkId times network
            { payload with policies := rules } text ∧
          ∃ response', replaceAclPolicy p state db networkId ⟨version, [], rules⟩ times =
            .ok (response', publishedTables (policyTables db networkId [] rules (version + 1).toNat) networkId
              (publishedRow p state networkId network text)) := by
  obtain ⟨hlimits, hempty⟩ := guard_ok.mp hempty
  obtain ⟨groups, hgroups, hempty⟩ := bind_ok.mp hempty
  cases Except.ok.inj hgroups
  obtain ⟨stored, hstored, hempty⟩ := bind_ok.mp hempty
  obtain ⟨hversion, hempty⟩ := guard_ok.mp hempty
  obtain ⟨_, _, hempty⟩ := bind_ok.mp hempty
  obtain ⟨byNode, hbyNode, hempty⟩ := bind_ok.mp hempty
  obtain ⟨hnext, hempty⟩ := guard_ok.mp hempty
  obtain ⟨policy, hcompile, hempty⟩ := bind_ok.mp hempty
  obtain ⟨tables, hpersist, hempty⟩ := bind_ok.mp hempty
  obtain ⟨⟨configuration, published⟩, hpublish, hempty⟩ := bind_ok.mp hempty
  cases hempty
  obtain ⟨memberships, hmemberships, hpersist⟩ := bind_ok.mp hpersist
  obtain ⟨hbig, hpersist⟩ := guard_ok.mp hpersist
  cases hpersist
  cases Except.ok.inj hmemberships
  obtain ⟨network, payload, bytes, hpublishes, _, _⟩ := publishConfiguration_ok.mp hpublish
  have hpolicies : payload.policies = [] := by
    obtain ⟨nodes, _, hassembled⟩ := bind_ok.mp hpublishes.assembled
    cases hassembled
    exact loadAclPolicies_policyTables List.Pairwise.nil [] _
  refine ⟨network, payload, bytes, hpublishes, hpolicies, fun text htext hlength => ?_⟩
  obtain ⟨validated, hvalidated⟩ := h.compiles (mapError_ok.mp hcompile)
  have hpublishes' : Publishes p state (policyTables db networkId [] rules (version + 1).toNat) networkId times
      network { payload with policies := rules } text := by
    obtain ⟨policy, hcompiles⟩ := hpublishes.compiles
    refine ⟨hpublishes.found, hpublishes.counts, ?_, h.compiles hcompiles, htext, hlength, ?_⟩
    · obtain ⟨nodes, hnodes, hassembled⟩ := bind_ok.mp hpublishes.assembled
      refine bind_ok.mpr ⟨nodes, hnodes, ?_⟩
      cases hassembled
      rw [loadAclPolicies_policyTables hpriority]
      rfl
    · exact hpublishes.fresh
  have hreferences := @PlainRules.references p rules h [] (nodeDatabaseIds p (loadPolicyNodes db networkId))
    (loadPolicyNodes db networkId) (loadSubnetRoutes p db networkId)
  refine ⟨hpublishes', ⟨networkId, version + 1,
    (signedConfigurationFromRow p (publishedRow p state networkId network text)).version⟩, ?_⟩
  refine guard_ok.mpr ⟨?_, bind_ok.mpr ⟨[], rfl, bind_ok.mpr ⟨stored, hstored, guard_ok.mpr ⟨hversion,
    bind_ok.mpr ⟨(), ?_, bind_ok.mpr ⟨byNode, hbyNode, guard_ok.mpr ⟨hnext, bind_ok.mpr ⟨validated, ?_,
      bind_ok.mpr ⟨policyTables db networkId [] rules (version + 1).toNat, ?_,
        bind_ok.mpr ⟨(signedConfigurationFromRow p (publishedRow p state networkId network text), _),
          publishConfiguration_ok.mpr ⟨network, _, text, hpublishes', rfl, rfl⟩, rfl⟩⟩⟩⟩⟩⟩⟩⟩⟩⟩
  · rintro (hzero | hgroups | hrules)
    · exact hlimits (Or.inl hzero)
    · simp at hgroups
    · exact absurd h.count (Nat.not_le.mpr hrules)
  · dsimp only
    rw [h.canonicalRules_eq]
    exact hreferences
  · dsimp only
    rw [h.canonicalRules_eq]
    exact mapError_ok.mpr hvalidated
  · dsimp only
    rw [h.canonicalRules_eq]
    exact bind_ok.mpr ⟨[], rfl, guard_ok.mpr ⟨hbig, rfl⟩⟩

theorem Json.listSize_of_length {items : List Bytes} {size : Nat} (h : ∀ item ∈ items, item.length = size) :
    Json.listSize items = items.length * size + (items.length - 1) := by
  have hsum : (items.map List.length).sum = items.length * size := by
    rw [List.map_congr_left h, List.map_const', List.sum_replicate, smul_eq_mul]
  rw [Json.listSize, hsum]

def bulkPorts : List PortRange :=
  (List.range 64).map fun i => ⟨UInt16.ofNat (10001 + i), UInt16.ofNat (10001 + i)⟩

def bulkName (i : Nat) : List Char := [Char.ofNat (97 + i / 26), Char.ofNat (97 + i % 26)]

/-- Sixty-four ports open to everyone -/
def bulkRule (i : Nat) : AclRule where
  id := String.ofList (bulkName i)
  priority := UInt32.ofNat (1149 - i)
  action := .allow
  sources := [.any]
  destinations := [.any]
  protocol := .tcp
  destinationPorts := bulkPorts

def bulkRules : List AclRule := (List.range 150).map bulkRule

theorem bulkRules_valid : (bulkPorts.insertionSort portRangeLe = bulkPorts ∧
    bulkPorts.foldlM checkPortRange none = .ok (some 10064) ∧ bulkPorts.length = 64) ∧
    ((List.range 150).map bulkName).Nodup ∧
    ∀ i < 150, validAclName (bulkRule i).id = true ∧ (bulkRule i).priority ≠ 0 := by
  refine ⟨?_, ?_, ?_⟩ <;> decide +kernel

theorem bulkRules_texts : (Json.list (bulkPorts.map Json.portRange)).length = 1793 ∧
    (∀ i < 150, (Json.string (bulkRule i).id).length = 4 ∧
      (Json.digits (bulkRule i).priority.toNat).length = 4) ∧
    (Json.string "id").length = 4 ∧ (Json.string "priority").length = 10 ∧
    (Json.string "action").length = 8 ∧ (Json.string "sources").length = 9 ∧
    (Json.string "destinations").length = 14 ∧ (Json.string "protocol").length = 10 ∧
    (Json.string "destination_ports").length = 19 ∧ (Json.aclAction .allow).length = 7 ∧
    (Json.list [Json.aclSelector .any]).length = 16 ∧ (Json.aclProtocol .tcp).length = 5 := by
  refine ⟨?_, ?_, ?_⟩ <;> decide +kernel

theorem length_bulkRule {i : Nat} (hi : i < 150) : (Json.aclRule (bulkRule i)).length = 1934 := by
  obtain ⟨hports, htexts, h1, h2, h3, h4, h5, h6, h7, h8, h9, h10⟩ := bulkRules_texts
  obtain ⟨hid, hpriority⟩ := htexts i hi
  have hmembers : Json.aclRule (bulkRule i) = Json.object [Json.member "id" (Json.string (bulkRule i).id),
      Json.member "priority" (Json.digits (bulkRule i).priority.toNat),
      Json.member "action" (Json.aclAction .allow),
      Json.member "sources" (Json.list [Json.aclSelector .any]),
      Json.member "destinations" (Json.list [Json.aclSelector .any]),
      Json.member "protocol" (Json.aclProtocol .tcp),
      Json.member "destination_ports" (Json.list (bulkPorts.map Json.portRange))] := rfl
  rw [hmembers, Json.length_object]
  simp only [Json.listSize, List.map_cons, List.map_nil, List.sum_cons, List.sum_nil, List.length_cons,
    List.length_nil, Json.length_member, h1, h2, h3, h4, h5, h6, h7, h8, h9, h10, hid, hpriority, hports]
  omega

theorem listSize_bulkRules : Json.listSize (bulkRules.map Json.aclRule) = 290249 := by
  have hall : ∀ item ∈ bulkRules.map Json.aclRule, item.length = 1934 := by
    intro item hitem
    obtain ⟨rule, hrule, rfl⟩ := List.mem_map.mp hitem
    obtain ⟨i, hi, rfl⟩ := List.mem_map.mp hrule
    exact length_bulkRule (List.mem_range.mp hi)
  rw [Json.listSize_of_length hall, List.length_map, bulkRules, List.length_map, List.length_range]

theorem bulkRules_priorities : bulkRules.Pairwise fun left right => right.priority < left.priority := by
  refine List.pairwise_map.mpr (List.pairwise_lt_range.imp_of_mem ?_)
  intro i j hi hj hlt
  have hj' := List.mem_range.mp hj
  show UInt32.ofNat (1149 - j) < UInt32.ofNat (1149 - i)
  rw [UInt32.lt_iff_toNat_lt, UInt32.toNat_ofNat', UInt32.toNat_ofNat']
  omega

theorem plainRules_bulk (f : Formats) : PlainRules f bulkRules where
  count := by
    rw [bulkRules, List.length_map, List.length_range]
    decide
  canonical := by
    intro rule hrule
    obtain ⟨i, _, rfl⟩ := List.mem_map.mp hrule
    show { bulkRule i with
      sources := [.any]
      destinations := [.any]
      destinationPorts := bulkPorts.insertionSort portRangeLe } = bulkRule i
    rw [bulkRules_valid.1.1]
    rfl
  strict := bulkRules_priorities.imp Or.inl
  ids := by
    have hids : bulkRules.map AclRule.id = ((List.range 150).map bulkName).map String.ofList := by
      rw [bulkRules, List.map_map, List.map_map]
      rfl
    rw [hids]
    exact bulkRules_valid.2.1.map fun _ _ h => String.ofList_injective h
  anyone := by
    intro rule hrule
    obtain ⟨i, _, rfl⟩ := List.mem_map.mp hrule
    exact ⟨rfl, rfl⟩
  valid := by
    intro rule hrule routes
    obtain ⟨i, hi, rfl⟩ := List.mem_map.mp hrule
    obtain ⟨⟨_, hports, hcount⟩, _, hnames⟩ := bulkRules_valid
    obtain ⟨hname, hpriority⟩ := hnames i (List.mem_range.mp hi)
    have hselectors : validateSelectors f routes [.any] = .ok () := rfl
    refine guard_ok.mpr ⟨?_, bind_ok.mpr ⟨(), hselectors, bind_ok.mpr ⟨(), hselectors,
      bind_ok.mpr ⟨_, hports, rfl⟩⟩⟩⟩
    rw [hname]
    simp only [hpriority, false_or]
    simp [hcount, bulkRule, maxSelectorsPerSide, maxPortRanges]

/-- The third configuration of the sample network, without rules -/
def bulkPlain : ConfigurationPayload where
  schemaVersion := 1
  networkId := fill 16 21
  version := 3
  policyVersion := 2
  generatedAt := seconds 1700000002
  addressPool := "100.88.0.0/24"
  discoveryEndpoints := []
  nodes := [{
    nodeIdBase64 := Base64.urlEncode sampleNodeId.val
    identityPublicKeyBase64 := Base64.urlEncode sampleIdentityKey.seed.val
    virtualIp := "100.88.0.16"
    directEndpoints := []
    candidates := []
    credentialSerial := 1
    credentialNotAfter := seconds 1700003601
    roleBitmap := 1
    groups := []
    tags := []
    updateChannel := some .stable }]
  relays := []
  policies := []
  subnetRoutes := []

def bulkPlatform : Platform :=
  documentedPlatform (samplePublished "100.88.0.0/24" "100.88.0.16" ++
    [bulkPlain, { bulkPlain with policies := bulkRules }])

theorem bulkPublished_short : (∀ a ∈ samplePublished "100.88.0.0/24" "100.88.0.16" ++ [bulkPlain],
      (Json.configurationPayload a).length ≤ 100000) ∧
    ∀ a ∈ samplePublished "100.88.0.0/24" "100.88.0.16" ++ [bulkPlain],
      ∀ b ∈ samplePublished "100.88.0.0/24" "100.88.0.16" ++ [bulkPlain],
        Json.configurationPayload a = Json.configurationPayload b → a = b := by
  refine ⟨?_, ?_⟩ <;> decide +kernel

theorem length_bulkPayload :
    290249 ≤ (Json.configurationPayload { bulkPlain with policies := bulkRules }).length ∧
      (Json.configurationPayload { bulkPlain with policies := bulkRules }).length ≤ 390249 := by
  have hplain := bulkPublished_short.1 bulkPlain (by simp)
  rw [Json.length_configurationPayload] at hplain ⊢
  have hrules : Json.listSize (bulkRules.map Json.aclRule) = 290249 := listSize_bulkRules
  dsimp only at hplain ⊢
  rw [hrules]
  have hnil : Json.listSize ((bulkPlain.policies).map Json.aclRule) = 0 := rfl
  rw [hnil] at hplain
  omega

theorem bulkPlatform_documented : DocumentedCrates bulkPlatform := by
  obtain ⟨hlong, _⟩ := length_bulkPayload
  obtain ⟨hshort, hdistinct⟩ := bulkPublished_short
  have hsplit : ∀ a ∈ samplePublished "100.88.0.0/24" "100.88.0.16" ++
      [bulkPlain, { bulkPlain with policies := bulkRules }],
      a ∈ samplePublished "100.88.0.0/24" "100.88.0.16" ++ [bulkPlain] ∨
        a = { bulkPlain with policies := bulkRules } := by
    intro a ha
    simp only [List.mem_append, List.mem_cons, List.not_mem_nil, or_false] at ha ⊢
    rcases ha with ha | ha | ha
    · exact Or.inl (Or.inl ha)
    · exact Or.inl (Or.inr ha)
    · exact Or.inr ha
  refine documentedPlatform_documented fun a ha b hb hsame => ?_
  rcases hsplit a ha with ha | rfl
  · rcases hsplit b hb with hb | rfl
    · exact hdistinct a ha b hb hsame
    · have hlength := hshort a ha
      rw [hsame] at hlength
      omega
  · rcases hsplit b hb with hb | rfl
    · have hlength := hshort b hb
      rw [← hsame] at hlength
      omega
    · rfl

/-- The sample network is in its second configuration and takes the empty policy. -/
def bulkReady (controller : Controller) : Bool :=
  match replaceAclPolicy bulkPlatform sampleAppState controller.database (fill 16 21) ⟨1, [], []⟩
      (sampleMoment 2), controller.database.network (fill 16 21) with
  | .ok _, some network => decide (network.configVersion = 2)
  | _, _ => false

theorem bulkReady_run : holdsAfter bulkPlatform sampleAppState sampleEnrollment bulkReady = true := by
  decide +kernel

theorem bulkPlatform_text {payload : ConfigurationPayload} {bytes : Bytes}
    (h : bulkPlatform.configurationPayloadText payload = some bytes) : bytes = Json.configurationPayload payload :=
  (Option.some.inj (Option.ite_none_right_eq_some.mp h).2).symm

/-- The sample network is offered the bulk rules: it publishes them. -/
theorem bulkRules_published :
    ∃ controller network text response,
      ReachableController bulkPlatform sampleAppState controller ∧
      Publishes bulkPlatform sampleAppState (policyTables controller.database (fill 16 21) [] bulkRules 2)
        (fill 16 21) (sampleMoment 2) network { bulkPlain with policies := bulkRules } text ∧
      replaceAclPolicy bulkPlatform sampleAppState controller.database (fill 16 21) ⟨1, [], bulkRules⟩
        (sampleMoment 2) = .ok (response, publishedTables
          (policyTables controller.database (fill 16 21) [] bulkRules 2) (fill 16 21)
          (publishedRow bulkPlatform sampleAppState (fill 16 21) network text)) := by
  obtain ⟨controller, hreachable, hready⟩ := reachable_of_holdsAfter bulkReady_run
  unfold bulkReady at hready
  split at hready
  next result stored hempty hstored =>
    obtain ⟨response, db'⟩ := result
    have hversion : stored.configVersion = 2 := of_decide_eq_true hready
    obtain ⟨network, payload, bytes, hpublishes, hpolicies, hbulk⟩ :=
      replaceAclPolicy_plain (plainRules_bulk _) bulkRules_priorities hempty
    have hmember := (Option.ite_none_right_eq_some.mp hpublishes.encoded).1
    have hthird : payload.version = 3 := by
      obtain ⟨nodes, _, hassembled⟩ := bind_ok.mp hpublishes.assembled
      have hfound := hpublishes.found
      rw [network_policyTables, hstored] at hfound
      cases hfound
      cases hassembled
      show UInt64.ofNat (stored.configVersion + 1) = 3
      rw [hversion]
      rfl
    have hplain : payload = bulkPlain := by
      simp only [samplePublished, List.mem_append, List.mem_cons, List.not_mem_nil, or_false] at hmember
      rcases hmember with (rfl | rfl) | rfl | rfl
      · exact absurd hthird (by decide)
      · exact absurd hthird (by decide)
      · rfl
      · have hlength := congrArg List.length hpolicies
        rw [bulkRules, List.length_map, List.length_range] at hlength
        exact absurd hlength (by decide)
    rw [hplain] at hbulk
    have htext : bulkPlatform.configurationPayloadText { bulkPlain with policies := bulkRules } =
        some (Json.configurationPayload { bulkPlain with policies := bulkRules }) := by
      refine if_pos ?_
      simp
    have hbound : (Json.configurationPayload { bulkPlain with policies := bulkRules }).length ≤
        maxConfigurationPayloadBytes := by
      have h := length_bulkPayload.2
      show _ ≤ 1048576
      omega
    obtain ⟨hpublishes', response', hserved⟩ := hbulk _ htext hbound
    exact ⟨controller, network, _, response', hreachable, hpublishes', hserved⟩
  next => simp at hready

theorem published_within_limits_bulk :
    ∃ controller tables signed db', DocumentedCrates bulkPlatform ∧ ConfiguredController sampleAppState ∧
      ReachableController bulkPlatform sampleAppState controller ∧
      Edit bulkPlatform (fill 16 21) (sampleMoment 2) controller.database tables ∧
      publishConfiguration bulkPlatform sampleAppState tables (fill 16 21) (sampleMoment 2) =
        .ok (signed, db') ∧
      ((∃ payload, WithinLimits bulkPlatform.formats signed payload) ↔
        NetworkFits bulkPlatform sampleAppState tables (fill 16 21) (sampleMoment 2) maxConfigurationBytes) := by
  obtain ⟨controller, network, text, response, hreachable, hpublishes, _⟩ := bulkRules_published
  have hconfig : ConfiguredController sampleAppState := ⟨by decide, by decide⟩
  have hedit : Edit bulkPlatform (fill 16 21) (sampleMoment 2) controller.database
      (policyTables controller.database (fill 16 21) [] bulkRules 2) := .replaceAclPolicy _ _ _
  have hpublish := publishConfiguration_ok.mpr ⟨network, _, text, hpublishes, rfl, rfl⟩
  exact ⟨controller, _, _, _, bulkPlatform_documented, hconfig, hreachable, hedit, hpublish,
    published_within_limits_iff bulkPlatform_documented samplePlatform_roundTrip
      (fun payload bytes => bulkPlatform_text) hconfig hreachable hedit hpublish⟩

/-- A policy of a hundred and fifty rules is accepted and makes the agents refuse the network's configuration. -/
theorem oversized_network_published :
    ¬∀ (p : Platform) (state : AppState) (controller : Controller), DocumentedCrates p →
      AdvertisementsRoundTrip p → ConfiguredController state → ReachableController p state controller →
      ∀ row ∈ controller.database.configurationVersions,
        ∃ payload, WithinLimits p.formats (signedConfigurationFromRow p row) payload := by
  intro hall
  obtain ⟨controller, network, text, response, hreachable, hpublishes, hserved⟩ := bulkRules_published
  have hconfig : ConfiguredController sampleAppState := ⟨by decide, by decide⟩
  have hstored : StoredAdvertisements bulkPlatform (policyTables controller.database (fill 16 21) [] bulkRules 2) :=
    storedAdvertisements hreachable
  have hnext : ReachableController bulkPlatform sampleAppState { controller with
      database := publishedTables (policyTables controller.database (fill 16 21) [] bulkRules 2) (fill 16 21)
        (publishedRow bulkPlatform sampleAppState (fill 16 21) network text) } := by
    refine @ReachableController.served _ _ _ _ (.replaceAclPolicy (fill 16 21) ⟨1, [], bulkRules⟩ (sampleMoment 2))
      hreachable ?_
    exact bind_ok.mpr ⟨_, hserved, rfl⟩
  have hwithin := hall bulkPlatform sampleAppState _ bulkPlatform_documented samplePlatform_roundTrip hconfig
    hnext (publishedRow bulkPlatform sampleAppState (fill 16 21) network text)
    (List.mem_append_right _ List.mem_cons_self)
  rw [withinLimits_iff bulkPlatform_documented samplePlatform_roundTrip (fun payload bytes => bulkPlatform_text)
    hconfig hstored hpublishes, bulkPlatform_text hpublishes.encoded] at hwithin
  have hlong := length_bulkPayload.1
  have hbound : maxConfigurationBytes = 262144 := rfl
  omega

end XsNexus
