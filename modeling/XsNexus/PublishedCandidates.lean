import XsNexus.ControllerSteps
import XsNexus.JsonText
import XsNexus.StandardFormats

namespace XsNexus

open ByteCodec Checks

variable {p : Platform} {state : AppState}

/-- What `validate_configuration` checks of the endpoints of one node. -/
def checkNodeCandidates (generatedAt : Int) (relayEndpoints directEndpoints : List SocketAddr)
    (node : ConfigurationNode) : Except AgentError (List SocketAddr) :=
  if node.directEndpoints.length > maxDirectEndpointsPerNode ∨
      node.candidates.length > maxCandidatesPerNode ∨ !prioritiesDecrease node.candidates then
    .error .controllerTrust
  else checkNodeEndpoints generatedAt relayEndpoints directEndpoints node

/-- The candidate checks of `validate_configuration` on a whole payload. -/
def candidateChecks (payload : ConfigurationPayload) : Except AgentError (List SocketAddr) :=
  payload.nodes.foldlM (checkNodeCandidates payload.generatedAt
    (payload.relays.map ConfigurationRelay.endpoint).reverse) []

section Agent

variable {c : Crypto} {f : Formats}

theorem checkNode_candidates {addressPool : Ipv4Net} {generatedAt : Int}
    {relayEndpoints : List SocketAddr} {localNode : LocalNode} {seen seen' : NodeChecks}
    {node : ConfigurationNode}
    (h : checkNode c f addressPool generatedAt relayEndpoints localNode seen node = .ok seen') :
    checkNodeCandidates generatedAt relayEndpoints seen.directEndpoints node =
      .ok seen'.directEndpoints := by
  obtain ⟨id, _, h⟩ := bind_ok.mp h
  obtain ⟨publicKey, _, h⟩ := bind_ok.mp h
  split at h
  next => simp at h
  next ip _ =>
    obtain ⟨hguard, h⟩ := guard_ok.mp h
    obtain ⟨directEndpoints, hendpoints, h⟩ := bind_ok.mp h
    cases h
    simp only [not_or] at hguard
    obtain ⟨hdirect, hcount, hordered, _⟩ := hguard
    exact guard_ok.mpr ⟨by simp [hdirect, hcount, hordered], hendpoints⟩

theorem validateRelays_endpoints {payload : ConfigurationPayload} {relayEndpoints : List SocketAddr}
    (h : validateRelays c f payload = .ok relayEndpoints) :
    relayEndpoints = (payload.relays.map ConfigurationRelay.endpoint).reverse := by
  obtain ⟨seen, hfold, h⟩ := bind_ok.mp h
  cases h
  have hloop : ∀ (relays : List ConfigurationRelay) (start : RelayChecks),
      relays.foldlM (checkRelay c f payload) start = .ok seen →
      seen.endpoints = (relays.map ConfigurationRelay.endpoint).reverse ++ start.endpoints := by
    intro relays
    induction relays with
    | nil =>
      intro start hfold
      cases hfold
      rfl
    | cons relay relays ih =>
      intro start hfold
      rw [List.foldlM_cons] at hfold
      obtain ⟨next, hnext, hfold⟩ := bind_ok.mp hfold
      obtain ⟨id, _, hnext⟩ := bind_ok.mp hnext
      obtain ⟨publicKey, _, hnext⟩ := bind_ok.mp hnext
      obtain ⟨_, hnext⟩ := guard_ok.mp hnext
      obtain ⟨_, hnext⟩ := guard_ok.mp hnext
      cases hnext
      rw [ih _ hfold]
      simp
  have hall := hloop payload.relays _ hfold
  rw [hall, List.append_nil]

/-- An Agent that takes a configuration has made the candidate checks on it. -/
theorem candidateChecks_of_validateConfiguration {configuration : SignedConfiguration}
    {key : VerifyingKey} {networkId : Block 16} {localNode : LocalNode}
    {payload : ConfigurationPayload} {hash : String}
    (h : validateConfiguration c f configuration key networkId localNode = .ok (payload, hash)) :
    ∃ endpoints, candidateChecks payload = .ok endpoints := by
  obtain ⟨decoded, _, h⟩ := bind_ok.mp h
  dsimp only at h
  split at h
  next => simp at h
  next addressPool _ =>
    obtain ⟨_, h⟩ := guard_ok.mp h
    obtain ⟨_, _, h⟩ := bind_ok.mp h
    obtain ⟨relayEndpoints, hrelays, h⟩ := bind_ok.mp h
    obtain ⟨seen, hnodes, h⟩ := bind_ok.mp h
    obtain ⟨_, h⟩ := guard_ok.mp h
    obtain ⟨policy, _, h⟩ := bind_ok.mp h
    cases h
    have hview := foldlM_view NodeChecks.directEndpoints checkNode_candidates hnodes
    rw [validateRelays_endpoints hrelays] at hview
    exact ⟨seen.directEndpoints, hview⟩

end Agent

/-- A candidate that an Agent takes by itself. -/
structure AcceptableCandidate (generatedAt : Int) (relayEndpoints : List SocketAddr)
    (candidate : EndpointCandidate) : Prop where
  prioritized : candidate.priority ≠ 0
  unexpired : generatedAt < candidate.expiresAt
  valid : validCandidate candidate
  noRelay : candidate.endpoint ∉ relayEndpoints

theorem checkCandidate_loop (generatedAt : Int) (relayEndpoints : List SocketAddr) :
    Loop (checkCandidate generatedAt relayEndpoints [])
      (AcceptableCandidate generatedAt relayEndpoints) (fun a b => a.endpoint = b.endpoint)
      (fun seen candidate => candidate.endpoint ∈ seen.1 ∨ candidate.endpoint ∈ seen.2)
      (fun _ => 0) (fun _ => 0) where
  passes seen candidate := by
    unfold checkCandidate
    simp only [guard_ok, List.not_mem_nil, not_false_eq_true, true_and, if_false, not_or,
      Bool.not_eq_true', Bool.not_eq_false, not_le, Except.ok.injEq, exists_and_left, exists_eq',
      and_true, le_refl]
    constructor
    · rintro ⟨h1, h2, h3, h4, h5, h6⟩
      exact ⟨⟨h1, h2, h3, h4⟩, h5, h6⟩
    · rintro ⟨⟨h1, h2, h3, h4⟩, h5, h6⟩
      exact ⟨h1, h2, h3, h4, h5, h6⟩
  blocked_after h b := by
    obtain ⟨_, h⟩ := guard_ok.mp h
    cases h
    simp only [List.not_mem_nil, if_false, List.mem_cons]
    constructor
    · rintro ((h | h) | h | h)
      · exact Or.inl h.symm
      · exact Or.inr (Or.inl h)
      · exact Or.inl h.symm
      · exact Or.inr (Or.inr h)
    · rintro (h | h | h)
      · exact Or.inl (Or.inl h.symm)
      · exact Or.inl (Or.inr h)
      · exact Or.inr (Or.inr h)
  room_after _ := rfl

theorem checkCandidate_endpoints {generatedAt : Int} {relayEndpoints : List SocketAddr}
    {candidates : List EndpointCandidate} {seen seen' : List SocketAddr × List SocketAddr}
    (h : candidates.foldlM (checkCandidate generatedAt relayEndpoints []) seen = .ok seen') :
    seen'.2 = (candidates.map EndpointCandidate.endpoint).reverse ++ seen.2 := by
  induction candidates generalizing seen with
  | nil =>
    cases h
    rfl
  | cons candidate candidates ih =>
    rw [List.foldlM_cons] at h
    obtain ⟨next, hnext, h⟩ := bind_ok.mp h
    obtain ⟨_, hnext⟩ := guard_ok.mp hnext
    cases hnext
    rw [ih h]
    simp

/-- The checks on the candidates of a node without direct endpoints. -/
def checkCandidates (generatedAt : Int) (relayEndpoints endpoints : List SocketAddr)
    (candidates : List EndpointCandidate) : Except AgentError (List SocketAddr) :=
  if candidates.length > maxCandidatesPerNode ∨ !prioritiesDecrease candidates then
    .error .controllerTrust
  else do
    let all ← candidates.foldlM (checkCandidate generatedAt relayEndpoints []) ([], endpoints)
    .ok all.2

theorem checkNodeCandidates_of_no_direct {generatedAt : Int}
    {relayEndpoints endpoints : List SocketAddr} {node : ConfigurationNode}
    (h : node.directEndpoints = []) :
    checkNodeCandidates generatedAt relayEndpoints endpoints node =
      checkCandidates generatedAt relayEndpoints endpoints node.candidates := by
  unfold checkNodeCandidates checkCandidates checkNodeEndpoints
  rw [h]
  have hzero : ¬([] : List String).length > maxDirectEndpointsPerNode := by simp
  simp only [hzero, false_or]
  rfl

theorem prioritiesOrdered {candidates : List EndpointCandidate} :
    (candidates.length ≤ maxCandidatesPerNode ∧ prioritiesDecrease candidates) ↔
      ¬(candidates.length > maxCandidatesPerNode ∨ !prioritiesDecrease candidates) := by
  simp

/-- A list of candidates that an Agent takes by itself. -/
structure AcceptableCandidates (generatedAt : Int) (relayEndpoints : List SocketAddr)
    (candidates : List EndpointCandidate) : Prop where
  ordered : candidates.length ≤ maxCandidatesPerNode ∧ prioritiesDecrease candidates
  acceptable : ∀ candidate ∈ candidates, AcceptableCandidate generatedAt relayEndpoints candidate
  distinct : (candidates.map EndpointCandidate.endpoint).Nodup

theorem checkCandidates_loop (generatedAt : Int) (relayEndpoints : List SocketAddr) :
    Loop (checkCandidates generatedAt relayEndpoints)
      (AcceptableCandidates generatedAt relayEndpoints)
      (fun a b => ¬(a.map EndpointCandidate.endpoint).Disjoint (b.map EndpointCandidate.endpoint))
      (fun endpoints candidates => ¬endpoints.Disjoint (candidates.map EndpointCandidate.endpoint))
      (fun _ => 0) (fun _ => 0) where
  passes endpoints candidates := by
    have hfold := (checkCandidate_loop generatedAt relayEndpoints).foldlM_ok candidates ([], endpoints)
    have hpair : candidates.Pairwise (fun a b => ¬a.endpoint = b.endpoint) ↔
        (candidates.map EndpointCandidate.endpoint).Nodup := by
      rw [List.Nodup, List.pairwise_map]
    have hfree : (∀ candidate ∈ candidates, ¬(candidate.endpoint ∈ ([] : List SocketAddr) ∨
        candidate.endpoint ∈ endpoints)) ↔
        endpoints.Disjoint (candidates.map EndpointCandidate.endpoint) := by
      simp only [List.not_mem_nil, false_or]
      constructor
      · intro h endpoint hseen hmem
        obtain ⟨candidate, hc, rfl⟩ := List.mem_map.mp hmem
        exact h candidate hc hseen
      · intro h candidate hc hseen
        exact h hseen (List.mem_map_of_mem hc)
    rw [hpair, hfree] at hfold
    constructor
    · rintro ⟨all, h⟩
      obtain ⟨hguard, h⟩ := guard_ok.mp h
      obtain ⟨seen, hseen, _⟩ := bind_ok.mp h
      obtain ⟨⟨hgood, hnodup, hdisjoint⟩, _⟩ := hfold.mp ⟨seen, hseen⟩
      exact ⟨⟨prioritiesOrdered.mpr hguard, hgood, hnodup⟩, not_not.mpr hdisjoint, Nat.le_refl 0⟩
    · rintro ⟨⟨hordered, hgood, hnodup⟩, hdisjoint, _⟩
      obtain ⟨seen, hseen⟩ :=
        hfold.mpr ⟨⟨hgood, hnodup, not_not.mp hdisjoint⟩, by simp⟩
      exact ⟨seen.2, guard_ok.mpr ⟨prioritiesOrdered.mp hordered, bind_ok.mpr ⟨seen, hseen, rfl⟩⟩⟩
  blocked_after h b := by
    obtain ⟨_, h⟩ := guard_ok.mp h
    obtain ⟨seen, hseen, h⟩ := bind_ok.mp h
    cases h
    rw [checkCandidate_endpoints hseen, List.disjoint_append_left, not_and_or]
    have hreverse : ∀ l : List SocketAddr, l.reverse.Disjoint (b.map EndpointCandidate.endpoint) ↔
        l.Disjoint (b.map EndpointCandidate.endpoint) := by
      intro l
      simp [List.Disjoint]
    rw [hreverse]
  room_after _ := rfl

theorem nodup_flatMap_endpoints (lists : List (List EndpointCandidate)) :
    ((∀ candidates ∈ lists, (candidates.map EndpointCandidate.endpoint).Nodup) ∧
      lists.Pairwise (fun a b => ¬¬(a.map EndpointCandidate.endpoint).Disjoint
        (b.map EndpointCandidate.endpoint))) ↔
      (lists.flatten.map EndpointCandidate.endpoint).Nodup := by
  simp only [not_not]
  rw [List.map_flatten, List.nodup_flatten, List.pairwise_map]
  simp only [List.mem_map, forall_exists_index, and_imp, forall_apply_eq_imp_iff₂]

/-- The candidate checks pass where no node has direct endpoints: every list by itself, and no
endpoint twice. -/
theorem candidateChecks_ok {payload : ConfigurationPayload}
    (hdirect : ∀ node ∈ payload.nodes, node.directEndpoints = []) :
    (∃ endpoints, candidateChecks payload = .ok endpoints) ↔
      (∀ node ∈ payload.nodes, node.candidates.length ≤ maxCandidatesPerNode ∧
        prioritiesDecrease node.candidates) ∧
      (∀ candidate ∈ payload.nodes.flatMap ConfigurationNode.candidates,
        AcceptableCandidate payload.generatedAt
          (payload.relays.map ConfigurationRelay.endpoint).reverse candidate) ∧
      ((payload.nodes.flatMap ConfigurationNode.candidates).map EndpointCandidate.endpoint).Nodup := by
  have hfold : ∀ (nodes : List ConfigurationNode) (seen : List SocketAddr),
      (∀ node ∈ nodes, node.directEndpoints = []) →
      nodes.foldlM (checkNodeCandidates payload.generatedAt
          (payload.relays.map ConfigurationRelay.endpoint).reverse) seen =
        (nodes.map ConfigurationNode.candidates).foldlM (checkCandidates payload.generatedAt
          (payload.relays.map ConfigurationRelay.endpoint).reverse) seen := by
    intro nodes
    induction nodes with
    | nil => intro seen _; rfl
    | cons node nodes ih =>
      intro seen hnodes
      obtain ⟨hnode, hnodes⟩ := List.forall_mem_cons.mp hnodes
      rw [List.map_cons, List.foldlM_cons, List.foldlM_cons, checkNodeCandidates_of_no_direct hnode]
      exact congrArg _ (funext fun next => ih next hnodes)
  unfold candidateChecks
  rw [hfold _ _ hdirect, (checkCandidates_loop _ _).foldlM_ok, List.flatMap_def,
    ← nodup_flatMap_endpoints]
  constructor
  · rintro ⟨⟨hgood, hpair, _⟩, _⟩
    refine ⟨?_, ?_, ?_, hpair⟩
    · intro node hnode
      exact (hgood _ (List.mem_map_of_mem hnode)).ordered
    · intro candidate hcandidate
      obtain ⟨candidates, hlist, hmem⟩ := List.mem_flatten.mp hcandidate
      exact (hgood candidates hlist).acceptable candidate hmem
    · intro candidates hlist
      exact (hgood candidates hlist).distinct
  · rintro ⟨hordered, hacceptable, hdistinct, hpair⟩
    refine ⟨⟨?_, hpair, ?_⟩, by simp [Function.comp_def]⟩
    · intro candidates hlist
      obtain ⟨node, hnode, rfl⟩ := List.mem_map.mp hlist
      refine ⟨hordered node hnode, ?_, hdistinct _ hlist⟩
      intro candidate hcandidate
      exact hacceptable candidate (List.mem_flatten.mpr ⟨_, hlist, hcandidate⟩)
    · intro candidates _
      simp

def SocketAddr.flowinfo : SocketAddr → UInt32
  | .v4 _ => 0
  | .v6 e => e.flowinfo

theorem validCandidate_of_validCandidateEndpoint {candidate : EndpointCandidate}
    (h : validCandidateEndpoint candidate) :
    validCandidate candidate ∧ candidate.endpoint.flowinfo = 0 := by
  unfold validCandidateEndpoint at h
  unfold validCandidate validServiceEndpoint SocketAddr.flowinfo
  by_cases hport : candidate.endpoint.port = 0
  · simp [hport] at h
  · rw [if_neg hport] at h ⊢
    cases hendpoint : candidate.endpoint with
    | v4 e =>
      simp only [hendpoint] at h ⊢
      split at h
      next => simp at h
      next hguard =>
        simp only [not_or, Bool.not_eq_true] at hguard
        obtain ⟨hunspecified, hloopback, hmulticast, hbroadcast⟩ := hguard
        refine ⟨?_, trivial⟩
        simpa [hunspecified, hloopback, hmulticast, hbroadcast] using h
    | v6 e =>
      simp only [hendpoint] at h ⊢
      split at h
      next => simp at h
      next hguard =>
        simp only [not_or, not_and, Bool.not_eq_true, not_not] at hguard
        obtain ⟨hflow, hunspecified, hloopback, hmulticast, hscoped, hunscoped⟩ := hguard
        refine ⟨?_, hflow⟩
        cases hlocal : e.ip.isUnicastLinkLocal with
        | true =>
          have hscope := hscoped hlocal
          cases hkind : candidate.kind <;>
            simp_all
        | false =>
          have hscope : e.scopeId = 0 := hunscoped (by simp [hlocal])
          cases hkind : candidate.kind <;>
            simp_all

/-- What the Controller has checked of an advertisement it stored. -/
structure ValidAdvertisement (advertisement : CandidateAdvertisement) : Prop where
  ordered : advertisement.candidates.length ≤ maxCandidatesPerNode ∧
    prioritiesDecrease advertisement.candidates
  prioritized : ∀ candidate ∈ advertisement.candidates, candidate.priority ≠ 0
  valid : ∀ candidate ∈ advertisement.candidates, validCandidateEndpoint candidate

theorem validAdvertisement {authenticated : AuthenticatedNode}
    {advertisement : CandidateAdvertisement} {now : Int}
    (h : validateCandidateAdvertisement authenticated advertisement now = .ok ()) :
    ValidAdvertisement advertisement := by
  obtain ⟨hguard, h⟩ := guard_ok.mp h
  obtain ⟨seen, hfold, _⟩ := bind_ok.mp h
  simp only [not_or] at hguard
  obtain ⟨_, _, _, _, hcount, _, _, _, _, hordered⟩ := hguard
  have hguarded : Guard (checkAdvertisedCandidate now advertisement.expiresAt)
      (fun candidate => candidate.priority ≠ 0 ∧ validCandidateEndpoint candidate)
      (fun _ _ => False) (fun _ _ => False) := {
    passed := by
      intro seen candidate seen' hstep
      obtain ⟨hguard, _⟩ := guard_ok.mp hstep
      simp only [not_or] at hguard
      obtain ⟨hpriority, _, _, _, hvalid, _, _⟩ := hguard
      exact ⟨⟨hpriority, by simpa using hvalid⟩, not_false⟩
    remembered := by
      intro seen candidate seen' _ b hfalse
      exact hfalse.elim id id }
  obtain ⟨hgood, _, _⟩ := hguarded.of_foldlM hfold
  have hcount : advertisement.candidates.length ≤ maxCandidatesPerNode := Nat.not_lt.mp hcount
  refine ⟨⟨hcount, by simpa using hordered⟩, ?_, ?_⟩
  · intro candidate hmem
    exact (hgood candidate hmem).1
  · intro candidate hmem
    exact (hgood candidate hmem).2

/-- Every stored advertisement is the text of one that was valid when it came. -/
def StoredAdvertisements (p : Platform) (db : Database) : Prop :=
  ∀ row ∈ db.candidateAdvertisements, ∃ advertisement, ValidAdvertisement advertisement ∧
    p.candidateAdvertisementText advertisement = some row.payload

theorem mem_upsertAdvertisement {rows : List AdvertisementRow} {row stored : AdvertisementRow}
    (h : stored ∈ upsertAdvertisement rows row) : stored = row ∨ stored ∈ rows := by
  unfold upsertAdvertisement at h
  split at h
  next =>
    obtain ⟨old, hold, rfl⟩ := List.mem_map.mp h
    split
    next => exact Or.inl rfl
    next => exact Or.inr hold
  next =>
    rcases List.mem_append.mp h with h | h
    · exact Or.inr h
    · exact Or.inl (List.mem_singleton.mp h)

theorem storedAdvertisements {controller : Controller} (h : ReachableController p state controller) :
    StoredAdvertisements p controller.database := by
  apply h.induct
  · intro row hrow
    simp [Database.empty] at hrow
  · intro db db' hinv hquiet
    cases hquiet with
    | unchanged => exact hinv
    | createEnrollmentToken tokens => exact hinv
    | advertiseSubnetRoutes rows => exact hinv
  · intro db tables db' networkId times signed hinv hedit hpublish
    obtain ⟨network, payload, bytes, _, _, rfl⟩ := publishConfiguration_ok.mp hpublish
    cases hedit with
    | advertiseCandidates row node authenticated advertisement _ _ hvalid htext =>
      intro stored hstored
      rcases mem_upsertAdvertisement hstored with rfl | hold
      · exact ⟨advertisement, validAdvertisement hvalid, htext⟩
      · exact hinv stored hold
    | createNetwork => exact hinv
    | enrollNode => exact hinv
    | replaceAclPolicy => exact hinv
    | replaceSubnetRoutes => exact hinv
    | revokeNode => exact hinv
    | replaceNodeUpdateChannel => exact hinv

/-- What JSON does to an advertisement whose endpoints have no flow label: nothing. -/
def AdvertisementsRoundTrip (p : Platform) : Prop :=
  ∀ advertisement bytes,
    (∀ candidate ∈ advertisement.candidates, candidate.endpoint.flowinfo = 0) →
    p.candidateAdvertisementText advertisement = some bytes →
    p.candidateAdvertisement bytes = some advertisement

/-- The candidates of one node that a publication finds. -/
def advertisedCandidates (p : Platform) (db : Database) (now : Int) (node : NodeRow) :
    List EndpointCandidate :=
  ((candidatePayload db now node.id).bind p.candidateAdvertisement).elim []
    CandidateAdvertisement.candidates

/-- The candidates of a network that a publication finds. -/
def liveCandidates (p : Platform) (db : Database) (networkId : Uuid) (now : Int) :
    List EndpointCandidate :=
  (db.activeNodes networkId).flatMap (advertisedCandidates p db now)

theorem advertised_valid (hjson : AdvertisementsRoundTrip p) {db : Database}
    (hstored : StoredAdvertisements p db) (now : Int) (node : NodeRow) :
    advertisedCandidates p db now node = [] ∨
      ∃ advertisement, ValidAdvertisement advertisement ∧
        advertisedCandidates p db now node = advertisement.candidates := by
  unfold advertisedCandidates candidatePayload
  cases hfind : db.candidateAdvertisements.find? fun row => row.nodeId = node.id ∧ now < row.expiresAt with
  | none => exact Or.inl rfl
  | some row =>
    obtain ⟨advertisement, hvalid, htext⟩ := hstored row (List.mem_of_find?_eq_some hfind)
    refine Or.inr ⟨advertisement, hvalid, ?_⟩
    have hflow : ∀ candidate ∈ advertisement.candidates, candidate.endpoint.flowinfo = 0 := by
      intro candidate hmem
      exact (validCandidate_of_validCandidateEndpoint (hvalid.valid candidate hmem)).2
    have hparse := hjson advertisement row.payload hflow htext
    show ((some row.payload).bind p.candidateAdvertisement).elim [] _ = _
    rw [Option.bind_some, hparse]
    rfl

theorem configurationNode_candidates {db : Database} {networkId : Uuid} {now : Int} {row : NodeRow}
    {node : ConfigurationNode} (h : configurationNode p db networkId now row = .ok node) :
    node.directEndpoints = [] ∧ node.candidates = advertisedCandidates p db now row := by
  obtain ⟨candidates, hstored, h⟩ := bind_ok.mp h
  cases h
  refine ⟨rfl, ?_⟩
  unfold storedCandidates at hstored
  unfold advertisedCandidates
  cases hpayload : candidatePayload db now row.id with
  | none =>
    rw [hpayload] at hstored
    cases hstored
    rfl
  | some bytes =>
    rw [hpayload] at hstored
    obtain ⟨advertisement, hparse, hstored⟩ := bind_ok.mp hstored
    cases hstored
    rw [Option.bind_some, okOr_ok.mp hparse]
    rfl

theorem assembled_candidates {db : Database} {networkId : Uuid} {metadata : ConfigurationMetadata}
    {times : Times} {payload : ConfigurationPayload}
    (h : assembleConfiguration p state db networkId metadata times = .ok payload) :
    (∀ node ∈ payload.nodes, node.directEndpoints = [] ∧ ∃ row ∈ db.activeNodes networkId,
        node.candidates = advertisedCandidates p db times.transaction row) ∧
      (payload.nodes.flatMap ConfigurationNode.candidates).Perm
        (liveCandidates p db networkId times.transaction) ∧
      payload.relays = state.relays ∧ payload.generatedAt = times.generated := by
  obtain ⟨nodes, hnodes, h⟩ := bind_ok.mp h
  cases h
  have hperm : (orderByNodeId (db.activeNodes networkId)).Perm (db.activeNodes networkId) :=
    List.perm_insertionSort _ _
  refine ⟨?_, ?_, rfl, rfl⟩
  · intro node hnode
    obtain ⟨row, hrow, hload⟩ := mem_mapM hnodes hnode
    obtain ⟨hdirect, hcandidates⟩ := configurationNode_candidates hload
    exact ⟨hdirect, row, hperm.mem_iff.mp hrow, hcandidates⟩
  · have heq : nodes.flatMap ConfigurationNode.candidates =
        (orderByNodeId (db.activeNodes networkId)).flatMap
          (advertisedCandidates p db times.transaction) := by
      have hrows := mapM_ok.mp hnodes
      generalize orderByNodeId (db.activeNodes networkId) = rows at hrows
      clear hnodes hperm h
      induction hrows with
      | nil => rfl
      | cons hload _ ih =>
        rw [List.flatMap_cons, List.flatMap_cons, ih, (configurationNode_candidates hload).2]
    show (nodes.flatMap ConfigurationNode.candidates).Perm _
    rw [heq]
    exact hperm.flatMap_right _

/-- Whatever the nodes have advertised, the payload of a publication passes the candidate checks of
the Agents when no endpoint is live twice or a relay, and no live candidate has expired. -/
theorem published_candidates_accepted_iff (hjson : AdvertisementsRoundTrip p) {controller : Controller}
    (hreachable : ReachableController p state controller) {networkId : Uuid}
    {metadata : ConfigurationMetadata} {times : Times} {payload : ConfigurationPayload}
    (hassembled : assembleConfiguration p state controller.database networkId metadata times =
      .ok payload) :
    (∃ endpoints, candidateChecks payload = .ok endpoints) ↔
      ((liveCandidates p controller.database networkId times.transaction).map
        EndpointCandidate.endpoint).Nodup ∧
      ∀ candidate ∈ liveCandidates p controller.database networkId times.transaction,
        times.generated < candidate.expiresAt ∧
          candidate.endpoint ∉ state.relays.map ConfigurationRelay.endpoint := by
  obtain ⟨hnodes, hperm, hrelays, hgenerated⟩ := assembled_candidates hassembled
  have hstored := storedAdvertisements hreachable
  have hordered : ∀ node ∈ payload.nodes, node.candidates.length ≤ maxCandidatesPerNode ∧
      prioritiesDecrease node.candidates := by
    intro node hnode
    obtain ⟨_, row, _, hcandidates⟩ := hnodes node hnode
    rw [hcandidates]
    rcases advertised_valid hjson hstored times.transaction row with hnone | ⟨_, hvalid, heq⟩
    · rw [hnone]
      exact ⟨Nat.zero_le _, rfl⟩
    · rw [heq]
      exact hvalid.ordered
  have hlive : ∀ candidate ∈ liveCandidates p controller.database networkId times.transaction,
      candidate.priority ≠ 0 ∧ validCandidate candidate := by
    intro candidate hcandidate
    obtain ⟨row, _, hmem⟩ := List.mem_flatMap.mp hcandidate
    rcases advertised_valid hjson hstored times.transaction row with hnone | ⟨_, hvalid, heq⟩
    · rw [hnone] at hmem
      simp at hmem
    · rw [heq] at hmem
      exact ⟨hvalid.prioritized candidate hmem,
        (validCandidate_of_validCandidateEndpoint (hvalid.valid candidate hmem)).1⟩
  rw [candidateChecks_ok fun node hnode => (hnodes node hnode).1, hrelays, hgenerated,
    (hperm.map EndpointCandidate.endpoint).nodup_iff]
  constructor
  · rintro ⟨_, hacceptable, hdistinct⟩
    refine ⟨hdistinct, fun candidate hcandidate => ?_⟩
    have hgood := hacceptable candidate (hperm.mem_iff.mpr hcandidate)
    exact ⟨hgood.unexpired, fun hrelay => hgood.noRelay (List.mem_reverse.mpr hrelay)⟩
  · rintro ⟨hdistinct, hall⟩
    refine ⟨hordered, fun candidate hcandidate => ?_, hdistinct⟩
    have hmem := hperm.mem_iff.mp hcandidate
    obtain ⟨hpriority, hvalid⟩ := hlive candidate hmem
    obtain ⟨hunexpired, hrelay⟩ := hall candidate hmem
    exact ⟨hpriority, hunexpired, hvalid, fun h => hrelay (List.mem_reverse.mp h)⟩

def sampleMoment (second : Int) : Times :=
  ⟨seconds (1700000000 + second), seconds (1700000000 + second), seconds (1700000000 + second)⟩

def sampleAppState : AppState where
  credentialSigningKey := sampleControllerKey
  configSigningKey := ⟨fill 32 13⟩
  credentialTtlSeconds := 3600
  discoveryPublicEndpoints := []
  relays := []

def sampleNodeId : Block 16 := nodeId .transparent sampleIdentityKey.seed

def sampleSession : AuthenticatedNode where
  networkId := fill 16 21
  nodeIdBase64 := Base64.urlEncode sampleNodeId.val
  nodeId := sampleNodeId
  identityPublicKey := sampleIdentityKey.seed

/-- One endpoint as a local and as a static candidate. -/
def sampleAdvertisement : CandidateAdvertisement where
  schemaVersion := 1
  networkId := fill 16 21
  nodeIdBase64 := Base64.urlEncode sampleNodeId.val
  generation := 1
  generatedAt := seconds 1700000003
  expiresAt := seconds 1700000603
  candidates := [
    ⟨.localAddress, sampleEndpoint, 200, seconds 1700000603⟩,
    ⟨.static, sampleEndpoint, 100, seconds 1700000603⟩]

def sampleRouteAdvertisement : SubnetRouteAdvertisement where
  schemaVersion := 1
  networkId := fill 16 21
  nodeIdBase64 := Base64.urlEncode sampleNodeId.val
  generation := 1
  generatedAt := seconds 1700000003
  expiresAt := seconds 1700000603
  suggestions := [⟨"192.168.50.0/24", "eth0"⟩]

/-- A platform that knows the texts of the sample advertisements. -/
def samplePlatform : Platform where
  crypto := .transparent
  formats := standardFormats fun _ => none
  candidateAdvertisementText advertisement :=
    if advertisement = sampleAdvertisement then some (Json.candidateAdvertisement advertisement)
    else none
  candidateAdvertisement bytes :=
    if bytes = Json.candidateAdvertisement sampleAdvertisement then some sampleAdvertisement else none
  subnetRouteAdvertisementText advertisement :=
    if advertisement = sampleRouteAdvertisement then
      some (Json.subnetRouteAdvertisement advertisement)
    else none
  subnetRouteAdvertisement bytes :=
    if bytes = Json.subnetRouteAdvertisement sampleRouteAdvertisement then
      some sampleRouteAdvertisement
    else none
  configurationPayloadText payload := some (Json.configurationPayload payload)
  textLe left right := !decide (strLt right left)
  lower := String.toLower

def sampleEnrollment : List ControllerRequest := [
  .createNetwork ⟨"home", "100.88.0.0/24", 16⟩ (fill 16 21) (sampleMoment 0),
  .createEnrollmentToken ⟨fill 16 21, 3600, 1, 1, [], none⟩ (fill 16 30) (fill 32 55)
    (sampleMoment 0),
  .enrollNode ⟨"xsenr1_" ++ Base64.urlEncode (fill 32 55).val, "laptop", "linux",
    Base64.urlEncode sampleIdentityKey.seed.val⟩ (fill 16 31) (sampleMoment 1)]

def sampleSignature (message : Bytes) : String :=
  Base64.urlEncode (Crypto.transparent.sign sampleIdentityKey message).val

def sampleAuthentication : ControllerRequest :=
  .authenticateControl (fill 32 77) (Base64.urlEncode sampleNodeId.val)
    (Base64.urlEncode (signCredential .transparent {
      networkId := fill 16 21
      identityPublicKey := sampleIdentityKey.seed
      virtualIpv4 := .new 100 88 0 16
      serial := 1
      notBefore := 1700000001
      notAfter := 1700003601
      roleBitmap := 1
      roleSetDigest := (roleSetDigest .transparent 1 []).getD (zeros 32) }
      sampleControllerKey).val)
    (sampleSignature (controlAuthenticationDomain ++ (fill 32 77).val ++ sampleNodeId.val))
    (seconds 1700000002)

def sampleAdvertising : List ControllerRequest := sampleEnrollment ++ [
  sampleAuthentication,
  .advertiseCandidates sampleSession sampleAdvertisement
    (sampleSignature (candidateAdvertisementDomain ++ Json.candidateAdvertisement sampleAdvertisement))
    (sampleMoment 3)]

def sampleMetadata : ConfigurationMetadata := ⟨4, 1, "100.88.0.0/24"⟩

def refusedByAgents (controller : Controller) : Bool :=
  match assembleConfiguration samplePlatform sampleAppState controller.database (fill 16 21)
      sampleMetadata (sampleMoment 3) with
  | .error _ => false
  | .ok payload => !(candidateChecks payload).toBool

theorem sampleAdvertising_refused :
    ∃ controller payload, ReachableController samplePlatform sampleAppState controller ∧
      assembleConfiguration samplePlatform sampleAppState controller.database (fill 16 21)
        sampleMetadata (sampleMoment 3) = .ok payload ∧
      ¬∃ endpoints, candidateChecks payload = .ok endpoints := by
  have hrun : holdsAfter samplePlatform sampleAppState sampleAdvertising refusedByAgents = true := by
    decide +kernel
  obtain ⟨controller, hreachable, hrefused⟩ := reachable_of_holdsAfter hrun
  unfold refusedByAgents at hrefused
  split at hrefused
  next => simp at hrefused
  next payload hassembled =>
    refine ⟨controller, payload, hreachable, hassembled, ?_⟩
    rintro ⟨endpoints, hok⟩
    rw [hok] at hrefused
    exact absurd hrefused (by simp [Except.toBool])

theorem samplePlatform_roundTrip : AdvertisementsRoundTrip samplePlatform := by
  intro advertisement bytes _ htext
  obtain ⟨hsample, hbytes⟩ := (Option.ite_none_right_eq_some).mp htext
  cases hbytes
  rw [hsample]
  exact if_pos rfl

theorem published_candidates_accepted_sample :
    ∃ controller, ReachableController samplePlatform sampleAppState controller ∧
      ¬(((liveCandidates samplePlatform controller.database (fill 16 21) (sampleMoment 3).transaction).map
          EndpointCandidate.endpoint).Nodup ∧
        ∀ candidate ∈ liveCandidates samplePlatform controller.database (fill 16 21)
            (sampleMoment 3).transaction,
          (sampleMoment 3).generated < candidate.expiresAt ∧
            candidate.endpoint ∉ sampleAppState.relays.map ConfigurationRelay.endpoint) := by
  obtain ⟨controller, payload, hreachable, hassembled, hrefused⟩ := sampleAdvertising_refused
  have haccepted :=
    published_candidates_accepted_iff samplePlatform_roundTrip hreachable hassembled
  exact ⟨controller, hreachable, fun h => hrefused (haccepted.mpr h)⟩

/-- A single node that advertises one endpoint under two kinds makes every Agent refuse the
configuration of the network. -/
theorem one_node_blocks_configuration :
    ¬∀ (controller : Controller) (payload : ConfigurationPayload),
      ReachableController samplePlatform sampleAppState controller →
      assembleConfiguration samplePlatform sampleAppState controller.database (fill 16 21)
        sampleMetadata (sampleMoment 3) = .ok payload →
      ∃ endpoints, candidateChecks payload = .ok endpoints := by
  intro h
  obtain ⟨controller, payload, hreachable, hassembled, hrefused⟩ := sampleAdvertising_refused
  exact hrefused (h controller payload hreachable hassembled)

end XsNexus
