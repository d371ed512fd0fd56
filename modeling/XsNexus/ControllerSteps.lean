import XsNexus.ControllerRuns

namespace XsNexus

open ByteCodec Checks

variable {p : Platform} {state : AppState}

/-- What a transaction on a network writes before it publishes. -/
inductive Edit (p : Platform) (networkId : Uuid) (times : Times) (db : Database) : Database → Prop
  | createNetwork (row : NetworkRow) (hid : row.id = networkId)
      (hfresh : ∀ stored ∈ db.networks, stored.id ≠ networkId) :
      Edit p networkId times db { db with networks := db.networks ++ [row] }
  | enrollNode (row : NodeRow) (hnetwork : row.networkId = networkId) (hactive : row.revokedAt = none)
      (hfresh : ∀ stored ∈ db.nodes, ¬nodeRowsClash stored row) (leases : List IpLeaseRow)
      (tokens : List EnrollmentTokenRow) (serial : Nat) :
      Edit p networkId times db { db with
        nodes := db.nodes ++ [row]
        ipLeases := leases
        enrollmentTokens := tokens
        credentialSerial := serial }
  | advertiseCandidates (row : AdvertisementRow) (node : NodeRow)
      (authenticated : AuthenticatedNode) (advertisement : CandidateAdvertisement)
      (hnode : node ∈ db.activeNodes networkId) (hid : row.nodeId = node.id)
      (hvalid : validateCandidateAdvertisement authenticated advertisement times.utc = .ok ())
      (htext : p.candidateAdvertisementText advertisement = some row.payload) :
      Edit p networkId times db { db with
        candidateAdvertisements := upsertAdvertisement db.candidateAdvertisements row }
  | replaceAclPolicy (memberships : List GroupMembershipRow) (rules : List AclRule)
      (policyVersion : Nat) :
      Edit p networkId times db (policyTables db networkId memberships rules policyVersion)
  | replaceSubnetRoutes (rows : List SubnetRouteRow)
      (hothers : rows.filter (fun row => row.networkId ≠ networkId) =
        db.subnetRoutes.filter fun row => row.networkId ≠ networkId) :
      Edit p networkId times db { db with subnetRoutes := rows }
  | revokeNode (node : NodeRow) (hnode : node ∈ db.activeNodes networkId) (cooldownUntil : Int) :
      Edit p networkId times db (revokeTables db node.id cooldownUntil times.transaction)
  | replaceNodeUpdateChannel (node : NodeRow) (hnode : node ∈ db.activeNodes networkId)
      (channel : UpdateChannel) :
      Edit p networkId times db
        (db.updateNode node.id fun node => { node with updateChannel := channel })

/-- What the requests that do not publish do to the tables. -/
inductive QuietEdit (db : Database) : Database → Prop
  | unchanged : QuietEdit db db
  | createEnrollmentToken (tokens : List EnrollmentTokenRow) :
      QuietEdit db { db with enrollmentTokens := tokens }
  | advertiseSubnetRoutes (rows : List AdvertisementRow) :
      QuietEdit db { db with subnetRouteAdvertisements := rows }

theorem createNetwork_ok {db db' : Database} {request : CreateNetworkRequest} {networkId : Uuid}
    {times : Times} {response : NetworkResponse}
    (h : createNetwork p state db request networkId times = .ok (response, db')) :
    ∃ tables signed, Edit p networkId times db tables ∧
      publishConfiguration p state tables networkId times = .ok (signed, db') := by
  obtain ⟨name, _, h⟩ := bind_ok.mp h
  obtain ⟨pool, _, h⟩ := bind_ok.mp h
  obtain ⟨_, h⟩ := guard_ok.mp h
  obtain ⟨_, h⟩ := guard_ok.mp h
  obtain ⟨_, h⟩ := guard_ok.mp h
  obtain ⟨_, h⟩ := guard_ok.mp h
  obtain ⟨hfresh, h⟩ := guard_ok.mp h
  obtain ⟨⟨configuration, tables⟩, hpublish, h⟩ := bind_ok.mp h
  cases h
  refine ⟨_, configuration, Edit.createNetwork _ rfl ?_, hpublish⟩
  intro stored hstored hid
  simp only [List.any_eq_true, not_exists, not_and] at hfresh
  exact hfresh stored hstored (by simp [hid])

theorem createEnrollmentToken_ok {db db' : Database} {request : CreateEnrollmentTokenRequest}
    {tokenId : Uuid} {random : Block 32} {times : Times} {response : EnrollmentTokenResponse}
    (h : createEnrollmentToken p db request tokenId random times = .ok (response, db')) :
    QuietEdit db db' := by
  obtain ⟨_, h⟩ := guard_ok.mp h
  obtain ⟨network, _, h⟩ := bind_ok.mp h
  obtain ⟨requestedVirtualIp, _, h⟩ := bind_ok.mp h
  obtain ⟨_, h⟩ := guard_ok.mp h
  cases h
  exact QuietEdit.createEnrollmentToken _

theorem issueCredential_ok {db db' : Database} {token : EnrollmentTokenRow}
    {identityPublicKey : Block 32} {virtualIp : Ipv4Addr} {utcNow : Int} {issued : IssuedCredential}
    (h : issueCredential p state db token identityPublicKey virtualIp utcNow = .ok (issued, db')) :
    ∃ serial, db' = { db with credentialSerial := serial } := by
  obtain ⟨_, h⟩ := guard_ok.mp h
  obtain ⟨_, _, h⟩ := bind_ok.mp h
  obtain ⟨_, _, h⟩ := bind_ok.mp h
  obtain ⟨_, h⟩ := guard_ok.mp h
  cases h
  exact ⟨_, rfl⟩

theorem persistNode_ok {db db' : Database} {row : NodeRow} {issuedAt now : Int}
    (h : persistNode db row issuedAt now = .ok db') :
    (∀ stored ∈ db.nodes, ¬nodeRowsClash stored row) ∧
      ∃ leases, db' = { db with nodes := db.nodes ++ [row], ipLeases := leases } := by
  obtain ⟨hfresh, h⟩ := guard_ok.mp h
  obtain ⟨_, h⟩ := guard_ok.mp h
  cases h
  simp only [List.any_eq_true, decide_eq_true_eq, not_exists, not_and] at hfresh
  exact ⟨hfresh, _, rfl⟩

theorem consumeToken_ok {db db' : Database} {tokenHash : Block 32} {now : Int}
    (h : consumeToken db tokenHash now = .ok db') :
    ∃ tokens, db' = { db with enrollmentTokens := tokens } := by
  unfold consumeToken at h
  dsimp only at h
  split at h
  next =>
    cases h
    exact ⟨_, rfl⟩
  next => simp at h

theorem enrollNode_ok {db db' : Database} {request : EnrollRequest} {databaseId : Uuid} {times : Times}
    {response : EnrollResponse}
    (h : enrollNode p state db request databaseId times = .ok (response, db')) :
    ∃ networkId tables signed, Edit p networkId times db tables ∧
      publishConfiguration p state tables networkId times = .ok (signed, db') := by
  obtain ⟨enrollment, _, h⟩ := bind_ok.mp h
  obtain ⟨token, _, h⟩ := bind_ok.mp h
  obtain ⟨_, h⟩ := guard_ok.mp h
  obtain ⟨_, h⟩ := guard_ok.mp h
  obtain ⟨network, _, h⟩ := bind_ok.mp h
  obtain ⟨virtualIp, _, h⟩ := bind_ok.mp h
  obtain ⟨⟨issued, issuedTables⟩, hissued, h⟩ := bind_ok.mp h
  obtain ⟨nodeTables, hnode, h⟩ := bind_ok.mp h
  obtain ⟨tokenTables, htoken, h⟩ := bind_ok.mp h
  obtain ⟨⟨configuration, tables⟩, hpublish, h⟩ := bind_ok.mp h
  cases h
  obtain ⟨serial, rfl⟩ := issueCredential_ok hissued
  obtain ⟨hfresh, leases, rfl⟩ := persistNode_ok hnode
  obtain ⟨tokens, rfl⟩ := consumeToken_ok htoken
  have hnew : ∀ stored ∈ db.nodes, ¬nodeRowsClash stored _ := hfresh
  refine ⟨token.networkId, _, configuration, ?_, hpublish⟩
  exact Edit.enrollNode _ rfl rfl hnew leases tokens serial

theorem mem_of_activeNode {db : Database} {networkId : Uuid} {nodeId : Block 16} {node : NodeRow}
    (h : db.activeNode networkId nodeId = some node) : node ∈ db.activeNodes networkId :=
  List.mem_of_find?_eq_some h

/-- All that an advertisement of candidates has checked and written. -/
theorem advertiseCandidates_tables {db db' : Database} {authenticated : AuthenticatedNode}
    {advertisement : CandidateAdvertisement} {signatureBase64 : String} {times : Times}
    {signed : SignedConfiguration}
    (h : advertiseCandidates p state db authenticated advertisement signatureBase64 times =
      .ok (signed, db')) :
    db' = db ∨ ∃ row node, node ∈ db.activeNodes authenticated.networkId ∧ row.nodeId = node.id ∧
      validateCandidateAdvertisement authenticated advertisement times.utc = .ok () ∧
      p.candidateAdvertisementText advertisement = some row.payload ∧
      publishConfiguration p state { db with
        candidateAdvertisements := upsertAdvertisement db.candidateAdvertisements row }
        authenticated.networkId times = .ok (signed, db') := by
  obtain ⟨_, hvalid, h⟩ := bind_ok.mp h
  obtain ⟨payload, htext, h⟩ := bind_ok.mp h
  obtain ⟨_, h⟩ := guard_ok.mp h
  obtain ⟨signature, _, h⟩ := bind_ok.mp h
  obtain ⟨node, hnode, h⟩ := bind_ok.mp h
  obtain ⟨verifyingKey, _, h⟩ := bind_ok.mp h
  obtain ⟨_, h⟩ := guard_ok.mp h
  obtain ⟨duplicate, _, h⟩ := bind_ok.mp h
  split at h
  next =>
    obtain ⟨configuration, _, h⟩ := bind_ok.mp h
    cases h
    exact Or.inl rfl
  next =>
    obtain ⟨_, h⟩ := guard_ok.mp h
    exact Or.inr ⟨_, node, mem_of_activeNode (okOr_ok.mp hnode), rfl, hvalid, okOr_ok.mp htext, h⟩

theorem advertiseCandidates_ok {db db' : Database} {authenticated : AuthenticatedNode}
    {advertisement : CandidateAdvertisement} {signatureBase64 : String} {times : Times}
    {signed : SignedConfiguration}
    (h : advertiseCandidates p state db authenticated advertisement signatureBase64 times =
      .ok (signed, db')) :
    db' = db ∨ ∃ tables signed, Edit p authenticated.networkId times db tables ∧
      publishConfiguration p state tables authenticated.networkId times = .ok (signed, db') := by
  rcases advertiseCandidates_tables h with rfl | ⟨row, node, hnode, hid, hvalid, htext, hpublish⟩
  · exact Or.inl rfl
  · exact Or.inr ⟨_, signed,
      Edit.advertiseCandidates row node authenticated advertisement hnode hid hvalid htext, hpublish⟩

theorem advertiseSubnetRoutes_ok {db db' : Database} {authenticated : AuthenticatedNode}
    {advertisement : SubnetRouteAdvertisement} {signatureBase64 : String} {times : Times}
    {answer : Except ApiError SignedConfiguration}
    (h : advertiseSubnetRoutes p db authenticated advertisement signatureBase64 times =
      .ok (answer, db')) : QuietEdit db db' := by
  obtain ⟨payload, _, h⟩ := bind_ok.mp h
  obtain ⟨_, h⟩ := guard_ok.mp h
  obtain ⟨signature, _, h⟩ := bind_ok.mp h
  obtain ⟨node, _, h⟩ := bind_ok.mp h
  obtain ⟨network, _, h⟩ := bind_ok.mp h
  obtain ⟨_, _, h⟩ := bind_ok.mp h
  obtain ⟨verifyingKey, _, h⟩ := bind_ok.mp h
  obtain ⟨_, h⟩ := guard_ok.mp h
  obtain ⟨duplicate, _, h⟩ := bind_ok.mp h
  split at h
  next =>
    cases h
    exact QuietEdit.unchanged
  next =>
    obtain ⟨_, h⟩ := guard_ok.mp h
    cases h
    exact QuietEdit.advertiseSubnetRoutes _

theorem replaceAclPolicy_tables {db db' : Database} {networkId : Uuid}
    {request : ReplaceAclPolicyRequest} {times : Times} {response : ReplaceAclPolicyResponse}
    (h : replaceAclPolicy p state db networkId request times = .ok (response, db')) :
    ∃ memberships rules policyVersion signed,
      publishConfiguration p state (policyTables db networkId memberships rules policyVersion) networkId
        times = .ok (signed, db') := by
  obtain ⟨_, h⟩ := guard_ok.mp h
  obtain ⟨groups, _, h⟩ := bind_ok.mp h
  obtain ⟨network, _, h⟩ := bind_ok.mp h
  obtain ⟨_, h⟩ := guard_ok.mp h
  obtain ⟨_, _, h⟩ := bind_ok.mp h
  obtain ⟨byNode, _, h⟩ := bind_ok.mp h
  obtain ⟨_, h⟩ := guard_ok.mp h
  obtain ⟨policy, _, h⟩ := bind_ok.mp h
  obtain ⟨tables, hpersist, h⟩ := bind_ok.mp h
  obtain ⟨⟨configuration, published⟩, hpublish, h⟩ := bind_ok.mp h
  cases h
  obtain ⟨memberships, _, hpersist⟩ := bind_ok.mp hpersist
  obtain ⟨_, hpersist⟩ := guard_ok.mp hpersist
  cases hpersist
  exact ⟨memberships.flatten, _, _, configuration, hpublish⟩

theorem replaceAclPolicy_ok {db db' : Database} {networkId : Uuid} {request : ReplaceAclPolicyRequest}
    {times : Times} {response : ReplaceAclPolicyResponse}
    (h : replaceAclPolicy p state db networkId request times = .ok (response, db')) :
    ∃ tables signed, Edit p networkId times db tables ∧
      publishConfiguration p state tables networkId times = .ok (signed, db') := by
  obtain ⟨memberships, rules, policyVersion, signed, hpublish⟩ := replaceAclPolicy_tables h
  exact ⟨_, signed, Edit.replaceAclPolicy memberships rules policyVersion, hpublish⟩

theorem filter_map_unchanged {α : Type*} {keep : α → Bool} {change : α → α}
    (hkeep : ∀ a, keep (change a) = keep a) (hsame : ∀ a, keep a = true → change a = a) (l : List α) :
    (l.map change).filter keep = l.filter keep := by
  induction l with
  | nil => rfl
  | cons a l ih =>
    rw [List.map_cons, List.filter_cons, List.filter_cons, hkeep a, ih]
    by_cases ha : keep a = true
    · rw [if_pos ha, if_pos ha, hsame a ha]
    · rw [if_neg ha, if_neg ha]

theorem persistSubnetRoute_others {rows rows' : List SubnetRouteRow} {row : SubnetRouteRow}
    (h : persistSubnetRoute rows row = .ok rows') :
    rows'.filter (fun stored => stored.networkId ≠ row.networkId) =
      rows.filter fun stored => stored.networkId ≠ row.networkId := by
  obtain ⟨_, h⟩ := guard_ok.mp h
  split at h
  next =>
    cases h
    apply filter_map_unchanged
    · intro stored
      by_cases hsame : stored.networkId = row.networkId ∧ stored.routeId = row.routeId
      · simp [hsame]
      · rw [if_neg hsame]
    · intro stored hother
      have hne : stored.networkId ≠ row.networkId := by simpa using hother
      exact if_neg fun hsame => hne hsame.1
  next =>
    cases h
    simp

theorem persistSubnetRoutes_ok {db db' : Database} {networkId : Uuid}
    {routes : List PersistedSubnetRoute} (h : persistSubnetRoutes db networkId routes = .ok db') :
    ∃ rows, db' = { db with subnetRoutes := rows } ∧
      rows.filter (fun row => row.networkId ≠ networkId) =
        db.subnetRoutes.filter fun row => row.networkId ≠ networkId := by
  obtain ⟨rows, hrows, h⟩ := bind_ok.mp h
  cases h
  refine ⟨rows, rfl, ?_⟩
  have hloop : ∀ (news : List SubnetRouteRow) (start : List SubnetRouteRow),
      (∀ row ∈ news, row.networkId = networkId) → news.foldlM persistSubnetRoute start = .ok rows →
      rows.filter (fun row => row.networkId ≠ networkId) =
        start.filter fun row => row.networkId ≠ networkId := by
    intro news
    induction news with
    | nil =>
      intro start _ hfold
      cases hfold
      rfl
    | cons row news ih =>
      intro start hnews hfold
      rw [List.foldlM_cons] at hfold
      obtain ⟨next, hnext, hfold⟩ := bind_ok.mp hfold
      obtain ⟨hrow, hnews⟩ := List.forall_mem_cons.mp hnews
      have hothers := persistSubnetRoute_others hnext
      rw [hrow] at hothers
      exact (ih next hnews hfold).trans hothers
  have hnews : ∀ row ∈ routes.map (subnetRouteRow networkId), row.networkId = networkId := by
    intro row hrow
    obtain ⟨persisted, _, rfl⟩ := List.mem_map.mp hrow
    rfl
  rw [hloop _ _ hnews hrows]
  apply filter_map_unchanged
  · intro row
    by_cases hsame : row.networkId = networkId
    · simp [hsame]
    · rw [if_neg hsame]
  · intro row hother
    have hne : row.networkId ≠ networkId := by simpa using hother
    exact if_neg hne

theorem replaceSubnetRoutes_tables {db db' : Database} {networkId : Uuid}
    {request : ReplaceSubnetRoutesRequest} {times : Times} {response : ReplaceSubnetRoutesResponse}
    (h : replaceSubnetRoutes p state db networkId request times = .ok (response, db')) :
    ∃ rows signed, rows.filter (fun row => row.networkId ≠ networkId) =
        db.subnetRoutes.filter (fun row => row.networkId ≠ networkId) ∧
      publishConfiguration p state { db with subnetRoutes := rows } networkId times =
        .ok (signed, db') := by
  obtain ⟨_, h⟩ := guard_ok.mp h
  obtain ⟨network, _, h⟩ := bind_ok.mp h
  obtain ⟨_, h⟩ := guard_ok.mp h
  obtain ⟨⟨persisted, enabled⟩, _, h⟩ := bind_ok.mp h
  obtain ⟨nodes, _, h⟩ := bind_ok.mp h
  obtain ⟨routes, _, h⟩ := bind_ok.mp h
  obtain ⟨policy, _, h⟩ := bind_ok.mp h
  obtain ⟨tables, hpersist, h⟩ := bind_ok.mp h
  obtain ⟨⟨configuration, published⟩, hpublish, h⟩ := bind_ok.mp h
  cases h
  obtain ⟨rows, rfl, hothers⟩ := persistSubnetRoutes_ok hpersist
  exact ⟨rows, configuration, hothers, hpublish⟩

theorem replaceSubnetRoutes_ok {db db' : Database} {networkId : Uuid}
    {request : ReplaceSubnetRoutesRequest} {times : Times} {response : ReplaceSubnetRoutesResponse}
    (h : replaceSubnetRoutes p state db networkId request times = .ok (response, db')) :
    ∃ tables signed, Edit p networkId times db tables ∧
      publishConfiguration p state tables networkId times = .ok (signed, db') := by
  obtain ⟨rows, signed, hothers, hpublish⟩ := replaceSubnetRoutes_tables h
  exact ⟨_, signed, Edit.replaceSubnetRoutes rows hothers, hpublish⟩

theorem revokeNode_ok {db db' : Database} {networkId : Uuid} {nodeIdBase64 : String}
    {ipCooldownSeconds : UInt64} {times : Times} {response : RevokeNodeResponse}
    (h : revokeNode p state db networkId nodeIdBase64 ipCooldownSeconds times = .ok (response, db')) :
    ∃ tables signed, Edit p networkId times db tables ∧
      publishConfiguration p state tables networkId times = .ok (signed, db') := by
  obtain ⟨_, h⟩ := guard_ok.mp h
  obtain ⟨nodeId, _, h⟩ := bind_ok.mp h
  obtain ⟨node, hnode, h⟩ := bind_ok.mp h
  obtain ⟨⟨configuration, published⟩, hpublish, h⟩ := bind_ok.mp h
  cases h
  exact ⟨_, configuration, Edit.revokeNode node (mem_of_activeNode (okOr_ok.mp hnode)) _, hpublish⟩

theorem replaceNodeUpdateChannel_tables {db db' : Database} {networkId : Uuid}
    {nodeIdBase64 : String} {request : ReplaceNodeUpdateChannelRequest} {times : Times}
    {response : ReplaceNodeUpdateChannelResponse}
    (h : replaceNodeUpdateChannel p state db networkId nodeIdBase64 request times =
      .ok (response, db')) :
    ∃ node channel signed, node ∈ db.activeNodes networkId ∧
      publishConfiguration p state
        (db.updateNode node.id fun node => { node with updateChannel := channel }) networkId times =
        .ok (signed, db') := by
  obtain ⟨_, h⟩ := guard_ok.mp h
  obtain ⟨nodeId, _, h⟩ := bind_ok.mp h
  obtain ⟨network, _, h⟩ := bind_ok.mp h
  obtain ⟨_, h⟩ := guard_ok.mp h
  obtain ⟨node, hnode, h⟩ := bind_ok.mp h
  obtain ⟨⟨configuration, published⟩, hpublish, h⟩ := bind_ok.mp h
  cases h
  exact ⟨node, _, configuration, mem_of_activeNode (okOr_ok.mp hnode), hpublish⟩

theorem replaceNodeUpdateChannel_ok {db db' : Database} {networkId : Uuid} {nodeIdBase64 : String}
    {request : ReplaceNodeUpdateChannelRequest} {times : Times}
    {response : ReplaceNodeUpdateChannelResponse}
    (h : replaceNodeUpdateChannel p state db networkId nodeIdBase64 request times =
      .ok (response, db')) :
    ∃ tables signed, Edit p networkId times db tables ∧
      publishConfiguration p state tables networkId times = .ok (signed, db') := by
  obtain ⟨node, channel, signed, hnode, hpublish⟩ := replaceNodeUpdateChannel_tables h
  exact ⟨_, signed, Edit.replaceNodeUpdateChannel node hnode channel, hpublish⟩

/-- What a request may do to the tables: nothing that is published, or an edit with its
publication. -/
inductive Transaction (p : Platform) (state : AppState) (db db' : Database) : Prop
  | quiet (h : QuietEdit db db')
  | published {networkId : Uuid} {times : Times} {tables : Database} {signed : SignedConfiguration}
      (hedit : Edit p networkId times db tables)
      (hpublish : publishConfiguration p state tables networkId times = .ok (signed, db'))

theorem serve_transaction {controller controller' : Controller} {request : ControllerRequest}
    (h : controller.serve p state request = .ok controller') :
    Transaction p state controller.database controller'.database := by
  cases request with
  | createNetwork request networkId times =>
    obtain ⟨⟨response, db⟩, hserved, h⟩ := bind_ok.mp h
    cases h
    obtain ⟨tables, signed, hedit, hpublish⟩ := createNetwork_ok hserved
    exact .published hedit hpublish
  | createEnrollmentToken request tokenId random times =>
    obtain ⟨⟨response, db⟩, hserved, h⟩ := bind_ok.mp h
    cases h
    exact .quiet (createEnrollmentToken_ok hserved)
  | enrollNode request databaseId times =>
    obtain ⟨⟨response, db⟩, hserved, h⟩ := bind_ok.mp h
    cases h
    obtain ⟨networkId, tables, signed, hedit, hpublish⟩ := enrollNode_ok hserved
    exact .published hedit hpublish
  | authenticateControl challenge nodeIdBase64 credentialBase64 signatureBase64 utcNow =>
    obtain ⟨authenticated, _, h⟩ := bind_ok.mp h
    cases h
    exact .quiet .unchanged
  | advertiseCandidates authenticated advertisement signatureBase64 times =>
    obtain ⟨_, h⟩ := guard_ok.mp h
    obtain ⟨⟨signed, db⟩, hserved, h⟩ := bind_ok.mp h
    cases h
    rcases advertiseCandidates_ok hserved with rfl | ⟨tables, signed, hedit, hpublish⟩
    · exact .quiet .unchanged
    · exact .published hedit hpublish
  | advertiseSubnetRoutes authenticated advertisement signatureBase64 times =>
    obtain ⟨_, h⟩ := guard_ok.mp h
    obtain ⟨⟨answer, db⟩, hserved, h⟩ := bind_ok.mp h
    cases h
    exact .quiet (advertiseSubnetRoutes_ok hserved)
  | replaceAclPolicy networkId request times =>
    obtain ⟨⟨response, db⟩, hserved, h⟩ := bind_ok.mp h
    cases h
    obtain ⟨tables, signed, hedit, hpublish⟩ := replaceAclPolicy_ok hserved
    exact .published hedit hpublish
  | replaceSubnetRoutes networkId request times =>
    obtain ⟨⟨response, db⟩, hserved, h⟩ := bind_ok.mp h
    cases h
    obtain ⟨tables, signed, hedit, hpublish⟩ := replaceSubnetRoutes_ok hserved
    exact .published hedit hpublish
  | revokeNode networkId nodeIdBase64 ipCooldownSeconds times =>
    obtain ⟨⟨response, db⟩, hserved, h⟩ := bind_ok.mp h
    cases h
    obtain ⟨tables, signed, hedit, hpublish⟩ := revokeNode_ok hserved
    exact .published hedit hpublish
  | replaceNodeUpdateChannel networkId nodeIdBase64 request times =>
    obtain ⟨⟨response, db⟩, hserved, h⟩ := bind_ok.mp h
    cases h
    obtain ⟨tables, signed, hedit, hpublish⟩ := replaceNodeUpdateChannel_ok hserved
    exact .published hedit hpublish

/-- An invariant of the tables holds in every controller that can be reached. -/
theorem ReachableController.induct {Inv : Database → Prop} (hempty : Inv .empty)
    (hquiet : ∀ {db db'}, Inv db → QuietEdit db db' → Inv db')
    (hpublished : ∀ {db tables db' networkId times signed}, Inv db → Edit p networkId times db tables →
      publishConfiguration p state tables networkId times = .ok (signed, db') → Inv db')
    {controller : Controller} (h : ReachableController p state controller) :
    Inv controller.database := by
  induction h with
  | initial => exact hempty
  | served _ hs ih =>
    cases serve_transaction hs with
    | quiet hedit => exact hquiet ih hedit
    | published hedit hpublish => exact hpublished ih hedit hpublish

end XsNexus
