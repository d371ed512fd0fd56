import XsNexus.CommittedVersions

namespace XsNexus

open ByteCodec Checks FiniteMap ReadCommitted Runs

variable {p : Platform} {state : AppState} {networkId : Uuid} {foreign : Block 32 → Prop}
  {moments : Times → Prop} {known : Assertion}

/-- What is known of a transaction that has not published and may go on to write. -/
structure Preparing (p : Platform) (state : AppState) (networkId : Uuid) (foreign : Block 32 → Prop)
    (moments : Times → Prop) (known : Assertion) : Prop where
  steady : Steady (publicationDiscipline p state networkId foreign moments) known
  prepared : ∀ {held writes seen}, known held writes seen → Prepared networkId foreign held writes seen
  append : ∀ {held writes later seen}, known held writes seen →
    (∀ write ∈ later, write.Harmless networkId foreign) → known held (writes ++ later) seen

theorem prepared_preparing :
    Preparing p state networkId foreign moments (Prepared networkId foreign) :=
  ⟨prepared_steady, id, fun h hlater => h.append hlater⟩

/-- A change to none of the tables of a configuration, nor to the tokens. -/
theorem disciplined_same {db db' : Database} (hsame : SameTables db db')
    (htokens : db'.enrollmentTokens = db.enrollmentTokens)
    (hinv : (publicationDiscipline p state networkId foreign moments).Inv db) :
    (publicationDiscipline p state networkId foreign moments).Inv db' ∧
      ∀ held, (publicationDiscipline p state networkId foreign moments).Rely held db db' := by
  refine ⟨⟨hinv.1.of_sameTables hsame, fun row hrow => ?_⟩, fun held => ⟨?_, fun _ => hsame⟩⟩
  · rw [htokens] at hrow
    exact hinv.2 row hrow
  · rw [hsame.configurationRows]

namespace Preparing

variable {α β : Type} {post : β → Assertion}

theorem withLock (h : Preparing p state networkId foreign moments known)
    {lock : Lockable × LockMode} :
    Preparing p state networkId foreign moments fun held writes seen =>
      lock ∈ held ∧ known held writes seen :=
  ⟨h.steady.withLock, fun hknown => h.prepared hknown.2,
    fun hknown hlater => ⟨hknown.1, h.append hknown.2 hlater⟩⟩

/-- The tokens as a transaction sees them that has not published. -/
theorem ownTokens (h : Preparing p state networkId foreign moments known)
    {held : List (Lockable × LockMode)} {writes : List RowWrite} {seen : Database}
    (hknown : known held writes seen)
    (hinv : (publicationDiscipline p state networkId foreign moments).Inv seen) :
    OwnTokens networkId foreign (lockRules.view seen writes) :=
  hinv.2.view (h.prepared hknown).keepsTokens

theorem execute (h : Preparing p state networkId foreign moments known)
    {writes : Database → List RowWrite} {f : Unit → Tx β}
    (hwrites : ∀ db, ∀ write ∈ writes db, write.Harmless networkId foreign)
    (hf : Leads (publicationDiscipline p state networkId foreign moments) known (f ()) post) :
    Leads (publicationDiscipline p state networkId foreign moments) known
      (Tx.execute writes >>= f) post :=
  Leads.execute h.steady (fun _ _ _ hknown _ => h.append hknown (hwrites _)) hf

theorem executing (h : Preparing p state networkId foreign moments known)
    {writes : Database → List RowWrite}
    (hwrites : ∀ db, ∀ write ∈ writes db, write.Harmless networkId foreign) :
    Leads (publicationDiscipline p state networkId foreign moments) known (Tx.execute writes)
      fun _ => known :=
  h.execute hwrites (Leads.pure fun _ _ _ hknown => hknown)

theorem executeReturning (h : Preparing p state networkId foreign moments known)
    {run : Database → Except ApiError (α × List RowWrite)} {f : α → Tx β}
    (hrun : ∀ db a writes, OwnTokens networkId foreign db → run db = .ok (a, writes) →
      ∀ write ∈ writes, write.Harmless networkId foreign)
    (hf : ∀ a, Leads (publicationDiscipline p state networkId foreign moments) known (f a) post) :
    Leads (publicationDiscipline p state networkId foreign moments) known
      (Tx.executeReturning run >>= f) post :=
  Leads.executeReturning h.steady (fun _ _ _ a writes hknown hinv hresult =>
    h.append hknown (hrun _ a writes (h.ownTokens hknown hinv) hresult)) hf

theorem executedReturning (h : Preparing p state networkId foreign moments known)
    {run : Database → Except ApiError (β × List RowWrite)}
    (hrun : ∀ db a writes, OwnTokens networkId foreign db → run db = .ok (a, writes) →
      ∀ write ∈ writes, write.Harmless networkId foreign) :
    Leads (publicationDiscipline p state networkId foreign moments) known (Tx.executeReturning run)
      fun _ => known :=
  h.executeReturning hrun fun _ => Leads.pure fun _ _ _ hknown => hknown

open Transactions

theorem insertMembership (h : Preparing p state networkId foreign moments known)
    (row : GroupMembershipRow) :
    Leads (publicationDiscipline p state networkId foreign moments) known
      (Transactions.insertMembership row)
      fun _ => known := by
  refine h.execute (fun _ write hmem => ?_) (Leads.lockedRow h.steady)
  cases List.mem_singleton.mp hmem
  trivial

theorem insertGroup (h : Preparing p state networkId foreign moments known) (ids : Map String Uuid)
    (group : AclGroupRequest) :
    Leads (publicationDiscipline p state networkId foreign moments) known
      (Transactions.insertGroup networkId ids group) fun _ => known :=
  Leads.locked h.steady (Leads.require fun _ _ => Leads.forM fun row => h.insertMembership row)

theorem insertRule (h : Preparing p state networkId foreign moments known) (rule : AclRule) :
    Leads (publicationDiscipline p state networkId foreign moments) known
      (Transactions.insertRule networkId rule)
      fun _ => known := by
  refine h.execute (fun _ write hmem => ?_) (Leads.lockedRow h.steady)
  cases List.mem_singleton.mp hmem
  trivial

theorem insertSubnetRoute (h : Preparing p state networkId foreign moments known)
    (row : SubnetRouteRow) :
    Leads (publicationDiscipline p state networkId foreign moments) known
      (Transactions.insertSubnetRoute row)
      fun _ => known := by
  refine h.executeReturning (fun _ _ _ _ hrun write hmem => ?_) fun _ =>
    Leads.locked h.steady (Leads.lockedRow h.steady)
  obtain ⟨_, _, hrun⟩ := bind_ok.mp hrun
  cases hrun
  cases List.mem_singleton.mp hmem
  trivial

theorem persistSubnetRoutes (h : Preparing p state networkId foreign moments known)
    (routes : List PersistedSubnetRoute) :
    Leads (publicationDiscipline p state networkId foreign moments) known
      (Transactions.persistSubnetRoutes networkId routes) fun _ => known := by
  refine h.execute (fun _ write hmem => ?_) (Leads.forM fun row => h.insertSubnetRoute row)
  obtain ⟨_, _, rfl⟩ := List.mem_map.mp hmem
  trivial

/-- The policy version is counted in the row of the network, which is locked. -/
theorem persistAclPolicy {groups : List AclGroupRequest} {rules : List AclRule}
    {ids : Map String Uuid} {policyVersion : UInt64} :
    Leads (publicationDiscipline p state networkId foreign moments)
      (fun held writes seen => (.network networkId, .update) ∈ held ∧
        Prepared networkId foreign held writes seen)
      (Transactions.persistAclPolicy networkId groups rules ids policyVersion)
      fun _ => Prepared networkId foreign := by
  have h : Preparing p state networkId foreign moments fun held writes seen =>
      (.network networkId, .update) ∈ held ∧ Prepared networkId foreign held writes seen :=
    prepared_preparing.withLock
  refine h.execute (fun _ write hmem => ?_) (h.execute (fun _ write hmem => ?_) ?_)
  · obtain ⟨_, _, rfl⟩ := List.mem_map.mp hmem
    trivial
  · obtain ⟨_, _, rfl⟩ := List.mem_map.mp hmem
    trivial
  refine Leads.bind (Leads.forM fun group => h.insertGroup ids group) fun _ =>
    Leads.bind (Leads.forM fun rule => h.insertRule rule) fun _ => ?_
  split
  next => exact Leads.refuse
  next =>
    refine Leads.executed h.steady fun held done seen hknown hinv write hmem => ?_
    obtain ⟨hlock, hprepared⟩ := hknown
    rcases List.mem_append.mp hmem with hmem | hmem
    · exact hprepared write hmem
    · obtain ⟨⟨network, _, _, _, hfound, _⟩, _⟩ := hinv
      obtain ⟨_, viewed, hviewed, hsame⟩ := hprepared.view hfound
      rw [hviewed] at hmem
      cases List.mem_singleton.mp hmem
      have hid : viewed.id = networkId := by simpa using List.find?_some hviewed
      exact Or.inr ⟨Or.inr hlock, network, hfound, hid, hsame⟩

theorem loadValidSubnetSuggestions (h : Preparing p state networkId foreign moments known) {now : Int} :
    Leads (publicationDiscipline p state networkId foreign moments) known
      (Transactions.loadValidSubnetSuggestions p networkId now) fun _ => known :=
  Leads.selected h.steady fun _ => Leads.bind (Leads.lockRows h.steady) fun _ =>
    Leads.selected h.steady fun _ => Leads.require fun _ _ => Leads.pure fun _ _ _ hknown => hknown

theorem prepareSubnetRoutes (h : Preparing p state networkId foreign moments known)
    {addressPool : String} {routes : List SubnetRouteApprovalRequest} {now : Int} :
    Leads (publicationDiscipline p state networkId foreign moments) known
      (Transactions.prepareSubnetRoutes p networkId addressPool routes now) fun _ => known :=
  Leads.selected h.steady fun _ => Leads.bind h.loadValidSubnetSuggestions fun _ =>
    Leads.require fun _ _ => Leads.require fun _ _ => Leads.pure fun _ _ _ hknown => hknown

theorem loadConfigurationNodes (h : Preparing p state networkId foreign moments known) {now : Int} :
    Leads (publicationDiscipline p state networkId foreign moments) known
      (Transactions.loadConfigurationNodes p networkId now) fun _ => known :=
  Leads.selected h.steady fun _ => Leads.selected h.steady fun _ =>
    Leads.required fun _ _ _ _ _ hknown => hknown

theorem issueCredential (h : Preparing p state networkId foreign moments known)
    {token : EnrollmentTokenRow} {identityPublicKey : Block 32} {virtualIp : Ipv4Addr} {utcNow : Int} :
    Leads (publicationDiscipline p state networkId foreign moments) known
      (Transactions.issueCredential p state token identityPublicKey virtualIp utcNow)
      fun _ => known := by
  have hserial : Leads (publicationDiscipline p state networkId foreign moments) known
      Transactions.nextCredentialSerial fun _ => known := by
    refine Leads.outside h.steady fun now hinv => ?_
    have hsame : SameTables now { now with credentialSerial := now.credentialSerial + 1 } :=
      ⟨rfl, rfl, rfl, rfl, rfl, rfl, rfl⟩
    exact disciplined_same hsame rfl hinv
  exact Leads.bind hserial fun serial => Leads.require fun _ _ => Leads.pure fun _ _ _ hknown => hknown

theorem persistNode (h : Preparing p state networkId foreign moments known) {row : NodeRow}
    {issuedAt now : Int} :
    Leads (publicationDiscipline p state networkId foreign moments) known
      (Transactions.persistNode row issuedAt now) fun _ => known := by
  refine Leads.locked h.steady (h.executeReturning (fun _ _ _ _ hrun write hmem => ?_) fun _ =>
    Leads.locked h.steady (h.executing fun db write hmem => ?_))
  · obtain ⟨_, _, hrun⟩ := bind_ok.mp hrun
    cases hrun
    cases List.mem_singleton.mp hmem
    trivial
  · split at hmem
    next => simp at hmem
    next =>
      cases List.mem_singleton.mp hmem
      trivial

theorem consumeToken (h : Preparing p state networkId foreign moments known) {tokenHash : Block 32}
    {now : Int} :
    Leads (publicationDiscipline p state networkId foreign moments) known
      (Transactions.consumeToken tokenHash now) fun _ => known := by
  refine h.executedReturning fun db _ writes htokens hrun write hmem => ?_
  obtain ⟨_, _, hrun⟩ := bind_ok.mp hrun
  cases hrun
  obtain ⟨row, hrow, rfl⟩ := List.mem_map.mp hmem
  exact htokens row (List.mem_filter.mp hrow).1

end Preparing

/-- A transaction that has written an advertisement of subnet routes at most. -/
def Idle : Assertion := fun _ writes _ => ∀ write ∈ writes, ∃ row, write = .subnetRouteAdvertisement row

theorem idle_steady : Steady (publicationDiscipline p state networkId foreign moments) Idle :=
  ⟨fun h _ _ => h, fun _ h => h⟩

theorem Idle.view {db : Database} {writes : List RowWrite}
    (h : ∀ write ∈ writes, ∃ row, write = .subnetRouteAdvertisement row) :
    SameTables db (lockRules.view db writes) ∧
      (lockRules.view db writes).enrollmentTokens = db.enrollmentTokens := by
  induction writes generalizing db with
  | nil => exact ⟨SameTables.refl db, rfl⟩
  | cons write writes ih =>
    obtain ⟨row, rfl⟩ := h write (List.mem_cons_self ..)
    obtain ⟨hsame, htokens⟩ := @ih (db.writeRow (.subnetRouteAdvertisement row))
      fun later hmem => h later (List.mem_cons_of_mem _ hmem)
    have hrow : SameTables db (db.writeRow (.subnetRouteAdvertisement row)) :=
      ⟨rfl, rfl, rfl, rfl, rfl, rfl, rfl⟩
    exact ⟨hrow.trans hsame, htokens⟩

/-- The end of a transaction that has published, or had nothing to publish. -/
theorem commit_guarantees {held : List (Lockable × LockMode)} {writes : List RowWrite} {seen : Database}
    (h : Published p state networkId foreign moments held writes seen ∨ Idle held writes seen) :
    Script.Guarantees lockRules (publicationDiscipline p state networkId foreign moments) held writes
      seen .commit := by
  intro now hrely hinv
  rcases h with hpublished | hidle
  · obtain ⟨base, tables, hfrozen, hupToDate, hprefix⟩ := published_steady.later hpublished hrely hinv
    have hrows := hfrozen.tables.configurationRows networkId
    have hbase := hfrozen.base.configurationRows networkId
    refine ⟨⟨hupToDate.of_sameTables hfrozen.tables, hinv.2.view hfrozen.tokens⟩, fun others hothers => ?_⟩
    refine ⟨?_, fun hcounts => absurd hcounts (hfrozen.counts.alone hothers)⟩
    rw [hrows, hbase]
    exact hprefix
  · obtain ⟨hsame, htokens⟩ := @Idle.view now writes hidle
    obtain ⟨hkept, hrelied⟩ := disciplined_same hsame htokens hinv
    exact ⟨hkept, fun others _ => hrelied others⟩

/-- The writes of a transaction that begins -/
def Unwritten : Assertion := fun _ writes _ => writes = []

/-- The whole of a transaction keeps to the discipline. -/
theorem run_guarantees {x : Tx Unit} {post : Unit → Assertion}
    (h : Leads (publicationDiscipline p state networkId foreign moments) Unwritten x post)
    (hpost : ∀ held writes seen, post () held writes seen →
      Published p state networkId foreign moments held writes seen ∨ Idle held writes seen)
    (now : Database) :
    x.run.Guarantees lockRules (publicationDiscipline p state networkId foreign moments) [] [] now :=
  h.run (fun held writes seen hdone => commit_guarantees (hpost held writes seen hdone)) rfl

theorem prepared_of_unwritten {held : List (Lockable × LockMode)} {writes : List RowWrite}
    {seen : Database} (h : Unwritten held writes seen) : Prepared networkId foreign held writes seen := by
  intro write hmem
  rw [show writes = [] from h] at hmem
  exact absurd hmem List.not_mem_nil

section Requests

theorem leads_publish {times : Times} (hmoment : moments times) :
    Leads (publicationDiscipline p state networkId foreign moments) (Prepared networkId foreign) (do
      Transactions.publishConfiguration p state networkId times
      Transactions.appendAudit networkId) fun _ => Published p state networkId foreign moments :=
  Leads.bind (leads_publishConfiguration hmoment) fun _ => Leads.lockedRow published_steady

/-- A row that is locked, of which no more is needed. -/
theorem locksRow {α β : Type} {post : β → Assertion} {find : Database → Option α} {target : α → Lockable}
    {e : ApiError} {f : α → Tx β} (holds : α → Prop)
    (hfind : ∀ db row, OwnTokens networkId foreign db → find db = some row → holds row)
    (hf : ∀ row, holds row → Leads (publicationDiscipline p state networkId foreign moments)
      (Prepared networkId foreign) (f row) post) :
    Leads (publicationDiscipline p state networkId foreign moments) (Prepared networkId foreign)
      (Tx.selectForUpdate find target >>= fun found => Tx.require (okOr e found) >>= f) post :=
  Leads.selectForUpdate holds prepared_steady
    (fun _ _ _ hknown hinv row hrow => hfind _ row (prepared_preparing.ownTokens hknown hinv) hrow)
    fun row hrow => Leads.weaken (Prepared networkId foreign) (hf row hrow) And.right

theorem leads_enrollNode {request : EnrollRequest} {databaseId : Uuid} {times : Times}
    (hown : ¬foreign (enrollmentTokenHash p request.token)) (hmoment : moments times) :
    Leads (publicationDiscipline p state networkId foreign moments) (Prepared networkId foreign)
      (Transactions.enrollNode p state request databaseId times)
      fun _ => Published p state networkId foreign moments := by
  have h : Preparing p state networkId foreign moments (Prepared networkId foreign) := prepared_preparing
  unfold Transactions.enrollNode
  refine Leads.require fun enrollment henrollment => ?_
  have hhash : enrollment.tokenHash = enrollmentTokenHash p request.token := by
    obtain ⟨_, _, henrollment⟩ := bind_ok.mp henrollment
    obtain ⟨_, _, henrollment⟩ := bind_ok.mp henrollment
    obtain ⟨_, henrollment⟩ := guard_ok.mp henrollment
    obtain ⟨_, _, henrollment⟩ := bind_ok.mp henrollment
    obtain ⟨_, _, henrollment⟩ := bind_ok.mp henrollment
    cases henrollment
    rfl
  refine locksRow (fun token => token.networkId = networkId) (fun db token htokens hfind => ?_)
    fun token htoken => ?_
  · have hstored : token.tokenHash = enrollment.tokenHash := by simpa using List.find?_some hfind
    refine (htokens token (List.mem_of_find?_eq_some hfind)).resolve_right ?_
    rw [hstored, hhash]
    exact hown
  split
  next => exact Leads.refuse
  next =>
    rw [htoken]
    refine Leads.locked h.steady (Leads.selected h.steady fun identityExists => ?_)
    split
    next => exact Leads.refuse
    next =>
      exact Leads.selected h.steady fun _ => Leads.require fun _ _ =>
        Leads.selected h.steady fun _ => Leads.require fun _ _ =>
          Leads.bind h.issueCredential fun _ => Leads.bind h.persistNode fun _ =>
            Leads.bind h.consumeToken fun _ => leads_publish hmoment

theorem leads_revokeNode {nodeIdBase64 : String} {ipCooldownSeconds : UInt64} {times : Times}
    (hmoment : moments times) :
    Leads (publicationDiscipline p state networkId foreign moments) (Prepared networkId foreign)
      (Transactions.revokeNode p state networkId nodeIdBase64 ipCooldownSeconds times)
      fun _ => Published p state networkId foreign moments := by
  have h : Preparing p state networkId foreign moments (Prepared networkId foreign) := prepared_preparing
  unfold Transactions.revokeNode
  split
  next => exact Leads.refuse
  next =>
    refine Leads.require fun nodeId _ => Leads.locked h.steady
      (locksRow (fun _ => True) (fun _ _ _ _ => trivial) fun node _ => ?_)
    refine h.execute (fun _ write hmem => ?_) (h.execute (fun _ write hmem => ?_)
      (leads_publish hmoment))
    · obtain ⟨_, _, rfl⟩ := List.mem_map.mp hmem
      trivial
    · obtain ⟨_, _, rfl⟩ := List.mem_map.mp hmem
      trivial

theorem leads_replaceNodeUpdateChannel {nodeIdBase64 : String}
    {request : ReplaceNodeUpdateChannelRequest} {times : Times} (hmoment : moments times) :
    Leads (publicationDiscipline p state networkId foreign moments) (Prepared networkId foreign)
      (Transactions.replaceNodeUpdateChannel p state networkId nodeIdBase64 request times)
      fun _ => Published p state networkId foreign moments := by
  have h : Preparing p state networkId foreign moments (Prepared networkId foreign) := prepared_preparing
  unfold Transactions.replaceNodeUpdateChannel
  split
  next => exact Leads.refuse
  next =>
    refine Leads.require fun nodeId _ => Leads.locked h.steady
      (locksRow (fun _ => True) (fun _ _ _ _ => trivial) fun network _ => ?_)
    split
    next => exact Leads.refuse
    next =>
      refine locksRow (fun _ => True) (fun _ _ _ _ => trivial) fun node _ => ?_
      refine h.execute (fun _ write hmem => ?_) (leads_publish hmoment)
      obtain ⟨_, _, rfl⟩ := List.mem_map.mp hmem
      trivial

theorem leads_replaceSubnetRoutes {request : ReplaceSubnetRoutesRequest} {times : Times}
    (hmoment : moments times) :
    Leads (publicationDiscipline p state networkId foreign moments) (Prepared networkId foreign)
      (Transactions.replaceSubnetRoutes p state networkId request times)
      fun _ => Published p state networkId foreign moments := by
  have h : Preparing p state networkId foreign moments (Prepared networkId foreign) := prepared_preparing
  unfold Transactions.replaceSubnetRoutes
  split
  next => exact Leads.refuse
  next =>
    refine Leads.locked h.steady
      (locksRow (fun _ => True) (fun _ _ _ _ => trivial) fun network _ => ?_)
    split
    next => exact Leads.refuse
    next =>
      exact Leads.bind h.prepareSubnetRoutes fun _ => Leads.bind h.loadConfigurationNodes fun _ =>
        Leads.selected h.steady fun _ => Leads.require fun _ _ => Leads.require fun _ _ =>
          Leads.bind (h.persistSubnetRoutes _) fun _ => leads_publish hmoment

theorem leads_replaceAclPolicy {request : ReplaceAclPolicyRequest} {times : Times}
    (hmoment : moments times) :
    Leads (publicationDiscipline p state networkId foreign moments) (Prepared networkId foreign)
      (Transactions.replaceAclPolicy p state networkId request times)
      fun _ => Published p state networkId foreign moments := by
  have h : Preparing p state networkId foreign moments (Prepared networkId foreign) := prepared_preparing
  have hlocked : Preparing p state networkId foreign moments fun held writes seen =>
      (.network networkId, .update) ∈ held ∧ Prepared networkId foreign held writes seen := h.withLock
  unfold Transactions.replaceAclPolicy
  split
  next => exact Leads.refuse
  next =>
    refine Leads.require fun groups _ => Leads.locked h.steady (Leads.selectForUpdate
      (fun network => network.id = networkId) h.steady
      (fun _ _ _ _ _ network hfind => by simpa using List.find?_some hfind) fun network hid => ?_)
    rw [hid]
    split
    next => exact Leads.refuse
    next =>
      refine Leads.selected hlocked.steady fun _ => Leads.selected hlocked.steady fun _ =>
        Leads.require fun _ _ => Leads.require fun _ _ => ?_
      split
      next => exact Leads.refuse
      next =>
        exact Leads.require fun _ _ => Leads.bind Preparing.persistAclPolicy fun _ =>
          leads_publish hmoment

theorem leads_advertisementIsDuplicate {rows : Database → List AdvertisementRow}
    {target : Uuid → Lockable} {databaseId : Uuid} {generation : UInt64} {payload : Bytes}
    {signature : Block 64} (h : Steady (publicationDiscipline p state networkId foreign moments) known) :
    Leads (publicationDiscipline p state networkId foreign moments) known
      (Transactions.advertisementIsDuplicate rows target databaseId generation payload signature)
      fun _ => known :=
  Leads.bind (Leads.selectedForUpdate h) fun _ => Leads.selected h fun _ =>
    Leads.required fun _ _ _ _ _ hknown => hknown

theorem leads_upsertAdvertisement {rows : Database → List AdvertisementRow} {target : Uuid → Lockable}
    {references : List Lockable} {write : AdvertisementRow → RowWrite} {row : AdvertisementRow}
    (h : Steady (publicationDiscipline p state networkId foreign moments) known)
    (hwrite : ∀ held writes seen, known held writes seen → known held (writes ++ [write row]) seen) :
    Leads (publicationDiscipline p state networkId foreign moments) known
      (Transactions.upsertAdvertisement rows target references write row) fun _ => known := by
  have hexecute : Leads (publicationDiscipline p state networkId foreign moments) known
      (Tx.execute fun _ => [write row]) fun _ => known :=
    Leads.executed h fun held writes seen hknown _ => hwrite held writes seen hknown
  refine Leads.selected h fun stored => ?_
  split
  next => exact Leads.locked h hexecute
  next => exact Leads.bind (Leads.lockRows h) fun _ => hexecute

theorem leads_advertiseCandidates {authenticated : AuthenticatedNode}
    {advertisement : CandidateAdvertisement} {signatureBase64 : String} {times : Times}
    (hnetwork : authenticated.networkId = networkId) (hmoment : moments times) :
    Leads (publicationDiscipline p state networkId foreign moments) (Prepared networkId foreign)
      (Transactions.advertiseCandidates p state authenticated advertisement signatureBase64 times)
      fun _ => Published p state networkId foreign moments := by
  have h : Preparing p state networkId foreign moments (Prepared networkId foreign) := prepared_preparing
  unfold Transactions.advertiseCandidates
  refine Leads.require fun _ _ => Leads.require fun payload _ => ?_
  split
  next => exact Leads.refuse
  next =>
    refine Leads.require fun signature _ => locksRow (fun _ => True) (fun _ _ _ _ => trivial)
      fun node _ => Leads.require fun verifyingKey _ => ?_
    split
    next => exact Leads.refuse
    next =>
      refine Leads.bind (leads_advertisementIsDuplicate h.steady) fun duplicate => ?_
      split
      next => exact Leads.refuse
      next =>
        refine Leads.bind (leads_upsertAdvertisement h.steady fun held writes seen hknown =>
          h.append hknown fun write hmem => ?_) fun _ => ?_
        · cases List.mem_singleton.mp hmem
          trivial
        · rw [hnetwork]
          exact leads_publish hmoment

theorem leads_advertiseSubnetRoutes {authenticated : AuthenticatedNode}
    {advertisement : SubnetRouteAdvertisement} {signatureBase64 : String} {times : Times} :
    Leads (publicationDiscipline p state networkId foreign moments) Idle
      (Transactions.advertiseSubnetRoutes p authenticated advertisement signatureBase64 times)
      fun _ => Idle := by
  unfold Transactions.advertiseSubnetRoutes
  refine Leads.require fun payload _ => ?_
  split
  next => exact Leads.refuse
  next =>
    refine Leads.require fun signature _ => Leads.selectForUpdate (fun _ => True) idle_steady
      (fun _ _ _ _ _ _ _ => trivial) fun joined _ =>
        Leads.require fun _ _ => Leads.require fun verifyingKey _ => ?_
    refine Leads.weaken Idle ?_ And.right
    split
    next => exact Leads.refuse
    next =>
      refine Leads.bind (leads_advertisementIsDuplicate idle_steady) fun duplicate => ?_
      split
      next => exact Leads.refuse
      next =>
        refine Leads.bind (leads_upsertAdvertisement idle_steady
          fun held writes seen hknown write hmem => ?_) fun _ => Leads.lockedRow idle_steady
        rcases List.mem_append.mp hmem with hmem | hmem
        · exact hknown write hmem
        · cases List.mem_singleton.mp hmem
          exact ⟨_, rfl⟩

end Requests

/-- A request that is one on the network: it names the network, or its token is not one from before. -/
def TransactionRequest.OnNetwork (p : Platform) (networkId : Uuid) (foreign : Block 32 → Prop) :
    TransactionRequest → Prop
  | .enrollNode request _ _ => ¬foreign (enrollmentTokenHash p request.token)
  | .revokeNode id _ _ _ => id = networkId
  | .replaceAclPolicy id _ _ => id = networkId
  | .replaceSubnetRoutes id _ _ => id = networkId
  | .replaceNodeUpdateChannel id _ _ _ => id = networkId
  | .advertiseCandidates authenticated _ _ _ => authenticated.networkId = networkId
  | .advertiseSubnetRoutes authenticated _ _ _ => authenticated.networkId = networkId

def TransactionRequest.times : TransactionRequest → Times
  | .enrollNode _ _ times => times
  | .revokeNode _ _ _ times => times
  | .replaceAclPolicy _ _ times => times
  | .replaceSubnetRoutes _ _ times => times
  | .replaceNodeUpdateChannel _ _ _ times => times
  | .advertiseCandidates _ _ _ times => times
  | .advertiseSubnetRoutes _ _ _ times => times

theorem script_guarantees {request : TransactionRequest}
    (hrequest : request.OnNetwork p networkId foreign) (hmoment : moments request.times)
    (now : Database) :
    (request.script p state).Guarantees lockRules
      (publicationDiscipline p state networkId foreign moments) [] [] now := by
  have hpublishing : ∀ x : Tx Unit, Leads (publicationDiscipline p state networkId foreign moments)
      (Prepared networkId foreign) x (fun _ => Published p state networkId foreign moments) →
      x.run.Guarantees lockRules (publicationDiscipline p state networkId foreign moments) [] [] now :=
    fun _ hleads => run_guarantees (Leads.weaken _ hleads prepared_of_unwritten)
      (fun _ _ _ hdone => Or.inl hdone) now
  cases request with
  | enrollNode request databaseId times =>
    have hown : ¬foreign (enrollmentTokenHash p request.token) := hrequest
    have htimes : moments times := hmoment
    dsimp only [TransactionRequest.script]
    exact hpublishing _ (leads_enrollNode hown htimes)
  | revokeNode id nodeIdBase64 ipCooldownSeconds times =>
    cases hrequest
    dsimp only [TransactionRequest.script]
    exact hpublishing _ (leads_revokeNode hmoment)
  | replaceAclPolicy id request times =>
    cases hrequest
    dsimp only [TransactionRequest.script]
    exact hpublishing _ (leads_replaceAclPolicy hmoment)
  | replaceSubnetRoutes id request times =>
    cases hrequest
    dsimp only [TransactionRequest.script]
    exact hpublishing _ (leads_replaceSubnetRoutes hmoment)
  | replaceNodeUpdateChannel id nodeIdBase64 request times =>
    cases hrequest
    dsimp only [TransactionRequest.script]
    exact hpublishing _ (leads_replaceNodeUpdateChannel hmoment)
  | advertiseCandidates authenticated advertisement signatureBase64 times =>
    dsimp only [TransactionRequest.script]
    exact hpublishing _ (leads_advertiseCandidates hrequest hmoment)
  | advertiseSubnetRoutes authenticated advertisement signatureBase64 times =>
    dsimp only [TransactionRequest.script]
    refine run_guarantees (Leads.weaken Idle leads_advertiseSubnetRoutes fun hunwritten => ?_)
      (fun _ _ _ hdone => Or.inr hdone) now
    intro write hmem
    rw [show _ = [] from hunwritten] at hmem
    exact absurd hmem List.not_mem_nil

/-- What happens at the data base is about the network. -/
def DatabaseOp.OnNetwork (p : Platform) (networkId : Uuid) (foreign : Block 32 → Prop) :
    DatabaseOp → Prop
  | .start _ request => request.OnNetwork p networkId foreign
  | .createEnrollmentToken request _ _ _ => request.networkId = networkId
  | .advance _ => True
  | .abort _ => True

def DatabaseOp.times? : DatabaseOp → Option Times
  | .start _ request => some request.times
  | _ => none

theorem serverOp_keeps {op : DatabaseOp} (hop : op.OnNetwork p networkId foreign)
    (hmoment : ∀ times, op.times? = some times → moments times) :
    (op.serverOp p state).Keeps lockRules
      (publicationDiscipline p state networkId foreign moments) := by
  cases op with
  | start id request => exact fun now _ => script_guarantees hop (hmoment _ rfl) now
  | advance id => exact trivial
  | abort id => exact trivial
  | createEnrollmentToken request tokenId random times =>
    intro now hinv
    dsimp only
    cases hcreated : createEnrollmentToken p now request tokenId random times with
    | error e => exact ⟨hinv, fun held => Discipline.refl _ held now⟩
    | ok created =>
      obtain ⟨response, db⟩ := created
      obtain ⟨_, hcreated⟩ := guard_ok.mp hcreated
      obtain ⟨_, _, hcreated⟩ := bind_ok.mp hcreated
      obtain ⟨_, _, hcreated⟩ := bind_ok.mp hcreated
      obtain ⟨_, hcreated⟩ := guard_ok.mp hcreated
      cases hcreated
      refine ⟨⟨hinv.1, fun row hrow => ?_⟩,
        fun held => ⟨List.prefix_rfl, fun _ => ⟨rfl, rfl, rfl, rfl, rfl, rfl, rfl⟩⟩⟩
      rcases List.mem_append.mp hrow with hrow | hrow
      · exact hinv.2 row hrow
      · cases List.mem_singleton.mp hrow
        exact Or.inl hop

end XsNexus
