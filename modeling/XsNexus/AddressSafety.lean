import XsNexus.AddressLeases
import XsNexus.PublishedCandidates

namespace XsNexus

open ByteCodec Checks

variable {p : Platform} {state : AppState}

/-- What a history of the networks says of addresses and tokens. -/
inductive TenancyEvent
  | enrolled (node : NodeRow) (tokenHash : Block 32) (times : Times)
  | revoked (networkId : Uuid) (virtualIp : Ipv4Addr) (cooldownUntil : Int)

/-- The transactions of the networks one after the other, the last event first. One that fails leaves
the tables as they were, less the serial numbers it drew. -/
inductive TenancyRun (p : Platform) (state : AppState) : List TenancyEvent → Database → Prop
  | initial : TenancyRun p state [] .empty
  | createNetwork {events : List TenancyEvent} {db db' : Database} {request : CreateNetworkRequest}
      {networkId : Uuid} {times : Times} {response : NetworkResponse} (h : TenancyRun p state events db)
      (hs : createNetwork p state db request networkId times = .ok (response, db')) :
      TenancyRun p state events db'
  | createEnrollmentToken {events : List TenancyEvent} {db db' : Database}
      {request : CreateEnrollmentTokenRequest} {tokenId : Uuid} {random : Block 32} {times : Times}
      {response : EnrollmentTokenResponse} (h : TenancyRun p state events db)
      (hs : createEnrollmentToken p db request tokenId random times = .ok (response, db')) :
      TenancyRun p state events db'
  | enrollNode {events : List TenancyEvent} {db db' : Database} {request : EnrollRequest}
      {databaseId : Uuid} {times : Times} {response : EnrollResponse} {node : NodeRow}
      (h : TenancyRun p state events db)
      (hs : enrollNode p state db request databaseId times = .ok (response, db'))
      (hnode : db'.nodes = db.nodes ++ [node]) :
      TenancyRun p state (.enrolled node (enrollmentTokenHash p request.token) times :: events) db'
  | revokeNode {events : List TenancyEvent} {db db' : Database} {networkId : Uuid}
      {nodeIdBase64 : String} {ipCooldownSeconds : UInt64} {times : Times}
      {response : RevokeNodeResponse} {nodeId : Block 16} {node : NodeRow}
      (h : TenancyRun p state events db)
      (hs : revokeNode p state db networkId nodeIdBase64 ipCooldownSeconds times = .ok (response, db'))
      (hnodeId : decodeCanonicalArray p 16 nodeIdBase64 = some nodeId)
      (hnode : db.activeNode networkId nodeId = some node) :
      TenancyRun p state
        (.revoked networkId node.virtualIp (timestamptz response.cooldownUntil) :: events) db'
  | rolledBack {events : List TenancyEvent} {db : Database} (h : TenancyRun p state events db)
      (serials : Nat) :
      TenancyRun p state events { db with credentialSerial := db.credentialSerial + serials }

theorem TenancyRun.tenancy {events : List TenancyEvent} {db : Database}
    (h : TenancyRun p state events db) : Tenancy db := by
  induction h with
  | initial => exact tenancy_empty
  | createNetwork _ hs ih => exact ih.networkCreated hs
  | createEnrollmentToken _ hs ih => exact ih.tokenCreated hs
  | enrollNode _ hs _ ih => exact ih.enrolled hs
  | revokeNode _ hs hnodeId hnode ih =>
    obtain ⟨otherId, other, signed, hotherId, hother, hpublish⟩ := revokeNode_tables hs
    exact (ih.revoked other _ _).published hpublish
  | rolledBack _ serials ih =>
    exact ⟨ih.networkIds, ih.nodeIds, ih.places, ih.held, ih.holders, ih.allocated, ih.tokenHashes⟩

/-- The address was given up until the time, and given to nobody since. -/
def CoolingSince (events : List TenancyEvent) (networkId : Uuid) (virtualIp : Ipv4Addr)
    (cooldownUntil : Int) : Prop :=
  ∃ since before, events = since ++ .revoked networkId virtualIp cooldownUntil :: before ∧
    ∀ node tokenHash times, .enrolled node tokenHash times ∈ since →
      ¬(node.networkId = networkId ∧ node.virtualIp = virtualIp)

theorem coolingSince_cons {event : TenancyEvent} {events : List TenancyEvent} {networkId : Uuid}
    {virtualIp : Ipv4Addr} {cooldownUntil : Int}
    (h : CoolingSince (event :: events) networkId virtualIp cooldownUntil) :
    event = .revoked networkId virtualIp cooldownUntil ∨
      (CoolingSince events networkId virtualIp cooldownUntil ∧
        ∀ node tokenHash times, event = .enrolled node tokenHash times →
          ¬(node.networkId = networkId ∧ node.virtualIp = virtualIp)) := by
  obtain ⟨since, before, heq, hnone⟩ := h
  cases since with
  | nil => exact Or.inl (List.cons.inj heq).1
  | cons first since =>
    obtain ⟨rfl, hrest⟩ := List.cons.inj heq
    refine Or.inr ⟨⟨since, before, hrest, fun node tokenHash times hmem => ?_⟩, ?_⟩
    · exact hnone node tokenHash times (List.mem_cons_of_mem _ hmem)
    · rintro node tokenHash times rfl
      exact hnone node tokenHash times List.mem_cons_self

/-- How often a token has enrolled a node. -/
def enrolments (tokenHash : Block 32) (events : List TenancyEvent) : Nat :=
  events.countP fun
    | .enrolled _ used _ => decide (used = tokenHash)
    | .revoked _ _ _ => false

/-- What the tables keep of the history. -/
structure Remembered (events : List TenancyEvent) (db : Database) : Prop where
  cooling : ∀ networkId virtualIp cooldownUntil,
    CoolingSince events networkId virtualIp cooldownUntil →
      ∃ nodeId, (⟨networkId, virtualIp, nodeId, .cooling cooldownUntil⟩ : IpLeaseRow) ∈ db.ipLeases
  used : ∀ token ∈ db.enrollmentTokens,
    enrolments token.tokenHash events = token.useCount ∧ token.useCount ≤ token.maxUses
  spent : ∀ node tokenHash times, .enrolled node tokenHash times ∈ events →
    ∃ token ∈ db.enrollmentTokens, token.tokenHash = tokenHash ∧ token.networkId = node.networkId ∧
      times.utc < token.expiresAt ∧ times.transaction < token.expiresAt

/-- A publication leaves leases and tokens. -/
theorem published_leases {db db' : Database} {networkId : Uuid} {times : Times}
    {signed : SignedConfiguration}
    (h : publishConfiguration p state db networkId times = .ok (signed, db')) :
    db'.nodes = db.nodes ∧ db'.ipLeases = db.ipLeases ∧ db'.enrollmentTokens = db.enrollmentTokens := by
  obtain ⟨network, payload, bytes, _, _, rfl⟩ := publishConfiguration_ok.mp h
  exact ⟨rfl, rfl, rfl⟩

theorem enrolments_eq_zero {tokenHash : Block 32} {events : List TenancyEvent}
    (h : ∀ node times, .enrolled node tokenHash times ∉ events) : enrolments tokenHash events = 0 := by
  unfold enrolments
  rw [List.countP_eq_zero]
  intro event hevent hused
  cases event with
  | enrolled node used times =>
    rw [decide_eq_true_eq] at hused
    exact h node times (hused ▸ hevent)
  | revoked => simp at hused

theorem Remembered.tokenCreated {events : List TenancyEvent} {db : Database}
    (hi : Remembered events db) {token : EnrollmentTokenRow} (hunused : token.useCount = 0)
    (hfresh : ∀ stored ∈ db.enrollmentTokens, stored.tokenHash ≠ token.tokenHash) :
    Remembered events { db with enrollmentTokens := db.enrollmentTokens ++ [token] } := by
  refine ⟨hi.cooling, fun stored hstored => ?_, fun node tokenHash times hevent => ?_⟩
  · rcases List.mem_append.mp hstored with hstored | hstored
    · exact hi.used stored hstored
    · rw [List.mem_singleton.mp hstored, hunused]
      refine ⟨enrolments_eq_zero fun node times hevent => ?_, Nat.zero_le _⟩
      obtain ⟨other, hother, hhash, _⟩ := hi.spent node token.tokenHash times hevent
      exact hfresh other hother hhash
  · obtain ⟨other, hother, hspent⟩ := hi.spent node tokenHash times hevent
    exact ⟨other, List.mem_append_left _ hother, hspent⟩

theorem Remembered.enrolled {events : List TenancyEvent} {db db' : Database}
    (hi : Remembered events db) (htenancy : Tenancy db) {request : EnrollRequest} {databaseId : Uuid}
    {times : Times} {response : EnrollResponse} {node : NodeRow}
    (hs : enrollNode p state db request databaseId times = .ok (response, db'))
    (hnode : db'.nodes = db.nodes ++ [node]) :
    Remembered (.enrolled node (enrollmentTokenHash p request.token) times :: events) db' ∧
      ∀ cooldownUntil, CoolingSince events node.networkId node.virtualIp cooldownUntil →
        cooldownUntil ≤ times.transaction := by
  obtain ⟨token, network, row, serial, signed, tokens, hfound, hlive, hnetwork, _, hfree, hrowNetwork,
    _, _, hconsumed, hpublish⟩ := enrollNode_tables hs
  obtain ⟨_, hnetworkId⟩ := network_mem hnetwork
  obtain ⟨hnodes, hleases, htokens⟩ := published_leases hpublish
  have hrow : node = row := by
    have hsame : db.nodes ++ [node] = db.nodes ++ [row] := hnode.symm.trans hnodes
    exact (List.cons.inj (List.append_cancel_left hsame)).1
  subst hrow
  obtain ⟨hhash, hunexpired, hroom, hused⟩ := consumeToken_used htenancy.tokenHashes hfound hconsumed
  rw [hused] at htokens
  have hcooled : ∀ stored ∈ db.ipLeases, stored.place =
      (⟨node.networkId, node.virtualIp, node.id, .active⟩ : IpLeaseRow).place →
      stored.occupied times.transaction = false := by
    intro stored hstored hplace
    refine cooled_of_free hfree hstored (hplace.trans ?_)
    exact Prod.ext (hrowNetwork.trans hnetworkId.symm) rfl
  refine ⟨⟨fun networkId virtualIp cooldownUntil hcooling => ?_, fun stored hstored => ?_,
    fun other tokenHash otherTimes hevent => ?_⟩, fun cooldownUntil hcooling => ?_⟩
  · rcases coolingSince_cons hcooling with hrevoked | ⟨hcooling, hother⟩
    · simp at hrevoked
    · obtain ⟨nodeId, hlease⟩ := hi.cooling networkId virtualIp cooldownUntil hcooling
      refine ⟨nodeId, hleases ▸ (mem_upsertIpLease hcooled).mpr (Or.inr ⟨hlease, fun hplace => ?_⟩)⟩
      obtain ⟨hsameNetwork, hsameIp⟩ := Prod.mk.inj hplace
      exact hother node _ times rfl ⟨hsameNetwork.symm, hsameIp.symm⟩
  · rw [htokens] at hstored
    obtain ⟨before, hbefore, rfl⟩ := List.mem_map.mp hstored
    obtain ⟨hcount, hmax⟩ := hi.used before hbefore
    by_cases hsame : before.tokenHash = enrollmentTokenHash p request.token
    · have hbeforeToken : before = token :=
        List.inj_on_of_nodup_map htenancy.tokenHashes hbefore (List.mem_of_find?_eq_some hfound)
          (hsame.trans hhash.symm)
      rw [if_pos hsame]
      dsimp only
      rw [← hbeforeToken] at hroom
      refine ⟨?_, hroom⟩
      unfold enrolments at hcount ⊢
      rw [List.countP_cons_of_pos (by simp [hsame]), hcount]
    · rw [if_neg hsame]
      refine ⟨?_, hmax⟩
      unfold enrolments at hcount ⊢
      have hother : ¬enrollmentTokenHash p request.token = before.tokenHash := fun h => hsame h.symm
      rw [List.countP_cons_of_neg (by simp [hother]), hcount]
  · have hkept : ∀ before ∈ db.enrollmentTokens, ∃ after ∈ db'.enrollmentTokens,
        after.tokenHash = before.tokenHash ∧ after.networkId = before.networkId ∧
          after.expiresAt = before.expiresAt := by
      intro before hbefore
      rw [htokens]
      refine ⟨_, List.mem_map.mpr ⟨before, hbefore, rfl⟩, ?_⟩
      split
      next => exact ⟨rfl, rfl, rfl⟩
      next => exact ⟨rfl, rfl, rfl⟩
    rcases List.mem_cons.mp hevent with hnew | hold
    · cases hnew
      obtain ⟨after, hafter, hafterHash, hafterNetwork, hexpiry⟩ :=
        hkept token (List.mem_of_find?_eq_some hfound)
      rw [← hexpiry] at hlive hunexpired
      exact ⟨after, hafter, hafterHash.trans hhash, hafterNetwork.trans hrowNetwork.symm, hlive,
        hunexpired⟩
    · obtain ⟨before, hbefore, hspentHash, hspentNetwork, hutc, htransaction⟩ :=
        hi.spent other tokenHash otherTimes hold
      obtain ⟨after, hafter, hafterHash, hafterNetwork, hexpiry⟩ := hkept before hbefore
      rw [← hexpiry] at hutc htransaction
      exact ⟨after, hafter, hafterHash.trans hspentHash, hafterNetwork.trans hspentNetwork, hutc,
        htransaction⟩
  · obtain ⟨nodeId, hlease⟩ := hi.cooling _ _ cooldownUntil hcooling
    have hoccupied := hcooled _ hlease rfl
    simp only [IpLeaseRow.occupied, decide_eq_false_iff_not] at hoccupied
    omega

theorem Remembered.revoked {events : List TenancyEvent} {db : Database} (hi : Remembered events db)
    (htenancy : Tenancy db) {node : NodeRow} (hnode : node ∈ db.nodes)
    (hactive : node.revokedAt = none) (cooldownUntil now : Int) :
    Remembered (.revoked node.networkId node.virtualIp (timestamptz cooldownUntil) :: events)
      (revokeTables db node.id cooldownUntil now) := by
  refine ⟨fun networkId virtualIp stored hcooling => ?_, fun token htoken => ?_,
    fun other tokenHash times hevent => ?_⟩
  · rcases coolingSince_cons hcooling with hrevoked | ⟨hcooling, _⟩
    · cases hrevoked
      exact ⟨node.id, mem_coolLeases.mpr
        (Or.inr ⟨_, htenancy.held node hnode hactive, rfl, rfl, rfl⟩)⟩
    · obtain ⟨nodeId, hlease⟩ := hi.cooling networkId virtualIp stored hcooling
      exact ⟨nodeId, mem_coolLeases.mpr (Or.inl ⟨hlease, fun hboth => by simp at hboth⟩)⟩
  · obtain ⟨hcount, hmax⟩ := hi.used token htoken
    refine ⟨?_, hmax⟩
    unfold enrolments at hcount ⊢
    rw [List.countP_cons_of_neg (by simp), hcount]
  · rcases List.mem_cons.mp hevent with hnew | hold
    · simp at hnew
    · exact hi.spent other tokenHash times hold

/-- No enrolment takes an address before its cooldown is over. -/
def CooldownsKept (events : List TenancyEvent) : Prop :=
  ∀ later earlier node tokenHash times cooldownUntil,
    events = later ++ .enrolled node tokenHash times :: earlier →
    CoolingSince earlier node.networkId node.virtualIp cooldownUntil →
    cooldownUntil ≤ times.transaction

theorem cooldownsKept_cons {event : TenancyEvent} {events : List TenancyEvent}
    (hkept : CooldownsKept events)
    (hevent : ∀ node tokenHash times cooldownUntil, event = .enrolled node tokenHash times →
      CoolingSince events node.networkId node.virtualIp cooldownUntil →
      cooldownUntil ≤ times.transaction) : CooldownsKept (event :: events) := by
  intro later earlier node tokenHash times cooldownUntil heq hcooling
  cases later with
  | nil =>
    obtain ⟨rfl, rfl⟩ := List.cons.inj heq
    exact hevent node tokenHash times cooldownUntil rfl hcooling
  | cons first later =>
    exact hkept later earlier node tokenHash times cooldownUntil (List.cons.inj heq).2 hcooling

theorem TenancyRun.remembered {events : List TenancyEvent} {db : Database}
    (h : TenancyRun p state events db) : Remembered events db ∧ CooldownsKept events := by
  induction h with
  | initial =>
    refine ⟨⟨?_, fun _ h => absurd h List.not_mem_nil, fun _ _ _ h => absurd h List.not_mem_nil⟩, ?_⟩
    · rintro networkId virtualIp cooldownUntil ⟨since, before, heq, _⟩
      simp at heq
    · intro later earlier node tokenHash times cooldownUntil heq
      simp at heq
  | createNetwork _ hs ih =>
    obtain ⟨hi, hkept⟩ := ih
    obtain ⟨row, signed, _, _, _, hpublish⟩ := createNetwork_tables hs
    obtain ⟨_, hleases, htokens⟩ := published_leases hpublish
    refine ⟨⟨?_, ?_, ?_⟩, hkept⟩
    · rw [hleases]
      exact hi.cooling
    · rw [htokens]
      exact hi.used
    · rw [htokens]
      exact hi.spent
  | createEnrollmentToken _ hs ih =>
    obtain ⟨hi, hkept⟩ := ih
    obtain ⟨token, hunused, hfresh, rfl⟩ := createEnrollmentToken_tables hs
    exact ⟨hi.tokenCreated hunused hfresh, hkept⟩
  | enrollNode h hs hnode ih =>
    obtain ⟨hi, hkept⟩ := ih
    obtain ⟨hremembered, hcooled⟩ := hi.enrolled h.tenancy hs hnode
    refine ⟨hremembered, cooldownsKept_cons hkept ?_⟩
    rintro node tokenHash times cooldownUntil heq hcooling
    cases heq
    exact hcooled cooldownUntil hcooling
  | @revokeNode events db db' networkId nodeIdBase64 seconds times response nodeId node h hs hnodeId
      hnode ih =>
    obtain ⟨hi, hkept⟩ := ih
    obtain ⟨otherId, other, signed, hotherId, hother, hpublish⟩ := revokeNode_tables hs
    cases hotherId.symm.trans hnodeId
    cases hother.symm.trans hnode
    obtain ⟨hmem, hnetwork, hactive⟩ := activeNode_spec hnode
    obtain ⟨_, hleases, htokens⟩ := published_leases hpublish
    have hrevoked := hi.revoked h.tenancy hmem hactive response.cooldownUntil times.transaction
    rw [hnetwork] at hrevoked
    refine ⟨⟨?_, ?_, ?_⟩, cooldownsKept_cons hkept fun _ _ _ _ heq => by simp at heq⟩
    · rw [hleases]
      exact hrevoked.cooling
    · rw [htokens]
      exact hrevoked.used
    · rw [htokens]
      exact hrevoked.spent
  | rolledBack _ serials ih => exact ⟨⟨ih.1.cooling, ih.1.used, ih.1.spent⟩, ih.2⟩

/-- Addresses and tokens are safe whatever the networks go through. -/
theorem addresses_and_tokens_safe {events : List TenancyEvent} {db : Database}
    (h : TenancyRun p state events db) :
    (∀ a ∈ db.nodes, ∀ b ∈ db.nodes, a.revokedAt = none → b.revokedAt = none →
        a.networkId = b.networkId → a.virtualIp = b.virtualIp → a = b) ∧
      (∀ node ∈ db.nodes, node.revokedAt = none →
        db.ipLeases.filter (fun row => row.state = .active ∧ row.nodeId = node.id) =
            [⟨node.networkId, node.virtualIp, node.id, .active⟩] ∧
          db.ipLeases.filter (fun row => row.state = .active ∧ row.networkId = node.networkId ∧
              row.virtualIp = node.virtualIp) =
            [⟨node.networkId, node.virtualIp, node.id, .active⟩]) ∧
      (∀ row ∈ db.ipLeases, row.state = .active → ∃ node ∈ db.nodes, node.revokedAt = none ∧
        row = ⟨node.networkId, node.virtualIp, node.id, .active⟩) ∧
      CooldownsKept events ∧
      (∀ node ∈ db.nodes, ∃ network, db.network node.networkId = some network ∧
        Allocatable network node.virtualIp) ∧
      (∀ token ∈ db.enrollmentTokens, enrolments token.tokenHash events ≤ token.maxUses) ∧
      ∀ node tokenHash times, .enrolled node tokenHash times ∈ events →
        ∃ token ∈ db.enrollmentTokens, token.tokenHash = tokenHash ∧
          token.networkId = node.networkId ∧ times.utc < token.expiresAt ∧
          times.transaction < token.expiresAt := by
  have htenancy := h.tenancy
  obtain ⟨hremembered, hkept⟩ := h.remembered
  have hunique : ∀ a ∈ db.nodes, ∀ b ∈ db.nodes, a.revokedAt = none → b.revokedAt = none →
      a.networkId = b.networkId → a.virtualIp = b.virtualIp → a = b := by
    intro a ha b hb haActive hbActive hnetwork hip
    have hsame := List.inj_on_of_nodup_map htenancy.places (htenancy.held a ha haActive)
      (htenancy.held b hb hbActive) (Prod.ext hnetwork hip)
    have hid : a.id = b.id := congrArg IpLeaseRow.nodeId hsame
    exact List.inj_on_of_nodup_map htenancy.nodeIds ha hb hid
  have hfilter : ∀ (keep : IpLeaseRow → Bool) (lease : IpLeaseRow), lease ∈ db.ipLeases →
      keep lease = true → (∀ row ∈ db.ipLeases, keep row = true → row = lease) →
      db.ipLeases.filter keep = [lease] := by
    intro keep lease hlease hkeep honly
    have hnodup : (db.ipLeases.filter keep).Nodup := (List.Nodup.of_map _ htenancy.places).filter _
    have hperm : (db.ipLeases.filter keep).Perm [lease] := by
      refine (List.perm_ext_iff_of_nodup hnodup (List.nodup_singleton _)).mpr fun row => ?_
      rw [List.mem_filter, List.mem_singleton]
      constructor
      · rintro ⟨hrow, hrowKept⟩
        exact honly row hrow hrowKept
      · rintro rfl
        exact ⟨hlease, hkeep⟩
    exact List.perm_singleton.mp hperm
  refine ⟨hunique, fun node hnode hactive => ⟨?_, ?_⟩, htenancy.holders, hkept, fun node hnode => ?_,
    fun token htoken => ?_, hremembered.spent⟩
  · refine hfilter _ _ (htenancy.held node hnode hactive) (by simp) fun row hrow hkeep => ?_
    simp only [decide_eq_true_eq] at hkeep
    obtain ⟨holder, hholder, _, rfl⟩ := htenancy.holders row hrow hkeep.1
    rw [List.inj_on_of_nodup_map htenancy.nodeIds hholder hnode hkeep.2]
  · refine hfilter _ _ (htenancy.held node hnode hactive) (by simp) fun row hrow hkeep => ?_
    simp only [decide_eq_true_eq] at hkeep
    exact List.inj_on_of_nodup_map htenancy.places hrow (htenancy.held node hnode hactive)
      (Prod.ext hkeep.2.1 hkeep.2.2)
  · obtain ⟨network, hnetwork, hid, hrange⟩ := htenancy.allocated node hnode
    exact ⟨network, hid ▸ network_of_mem htenancy.networkIds hnetwork, hrange⟩
  · obtain ⟨hcount, hmax⟩ := hremembered.used token htoken
    omega

theorem enrollNode_added {db db' : Database} {request : EnrollRequest} {databaseId : Uuid}
    {times : Times} {response : EnrollResponse}
    (h : enrollNode p state db request databaseId times = .ok (response, db')) :
    ∃ node, db'.nodes = db.nodes ++ [node] := by
  obtain ⟨_, _, row, _, _, _, _, _, _, _, _, _, _, _, _, hpublish⟩ := enrollNode_tables h
  exact ⟨row, (published_leases hpublish).1⟩

/-- A node that is enrolled and revoked. -/
def sampleTenancy : Except ApiError Database := do
  let (_, db) ← createNetwork samplePlatform sampleAppState .empty ⟨"home", "100.88.0.0/24", 16⟩
    (fill 16 21) (sampleMoment 0)
  let (_, db) ← createEnrollmentToken samplePlatform db ⟨fill 16 21, 3600, 1, 1, [], none⟩ (fill 16 30)
    (fill 32 55) (sampleMoment 0)
  let (_, db) ← enrollNode samplePlatform sampleAppState db
    ⟨"xsenr1_" ++ Base64.urlEncode (fill 32 55).val, "laptop", "linux",
      Base64.urlEncode sampleIdentityKey.seed.val⟩ (fill 16 31) (sampleMoment 1)
  let (_, db) ← revokeNode samplePlatform sampleAppState db (fill 16 21)
    (Base64.urlEncode sampleNodeId.val) 60 (sampleMoment 2)
  .ok db

theorem addresses_and_tokens_safe_sample : ∃ events db,
    TenancyRun samplePlatform sampleAppState events db ∧ events.length = 2 ∧ CooldownsKept events ∧
      ∀ token ∈ db.enrollmentTokens, enrolments token.tokenHash events ≤ token.maxUses := by
  have hgranted : sampleTenancy.toBool = true := by decide +kernel
  obtain ⟨answer, hanswer⟩ : ∃ answer, answer = sampleTenancy := ⟨_, rfl⟩
  rw [← hanswer] at hgranted
  cases answer with
  | error e => simp [Except.toBool] at hgranted
  | ok db =>
    obtain ⟨⟨_, _⟩, hnetwork, hanswer⟩ := bind_ok.mp hanswer.symm
    obtain ⟨⟨_, _⟩, htoken, hanswer⟩ := bind_ok.mp hanswer
    obtain ⟨⟨_, _⟩, henrolled, hanswer⟩ := bind_ok.mp hanswer
    obtain ⟨⟨_, _⟩, hrevoked, hanswer⟩ := bind_ok.mp hanswer
    cases hanswer
    obtain ⟨node, hnode⟩ := enrollNode_added henrolled
    obtain ⟨nodeId, other, _, hnodeId, hother, _⟩ := revokeNode_tables hrevoked
    have hrun := TenancyRun.revokeNode (.enrollNode (.createEnrollmentToken
      (.createNetwork .initial hnetwork) htoken) henrolled hnode) hrevoked hnodeId hother
    obtain ⟨_, _, _, hkept, _, hused, _⟩ := addresses_and_tokens_safe hrun
    exact ⟨_, _, hrun, rfl, hkept, hused⟩

end XsNexus
