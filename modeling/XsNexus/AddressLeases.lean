import XsNexus.ControllerSteps

namespace XsNexus

open ByteCodec Checks

variable {p : Platform} {state : AppState}

section Addresses

/-- The addresses of a network that its nodes may have. -/
def Allocatable (network : NetworkRow) (address : Ipv4Addr) : Prop :=
  validateAllocatableAddress network.addressPool network.reservedAddresses address = .ok ()

theorem firstFree_some {occupied : List Ipv4Addr} {raw count : Nat} {address : Ipv4Addr}
    (h : firstFree occupied raw count = some address) :
    address ∉ occupied ∧ ∃ n, raw ≤ n ∧ n < raw + count ∧ address = ⟨BitVec.ofNat 32 n⟩ := by
  induction count generalizing raw with
  | zero => simp [firstFree] at h
  | succ count ih =>
    unfold firstFree at h
    split at h
    next hfree =>
      cases h
      exact ⟨hfree, raw, le_refl raw, by omega, rfl⟩
    next =>
      obtain ⟨hfree, n, hlow, hhigh, heq⟩ := ih h
      exact ⟨hfree, n, by omega, by omega, heq⟩

/-- What is allocated is free, and in the range of the network. -/
theorem allocateVirtualIp_ok {db : Database} {network : NetworkRow} {requested : Option Ipv4Addr}
    {now : Int} {address : Ipv4Addr}
    (h : allocateVirtualIp db network requested now = .ok address) :
    Allocatable network address ∧ address ∉ occupiedAddresses db network.id now := by
  unfold allocateVirtualIp at h
  cases requested with
  | some requested =>
    obtain ⟨_, hvalid, h⟩ := bind_ok.mp h
    obtain ⟨hfree, h⟩ := guard_ok.mp h
    cases h
    exact ⟨hvalid, hfree⟩
  | none =>
    obtain ⟨hfirst, h⟩ := guard_ok.mp h
    obtain ⟨hfree, n, hlow, hhigh, rfl⟩ := firstFree_some (okOr_ok.mp h)
    refine ⟨?_, hfree⟩
    have hbroadcast := network.addressPool.broadcast.bits.isLt
    have hword : (BitVec.ofNat 32 n).toNat = n := by
      rw [BitVec.toNat_ofNat]
      omega
    have hcontains : network.addressPool.contains ⟨BitVec.ofNat 32 n⟩ = true := by
      unfold Ipv4Net.contains
      rw [decide_eq_true_eq, BitVec.le_def, BitVec.le_def, hword]
      omega
    refine guard_ok.mpr ⟨hfirst, if_pos ⟨hcontains, ?_, ?_⟩⟩
    · dsimp only
      omega
    · dsimp only
      omega

theorem mem_occupiedAddresses {db : Database} {networkId : Uuid} {now : Int} {row : IpLeaseRow}
    (hrow : row ∈ db.ipLeases) (hnetwork : row.networkId = networkId)
    (hoccupied : row.occupied now = true) : row.virtualIp ∈ occupiedAddresses db networkId now := by
  unfold occupiedAddresses
  exact List.mem_map.mpr ⟨row, List.mem_filter.mpr ⟨hrow, by simp [hnetwork, hoccupied]⟩, rfl⟩

end Addresses

section Upsert

/-- The place of a lease in its table. -/
def IpLeaseRow.place (row : IpLeaseRow) : Uuid × Ipv4Addr := (row.networkId, row.virtualIp)

theorem places_upsertIpLease {rows : List IpLeaseRow} (h : (rows.map IpLeaseRow.place).Nodup)
    (row : IpLeaseRow) (now : Int) : ((upsertIpLease rows row now).map IpLeaseRow.place).Nodup := by
  unfold upsertIpLease
  split
  next =>
    have hsame : (rows.map fun stored =>
        if stored.networkId = row.networkId ∧ stored.virtualIp = row.virtualIp ∧
            !stored.occupied now then row
        else stored).map IpLeaseRow.place = rows.map IpLeaseRow.place := by
      rw [List.map_map]
      refine List.map_congr_left fun stored _ => ?_
      dsimp only [Function.comp_apply]
      split
      next hcooled => exact Prod.ext hcooled.1.symm hcooled.2.1.symm
      next => rfl
    rw [hsame]
    exact h
  next habsent =>
    rw [List.map_append, List.nodup_append]
    refine ⟨h, List.nodup_singleton _, fun place hplace other hother heq => habsent ?_⟩
    obtain ⟨stored, hstored, rfl⟩ := List.mem_map.mp hplace
    rw [List.map_singleton, List.mem_singleton] at hother
    rw [hother] at heq
    obtain ⟨hnetwork, hip⟩ := Prod.mk.inj heq
    rw [List.any_eq_true]
    exact ⟨stored, hstored, by simp [hnetwork, hip]⟩

/-- The lease is written over one that has cooled, or next to the others; the others stay. -/
theorem mem_upsertIpLease {rows : List IpLeaseRow} {row : IpLeaseRow} {now : Int}
    (hfree : ∀ stored ∈ rows, stored.place = row.place → stored.occupied now = false)
    {stored : IpLeaseRow} :
    stored ∈ upsertIpLease rows row now ↔
      stored = row ∨ (stored ∈ rows ∧ stored.place ≠ row.place) := by
  unfold upsertIpLease
  split
  next hpresent =>
    rw [List.mem_map]
    constructor
    · rintro ⟨before, hbefore, rfl⟩
      split
      next => exact Or.inl rfl
      next hkept =>
        refine Or.inr ⟨hbefore, fun hplace => hkept ?_⟩
        obtain ⟨hnetwork, hip⟩ := Prod.mk.inj hplace
        exact ⟨hnetwork, hip, by simp [hfree before hbefore hplace]⟩
    · rintro (rfl | ⟨hstored, hother⟩)
      · obtain ⟨before, hbefore, hsame⟩ := List.any_eq_true.mp hpresent
        have hplace : before.networkId = stored.networkId ∧ before.virtualIp = stored.virtualIp :=
          of_decide_eq_true hsame
        refine ⟨before, hbefore, if_pos ⟨hplace.1, hplace.2, ?_⟩⟩
        simp [hfree before hbefore (Prod.ext hplace.1 hplace.2)]
      · refine ⟨stored, hstored, if_neg fun hsame => hother ?_⟩
        exact Prod.ext hsame.1 hsame.2.1
  next habsent =>
    rw [List.mem_append, List.mem_singleton]
    constructor
    · rintro (hstored | rfl)
      · refine Or.inr ⟨hstored, fun hplace => habsent ?_⟩
        obtain ⟨hnetwork, hip⟩ := Prod.mk.inj hplace
        exact List.any_eq_true.mpr ⟨stored, hstored, by simp [hnetwork, hip]⟩
      · exact Or.inl rfl
    · rintro (rfl | ⟨hstored, _⟩)
      · exact Or.inr rfl
      · exact Or.inl hstored

theorem mem_coolLeases {rows : List IpLeaseRow} {databaseId : Uuid} {cooldownUntil : Int}
    {stored : IpLeaseRow} :
    stored ∈ coolLeases rows databaseId cooldownUntil ↔
      (stored ∈ rows ∧ ¬(stored.nodeId = databaseId ∧ stored.state = .active)) ∨
      ∃ before ∈ rows, before.nodeId = databaseId ∧ before.state = .active ∧
        stored = { before with state := .cooling (timestamptz cooldownUntil) } := by
  unfold coolLeases
  rw [List.mem_map]
  constructor
  · rintro ⟨before, hbefore, rfl⟩
    split
    next hactive => exact Or.inr ⟨before, hbefore, hactive.1, hactive.2, rfl⟩
    next hother => exact Or.inl ⟨hbefore, hother⟩
  · rintro (⟨hstored, hother⟩ | ⟨before, hbefore, hnode, hactive, rfl⟩)
    · exact ⟨stored, hstored, if_neg hother⟩
    · exact ⟨before, hbefore, if_pos ⟨hnode, hactive⟩⟩

theorem places_coolLeases (rows : List IpLeaseRow) (databaseId : Uuid) (cooldownUntil : Int) :
    (coolLeases rows databaseId cooldownUntil).map IpLeaseRow.place = rows.map IpLeaseRow.place := by
  unfold coolLeases
  rw [List.map_map]
  refine List.map_congr_left fun stored _ => ?_
  dsimp only [Function.comp_apply]
  split <;> rfl

end Upsert

/-- The networks, nodes, leases and tokens of the controller belong together. -/
structure Tenancy (db : Database) : Prop where
  networkIds : (db.networks.map NetworkRow.id).Nodup
  nodeIds : (db.nodes.map NodeRow.id).Nodup
  places : (db.ipLeases.map IpLeaseRow.place).Nodup
  held : ∀ node ∈ db.nodes, node.revokedAt = none →
    (⟨node.networkId, node.virtualIp, node.id, .active⟩ : IpLeaseRow) ∈ db.ipLeases
  holders : ∀ row ∈ db.ipLeases, row.state = .active → ∃ node ∈ db.nodes, node.revokedAt = none ∧
    row = ⟨node.networkId, node.virtualIp, node.id, .active⟩
  allocated : ∀ node ∈ db.nodes, ∃ network ∈ db.networks, network.id = node.networkId ∧
    Allocatable network node.virtualIp
  tokenHashes : (db.enrollmentTokens.map EnrollmentTokenRow.tokenHash).Nodup

theorem tenancy_empty : Tenancy .empty := by
  refine ⟨List.nodup_nil, List.nodup_nil, List.nodup_nil, ?_, ?_, ?_, List.nodup_nil⟩ <;>
    exact fun _ h => absurd h List.not_mem_nil

theorem network_mem {db : Database} {networkId : Uuid} {network : NetworkRow}
    (h : db.network networkId = some network) : network ∈ db.networks ∧ network.id = networkId := by
  unfold Database.network at h
  have hid := List.find?_some h
  exact ⟨List.mem_of_find?_eq_some h, by simpa using hid⟩

theorem network_of_mem {db : Database} (hids : (db.networks.map NetworkRow.id).Nodup)
    {network : NetworkRow} (h : network ∈ db.networks) : db.network network.id = some network := by
  unfold Database.network
  obtain ⟨found, hfound⟩ : ∃ found, db.networks.find? (fun other => other.id = network.id) =
      some found := by
    rw [← Option.isSome_iff_exists, List.find?_isSome]
    exact ⟨network, h, by simp⟩
  have hid := List.find?_some hfound
  rw [hfound]
  have hsame : found.id = network.id := by simpa using hid
  rw [List.inj_on_of_nodup_map hids (List.mem_of_find?_eq_some hfound) h hsame]

/-- Counting a network on leaves its addresses. -/
theorem mem_updatedNetworks {db : Database} {networkId : Uuid} {network : NetworkRow}
    (h : network ∈ db.networks) : ∃ counted ∈ (countedTables db networkId).networks,
      counted.id = network.id ∧ counted.addressPool = network.addressPool ∧
        counted.reservedAddresses = network.reservedAddresses := by
  unfold countedTables Database.updateNetwork
  refine ⟨_, List.mem_map.mpr ⟨network, h, rfl⟩, ?_⟩
  split
  next => exact ⟨rfl, rfl, rfl⟩
  next => exact ⟨rfl, rfl, rfl⟩

theorem networkIds_counted (db : Database) (networkId : Uuid) :
    (countedTables db networkId).networks.map NetworkRow.id = db.networks.map NetworkRow.id := by
  unfold countedTables Database.updateNetwork
  dsimp only
  rw [List.map_map]
  refine List.map_congr_left fun network _ => ?_
  dsimp only [Function.comp_apply]
  split <;> rfl

theorem Tenancy.published {db db' : Database} (hi : Tenancy db) {networkId : Uuid} {times : Times}
    {signed : SignedConfiguration}
    (h : publishConfiguration p state db networkId times = .ok (signed, db')) : Tenancy db' := by
  obtain ⟨network, payload, bytes, _, _, rfl⟩ := publishConfiguration_ok.mp h
  refine ⟨?_, hi.nodeIds, hi.places, hi.held, hi.holders, ?_, hi.tokenHashes⟩
  · have hids := networkIds_counted db networkId
    exact hids ▸ hi.networkIds
  · intro node hnode
    obtain ⟨before, hbefore, hid, hrange⟩ := hi.allocated node hnode
    obtain ⟨counted, hcounted, hsame, hpool, hreserved⟩ := mem_updatedNetworks hbefore
    refine ⟨counted, hcounted, hsame.trans hid, ?_⟩
    unfold Allocatable
    rw [hpool, hreserved]
    exact hrange

/-- All that an enrolment has checked and written. -/
theorem enrollNode_tables {db db' : Database} {request : EnrollRequest} {databaseId : Uuid}
    {times : Times} {response : EnrollResponse}
    (h : enrollNode p state db request databaseId times = .ok (response, db')) :
    ∃ token network row serial signed tokens,
      db.enrollmentTokens.find? (fun stored => stored.tokenHash = enrollmentTokenHash p request.token) =
        some token ∧
      times.utc < token.expiresAt ∧ db.network token.networkId = some network ∧
      Allocatable network row.virtualIp ∧
      row.virtualIp ∉ occupiedAddresses db network.id times.transaction ∧
      row.networkId = token.networkId ∧ row.revokedAt = none ∧
      (∀ stored ∈ db.nodes, ¬nodeRowsClash stored row) ∧
      consumeToken db (enrollmentTokenHash p request.token) times.transaction = .ok tokens ∧
      publishConfiguration p state { db with
        nodes := db.nodes ++ [row]
        ipLeases := upsertIpLease db.ipLeases ⟨row.networkId, row.virtualIp, row.id, .active⟩
          times.transaction
        enrollmentTokens := tokens.enrollmentTokens
        credentialSerial := serial } token.networkId times = .ok (signed, db') := by
  obtain ⟨enrollment, hvalid, h⟩ := bind_ok.mp h
  obtain ⟨token, htoken, h⟩ := bind_ok.mp h
  obtain ⟨hlive, h⟩ := guard_ok.mp h
  obtain ⟨_, h⟩ := guard_ok.mp h
  obtain ⟨network, hnetwork, h⟩ := bind_ok.mp h
  obtain ⟨virtualIp, hvirtualIp, h⟩ := bind_ok.mp h
  obtain ⟨⟨issued, issuedTables⟩, hissued, h⟩ := bind_ok.mp h
  obtain ⟨nodeTables, hnode, h⟩ := bind_ok.mp h
  obtain ⟨tokenTables, hconsumed, h⟩ := bind_ok.mp h
  obtain ⟨⟨configuration, tables⟩, hpublish, h⟩ := bind_ok.mp h
  cases h
  obtain ⟨serial, rfl⟩ := issueCredential_ok hissued
  obtain ⟨hfresh, hnode⟩ := guard_ok.mp hnode
  obtain ⟨_, hnode⟩ := guard_ok.mp hnode
  cases hnode
  have hhash : enrollment.tokenHash = enrollmentTokenHash p request.token := by
    obtain ⟨_, _, hvalid⟩ := bind_ok.mp hvalid
    obtain ⟨_, _, hvalid⟩ := bind_ok.mp hvalid
    obtain ⟨_, hvalid⟩ := guard_ok.mp hvalid
    obtain ⟨_, _, hvalid⟩ := bind_ok.mp hvalid
    obtain ⟨_, _, hvalid⟩ := bind_ok.mp hvalid
    cases hvalid
    rfl
  rw [hhash] at htoken hconsumed
  obtain ⟨hrange, hfree⟩ := allocateVirtualIp_ok hvirtualIp
  simp only [List.any_eq_true, decide_eq_true_eq, not_exists, not_and] at hfresh
  unfold consumeToken at hconsumed
  dsimp only at hconsumed
  split at hconsumed
  next husable =>
    cases hconsumed
    refine ⟨token, network, _, serial, configuration, _, okOr_ok.mp htoken, by omega,
      okOr_ok.mp hnetwork, hrange, hfree, rfl, rfl, hfresh, if_pos husable, hpublish⟩
  next => simp at hconsumed

/-- The token that an enrolment has used up once more. -/
theorem consumeToken_used {db tokens : Database}
    (hnodup : (db.enrollmentTokens.map EnrollmentTokenRow.tokenHash).Nodup) {tokenHash : Block 32}
    {now : Int} {token : EnrollmentTokenRow}
    (hfound : db.enrollmentTokens.find? (fun stored => stored.tokenHash = tokenHash) = some token)
    (h : consumeToken db tokenHash now = .ok tokens) :
    token.tokenHash = tokenHash ∧ now < token.expiresAt ∧ token.useCount < token.maxUses ∧
      tokens.enrollmentTokens = db.enrollmentTokens.map fun stored =>
        if stored.tokenHash = tokenHash then { stored with useCount := stored.useCount + 1 }
        else stored := by
  have hhash : token.tokenHash = tokenHash := by
    have hsome := List.find?_some hfound
    simpa using hsome
  unfold consumeToken at h
  dsimp only at h
  split at h
  next husable =>
    cases h
    obtain ⟨used, hused, husable⟩ := List.any_eq_true.mp husable
    have hchecks : used.tokenHash = tokenHash ∧ now < used.expiresAt ∧ used.useCount < used.maxUses :=
      of_decide_eq_true husable
    have hsame : used = token :=
      List.inj_on_of_nodup_map hnodup hused (List.mem_of_find?_eq_some hfound)
        (hchecks.1.trans hhash.symm)
    rw [hsame] at hchecks
    refine ⟨hhash, hchecks.2.1, hchecks.2.2, List.map_congr_left fun stored hstored => ?_⟩
    by_cases hstoredHash : stored.tokenHash = tokenHash
    · have hstoredToken : stored = token :=
        List.inj_on_of_nodup_map hnodup hstored (List.mem_of_find?_eq_some hfound)
          (hstoredHash.trans hhash.symm)
      rw [if_pos hstoredHash, hstoredToken]
      exact if_pos (decide_eq_true hchecks)
    · rw [if_neg hstoredHash]
      exact if_neg (by simp [hstoredHash])
  next => simp at h

/-- The lease of an address that is free has cooled. -/
theorem cooled_of_free {db : Database} {networkId : Uuid} {address : Ipv4Addr} {now : Int}
    (hfree : address ∉ occupiedAddresses db networkId now) {row : IpLeaseRow}
    (hrow : row ∈ db.ipLeases) (hplace : row.place = (networkId, address)) :
    row.occupied now = false := by
  obtain ⟨hnetwork, hip⟩ := Prod.mk.inj hplace
  rw [← Bool.not_eq_true]
  intro hoccupied
  exact hfree (hip ▸ mem_occupiedAddresses hrow hnetwork hoccupied)

theorem Tenancy.enrolled {db db' : Database} (hi : Tenancy db) {request : EnrollRequest}
    {databaseId : Uuid} {times : Times} {response : EnrollResponse}
    (h : enrollNode p state db request databaseId times = .ok (response, db')) : Tenancy db' := by
  obtain ⟨token, network, row, serial, signed, tokens, hfound, _, hnetwork, hrange, hfree, hrowNetwork,
    hactive, hfresh, hconsumed, hpublish⟩ := enrollNode_tables h
  obtain ⟨hnetworkMem, hnetworkId⟩ := network_mem hnetwork
  obtain ⟨_, _, _, htokens⟩ := consumeToken_used hi.tokenHashes hfound hconsumed
  have hcooled : ∀ stored ∈ db.ipLeases, stored.place =
      (⟨row.networkId, row.virtualIp, row.id, .active⟩ : IpLeaseRow).place →
      stored.occupied times.transaction = false := by
    intro stored hstored hplace
    refine cooled_of_free hfree hstored (hplace.trans ?_)
    exact Prod.ext (hrowNetwork.trans hnetworkId.symm) rfl
  have hnoActive : ∀ node ∈ db.nodes, node.revokedAt = none →
      (node.networkId, node.virtualIp) ≠ (row.networkId, row.virtualIp) := by
    intro node hnode hunrevoked hsame
    have hoccupied := hcooled _ (hi.held node hnode hunrevoked) hsame
    simp [IpLeaseRow.occupied] at hoccupied
  refine Tenancy.published ?_ hpublish
  refine ⟨hi.networkIds, ?_, places_upsertIpLease hi.places _ _, ?_, ?_, ?_, ?_⟩
  · rw [List.map_append, List.nodup_append]
    refine ⟨hi.nodeIds, List.nodup_singleton _, fun id hid other hother heq => ?_⟩
    obtain ⟨stored, hstored, rfl⟩ := List.mem_map.mp hid
    rw [List.map_singleton, List.mem_singleton] at hother
    exact hfresh stored hstored (Or.inl (heq.trans hother))
  · intro node hnode hunrevoked
    rw [mem_upsertIpLease hcooled]
    rcases List.mem_append.mp hnode with hnode | hnode
    · exact Or.inr ⟨hi.held node hnode hunrevoked, hnoActive node hnode hunrevoked⟩
    · rw [List.mem_singleton.mp hnode]
      exact Or.inl rfl
  · intro stored hstored hstoredActive
    rcases (mem_upsertIpLease hcooled).mp hstored with rfl | ⟨hold, _⟩
    · exact ⟨row, List.mem_append_right _ List.mem_cons_self, hactive, rfl⟩
    · obtain ⟨node, hnode, hunrevoked, heq⟩ := hi.holders stored hold hstoredActive
      exact ⟨node, List.mem_append_left _ hnode, hunrevoked, heq⟩
  · intro node hnode
    rcases List.mem_append.mp hnode with hnode | hnode
    · exact hi.allocated node hnode
    · rw [List.mem_singleton.mp hnode]
      exact ⟨network, hnetworkMem, hnetworkId.trans hrowNetwork.symm, hrange⟩
  · dsimp only
    rw [htokens, List.map_map]
    have hsame : (db.enrollmentTokens.map (EnrollmentTokenRow.tokenHash ∘ fun stored =>
        if stored.tokenHash = enrollmentTokenHash p request.token then
          { stored with useCount := stored.useCount + 1 }
        else stored)) = db.enrollmentTokens.map EnrollmentTokenRow.tokenHash := by
      refine List.map_congr_left fun stored _ => ?_
      dsimp only [Function.comp_apply]
      split <;> rfl
    rw [hsame]
    exact hi.tokenHashes

/-- All that a revocation has written. -/
theorem revokeNode_tables {db db' : Database} {networkId : Uuid} {nodeIdBase64 : String}
    {ipCooldownSeconds : UInt64} {times : Times} {response : RevokeNodeResponse}
    (h : revokeNode p state db networkId nodeIdBase64 ipCooldownSeconds times = .ok (response, db')) :
    ∃ nodeId node signed, decodeCanonicalArray p 16 nodeIdBase64 = some nodeId ∧
      db.activeNode networkId nodeId = some node ∧
      publishConfiguration p state (revokeTables db node.id response.cooldownUntil times.transaction)
        networkId times = .ok (signed, db') := by
  obtain ⟨_, h⟩ := guard_ok.mp h
  obtain ⟨nodeId, hnodeId, h⟩ := bind_ok.mp h
  obtain ⟨node, hnode, h⟩ := bind_ok.mp h
  obtain ⟨⟨configuration, published⟩, hpublish, h⟩ := bind_ok.mp h
  cases h
  exact ⟨nodeId, node, configuration, okOr_ok.mp hnodeId, okOr_ok.mp hnode, hpublish⟩

theorem activeNode_spec {db : Database} {networkId : Uuid} {nodeId : Block 16} {node : NodeRow}
    (h : db.activeNode networkId nodeId = some node) :
    node ∈ db.nodes ∧ node.networkId = networkId ∧ node.revokedAt = none := by
  obtain ⟨hmem, hactive⟩ := List.mem_filter.mp (mem_of_activeNode h)
  have hboth : node.networkId = networkId ∧ node.revokedAt = none := of_decide_eq_true hactive
  exact ⟨hmem, hboth⟩

theorem Tenancy.revoked {db : Database} (hi : Tenancy db) (node : NodeRow) (cooldownUntil now : Int) :
    Tenancy (revokeTables db node.id cooldownUntil now) := by
  unfold revokeTables Database.updateNode
  refine ⟨hi.networkIds, ?_, ?_, ?_, ?_, ?_, hi.tokenHashes⟩
  · dsimp only
    rw [List.map_map]
    have hsame : (db.nodes.map (NodeRow.id ∘ fun stored =>
        if stored.id = node.id then { stored with revokedAt := some now } else stored)) =
          db.nodes.map NodeRow.id := by
      refine List.map_congr_left fun stored _ => ?_
      dsimp only [Function.comp_apply]
      split <;> rfl
    rw [hsame]
    exact hi.nodeIds
  · dsimp only
    rw [places_coolLeases]
    exact hi.places
  · intro other hother hunrevoked
    obtain ⟨stored, hstored, rfl⟩ := List.mem_map.mp hother
    by_cases hid : stored.id = node.id
    · rw [if_pos hid] at hunrevoked
      simp at hunrevoked
    · rw [if_neg hid] at hunrevoked ⊢
      exact mem_coolLeases.mpr (Or.inl ⟨hi.held stored hstored hunrevoked, fun hboth => hid hboth.1⟩)
  · intro row hrow hactive
    rcases mem_coolLeases.mp hrow with ⟨hold, hkept⟩ | ⟨before, _, _, _, rfl⟩
    · obtain ⟨holder, hholder, hunrevoked, rfl⟩ := hi.holders row hold hactive
      have hid : holder.id ≠ node.id := fun hid => hkept ⟨hid, rfl⟩
      exact ⟨holder, List.mem_map.mpr ⟨holder, hholder, if_neg hid⟩, hunrevoked, rfl⟩
    · simp at hactive
  · intro other hother
    obtain ⟨stored, hstored, rfl⟩ := List.mem_map.mp hother
    have hallocated := hi.allocated stored hstored
    split
    next => exact hallocated
    next => exact hallocated

/-- What a new network has been checked for. -/
structure NetworkRow.Sound (network : NetworkRow) : Prop where
  prefixLen_ge : 8 ≤ network.addressPool.prefixLen
  prefixLen_le : network.addressPool.prefixLen ≤ 30
  reserved : 2 ≤ network.reservedAddresses

theorem createNetwork_tables {db db' : Database} {request : CreateNetworkRequest} {networkId : Uuid}
    {times : Times} {response : NetworkResponse}
    (h : createNetwork p state db request networkId times = .ok (response, db')) :
    ∃ row signed, row.id = networkId ∧ row.Sound ∧ (∀ stored ∈ db.networks, stored.id ≠ networkId) ∧
      publishConfiguration p state { db with networks := db.networks ++ [row] } networkId times =
        .ok (signed, db') := by
  obtain ⟨name, _, h⟩ := bind_ok.mp h
  obtain ⟨pool, _, h⟩ := bind_ok.mp h
  obtain ⟨hlength, h⟩ := guard_ok.mp h
  obtain ⟨hreserved, h⟩ := guard_ok.mp h
  obtain ⟨_, h⟩ := guard_ok.mp h
  obtain ⟨_, h⟩ := guard_ok.mp h
  obtain ⟨hfresh, h⟩ := guard_ok.mp h
  obtain ⟨⟨configuration, tables⟩, hpublish, h⟩ := bind_ok.mp h
  cases h
  rw [not_not] at hlength
  simp only [not_or, UInt32.not_lt] at hreserved
  refine ⟨_, configuration, rfl, ?_, ?_, hpublish⟩
  · exact ⟨hlength.1, hlength.2, UInt32.le_iff_toNat_le.mp hreserved.1⟩
  intro stored hstored hid
  simp only [List.any_eq_true, not_exists, not_and] at hfresh
  exact hfresh stored hstored (by simp [hid])

theorem Tenancy.networkCreated {db db' : Database} (hi : Tenancy db) {request : CreateNetworkRequest}
    {networkId : Uuid} {times : Times} {response : NetworkResponse}
    (h : createNetwork p state db request networkId times = .ok (response, db')) : Tenancy db' := by
  obtain ⟨row, signed, hid, _, hfresh, hpublish⟩ := createNetwork_tables h
  refine Tenancy.published ?_ hpublish
  refine ⟨?_, hi.nodeIds, hi.places, hi.held, hi.holders, ?_, hi.tokenHashes⟩
  · rw [List.map_append, List.nodup_append]
    refine ⟨hi.networkIds, List.nodup_singleton _, fun id hmem other hother heq => ?_⟩
    obtain ⟨stored, hstored, rfl⟩ := List.mem_map.mp hmem
    rw [List.map_singleton, List.mem_singleton] at hother
    exact hfresh stored hstored (heq.trans (hother.trans hid))
  · intro node hnode
    obtain ⟨network, hnetwork, hallocated⟩ := hi.allocated node hnode
    exact ⟨network, List.mem_append_left _ hnetwork, hallocated⟩

theorem createEnrollmentToken_tables {db db' : Database} {request : CreateEnrollmentTokenRequest}
    {tokenId : Uuid} {random : Block 32} {times : Times} {response : EnrollmentTokenResponse}
    (h : createEnrollmentToken p db request tokenId random times = .ok (response, db')) :
    ∃ token, token.useCount = 0 ∧
      (∀ stored ∈ db.enrollmentTokens, stored.tokenHash ≠ token.tokenHash) ∧
      db' = { db with enrollmentTokens := db.enrollmentTokens ++ [token] } := by
  obtain ⟨_, h⟩ := guard_ok.mp h
  obtain ⟨network, _, h⟩ := bind_ok.mp h
  obtain ⟨requestedVirtualIp, _, h⟩ := bind_ok.mp h
  obtain ⟨hfresh, h⟩ := guard_ok.mp h
  cases h
  simp only [List.any_eq_true, decide_eq_true_eq, not_exists, not_and] at hfresh
  exact ⟨_, rfl, hfresh, rfl⟩

theorem Tenancy.tokenCreated {db db' : Database} (hi : Tenancy db)
    {request : CreateEnrollmentTokenRequest} {tokenId : Uuid} {random : Block 32} {times : Times}
    {response : EnrollmentTokenResponse}
    (h : createEnrollmentToken p db request tokenId random times = .ok (response, db')) :
    Tenancy db' := by
  obtain ⟨token, _, hfresh, rfl⟩ := createEnrollmentToken_tables h
  refine ⟨hi.networkIds, hi.nodeIds, hi.places, hi.held, hi.holders, hi.allocated, ?_⟩
  rw [List.map_append, List.nodup_append]
  refine ⟨hi.tokenHashes, List.nodup_singleton _, fun hash hhash other hother heq => ?_⟩
  obtain ⟨stored, hstored, rfl⟩ := List.mem_map.mp hhash
  rw [List.map_singleton, List.mem_singleton] at hother
  exact hfresh stored hstored (heq.trans hother)

end XsNexus
