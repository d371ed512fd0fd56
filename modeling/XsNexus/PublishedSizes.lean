import XsNexus.DirectoryChecks
import XsNexus.UsableEnrollments

namespace XsNexus

open ByteCodec Checks FiniteMap

namespace Json

/-- The bytes that items take with the commas between them -/
def listSize (items : List Bytes) : Nat := (items.map List.length).sum + (items.length - 1)

theorem length_separated (items : List Bytes) : (separated items).length = listSize items := by
  induction items with
  | nil => rfl
  | cons item items ih =>
    cases items with
    | nil => simp [separated, listSize]
    | cons next items =>
      rw [separated, List.length_append, List.length_append, ih]
      simp only [listSize, List.map_cons, List.sum_cons, List.length_cons, List.length_nil]
      omega

@[simp] theorem length_list (items : List Bytes) : (list items).length = listSize items + 2 := by
  rw [list, List.length_append, List.length_append, length_separated]
  simp only [List.length_cons, List.length_nil]
  omega

@[simp] theorem length_object (members : List Bytes) : (object members).length = listSize members + 2 := by
  rw [object, List.length_append, List.length_append, length_separated]
  simp only [List.length_cons, List.length_nil]
  omega

@[simp] theorem length_member (key : String) (value : Bytes) :
    (member key value).length = (string key).length + 1 + value.length := by
  rw [member, List.length_append, List.length_append]
  rfl

theorem length_escape_pos (byte : UInt8) : 1 ≤ (escape byte).length := by
  have hall : ∀ value < 256, 1 ≤ (escape (UInt8.ofNat value)).length := by decide +kernel
  have h := hall byte.toNat byte.toNat_lt
  rwa [UInt8.ofNat_toNat] at h

theorem length_string_ge (text : String) : (utf8 text).length + 2 ≤ (string text).length := by
  have hflat : ∀ bytes : Bytes, bytes.length ≤ (bytes.flatMap escape).length := by
    intro bytes
    induction bytes with
    | nil => exact Nat.le_refl 0
    | cons byte bytes ih =>
      have hbyte := length_escape_pos byte
      rw [List.flatMap_cons, List.length_append, List.length_cons]
      omega
  have h := hflat (utf8 text)
  rw [string, quoted, List.length_append, List.length_append]
  simp only [List.length_cons, List.length_nil]
  omega

theorem listSize_ge {items : List Bytes} {least : Nat} (h : ∀ item ∈ items, least ≤ item.length) :
    items.length * least ≤ listSize items := by
  have hsum : items.length * least ≤ (items.map List.length).sum := by
    induction items with
    | nil => simp
    | cons item items ih =>
      obtain ⟨hitem, hitems⟩ := List.forall_mem_cons.mp h
      have hrest := ih hitems
      rw [List.map_cons, List.sum_cons, List.length_cons, Nat.add_mul]
      omega
  unfold listSize
  omega

/-- The text of a configuration without its lists, and its lists. -/
theorem length_configurationPayload (payload : ConfigurationPayload) :
    (configurationPayload payload).length =
      (configurationPayload { payload with nodes := [], relays := [], policies := [], subnetRoutes := [] }).length +
        listSize (payload.nodes.map configurationNode) + listSize (payload.relays.map configurationRelay) +
        listSize (payload.policies.map aclRule) +
        listSize (payload.subnetRoutes.map configurationSubnetRoute) := by
  have hnil : listSize [] = 0 := rfl
  unfold configurationPayload
  rw [length_object, length_object]
  simp only [listSize, List.map_cons, List.map_nil, List.sum_cons, List.sum_nil, List.length_cons,
    List.length_nil, length_member, length_list]
  omega

end Json

theorem length_base64_ge (data : Bytes) : data.length ≤ (utf8 (Base64.urlEncode data)).length := by
  have hsextets : data.length ≤ (Base64.sextets data).length := by
    induction data using Base64.sextets.induct with
    | case1 a b c rest ih =>
      simp only [Base64.sextets, List.length_append, List.length_cons, List.length_nil]
      omega
    | case2 => simp [Base64.sextets]
    | case3 => simp [Base64.sextets]
    | case4 => simp [Base64.sextets]
  unfold utf8
  rw [Base64.utf8_urlEncode, List.length_map]
  exact hsextets

/-- A node takes at least 256 bytes of a configuration. -/
theorem length_configurationNode_ge {p : Platform} {db : Database} {networkId : Uuid} {now : Int}
    {row : NodeRow} {node : ConfigurationNode} (hbase64 : p.formats.base64Encode = Base64.urlEncode)
    (h : configurationNode p db networkId now row = .ok node) : 256 ≤ (Json.configurationNode node).length := by
  obtain ⟨candidates, _, h⟩ := bind_ok.mp h
  cases h
  rw [hbase64]
  have hid := length_base64_ge row.nodeId.val
  have hkey := length_base64_ge row.identityPublicKey.val
  have hidText := Json.length_string_ge (Base64.urlEncode row.nodeId.val)
  have hkeyText := Json.length_string_ge (Base64.urlEncode row.identityPublicKey.val)
  have hip := Json.length_string_ge row.virtualIp.text
  have hexpiry : 2 ≤ (Json.dateTime row.credentialNotAfter).length := by
    rw [Json.dateTime, Json.quoted, List.length_append, List.length_append]
    simp only [List.length_cons, List.length_nil]
    omega
  have hchannel : 8 ≤ (Json.updateChannel row.updateChannel).length := by
    cases row.updateChannel <;> decide +kernel
  have hlengths : (Json.string "node_id_base64").length = 16 ∧
      (Json.string "identity_public_key_base64").length = 28 ∧ (Json.string "virtual_ip").length = 12 ∧
      (Json.string "direct_endpoints").length = 18 ∧ (Json.string "candidates").length = 12 ∧
      (Json.string "credential_serial").length = 19 ∧ (Json.string "credential_not_after").length = 22 ∧
      (Json.string "role_bitmap").length = 13 ∧ (Json.string "groups").length = 8 ∧
      (Json.string "tags").length = 6 ∧ (Json.string "update_channel").length = 16 := by decide +kernel
  obtain ⟨h1, h2, h3, h4, h5, h6, h7, h8, h9, h10, h11⟩ := hlengths
  rw [Block.length_val] at hid hkey
  unfold Json.configurationNode
  rw [Json.length_object]
  simp only [Json.listSize, Option.map_some, Option.toList_some, List.cons_append, List.nil_append, List.map_cons,
    List.map_nil, List.sum_cons, List.sum_nil, List.length_cons, List.length_nil, Json.length_member,
    Json.length_list, h1, h2, h3, h4, h5, h6, h7, h8, h9, h10, h11]
  omega

/-- What the configuration of the controller has been checked for: one endpoint of its own to discover
addresses with, if any, and a catalogue of at most sixteen relays. -/
structure ConfiguredController (state : AppState) : Prop where
  discovery : state.discoveryPublicEndpoints.length ≤ 1
  relays : state.relays.length ≤ 16

/-- The limits of an agent, from the bytes of a signed configuration to the peers of its data plane -/
structure WithinLimits (f : Formats) (signed : SignedConfiguration) (payload : ConfigurationPayload) : Prop where
  decoded : ∃ bytes, decodeBounded f signed.payloadBase64 maxConfigurationBytes = .ok bytes ∧
    f.configurationPayload bytes = some payload
  discoveryEndpoints : payload.discoveryEndpoints.length ≤ maxDiscoveryEndpoints
  nodes : payload.nodes.length ≤ maxConfigurationNodes
  relays : payload.relays.length ≤ maxConfiguredRelays
  policies : payload.policies.length ≤ 4096
  subnetRoutes : payload.subnetRoutes.length ≤ maxSubnetRoutes
  directEndpoints : ∀ node ∈ payload.nodes, node.directEndpoints.length ≤ maxDirectEndpointsPerNode
  candidates : ∀ node ∈ payload.nodes, node.candidates.length ≤ maxCandidatesPerNode
  peers : ∀ localNodeId, (payload.nodes.filter (isPeer f localNodeId)).length ≤ maxConfiguredPeers

/-- The bytes that a network's records take in a configuration: what stands before its lists, and the nodes,
relays, rules and routes with their commas. -/
def networkSize (p : Platform) (state : AppState) (db : Database) (networkId : Uuid) (times : Times)
    (network : NetworkRow) (nodes : List ConfigurationNode) : Nat :=
  (Json.configurationPayload {
    schemaVersion := 1
    networkId := networkId
    version := (network.nextMetadata p).version
    policyVersion := (network.nextMetadata p).policyVersion
    generatedAt := times.generated
    addressPool := (network.nextMetadata p).addressPool
    discoveryEndpoints := state.discoveryPublicEndpoints
    nodes := []
    relays := []
    policies := []
    subnetRoutes := [] }).length +
  Json.listSize (nodes.map Json.configurationNode) + Json.listSize (state.relays.map Json.configurationRelay) +
  Json.listSize ((loadAclPolicies p db networkId).map Json.aclRule) +
  Json.listSize ((loadSubnetRoutes p db networkId).map Json.configurationSubnetRoute)

/-- The network and its records take at most so many bytes. -/
def NetworkFits (p : Platform) (state : AppState) (db : Database) (networkId : Uuid) (times : Times)
    (bound : Nat) : Prop :=
  ∃ network nodes, db.network networkId = some network ∧
    loadConfigurationNodes p db networkId times.transaction = .ok nodes ∧
    networkSize p state db networkId times network nodes ≤ bound

section Limits

variable {p : Platform} {state : AppState} {db db' : Database} {networkId : Uuid} {times : Times}
  {signed : SignedConfiguration}

/-- What holds of every publication, whatever its size. -/
structure PublishedPayload (p : Platform) (state : AppState) (db : Database) (networkId : Uuid) (times : Times)
    (payload : ConfigurationPayload) : Prop where
  relays : payload.relays = state.relays
  discoveryEndpoints : payload.discoveryEndpoints = state.discoveryPublicEndpoints
  policies : payload.policies.length ≤ 4096
  subnetRoutes : payload.subnetRoutes.length ≤ maxSubnetRoutes
  node : ∀ node ∈ payload.nodes, node.directEndpoints = [] ∧ node.candidates.length ≤ maxCandidatesPerNode ∧
    256 ≤ (Json.configurationNode node).length

theorem publishedPayload (hp : DocumentedCrates p) (hjson : AdvertisementsRoundTrip p)
    (hstored : StoredAdvertisements p db) {network : NetworkRow} {payload : ConfigurationPayload} {bytes : Bytes}
    (h : Publishes p state db networkId times network payload bytes) :
    PublishedPayload p state db networkId times payload := by
  obtain ⟨hnodes, _, hrelays, _⟩ := assembled_candidates h.assembled
  obtain ⟨nodes, hloaded, hassembled⟩ := bind_ok.mp h.assembled
  obtain ⟨policy, hcompiles⟩ := h.compiles
  obtain ⟨_, hcompiles'⟩ := guard_ok.mp hcompiles
  obtain ⟨hcount, _⟩ := guard_ok.mp hcompiles'
  obtain ⟨routes, hroutes⟩ := AclPolicy.subnetRoutes_of_compile hcompiles
  obtain ⟨hroutesCount, _⟩ := guard_ok.mp hroutes
  have hdiscovery : payload.discoveryEndpoints = state.discoveryPublicEndpoints := by
    cases hassembled
    rfl
  have hmem : payload.nodes = nodes := by
    cases hassembled
    rfl
  have hbase64 : p.formats.base64Encode = Base64.urlEncode := by
    rw [hp.formats]
    rfl
  refine ⟨hrelays, hdiscovery, Nat.not_lt.mp hcount, Nat.not_lt.mp hroutesCount, fun node hnode => ?_⟩
  obtain ⟨hdirect, row, _, hcandidates⟩ := hnodes node hnode
  refine ⟨hdirect, ?_, ?_⟩
  · rw [hcandidates]
    rcases advertised_valid hjson hstored times.transaction row with hnone | ⟨_, hvalid, heq⟩
    · rw [hnone]
      exact Nat.zero_le _
    · rw [heq]
      exact hvalid.ordered.1
  · rw [hmem] at hnode
    obtain ⟨row, _, hrow⟩ := mem_mapM hloaded hnode
    exact length_configurationNode_ge hbase64 hrow

theorem storedAdvertisements_of_edit {tables : Database} (hstored : StoredAdvertisements p db)
    (hedit : Edit p networkId times db tables) : StoredAdvertisements p tables := by
  cases hedit with
  | advertiseCandidates row node authenticated advertisement _ _ hvalid htext =>
    intro stored hmem
    rcases mem_upsertAdvertisement hmem with rfl | hold
    · exact ⟨advertisement, validAdvertisement hvalid, htext⟩
    · exact hstored stored hold
  | createNetwork => exact hstored
  | enrollNode => exact hstored
  | replaceAclPolicy => exact hstored
  | replaceSubnetRoutes => exact hstored
  | revokeNode => exact hstored
  | replaceNodeUpdateChannel => exact hstored

/-- The text of a publication has the size of the network's records. -/
theorem networkFits_iff
    (htext : ∀ payload bytes, p.configurationPayloadText payload = some bytes →
      bytes = Json.configurationPayload payload)
    {network : NetworkRow} {payload : ConfigurationPayload} {bytes : Bytes}
    (h : Publishes p state db networkId times network payload bytes) (bound : Nat) :
    NetworkFits p state db networkId times bound ↔ bytes.length ≤ bound := by
  obtain ⟨nodes, hloaded, hassembled⟩ := bind_ok.mp h.assembled
  have hsize : bytes.length = networkSize p state db networkId times network nodes := by
    rw [htext payload bytes h.encoded, Json.length_configurationPayload]
    cases hassembled
    rfl
  constructor
  · rintro ⟨found, others, hfound, hothers, hle⟩
    cases Option.some.inj (hfound.symm.trans h.found)
    cases Except.ok.inj (hothers.symm.trans hloaded)
    rwa [hsize]
  · intro hle
    rw [hsize] at hle
    exact ⟨network, nodes, h.found, hloaded, hle⟩

/-- Of the limits of the agents, a publication can only break the one on its bytes. -/
theorem withinLimits_iff (hp : DocumentedCrates p) (hjson : AdvertisementsRoundTrip p)
    (htext : ∀ payload bytes, p.configurationPayloadText payload = some bytes →
      bytes = Json.configurationPayload payload)
    (hconfig : ConfiguredController state) (hstored : StoredAdvertisements p db)
    {network : NetworkRow} {payload : ConfigurationPayload} {bytes : Bytes}
    (h : Publishes p state db networkId times network payload bytes) :
    (∃ payload, WithinLimits p.formats
      (signedConfigurationFromRow p (publishedRow p state networkId network bytes)) payload) ↔
      bytes.length ≤ maxConfigurationBytes := by
  constructor
  · rintro ⟨decoded, ⟨decodedBytes, hdecoded, _⟩, _⟩
    unfold decodeBounded at hdecoded
    obtain ⟨_, hdecoded⟩ := guard_ok.mp hdecoded
    dsimp only [signedConfigurationFromRow, publishedRow] at hdecoded
    rw [hp.base64Decode_encode] at hdecoded
    obtain ⟨hlength, _⟩ := guard_ok.mp hdecoded
    omega
  · intro hle
    have hpublished := publishedPayload hp hjson hstored h
    have hbytes := htext payload bytes h.encoded
    have hne : bytes ≠ [] := by
      intro hnil
      have hlength := congrArg List.length hbytes
      rw [hnil, Json.configurationPayload, Json.length_object] at hlength
      simp at hlength
    have hnodes : payload.nodes.length * 256 ≤ bytes.length := by
      have hsizes : (payload.nodes.map Json.configurationNode).length * 256 ≤
          Json.listSize (payload.nodes.map Json.configurationNode) := by
        refine Json.listSize_ge fun item hitem => ?_
        obtain ⟨node, hnode, rfl⟩ := List.mem_map.mp hitem
        exact (hpublished.node node hnode).2.2
      rw [List.length_map] at hsizes
      rw [hbytes, Json.length_configurationPayload]
      omega
    have hbound : maxConfigurationBytes = 262144 := rfl
    refine ⟨payload, ⟨bytes, ?_, hp.json payload bytes h.encoded⟩, ?_, ?_, ?_, hpublished.policies,
      hpublished.subnetRoutes, ?_, fun node hnode => (hpublished.node node hnode).2.1, ?_⟩
    · dsimp only [signedConfigurationFromRow, publishedRow]
      rw [hp.formats]
      exact decodeBounded_urlEncode _ hne hle (by decide)
    · rw [hpublished.discoveryEndpoints]
      exact hconfig.discovery.trans (by decide)
    · show payload.nodes.length ≤ 65535
      omega
    · rw [hpublished.relays]
      exact hconfig.relays
    · intro node hnode
      rw [(hpublished.node node hnode).1]
      exact Nat.zero_le _
    · intro localNodeId
      have hfilter := List.length_filter_le (isPeer p.formats localNodeId) payload.nodes
      show _ ≤ 1024
      omega

/-- A publication passes the limits of the agents just where the records of its network take at most
256 KiB. -/
theorem published_within_limits_iff (hp : DocumentedCrates p) (hjson : AdvertisementsRoundTrip p)
    (htext : ∀ payload bytes, p.configurationPayloadText payload = some bytes →
      bytes = Json.configurationPayload payload)
    (hconfig : ConfiguredController state) {controller : Controller}
    (hreachable : ReachableController p state controller) {tables : Database}
    (hedit : Edit p networkId times controller.database tables)
    (hpublish : publishConfiguration p state tables networkId times = .ok (signed, db')) :
    (∃ payload, WithinLimits p.formats signed payload) ↔
      NetworkFits p state tables networkId times maxConfigurationBytes := by
  have hstored := storedAdvertisements_of_edit (storedAdvertisements hreachable) hedit
  obtain ⟨network, payload, bytes, hpublishes, rfl, rfl⟩ := publishConfiguration_ok.mp hpublish
  rw [networkFits_iff htext hpublishes]
  exact withinLimits_iff hp hjson htext hconfig hstored hpublishes

end Limits

end XsNexus
