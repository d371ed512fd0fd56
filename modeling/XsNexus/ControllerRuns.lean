import XsNexus.PolicyManagement

namespace XsNexus

open ByteCodec Checks

variable {p : Platform} {state : AppState}

/-- The tables of the controller and the nodes of its control connections. -/
structure Controller where
  database : Database
  sessions : List AuthenticatedNode
deriving DecidableEq

inductive ControllerRequest
  | createNetwork (request : CreateNetworkRequest) (networkId : Uuid) (times : Times)
  | createEnrollmentToken (request : CreateEnrollmentTokenRequest) (tokenId : Uuid)
      (random : Block 32) (times : Times)
  | enrollNode (request : EnrollRequest) (databaseId : Uuid) (times : Times)
  | authenticateControl (challenge : Block 32) (nodeIdBase64 credentialBase64 signatureBase64 : String)
      (utcNow : Int)
  | advertiseCandidates (authenticated : AuthenticatedNode) (advertisement : CandidateAdvertisement)
      (signatureBase64 : String) (times : Times)
  | advertiseSubnetRoutes (authenticated : AuthenticatedNode)
      (advertisement : SubnetRouteAdvertisement) (signatureBase64 : String) (times : Times)
  | replaceAclPolicy (networkId : Uuid) (request : ReplaceAclPolicyRequest) (times : Times)
  | replaceSubnetRoutes (networkId : Uuid) (request : ReplaceSubnetRoutesRequest) (times : Times)
  | revokeNode (networkId : Uuid) (nodeIdBase64 : String) (ipCooldownSeconds : UInt64)
      (times : Times)
  | replaceNodeUpdateChannel (networkId : Uuid) (nodeIdBase64 : String)
      (request : ReplaceNodeUpdateChannelRequest) (times : Times)

/-- One request; a refused one leaves the controller as it was. An advertisement comes over the
control connection of its node. -/
def Controller.serve (p : Platform) (state : AppState) (controller : Controller) :
    ControllerRequest → Except ApiError Controller
  | .createNetwork request networkId times => do
    let (_, db) ← XsNexus.createNetwork p state controller.database request networkId times
    .ok { controller with database := db }
  | .createEnrollmentToken request tokenId random times => do
    let (_, db) ← XsNexus.createEnrollmentToken p controller.database request tokenId random times
    .ok { controller with database := db }
  | .enrollNode request databaseId times => do
    let (_, db) ← XsNexus.enrollNode p state controller.database request databaseId times
    .ok { controller with database := db }
  | .authenticateControl challenge nodeIdBase64 credentialBase64 signatureBase64 utcNow => do
    let authenticated ← XsNexus.authenticateControl p state controller.database challenge nodeIdBase64
      credentialBase64 signatureBase64 utcNow
    .ok { controller with sessions := authenticated :: controller.sessions }
  | .advertiseCandidates authenticated advertisement signatureBase64 times =>
    if authenticated ∉ controller.sessions then .error .unauthorized
    else do
      let (_, db) ← XsNexus.advertiseCandidates p state controller.database authenticated advertisement
        signatureBase64 times
      .ok { controller with database := db }
  | .advertiseSubnetRoutes authenticated advertisement signatureBase64 times =>
    if authenticated ∉ controller.sessions then .error .unauthorized
    else do
      let (_, db) ← XsNexus.advertiseSubnetRoutes p controller.database authenticated advertisement
        signatureBase64 times
      .ok { controller with database := db }
  | .replaceAclPolicy networkId request times => do
    let (_, db) ← XsNexus.replaceAclPolicy p state controller.database networkId request times
    .ok { controller with database := db }
  | .replaceSubnetRoutes networkId request times => do
    let (_, db) ← XsNexus.replaceSubnetRoutes p state controller.database networkId request times
    .ok { controller with database := db }
  | .revokeNode networkId nodeIdBase64 ipCooldownSeconds times => do
    let (_, db) ←
      XsNexus.revokeNode p state controller.database networkId nodeIdBase64 ipCooldownSeconds times
    .ok { controller with database := db }
  | .replaceNodeUpdateChannel networkId nodeIdBase64 request times => do
    let (_, db) ← XsNexus.replaceNodeUpdateChannel p state controller.database networkId nodeIdBase64
      request times
    .ok { controller with database := db }

inductive ReachableController (p : Platform) (state : AppState) : Controller → Prop
  | initial : ReachableController p state ⟨.empty, []⟩
  | served {controller controller' : Controller} {request : ControllerRequest}
      (h : ReachableController p state controller)
      (hs : controller.serve p state request = .ok controller') :
      ReachableController p state controller'

theorem ReachableController.run {start controller : Controller} (h : ReachableController p state start)
    {requests : List ControllerRequest}
    (hrun : requests.foldlM (Controller.serve p state) start = .ok controller) :
    ReachableController p state controller := by
  induction requests generalizing start with
  | nil =>
    cases hrun
    exact h
  | cons request requests ih =>
    rw [List.foldlM_cons] at hrun
    obtain ⟨next, hnext, hrun⟩ := bind_ok.mp hrun
    exact ih (.served h hnext) hrun

/-- What the controller looks like after some requests, all of them granted. -/
def holdsAfter (p : Platform) (state : AppState) (requests : List ControllerRequest)
    (check : Controller → Bool) : Bool :=
  match requests.foldlM (Controller.serve p state) ⟨.empty, []⟩ with
  | .error _ => false
  | .ok controller => check controller

theorem reachable_of_holdsAfter {requests : List ControllerRequest} {check : Controller → Bool}
    (h : holdsAfter p state requests check = true) :
    ∃ controller, ReachableController p state controller ∧ check controller = true := by
  unfold holdsAfter at h
  split at h
  next => simp at h
  next controller hrun => exact ⟨controller, ReachableController.initial.run hrun, h⟩

def NetworkRow.nextMetadata (p : Platform) (network : NetworkRow) : ConfigurationMetadata :=
  ⟨UInt64.ofNat (network.configVersion + 1), UInt64.ofNat network.policyVersion,
    p.formats.ipv4NetText network.addressPool⟩

theorem toNat_nextVersion {network : NetworkRow} (h : network.configVersion + 1 < bigintLimit) :
    (network.nextMetadata p).version.toNat = network.configVersion + 1 := by
  have hlt : network.configVersion + 1 < 2 ^ 64 := by
    unfold bigintLimit at h
    omega
  exact UInt64.toNat_ofNat_of_lt' hlt

/-- The tables with the network counted on. -/
def countedTables (db : Database) (networkId : Uuid) : Database :=
  db.updateNetwork networkId fun network =>
    { network with configVersion := network.configVersion + 1 }

theorem nextConfigurationMetadata_ok {db db' : Database} {networkId : Uuid}
    {metadata : ConfigurationMetadata} :
    nextConfigurationMetadata p db networkId = .ok (metadata, db') ↔
      ∃ network, db.network networkId = some network ∧ network.configVersion + 1 < bigintLimit ∧
        metadata = network.nextMetadata p ∧ db' = countedTables db networkId := by
  unfold nextConfigurationMetadata
  constructor
  · intro h
    obtain ⟨network, hfound, h⟩ := bind_ok.mp h
    obtain ⟨hcounts, h⟩ := guard_ok.mp h
    cases h
    exact ⟨network, okOr_ok.mp hfound, by omega, rfl, rfl⟩
  · rintro ⟨network, hfound, hcounts, rfl, rfl⟩
    exact bind_ok.mpr ⟨network, okOr_ok.mpr hfound, guard_ok.mpr ⟨by omega, rfl⟩⟩

def configurationSignature (p : Platform) (state : AppState) (bytes : Bytes) : Block 64 :=
  p.crypto.sign state.configSigningKey (configurationDomain ++ bytes)

def configurationKeyId (p : Platform) (state : AppState) : UInt32 :=
  controllerKeyId p.crypto (p.crypto.verifyingKey state.configSigningKey)

theorem encodeConfiguration_ok {payload : ConfigurationPayload} {bytes : Bytes} {signature : Block 64}
    {keyId : UInt32} :
    encodeConfiguration p state payload = .ok (bytes, signature, keyId) ↔
      p.configurationPayloadText payload = some bytes ∧
        bytes.length ≤ maxConfigurationPayloadBytes ∧
        signature = configurationSignature p state bytes ∧ keyId = configurationKeyId p state := by
  unfold encodeConfiguration
  constructor
  · intro h
    obtain ⟨text, htext, h⟩ := bind_ok.mp h
    obtain ⟨hbounded, h⟩ := guard_ok.mp h
    cases h
    exact ⟨okOr_ok.mp htext, by omega, rfl, rfl⟩
  · rintro ⟨htext, hbounded, rfl, rfl⟩
    exact bind_ok.mpr ⟨bytes, okOr_ok.mpr htext, guard_ok.mpr ⟨by omega, rfl⟩⟩

def VersionFresh (db : Database) (row : ConfigurationVersionRow) : Prop :=
  ∀ stored ∈ db.configurationVersions,
    ¬(stored.networkId = row.networkId ∧ stored.version = row.version)

theorem persistConfiguration_ok {db db' : Database} {row : ConfigurationVersionRow} :
    persistConfiguration db row = .ok db' ↔ VersionFresh db row ∧
      db' = { db with configurationVersions := db.configurationVersions ++ [row] } := by
  unfold persistConfiguration VersionFresh
  rw [guard_ok]
  simp only [List.any_eq_true, decide_eq_true_eq, not_exists, not_and, Except.ok.injEq]
  constructor
  · rintro ⟨hfresh, rfl⟩
    exact ⟨fun stored hmem hid => hfresh stored hmem hid, rfl⟩
  · rintro ⟨hfresh, rfl⟩
    exact ⟨fun stored hmem hid => hfresh stored hmem hid, rfl⟩

def publishedRow (p : Platform) (state : AppState) (networkId : Uuid) (network : NetworkRow)
    (bytes : Bytes) : ConfigurationVersionRow where
  networkId := networkId
  version := (network.nextMetadata p).version.toNat
  payload := bytes
  signature := configurationSignature p state bytes
  signerKeyId := configurationKeyId p state

/-- What a publication needs of the tables and what it stores. -/
structure Publishes (p : Platform) (state : AppState) (db : Database) (networkId : Uuid)
    (times : Times) (network : NetworkRow) (payload : ConfigurationPayload) (bytes : Bytes) : Prop where
  found : db.network networkId = some network
  counts : network.configVersion + 1 < bigintLimit
  assembled : assembleConfiguration p state db networkId (network.nextMetadata p) times = .ok payload
  compiles : ∃ policy, AclPolicy.compile p.formats payload = .ok policy
  encoded : p.configurationPayloadText payload = some bytes
  bounded : bytes.length ≤ maxConfigurationPayloadBytes
  fresh : VersionFresh db (publishedRow p state networkId network bytes)

/-- The tables after a publication: the network counts on and has one more version. -/
def publishedTables (db : Database) (networkId : Uuid) (row : ConfigurationVersionRow) : Database :=
  { countedTables db networkId with
    configurationVersions := db.configurationVersions ++ [row] }

theorem publishConfiguration_ok {db db' : Database} {networkId : Uuid} {times : Times}
    {signed : SignedConfiguration} :
    publishConfiguration p state db networkId times = .ok (signed, db') ↔
      ∃ network payload bytes, Publishes p state db networkId times network payload bytes ∧
        signed = signedConfigurationFromRow p (publishedRow p state networkId network bytes) ∧
        db' = publishedTables db networkId (publishedRow p state networkId network bytes) := by
  unfold publishConfiguration
  constructor
  · intro h
    obtain ⟨⟨metadata, counted⟩, hmetadata, h⟩ := bind_ok.mp h
    obtain ⟨network, hfound, hcounts, rfl, rfl⟩ := nextConfigurationMetadata_ok.mp hmetadata
    obtain ⟨payload, hassembled, h⟩ := bind_ok.mp h
    obtain ⟨policy, hcompiles, h⟩ := bind_ok.mp h
    obtain ⟨⟨bytes, signature, keyId⟩, hencoded, h⟩ := bind_ok.mp h
    obtain ⟨htext, hbounded, rfl, rfl⟩ := encodeConfiguration_ok.mp hencoded
    obtain ⟨tables, hpersisted, h⟩ := bind_ok.mp h
    obtain ⟨hfresh, rfl⟩ := persistConfiguration_ok.mp hpersisted
    cases h
    exact ⟨network, payload, bytes, ⟨hfound, hcounts, hassembled, ⟨policy, mapError_ok.mp hcompiles⟩,
      htext, hbounded, hfresh⟩, rfl, rfl⟩
  · rintro ⟨network, payload, bytes, hp, rfl, rfl⟩
    obtain ⟨policy, hcompiles⟩ := hp.compiles
    refine bind_ok.mpr ⟨(network.nextMetadata p, countedTables db networkId), ?_, ?_⟩
    · exact nextConfigurationMetadata_ok.mpr ⟨network, hp.found, hp.counts, rfl, rfl⟩
    refine bind_ok.mpr ⟨payload, hp.assembled, ?_⟩
    refine bind_ok.mpr ⟨policy, mapError_ok.mpr hcompiles, ?_⟩
    refine bind_ok.mpr ⟨(bytes, configurationSignature p state bytes, configurationKeyId p state), ?_, ?_⟩
    · exact encodeConfiguration_ok.mpr ⟨hp.encoded, hp.bounded, rfl, rfl⟩
    exact bind_ok.mpr ⟨_, persistConfiguration_ok.mpr ⟨hp.fresh, rfl⟩, rfl⟩

end XsNexus
