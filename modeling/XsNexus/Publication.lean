import XsNexus.Database

namespace XsNexus

open ByteCodec Checks

variable (p : Platform)

structure ConfigurationMetadata where
  version : UInt64
  policyVersion : UInt64
  addressPool : String

/-- The stored candidate advertisement of a node, if the data base finds it unexpired. -/
def candidatePayload (db : Database) (now : Int) (databaseId : Uuid) : Option Bytes :=
  (db.candidateAdvertisements.find? fun row => row.nodeId = databaseId ∧ now < row.expiresAt).map
    AdvertisementRow.payload

/-- `SELECT … FROM node_group_memberships … ORDER BY node_id, group_name`, for one node. -/
def groupNames (db : Database) (networkId databaseId : Uuid) : List String :=
  ((db.nodeGroupMemberships.filter fun row =>
      row.networkId = networkId ∧ row.nodeId = databaseId).map
    GroupMembershipRow.groupName).insertionSort fun left right => p.textLe left right

def sortStrings (values : List String) : List String :=
  values.insertionSort fun left right => ¬strLt right left

def storedCandidates (payload : Option Bytes) : Except ApiError (List EndpointCandidate) :=
  match payload with
  | none => .ok []
  | some bytes => do
    let advertisement ← okOr .internal (p.candidateAdvertisement bytes)
    .ok advertisement.candidates

def configurationNode (db : Database) (networkId : Uuid) (now : Int) (row : NodeRow) :
    Except ApiError ConfigurationNode := do
  let candidates ← storedCandidates p (candidatePayload db now row.id)
  .ok {
    nodeIdBase64 := p.formats.base64Encode row.nodeId.val
    identityPublicKeyBase64 := p.formats.base64Encode row.identityPublicKey.val
    virtualIp := row.virtualIp.text
    directEndpoints := []
    candidates := candidates
    credentialSerial := row.credentialSerial
    credentialNotAfter := row.credentialNotAfter
    roleBitmap := row.roleBitmap
    groups := groupNames p db networkId row.id
    tags := sortStrings row.tags
    updateChannel := some row.updateChannel }

/-- `ORDER BY node_id` -/
def orderByNodeId (rows : List NodeRow) : List NodeRow :=
  rows.insertionSort fun left right => ¬right.nodeId.val < left.nodeId.val

def loadConfigurationNodes (db : Database) (networkId : Uuid) (now : Int) :
    Except ApiError (List ConfigurationNode) :=
  (orderByNodeId (db.activeNodes networkId)).mapM (configurationNode p db networkId now)

/-- `ORDER BY priority DESC, rule_id` -/
def aclRuleRowLe (left right : AclRuleRow) : Prop :=
  right.rule.priority < left.rule.priority ∨
    (left.rule.priority = right.rule.priority ∧ p.textLe left.rule.id right.rule.id)

instance (left right : AclRuleRow) : Decidable (aclRuleRowLe p left right) :=
  inferInstanceAs (Decidable (_ ∨ _))

def loadAclPolicies (db : Database) (networkId : Uuid) : List AclRule :=
  ((db.aclRules.filter fun row => row.networkId = networkId).insertionSort
    (aclRuleRowLe p)).map AclRuleRow.rule

/-- `ORDER BY network(r.prefix), masklen(r.prefix), r.priority DESC, r.route_id` -/
def subnetRouteRowLe (left right : SubnetRouteRow) : Prop :=
  left.subnetPrefix.network.bits < right.subnetPrefix.network.bits ∨
    (left.subnetPrefix.network = right.subnetPrefix.network ∧
      (left.subnetPrefix.prefixLen < right.subnetPrefix.prefixLen ∨
        (left.subnetPrefix.prefixLen = right.subnetPrefix.prefixLen ∧
          (right.priority < left.priority ∨
            (left.priority = right.priority ∧ p.textLe left.routeId right.routeId)))))

instance (left right : SubnetRouteRow) : Decidable (subnetRouteRowLe p left right) :=
  inferInstanceAs (Decidable (_ ∨ _))

/-- The node that a route of the network is joined with. -/
def routeGateway (db : Database) (row : SubnetRouteRow) : Option NodeRow :=
  (db.activeNodes row.networkId).find? fun node => node.id = row.gatewayNodeId

def configurationSubnetRoute (row : SubnetRouteRow) (gateway : NodeRow) : ConfigurationSubnetRoute where
  routeId := row.routeId
  subnetPrefix := p.formats.ipv4NetText row.subnetPrefix
  gatewayNodeIdBase64 := p.formats.base64Encode gateway.nodeId.val
  mode := row.mode
  interfaceName := row.interfaceName
  priority := row.priority

def loadSubnetRoutes (db : Database) (networkId : Uuid) : List ConfigurationSubnetRoute :=
  ((db.subnetRoutes.filter fun row => row.networkId = networkId ∧ row.state = .enabled).insertionSort
    (subnetRouteRowLe p)).filterMap fun row =>
      (routeGateway db row).map (configurationSubnetRoute p row)

/-- `UPDATE networks SET config_version = config_version + 1 … RETURNING …` -/
def nextConfigurationMetadata (db : Database) (networkId : Uuid) :
    Except ApiError (ConfigurationMetadata × Database) := do
  let network ← okOr .internal (db.network networkId)
  if network.configVersion + 1 ≥ bigintLimit then .error .internal
  else
    .ok (⟨UInt64.ofNat (network.configVersion + 1), UInt64.ofNat network.policyVersion,
        p.formats.ipv4NetText network.addressPool⟩,
      db.updateNetwork networkId fun network =>
        { network with configVersion := network.configVersion + 1 })

/-- The payload of `publish_configuration`, as the tables give it. -/
def assembleConfiguration (state : AppState) (db : Database) (networkId : Uuid)
    (metadata : ConfigurationMetadata) (times : Times) : Except ApiError ConfigurationPayload := do
  let nodes ← loadConfigurationNodes p db networkId times.transaction
  .ok {
    schemaVersion := 1
    networkId := networkId
    version := metadata.version
    policyVersion := metadata.policyVersion
    generatedAt := times.generated
    addressPool := metadata.addressPool
    discoveryEndpoints := state.discoveryPublicEndpoints
    nodes := nodes
    relays := state.relays
    policies := loadAclPolicies p db networkId
    subnetRoutes := loadSubnetRoutes p db networkId }

def maxConfigurationPayloadBytes : Nat := 1048576

def encodeConfiguration (state : AppState) (payload : ConfigurationPayload) :
    Except ApiError (Bytes × Block 64 × UInt32) := do
  let bytes ← okOr .internal (p.configurationPayloadText payload)
  if bytes.length > maxConfigurationPayloadBytes then .error .internal
  else
    .ok (bytes, p.crypto.sign state.configSigningKey (configurationDomain ++ bytes),
      controllerKeyId p.crypto (p.crypto.verifyingKey state.configSigningKey))

def persistConfiguration (db : Database) (row : ConfigurationVersionRow) :
    Except ApiError Database :=
  if db.configurationVersions.any fun stored =>
      stored.networkId = row.networkId ∧ stored.version = row.version then
    .error .conflict
  else .ok { db with configurationVersions := db.configurationVersions ++ [row] }

/-- The signed form of a stored configuration. -/
def signedConfigurationFromRow (row : ConfigurationVersionRow) : SignedConfiguration where
  version := UInt64.ofNat row.version
  payloadBase64 := p.formats.base64Encode row.payload
  signatureBase64 := p.formats.base64Encode row.signature.val
  signerKeyId := row.signerKeyId

def publishConfiguration (state : AppState) (db : Database) (networkId : Uuid) (times : Times) :
    Except ApiError (SignedConfiguration × Database) := do
  let (metadata, db) ← nextConfigurationMetadata p db networkId
  let payload ← assembleConfiguration p state db networkId metadata times
  let _ ← (AclPolicy.compile p.formats payload).mapError fun _ => ApiError.internal
  let (bytes, signature, keyId) ← encodeConfiguration p state payload
  let row : ConfigurationVersionRow := ⟨networkId, metadata.version.toNat, bytes, signature, keyId⟩
  let db ← persistConfiguration db row
  .ok (signedConfigurationFromRow p row, db)

/-- `SELECT … FROM configuration_versions … ORDER BY version DESC LIMIT 1` -/
def latestConfigurationRow (db : Database) (networkId : Uuid) : Option ConfigurationVersionRow :=
  ((db.configurationVersions.filter fun row => row.networkId = networkId).insertionSort
    fun left right => left.version ≥ right.version).head?

def latestConfiguration (db : Database) (networkId : Uuid) : Except ApiError SignedConfiguration := do
  let row ← okOr .notFound (latestConfigurationRow db networkId)
  .ok (signedConfigurationFromRow p row)

end XsNexus
