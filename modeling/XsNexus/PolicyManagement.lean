import XsNexus.Advertisements

namespace XsNexus

open ByteCodec Checks FiniteMap

variable (p : Platform)

structure AclGroupRequest where
  name : String
  nodeIdsBase64 : List String
deriving DecidableEq

structure ReplaceAclPolicyRequest where
  expectedPolicyVersion : UInt64
  groups : List AclGroupRequest
  rules : List AclRule

structure ReplaceAclPolicyResponse where
  networkId : Uuid
  policyVersion : UInt64
  configurationVersion : UInt64
deriving DecidableEq

/-- `windows(2).any(|pair| pair[0] == pair[1])` -/
def repeatsNeighbour (values : List String) : Bool :=
  (values.zip values.tail).any fun (left, right) => left = right

def canonicalGroup (group : AclGroupRequest) : Except ApiError AclGroupRequest :=
  if !validAclName group.name ∨ group.nodeIdsBase64 = [] ∨ group.nodeIdsBase64.length > 1024 then
    .error .validation
  else do
    let _ ← group.nodeIdsBase64.mapM fun nodeId => okOr .validation (decodeCanonicalArray p 16 nodeId)
    let nodeIds := sortStrings group.nodeIdsBase64
    if repeatsNeighbour nodeIds then .error .validation
    else .ok { group with nodeIdsBase64 := nodeIds }

def canonicalGroups (groups : List AclGroupRequest) : Except ApiError (List AclGroupRequest) := do
  let groups ← groups.mapM (canonicalGroup p)
  let sorted := groups.insertionSort fun left right => ¬strLt right.name left.name
  if repeatsNeighbour (sorted.map AclGroupRequest.name) then .error .validation else .ok sorted

/-- `selector_key` of the controller -/
def selectorSortKey : AclSelector → String
  | .any => "any"
  | .node nodeIdBase64 => "node:" ++ nodeIdBase64
  | .group name => "group:" ++ name
  | .tag name => "tag:" ++ name
  | .subnet cidr => "subnet:" ++ cidr

def sortSelectors (selectors : List AclSelector) : List AclSelector :=
  selectors.insertionSort fun left right => ¬strLt (selectorSortKey right) (selectorSortKey left)

def portRangeLe (left right : PortRange) : Prop :=
  left.start < right.start ∨ (left.start = right.start ∧ left.end ≤ right.end)

instance (left right : PortRange) : Decidable (portRangeLe left right) :=
  inferInstanceAs (Decidable (_ ∨ _))

def aclRuleLe (left right : AclRule) : Prop :=
  right.priority < left.priority ∨ (left.priority = right.priority ∧ ¬strLt right.id left.id)

instance (left right : AclRule) : Decidable (aclRuleLe left right) :=
  inferInstanceAs (Decidable (_ ∨ _))

def canonicalRules (rules : List AclRule) : List AclRule :=
  (rules.map fun rule => { rule with
    sources := sortSelectors rule.sources
    destinations := sortSelectors rule.destinations
    destinationPorts := rule.destinationPorts.insertionSort portRangeLe }).insertionSort aclRuleLe

/-- The data base ids of the policy nodes under their encoded node ids. -/
def nodeDatabaseIds (nodes : List NodeRow) : Map String Uuid :=
  nodes.foldl (fun ids node => ids.insert (p.formats.base64Encode node.nodeId.val) node.id) ∅

def addGroupMember (ids : Map String Uuid) (groupName : String) (result : Map Uuid (List String))
    (nodeId : String) : Except ApiError (Map Uuid (List String)) := do
  let databaseId ← okOr .validation (ids.lookup nodeId)
  .ok (result.insert databaseId ((result.lookup databaseId).getD [] ++ [groupName]))

def groupsByNode (groups : List AclGroupRequest) (ids : Map String Uuid) :
    Except ApiError (Map Uuid (List String)) :=
  groups.foldlM (fun result group => group.nodeIdsBase64.foldlM (addGroupMember ids group.name) result)
    ∅

def referenceExists (groups : List AclGroupRequest) (ids : Map String Uuid) (nodes : List NodeRow)
    (subnetRoutes : List ConfigurationSubnetRoute) : AclSelector → Bool
  | .any => true
  | .node nodeIdBase64 => decide (nodeIdBase64 ∈ ids)
  | .group name => decide (name ∈ groups.map AclGroupRequest.name)
  | .tag name => decide (name ∈ nodes.flatMap NodeRow.tags)
  | .subnet cidr => decide (cidr ∈ subnetRoutes.map ConfigurationSubnetRoute.subnetPrefix)

def validatePolicyReferences (rules : List AclRule) (groups : List AclGroupRequest)
    (ids : Map String Uuid) (nodes : List NodeRow) (subnetRoutes : List ConfigurationSubnetRoute) :
    Except ApiError Unit :=
  if (rules.flatMap fun rule => rule.sources ++ rule.destinations).all
      (referenceExists groups ids nodes subnetRoutes) then
    .ok ()
  else .error .validation

/-- `load_policy_nodes` -/
def loadPolicyNodes (db : Database) (networkId : Uuid) : List NodeRow :=
  orderByNodeId (db.activeNodes networkId)

def policyValidationPayload (networkId : Uuid) (policyVersion : UInt64) (nodes : List NodeRow)
    (groupsByNode : Map Uuid (List String)) (policies : List AclRule) (addressPool : String)
    (subnetRoutes : List ConfigurationSubnetRoute) (utcNow : Int) : ConfigurationPayload where
  schemaVersion := 1
  networkId := networkId
  version := policyVersion
  policyVersion := policyVersion
  generatedAt := utcNow
  addressPool := addressPool
  discoveryEndpoints := []
  nodes := nodes.map fun node => {
    nodeIdBase64 := p.formats.base64Encode node.nodeId.val
    identityPublicKeyBase64 := ""
    virtualIp := node.virtualIp.text
    directEndpoints := []
    candidates := []
    credentialSerial := 1
    credentialNotAfter := utcNow
    roleBitmap := 0
    groups := sortStrings ((groupsByNode.lookup node.id).getD [])
    tags := sortStrings node.tags
    updateChannel := none }
  relays := []
  policies := policies
  subnetRoutes := subnetRoutes

def groupMembershipRows (networkId : Uuid) (ids : Map String Uuid) (group : AclGroupRequest) :
    Except ApiError (List GroupMembershipRow) :=
  group.nodeIdsBase64.mapM fun nodeId => do
    let databaseId ← okOr .validation (ids.lookup nodeId)
    .ok ⟨networkId, group.name, databaseId⟩

/-- The tables with the policy of a network replaced. -/
def policyTables (db : Database) (networkId : Uuid) (memberships : List GroupMembershipRow)
    (rules : List AclRule) (policyVersion : Nat) : Database :=
  { db with
    nodeGroupMemberships :=
      db.nodeGroupMemberships.filter (fun row => row.networkId ≠ networkId) ++ memberships
    aclRules := db.aclRules.filter (fun row => row.networkId ≠ networkId) ++
      rules.map (AclRuleRow.mk networkId)
    networks := db.networks.map fun network =>
      if network.id = networkId then { network with policyVersion := policyVersion } else network }

def persistAclPolicy (db : Database) (networkId : Uuid) (groups : List AclGroupRequest)
    (rules : List AclRule) (ids : Map String Uuid) (policyVersion : UInt64) :
    Except ApiError Database := do
  let memberships ← groups.mapM (groupMembershipRows networkId ids)
  if policyVersion.toNat ≥ bigintLimit then .error .conflict
  else .ok (policyTables db networkId memberships.flatten rules policyVersion.toNat)

def replaceAclPolicy (state : AppState) (db : Database) (networkId : Uuid)
    (request : ReplaceAclPolicyRequest) (times : Times) :
    Except ApiError (ReplaceAclPolicyResponse × Database) :=
  if request.expectedPolicyVersion = 0 ∨ request.groups.length > 256 ∨
      request.rules.length > 4096 then
    .error .validation
  else do
    let groups ← canonicalGroups p request.groups
    let rules := canonicalRules request.rules
    let network ← okOr .notFound (db.network networkId)
    if network.policyVersion ≠ request.expectedPolicyVersion.toNat then .error .conflict
    else do
      let policyNodes := loadPolicyNodes db networkId
      let ids := nodeDatabaseIds p policyNodes
      let subnetRoutes := loadSubnetRoutes p db networkId
      let _ ← validatePolicyReferences rules groups ids policyNodes subnetRoutes
      let groupsByNode ← groupsByNode groups ids
      if request.expectedPolicyVersion.toNat + 1 ≥ 2 ^ 64 then .error .conflict
      else do
        let nextPolicyVersion := request.expectedPolicyVersion + 1
        let validationPayload := policyValidationPayload p networkId nextPolicyVersion policyNodes
          groupsByNode rules (p.formats.ipv4NetText network.addressPool) subnetRoutes times.utc
        let _ ← (AclPolicy.compile p.formats validationPayload).mapError fun _ => ApiError.validation
        let db ← persistAclPolicy db networkId groups rules ids nextPolicyVersion
        let (configuration, db) ← publishConfiguration p state db networkId times
        .ok (⟨networkId, nextPolicyVersion, configuration.version⟩, db)

structure SubnetRouteApprovalRequest where
  routeId : String
  gatewayNodeIdBase64 : String
  subnetPrefix : String
  interfaceName : String
  mode : SubnetRouteMode
  priority : UInt32
  enabled : Bool
deriving DecidableEq

structure ReplaceSubnetRoutesRequest where
  expectedConfigurationVersion : UInt64
  routes : List SubnetRouteApprovalRequest

structure ReplaceSubnetRoutesResponse where
  networkId : Uuid
  configurationVersion : UInt64
  enabledRoutes : Nat
  pausedRoutes : Nat
deriving DecidableEq

structure PersistedSubnetRoute where
  route : ConfigurationSubnetRoute
  subnetPrefix : Ipv4Net
  gatewayDatabaseId : Uuid
  enabled : Bool

def storedSuggestions (networkId : Uuid) (row : AdvertisementRow) :
    Except ApiError (List (Uuid × Ipv4Net × String)) := do
  let advertisement ← okOr .internal (p.subnetRouteAdvertisement row.payload)
  if advertisement.networkId ≠ networkId then .error .internal
  else
    advertisement.suggestions.mapM fun suggestion => do
      let net ← okOr .internal (p.formats.ipv4Net suggestion.subnetPrefix)
      .ok (row.nodeId, net, suggestion.interfaceName)

section

local instance advertiserLawful : LawfulBEq Uuid := inferInstance

def loadValidSubnetSuggestions (db : Database) (networkId : Uuid) (now : Int) :
    Except ApiError (List (Uuid × Ipv4Net × String)) := do
  let rows := db.subnetRouteAdvertisements.filter fun row =>
    row.networkId = networkId ∧ now < row.expiresAt ∧
      row.nodeId ∈ (db.activeNodes networkId).map NodeRow.id
  let suggestions ← rows.mapM (storedSuggestions p networkId)
  .ok suggestions.flatten

end

/-- The variables of the loop of `prepare_subnet_routes`. -/
structure RoutePreparation where
  routeIds : List String
  activeScopes : List (Uuid × Ipv4Net × String)
  persisted : List PersistedSubnetRoute
  enabled : List ConfigurationSubnetRoute

def prepareSubnetRoute (ids : Map String Uuid) (suggestions : List (Uuid × Ipv4Net × String))
    (addressPool : String) (progress : RoutePreparation) (route : SubnetRouteApprovalRequest) :
    Except ApiError RoutePreparation :=
  if route.routeId ∈ progress.routeIds then .error .validation
  else do
    let gatewayDatabaseId ← okOr .validation (ids.lookup route.gatewayNodeIdBase64)
    let net ← (validateSubnetRouteSuggestion p.formats route.subnetPrefix route.interfaceName
      addressPool).mapError fun _ => ApiError.validation
    let scope := (gatewayDatabaseId, net, route.interfaceName)
    if scope ∉ suggestions ∨ scope ∈ progress.activeScopes then .error .validation
    else
      let configurationRoute : ConfigurationSubnetRoute := {
        routeId := route.routeId
        subnetPrefix := p.formats.ipv4NetText net
        gatewayNodeIdBase64 := route.gatewayNodeIdBase64
        mode := route.mode
        interfaceName := route.interfaceName
        priority := route.priority }
      .ok {
        routeIds := route.routeId :: progress.routeIds
        activeScopes := scope :: progress.activeScopes
        persisted :=
          progress.persisted ++ [⟨configurationRoute, net, gatewayDatabaseId, route.enabled⟩]
        enabled :=
          if route.enabled then progress.enabled ++ [configurationRoute] else progress.enabled }

def subnetRouteLe (left right : Ipv4Net × ConfigurationSubnetRoute) : Prop :=
  left.1.network.bits < right.1.network.bits ∨
    (left.1.network = right.1.network ∧
      (left.1.prefixLen < right.1.prefixLen ∨
        (left.1.prefixLen = right.1.prefixLen ∧
          (right.2.priority < left.2.priority ∨
            (left.2.priority = right.2.priority ∧ ¬strLt right.2.routeId left.2.routeId)))))

instance (left right : Ipv4Net × ConfigurationSubnetRoute) : Decidable (subnetRouteLe left right) :=
  inferInstanceAs (Decidable (_ ∨ _))

def canonicalSubnetRoutes (routes : List ConfigurationSubnetRoute) :
    Except ApiError (List ConfigurationSubnetRoute) := do
  let parsed ← routes.mapM fun route => do
    let net ← okOr ApiError.validation (p.formats.ipv4Net route.subnetPrefix)
    .ok (net, route)
  .ok ((parsed.insertionSort subnetRouteLe).map Prod.snd)

def prepareSubnetRoutes (db : Database) (networkId : Uuid) (addressPool : String)
    (routes : List SubnetRouteApprovalRequest) (now : Int) :
    Except ApiError (List PersistedSubnetRoute × List ConfigurationSubnetRoute) := do
  let ids := nodeDatabaseIds p (loadPolicyNodes db networkId)
  let suggestions ← loadValidSubnetSuggestions p db networkId now
  let progress ← routes.foldlM (prepareSubnetRoute p ids suggestions addressPool) ⟨[], [], [], []⟩
  let enabled ← canonicalSubnetRoutes p progress.enabled
  .ok (progress.persisted, enabled)

def subnetRouteRow (networkId : Uuid) (persisted : PersistedSubnetRoute) : SubnetRouteRow where
  networkId := networkId
  routeId := persisted.route.routeId
  gatewayNodeId := persisted.gatewayDatabaseId
  subnetPrefix := persisted.subnetPrefix
  interfaceName := persisted.route.interfaceName
  mode := persisted.route.mode
  priority := persisted.route.priority
  state := if persisted.enabled then .enabled else .paused

/-- `INSERT … ON CONFLICT (network_id, route_id) DO UPDATE`, with the cast to `cidr` and the checks
of the table. -/
def persistSubnetRoute (rows : List SubnetRouteRow) (row : SubnetRouteRow) :
    Except ApiError (List SubnetRouteRow) :=
  if row.subnetPrefix.addr ≠ row.subnetPrefix.network ∨ !validRouteId row.routeId ∨
      ¬(1 ≤ row.subnetPrefix.prefixLen ∧ row.subnetPrefix.prefixLen ≤ 30) ∨
      !validInterfaceName row.interfaceName ∨ row.priority = 0 then
    .error .internal
  else if rows.any fun stored => stored.networkId = row.networkId ∧ stored.routeId = row.routeId then
    .ok (rows.map fun stored =>
      if stored.networkId = row.networkId ∧ stored.routeId = row.routeId then row else stored)
  else .ok (rows ++ [row])

def persistSubnetRoutes (db : Database) (networkId : Uuid) (routes : List PersistedSubnetRoute) :
    Except ApiError Database := do
  let revoked := db.subnetRoutes.map fun row =>
    if row.networkId = networkId then { row with state := .revoked } else row
  let rows ← (routes.map (subnetRouteRow networkId)).foldlM persistSubnetRoute revoked
  .ok { db with subnetRoutes := rows }

def replaceSubnetRoutes (state : AppState) (db : Database) (networkId : Uuid)
    (request : ReplaceSubnetRoutesRequest) (times : Times) :
    Except ApiError (ReplaceSubnetRoutesResponse × Database) :=
  if request.expectedConfigurationVersion = 0 ∨ request.routes.length > 256 then .error .validation
  else do
    let network ← okOr .notFound (db.network networkId)
    if network.configVersion ≠ request.expectedConfigurationVersion.toNat then .error .conflict
    else do
      let addressPool := p.formats.ipv4NetText network.addressPool
      let (persisted, enabled) ←
        prepareSubnetRoutes p db networkId addressPool request.routes times.transaction
      let nodes ← loadConfigurationNodes p db networkId times.transaction
      let validationPayload : ConfigurationPayload := {
        schemaVersion := 1
        networkId := networkId
        version := UInt64.ofNat (min (network.configVersion + 1) (2 ^ 64 - 1))
        policyVersion := UInt64.ofNat network.policyVersion
        generatedAt := times.utc
        addressPool := addressPool
        discoveryEndpoints := state.discoveryPublicEndpoints
        nodes := nodes
        relays := state.relays
        policies := loadAclPolicies p db networkId
        subnetRoutes := enabled }
      let _ ← (SubnetRoutePolicy.compile p.formats validationPayload).mapError fun _ =>
        ApiError.validation
      let _ ← (AclPolicy.compile p.formats validationPayload).mapError fun _ => ApiError.validation
      let db ← persistSubnetRoutes db networkId persisted
      let (configuration, db) ← publishConfiguration p state db networkId times
      let enabledCount := persisted.countP PersistedSubnetRoute.enabled
      .ok (⟨networkId, configuration.version, enabledCount, persisted.length - enabledCount⟩, db)

structure RevokeNodeResponse where
  networkId : Uuid
  nodeIdBase64 : String
  virtualIp : String
  cooldownUntil : Int
  configurationVersion : UInt64
deriving DecidableEq

/-- `UPDATE ip_leases SET state = 'cooling' … WHERE node_id = … AND state = 'active'` -/
def coolLeases (rows : List IpLeaseRow) (databaseId : Uuid) (cooldownUntil : Int) : List IpLeaseRow :=
  rows.map fun row =>
    if row.nodeId = databaseId ∧ row.state = .active then
      { row with state := .cooling (timestamptz cooldownUntil) }
    else row

/-- The tables of `revoke_node` before it publishes. -/
def revokeTables (db : Database) (databaseId : Uuid) (cooldownUntil now : Int) : Database :=
  { db.updateNode databaseId fun node => { node with revokedAt := some now } with
    ipLeases := coolLeases db.ipLeases databaseId cooldownUntil }

def revokeNode (state : AppState) (db : Database) (networkId : Uuid) (nodeIdBase64 : String)
    (ipCooldownSeconds : UInt64) (times : Times) : Except ApiError (RevokeNodeResponse × Database) :=
  if ¬(60 ≤ ipCooldownSeconds ∧ ipCooldownSeconds ≤ 604800) then .error .validation
  else do
    let nodeId ← okOr .validation (decodeCanonicalArray p 16 nodeIdBase64)
    let cooldownUntil := times.utc + seconds ipCooldownSeconds.toNat
    let node ← okOr .notFound (db.activeNode networkId nodeId)
    let (configuration, db) ← publishConfiguration p state
      (revokeTables db node.id cooldownUntil times.transaction) networkId times
    .ok (⟨networkId, nodeIdBase64, node.virtualIp.text, cooldownUntil, configuration.version⟩, db)

structure ReplaceNodeUpdateChannelRequest where
  expectedConfigurationVersion : UInt64
  updateChannel : UpdateChannel

structure ReplaceNodeUpdateChannelResponse where
  networkId : Uuid
  nodeIdBase64 : String
  updateChannel : UpdateChannel
  configurationVersion : UInt64
deriving DecidableEq

def replaceNodeUpdateChannel (state : AppState) (db : Database) (networkId : Uuid)
    (nodeIdBase64 : String) (request : ReplaceNodeUpdateChannelRequest) (times : Times) :
    Except ApiError (ReplaceNodeUpdateChannelResponse × Database) :=
  if request.expectedConfigurationVersion = 0 then .error .validation
  else do
    let nodeId ← okOr .validation (decodeCanonicalArray p 16 nodeIdBase64)
    let network ← okOr .notFound (db.network networkId)
    if network.configVersion ≠ request.expectedConfigurationVersion.toNat then .error .conflict
    else do
      let node ← okOr .notFound (db.activeNode networkId nodeId)
      let db := db.updateNode node.id fun node => { node with updateChannel := request.updateChannel }
      let (configuration, db) ← publishConfiguration p state db networkId times
      .ok (⟨networkId, nodeIdBase64, request.updateChannel, configuration.version⟩, db)

end XsNexus
