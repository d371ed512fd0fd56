import XsNexus.PolicyManagement
import XsNexus.ReadCommitted

namespace XsNexus

open ByteCodec Checks FiniteMap ReadCommitted Runs

/-- The row locks of the data base. An advisory lock is always taken in the mode that excludes all. -/
inductive LockMode
  | keyShare | share | noKeyUpdate | update
deriving DecidableEq

/-- The conflict table of the row locks -/
def LockMode.conflicts : LockMode → LockMode → Bool
  | .keyShare, mode => decide (mode = .update)
  | .share, mode => decide (mode = .noKeyUpdate ∨ mode = .update)
  | .noKeyUpdate, mode => decide (mode ≠ .keyShare)
  | .update, _ => true

/-- What the transactions of the controller lock. -/
inductive Lockable
  | token (tokenHash : Block 32)
  | advisory (networkId : Uuid)
  | network (networkId : Uuid)
  | node (databaseId : Uuid)
  | candidateAdvertisement (databaseId : Uuid)
  | subnetRouteAdvertisement (databaseId : Uuid)
deriving DecidableEq

/-- A row as a statement leaves it, or the row it deletes. -/
inductive RowWrite
  | network (row : NetworkRow)
  | token (row : EnrollmentTokenRow)
  | newNode (row : NodeRow)
  | node (row : NodeRow)
  | ipLease (row : IpLeaseRow)
  | configurationVersion (row : ConfigurationVersionRow)
  | candidateAdvertisement (row : AdvertisementRow)
  | subnetRouteAdvertisement (row : AdvertisementRow)
  | membership (row : GroupMembershipRow)
  | dropMembership (row : GroupMembershipRow)
  | aclRule (row : AclRuleRow)
  | dropAclRule (row : AclRuleRow)
  | subnetRoute (row : SubnetRouteRow)

def upsertRow {α : Type} (same : α → Bool) (rows : List α) (row : α) : List α :=
  if rows.any same then rows.map fun stored => if same stored then row else stored else rows ++ [row]

def Database.writeRow (db : Database) : RowWrite → Database
  | .network row => db.updateNetwork row.id fun _ => row
  | .token row =>
    { db with enrollmentTokens := db.enrollmentTokens.map fun stored =>
        if stored.tokenHash = row.tokenHash then row else stored }
  | .newNode row => { db with nodes := db.nodes ++ [row] }
  | .node row => db.updateNode row.id fun _ => row
  | .ipLease row =>
    { db with ipLeases := upsertRow (fun stored =>
        decide (stored.networkId = row.networkId ∧ stored.virtualIp = row.virtualIp)) db.ipLeases row }
  | .configurationVersion row =>
    { db with configurationVersions := db.configurationVersions ++ [row] }
  | .candidateAdvertisement row =>
    { db with candidateAdvertisements := upsertAdvertisement db.candidateAdvertisements row }
  | .subnetRouteAdvertisement row =>
    { db with subnetRouteAdvertisements := upsertAdvertisement db.subnetRouteAdvertisements row }
  | .membership row => { db with nodeGroupMemberships := db.nodeGroupMemberships ++ [row] }
  | .dropMembership row =>
    { db with nodeGroupMemberships := db.nodeGroupMemberships.filter fun stored => stored ≠ row }
  | .aclRule row => { db with aclRules := db.aclRules ++ [row] }
  | .dropAclRule row => { db with aclRules := db.aclRules.filter fun stored => stored ≠ row }
  | .subnetRoute row =>
    { db with subnetRoutes := upsertRow (fun stored =>
        decide (stored.networkId = row.networkId ∧ stored.routeId = row.routeId)) db.subnetRoutes row }

def lockRules : Rules LockMode RowWrite Database where
  conflicts := LockMode.conflicts
  write := Database.writeRow
  conflicts_symm := fun mode mode' => by cases mode <;> cases mode' <;> rfl

abbrev TxScript := Script Lockable LockMode RowWrite Database

/-- A part of a transaction, up to what it goes on with. -/
def Tx (α : Type) : Type := (α → TxScript) → TxScript

instance : Monad Tx where
  pure a := fun next => next a
  bind x f := fun next => x fun a => f a next

namespace Tx

/-- The transaction ends with an error. -/
def refuse {α : Type} : Tx α := fun _ => .rollback

def require {α : Type} (result : Except ApiError α) : Tx α := fun next =>
  match result with
  | .error _ => .rollback
  | .ok a => next a

def lockRow (target : Lockable) (mode : LockMode) : Tx Unit := fun next => .lock target mode (next ())

def lockRows (targets : List Lockable) (mode : LockMode) : Tx Unit :=
  targets.foldr (fun target rest => do lockRow target mode; rest) (pure ())

def select {α : Type} (read : Database → α) : Tx α := fun next =>
  .statement (fun _ => []) fun db => next (read db)

def execute (writes : Database → List RowWrite) : Tx Unit := fun next => .statement writes fun _ => next ()

/-- A statement that writes and returns, or is refused. -/
def executeReturning {α : Type} (run : Database → Except ApiError (α × List RowWrite)) : Tx α :=
  fun next => .statement
    (fun db => match run db with
      | .error _ => []
      | .ok (_, writes) => writes)
    fun db => match run db with
      | .error _ => .rollback
      | .ok (a, _) => next a

/-- `SELECT … FOR UPDATE` of one row: the row found is locked, and then looked at again as it is now. -/
def selectForUpdate {α : Type} (find : Database → Option α) (target : α → Lockable) :
    Tx (Option α) := do
  match ← select find with
  | none => pure none
  | some row => do
    lockRow (target row) .update
    select fun db => (find db).filter fun again => target again = target row

def run (x : Tx Unit) : TxScript := x fun _ => .commit

end Tx

open Tx

variable (p : Platform)

namespace Transactions

/-- `lock_network` -/
def lockNetwork (networkId : Uuid) : Tx Unit := lockRow (.advisory networkId) .update

/-- `append_audit`, for the lock its foreign key takes -/
def appendAudit (networkId : Uuid) : Tx Unit := lockRow (.network networkId) .keyShare

def nextConfigurationMetadata (networkId : Uuid) : Tx ConfigurationMetadata := do
  lockRow (.network networkId) .noKeyUpdate
  executeReturning fun db => do
    let (metadata, _) ← XsNexus.nextConfigurationMetadata p db networkId
    let network ← okOr .internal (db.network networkId)
    .ok (metadata, [.network { network with configVersion := network.configVersion + 1 }])

def loadConfigurationNodes (networkId : Uuid) (now : Int) : Tx (List ConfigurationNode) := do
  let rows ← select id
  let memberships ← select Database.nodeGroupMemberships
  require (XsNexus.loadConfigurationNodes p { rows with nodeGroupMemberships := memberships }
    networkId now)

def persistConfiguration (row : ConfigurationVersionRow) : Tx Unit := do
  lockRow (.network row.networkId) .keyShare
  executeReturning fun db => do
    let _ ← XsNexus.persistConfiguration db row
    .ok ((), [.configurationVersion row])

def publishConfiguration (state : AppState) (networkId : Uuid) (times : Times) : Tx Unit := do
  let metadata ← nextConfigurationMetadata p networkId
  let nodes ← loadConfigurationNodes p networkId times.transaction
  let policies ← select fun db => loadAclPolicies p db networkId
  let subnetRoutes ← select fun db => loadSubnetRoutes p db networkId
  let payload : ConfigurationPayload := {
    schemaVersion := 1
    networkId := networkId
    version := metadata.version
    policyVersion := metadata.policyVersion
    generatedAt := times.generated
    addressPool := metadata.addressPool
    discoveryEndpoints := state.discoveryPublicEndpoints
    nodes := nodes
    relays := state.relays
    policies := policies
    subnetRoutes := subnetRoutes }
  let _ ← require ((AclPolicy.compile p.formats payload).mapError fun _ => ApiError.internal)
  let (bytes, signature, keyId) ← require (encodeConfiguration p state payload)
  persistConfiguration ⟨networkId, metadata.version.toNat, bytes, signature, keyId⟩

/-- `SELECT nextval('credential_serial')`, which no rollback takes back -/
def nextCredentialSerial : Tx Nat := fun next =>
  .outside (fun db => { db with credentialSerial := db.credentialSerial + 1 })
    fun db => next db.credentialSerial

def issueCredential (state : AppState) (token : EnrollmentTokenRow) (identityPublicKey : Block 32)
    (virtualIp : Ipv4Addr) (utcNow : Int) : Tx IssuedCredential := do
  let serial ← nextCredentialSerial
  let (issued, _) ← require (XsNexus.issueCredential p state
    { Database.empty with credentialSerial := serial } token identityPublicKey virtualIp utcNow)
  pure issued

def persistNode (row : NodeRow) (issuedAt now : Int) : Tx Unit := do
  lockRow (.network row.networkId) .keyShare
  executeReturning fun db => do
    let _ ← XsNexus.persistNode db row issuedAt now
    .ok ((), [.newNode row])
  lockRow (.network row.networkId) .keyShare
  -- no lock stands against the one on the row of the node, which is the transaction's own
  let lease : IpLeaseRow := ⟨row.networkId, row.virtualIp, row.id, .active⟩
  execute fun db =>
    if db.ipLeases.any fun stored =>
        stored.networkId = lease.networkId ∧ stored.virtualIp = lease.virtualIp ∧
          stored.occupied now then
      []
    else [.ipLease lease]

def consumeToken (tokenHash : Block 32) (now : Int) : Tx Unit :=
  executeReturning fun db => do
    let _ ← XsNexus.consumeToken db tokenHash now
    .ok ((), (db.enrollmentTokens.filter fun row =>
        row.tokenHash = tokenHash ∧ now < row.expiresAt ∧ row.useCount < row.maxUses).map fun row =>
      .token { row with useCount := row.useCount + 1 })

def enrollNode (state : AppState) (request : EnrollRequest) (databaseId : Uuid) (times : Times) :
    Tx Unit := do
  let enrollment ← require (validateEnrollment p request)
  let found ← selectForUpdate
    (fun db => db.enrollmentTokens.find? fun row => row.tokenHash = enrollment.tokenHash)
    fun row => .token row.tokenHash
  let token ← require (okOr .invalidEnrollment found)
  if token.expiresAt ≤ times.utc ∨ token.useCount ≥ token.maxUses then refuse
  else do
    lockNetwork token.networkId
    let identityExists ← select fun db => db.nodes.any fun node =>
      node.nodeId = enrollment.nodeId ∨ node.identityPublicKey = enrollment.identityPublicKey
    if identityExists then refuse
    else do
      let found ← select fun db => db.network token.networkId
      let network ← require (okOr .internal found)
      let allocated ← select fun db =>
        allocateVirtualIp db network token.requestedVirtualIp times.transaction
      let virtualIp ← require allocated
      let issued ← issueCredential p state token enrollment.identityPublicKey virtualIp times.utc
      persistNode {
        id := databaseId
        networkId := token.networkId
        nodeId := enrollment.nodeId
        identityPublicKey := enrollment.identityPublicKey
        virtualIp := virtualIp
        roleBitmap := issued.roleBitmap
        tags := token.defaultTags
        credential := issued.credential
        credentialSerial := issued.serial
        credentialNotAfter := issued.expiresAt
        updateChannel := .stable
        revokedAt := none } issued.issuedAt times.transaction
      consumeToken enrollment.tokenHash times.transaction
      publishConfiguration p state token.networkId times
      appendAudit token.networkId

def revokeNode (state : AppState) (networkId : Uuid) (nodeIdBase64 : String)
    (ipCooldownSeconds : UInt64) (times : Times) : Tx Unit :=
  if ¬(60 ≤ ipCooldownSeconds ∧ ipCooldownSeconds ≤ 604800) then refuse
  else do
    let nodeId ← require (okOr .validation (decodeCanonicalArray p 16 nodeIdBase64))
    let cooldownUntil := times.utc + seconds ipCooldownSeconds.toNat
    lockNetwork networkId
    let found ← selectForUpdate (fun db => db.activeNode networkId nodeId) fun node => .node node.id
    let node ← require (okOr .notFound found)
    execute fun db => (db.nodes.filter fun stored => stored.id = node.id).map fun stored =>
      .node { stored with revokedAt := some times.transaction }
    execute fun db => (db.ipLeases.filter fun row =>
        row.nodeId = node.id ∧ row.state = .active).map fun row =>
      .ipLease { row with state := .cooling (timestamptz cooldownUntil) }
    publishConfiguration p state networkId times
    appendAudit networkId

def replaceNodeUpdateChannel (state : AppState) (networkId : Uuid) (nodeIdBase64 : String)
    (request : ReplaceNodeUpdateChannelRequest) (times : Times) : Tx Unit :=
  if request.expectedConfigurationVersion = 0 then refuse
  else do
    let nodeId ← require (okOr .validation (decodeCanonicalArray p 16 nodeIdBase64))
    lockNetwork networkId
    let found ← selectForUpdate (fun db => db.network networkId) fun network => .network network.id
    let network ← require (okOr .notFound found)
    if network.configVersion ≠ request.expectedConfigurationVersion.toNat then refuse
    else do
      let found ← selectForUpdate (fun db => db.activeNode networkId nodeId) fun node => .node node.id
      let node ← require (okOr .notFound found)
      execute fun db => (db.nodes.filter fun stored => stored.id = node.id).map fun stored =>
        .node { stored with updateChannel := request.updateChannel }
      publishConfiguration p state networkId times
      appendAudit networkId

def insertMembership (row : GroupMembershipRow) : Tx Unit := do
  execute fun _ => [.membership row]
  lockRow (.node row.nodeId) .keyShare

def insertGroup (networkId : Uuid) (ids : Map String Uuid) (group : AclGroupRequest) : Tx Unit := do
  lockRow (.network networkId) .keyShare
  let rows ← require (groupMembershipRows networkId ids group)
  rows.forM insertMembership

def insertRule (networkId : Uuid) (rule : AclRule) : Tx Unit := do
  execute fun _ => [.aclRule ⟨networkId, rule⟩]
  lockRow (.network networkId) .keyShare

def persistAclPolicy (networkId : Uuid) (groups : List AclGroupRequest) (rules : List AclRule)
    (ids : Map String Uuid) (policyVersion : UInt64) : Tx Unit := do
  execute fun db => (db.nodeGroupMemberships.filter fun row => row.networkId = networkId).map
    .dropMembership
  execute fun db => (db.aclRules.filter fun row => row.networkId = networkId).map .dropAclRule
  groups.forM (insertGroup networkId ids)
  rules.forM (insertRule networkId)
  if policyVersion.toNat ≥ bigintLimit then refuse
  else
    execute fun db => (db.network networkId).toList.map fun network =>
      .network { network with policyVersion := policyVersion.toNat }

def replaceAclPolicy (state : AppState) (networkId : Uuid) (request : ReplaceAclPolicyRequest)
    (times : Times) : Tx Unit :=
  if request.expectedPolicyVersion = 0 ∨ request.groups.length > 256 ∨
      request.rules.length > 4096 then
    refuse
  else do
    let groups ← require (canonicalGroups p request.groups)
    let rules := canonicalRules request.rules
    lockNetwork networkId
    let found ← selectForUpdate (fun db => db.network networkId) fun network => .network network.id
    let network ← require (okOr .notFound found)
    if network.policyVersion ≠ request.expectedPolicyVersion.toNat then refuse
    else do
      let policyNodes ← select fun db => loadPolicyNodes db networkId
      let ids := nodeDatabaseIds p policyNodes
      let subnetRoutes ← select fun db => loadSubnetRoutes p db networkId
      let _ ← require (validatePolicyReferences rules groups ids policyNodes subnetRoutes)
      let groupsByNode ← require (groupsByNode groups ids)
      if request.expectedPolicyVersion.toNat + 1 ≥ 2 ^ 64 then refuse
      else do
        let nextPolicyVersion := request.expectedPolicyVersion + 1
        let validationPayload := policyValidationPayload p networkId nextPolicyVersion policyNodes
          groupsByNode rules (p.formats.ipv4NetText network.addressPool) subnetRoutes times.utc
        let _ ← require ((AclPolicy.compile p.formats validationPayload).mapError fun _ =>
          ApiError.validation)
        persistAclPolicy networkId groups rules ids nextPolicyVersion
        publishConfiguration p state networkId times
        appendAudit networkId

section

local instance suggesterLawful : LawfulBEq Uuid := inferInstance

/-- The rows of `load_valid_subnet_suggestions`. -/
def validSuggestionRows (db : Database) (networkId : Uuid) (now : Int) : List AdvertisementRow :=
  db.subnetRouteAdvertisements.filter fun row =>
    row.networkId = networkId ∧ now < row.expiresAt ∧
      row.nodeId ∈ (db.activeNodes networkId).map NodeRow.id

/-- `FOR SHARE OF a, n`: the rows found are locked one after the other, and looked at again then. -/
def loadValidSubnetSuggestions (networkId : Uuid) (now : Int) :
    Tx (List (Uuid × Ipv4Net × String)) := do
  let found ← select fun db => validSuggestionRows db networkId now
  lockRows (found.flatMap fun row =>
    [.subnetRouteAdvertisement row.nodeId, .node row.nodeId]) .share
  let rows ← select fun db => (validSuggestionRows db networkId now).filter fun row =>
    row.nodeId ∈ found.map AdvertisementRow.nodeId
  let suggestions ← require (rows.mapM (storedSuggestions p networkId))
  pure suggestions.flatten

end

def prepareSubnetRoutes (networkId : Uuid) (addressPool : String)
    (routes : List SubnetRouteApprovalRequest) (now : Int) :
    Tx (List PersistedSubnetRoute × List ConfigurationSubnetRoute) := do
  let policyNodes ← select fun db => loadPolicyNodes db networkId
  let suggestions ← loadValidSubnetSuggestions p networkId now
  let progress ← require (routes.foldlM
    (prepareSubnetRoute p (nodeDatabaseIds p policyNodes) suggestions addressPool) ⟨[], [], [], []⟩)
  let enabled ← require (canonicalSubnetRoutes p progress.enabled)
  pure (progress.persisted, enabled)

def insertSubnetRoute (row : SubnetRouteRow) : Tx Unit := do
  executeReturning fun db => do
    let _ ← persistSubnetRoute db.subnetRoutes row
    .ok ((), [.subnetRoute row])
  lockRow (.network row.networkId) .keyShare
  lockRow (.node row.gatewayNodeId) .keyShare

def persistSubnetRoutes (networkId : Uuid) (routes : List PersistedSubnetRoute) : Tx Unit := do
  execute fun db => (db.subnetRoutes.filter fun row =>
      row.networkId = networkId ∧ row.state ≠ .revoked).map fun row =>
    .subnetRoute { row with state := .revoked }
  (routes.map (subnetRouteRow networkId)).forM insertSubnetRoute

def replaceSubnetRoutes (state : AppState) (networkId : Uuid) (request : ReplaceSubnetRoutesRequest)
    (times : Times) : Tx Unit :=
  if request.expectedConfigurationVersion = 0 ∨ request.routes.length > 256 then refuse
  else do
    lockNetwork networkId
    let found ← selectForUpdate (fun db => db.network networkId) fun network => .network network.id
    let network ← require (okOr .notFound found)
    if network.configVersion ≠ request.expectedConfigurationVersion.toNat then refuse
    else do
      let addressPool := p.formats.ipv4NetText network.addressPool
      let (persisted, enabled) ←
        prepareSubnetRoutes p networkId addressPool request.routes times.transaction
      let nodes ← loadConfigurationNodes p networkId times.transaction
      let policies ← select fun db => loadAclPolicies p db networkId
      let validationPayload : ConfigurationPayload := {
        schemaVersion := 1
        networkId := networkId
        version := UInt64.ofNat (min (network.configVersion + 1) (2 ^ 64 - 1))
        policyVersion := UInt64.ofNat network.policyVersion
        generatedAt := times.utc
        addressPool := addressPool
        discoveryEndpoints := state.discoveryPublicEndpoints
        nodes := nodes
        relays := state.relays
        policies := policies
        subnetRoutes := enabled }
      let _ ← require ((SubnetRoutePolicy.compile p.formats validationPayload).mapError fun _ =>
        ApiError.validation)
      let _ ← require ((AclPolicy.compile p.formats validationPayload).mapError fun _ =>
        ApiError.validation)
      persistSubnetRoutes networkId persisted
      publishConfiguration p state networkId times
      appendAudit networkId

/-- `candidate_advertisement_is_duplicate` and `subnet_route_advertisement_is_duplicate` -/
def advertisementIsDuplicate (rows : Database → List AdvertisementRow) (target : Uuid → Lockable)
    (databaseId : Uuid) (generation : UInt64) (payload : Bytes) (signature : Block 64) : Tx Bool := do
  let _ ← selectForUpdate (fun db => (rows db).find? fun row => row.nodeId = databaseId)
    fun row => target row.nodeId
  let duplicate ← select fun db =>
    XsNexus.advertisementIsDuplicate (rows db) databaseId generation payload signature
  require duplicate

/-- `INSERT … ON CONFLICT (node_id) DO UPDATE` of an advertisement: a row that is there is locked, and
the foreign keys of a new one lock the rows they refer to. -/
def upsertAdvertisement (rows : Database → List AdvertisementRow) (target : Uuid → Lockable)
    (references : List Lockable) (write : AdvertisementRow → RowWrite) (row : AdvertisementRow) :
    Tx Unit := do
  let stored ← select fun db => (rows db).any fun stored => stored.nodeId = row.nodeId
  if stored then lockRow (target row.nodeId) .update else lockRows references .keyShare
  execute fun _ => [write row]

def advertiseCandidates (state : AppState) (authenticated : AuthenticatedNode)
    (advertisement : CandidateAdvertisement) (signatureBase64 : String) (times : Times) : Tx Unit := do
  let _ ← require (validateCandidateAdvertisement authenticated advertisement times.utc)
  let payload ← require (okOr .validation (p.candidateAdvertisementText advertisement))
  if payload.length > maxCandidateAdvertisementBytes then refuse
  else do
    let signature ← require (okOr .unauthorized (decodeArray p 64 signatureBase64))
    let found ← selectForUpdate
      (fun db => db.activeNode authenticated.networkId authenticated.nodeId) fun node => .node node.id
    let node ← require (okOr .unauthorized found)
    let verifyingKey ←
      require (okOr .internal (p.crypto.verifyingKeyFromBytes node.identityPublicKey))
    if !p.crypto.verifyStrict verifyingKey (candidateAdvertisementDomain ++ payload) signature then
      refuse
    else do
      let duplicate ← advertisementIsDuplicate Database.candidateAdvertisements
        .candidateAdvertisement node.id advertisement.generation payload signature
      if duplicate ∨ advertisement.generation.toNat ≥ bigintLimit then refuse
      else do
        upsertAdvertisement Database.candidateAdvertisements .candidateAdvertisement
          [.node node.id] .candidateAdvertisement {
            nodeId := node.id
            networkId := authenticated.networkId
            generation := advertisement.generation
            payload := payload
            signature := signature
            expiresAt := timestamptz advertisement.expiresAt }
        publishConfiguration p state authenticated.networkId times
        appendAudit authenticated.networkId

def advertiseSubnetRoutes (authenticated : AuthenticatedNode) (advertisement : SubnetRouteAdvertisement)
    (signatureBase64 : String) (times : Times) : Tx Unit := do
  let payload ← require (okOr .validation (p.subnetRouteAdvertisementText advertisement))
  if payload.length > maxSubnetRouteAdvertisementBytes then refuse
  else do
    let signature ← require (okOr .unauthorized (decodeArray p 64 signatureBase64))
    let found ← selectForUpdate
      (fun db => do
        let node ← db.activeNode authenticated.networkId authenticated.nodeId
        let network ← db.network node.networkId
        some (node, network))
      fun joined => .node joined.1.id
    let (node, network) ← require (okOr .unauthorized found)
    let _ ← require (validateSubnetRouteAdvertisement p authenticated advertisement
      (p.formats.ipv4NetText network.addressPool) times.utc)
    let verifyingKey ←
      require (okOr .internal (p.crypto.verifyingKeyFromBytes node.identityPublicKey))
    if !p.crypto.verifyStrict verifyingKey (subnetRouteAdvertisementDomain ++ payload) signature then
      refuse
    else do
      let duplicate ← advertisementIsDuplicate Database.subnetRouteAdvertisements
        .subnetRouteAdvertisement node.id advertisement.generation payload signature
      if duplicate ∨ advertisement.generation.toNat ≥ bigintLimit then refuse
      else do
        upsertAdvertisement Database.subnetRouteAdvertisements .subnetRouteAdvertisement
          [.node node.id, .network authenticated.networkId] .subnetRouteAdvertisement {
            nodeId := node.id
            networkId := authenticated.networkId
            generation := advertisement.generation
            payload := payload
            signature := signature
            expiresAt := timestamptz advertisement.expiresAt }
        appendAudit authenticated.networkId

end Transactions

/-- A request whose work is one transaction, with what it reads of the clocks. -/
inductive TransactionRequest
  | enrollNode (request : EnrollRequest) (databaseId : Uuid) (times : Times)
  | revokeNode (networkId : Uuid) (nodeIdBase64 : String) (ipCooldownSeconds : UInt64) (times : Times)
  | replaceAclPolicy (networkId : Uuid) (request : ReplaceAclPolicyRequest) (times : Times)
  | replaceSubnetRoutes (networkId : Uuid) (request : ReplaceSubnetRoutesRequest) (times : Times)
  | replaceNodeUpdateChannel (networkId : Uuid) (nodeIdBase64 : String)
      (request : ReplaceNodeUpdateChannelRequest) (times : Times)
  | advertiseCandidates (authenticated : AuthenticatedNode) (advertisement : CandidateAdvertisement)
      (signatureBase64 : String) (times : Times)
  | advertiseSubnetRoutes (authenticated : AuthenticatedNode)
      (advertisement : SubnetRouteAdvertisement) (signatureBase64 : String) (times : Times)

def TransactionRequest.script (state : AppState) : TransactionRequest → TxScript
  | .enrollNode request databaseId times =>
    (Transactions.enrollNode p state request databaseId times).run
  | .revokeNode networkId nodeIdBase64 ipCooldownSeconds times =>
    (Transactions.revokeNode p state networkId nodeIdBase64 ipCooldownSeconds times).run
  | .replaceAclPolicy networkId request times =>
    (Transactions.replaceAclPolicy p state networkId request times).run
  | .replaceSubnetRoutes networkId request times =>
    (Transactions.replaceSubnetRoutes p state networkId request times).run
  | .replaceNodeUpdateChannel networkId nodeIdBase64 request times =>
    (Transactions.replaceNodeUpdateChannel p state networkId nodeIdBase64 request times).run
  | .advertiseCandidates authenticated advertisement signatureBase64 times =>
    (Transactions.advertiseCandidates p state authenticated advertisement signatureBase64 times).run
  | .advertiseSubnetRoutes authenticated advertisement signatureBase64 times =>
    (Transactions.advertiseSubnetRoutes p authenticated advertisement signatureBase64 times).run

/-- What happens at the data base: a request begins its transaction, which goes on or is given up, and
enrollment tokens are created. -/
inductive DatabaseOp
  | start (id : Nat) (request : TransactionRequest)
  | advance (id : Nat)
  | abort (id : Nat)
  | createEnrollmentToken (request : CreateEnrollmentTokenRequest) (tokenId : Uuid)
      (random : Block 32) (times : Times)

def DatabaseOp.serverOp (state : AppState) :
    DatabaseOp → ReadCommitted.Op Lockable LockMode RowWrite Database
  | .start id request => .start id (request.script p state)
  | .advance id => .advance id
  | .abort id => .abort id
  | .createEnrollmentToken request tokenId random times => .elsewhere fun db =>
    match XsNexus.createEnrollmentToken p db request tokenId random times with
    | .error _ => db
    | .ok (_, db) => db

abbrev DatabaseServer := ReadCommitted.Server Lockable LockMode RowWrite Database

def DatabaseServer.step (state : AppState) (server : DatabaseServer) (op : DatabaseOp) :
    Unit × DatabaseServer :=
  ReadCommitted.Server.step lockRules server (op.serverOp p state)

theorem final_databaseServer (state : AppState) (server : DatabaseServer)
    (ops : List DatabaseOp) :
    final (DatabaseServer.step p state) server ops =
      final (ReadCommitted.Server.step lockRules) server (ops.map (DatabaseOp.serverOp p state)) := by
  induction ops generalizing server with
  | nil => rfl
  | cons op ops ih => exact ih _

end XsNexus
