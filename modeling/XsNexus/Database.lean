import XsNexus.NodeState

namespace XsNexus

open ByteCodec

abbrev Uuid := Block 16

inductive ApiError
  | unauthorized | validation | notFound | conflict | invalidEnrollment | addressPoolExhausted
  | internal
deriving DecidableEq

structure CandidateAdvertisement where
  schemaVersion : UInt8
  networkId : Uuid
  nodeIdBase64 : String
  generation : UInt64
  generatedAt : Int
  expiresAt : Int
  candidates : List EndpointCandidate
deriving DecidableEq

structure SubnetRouteSuggestion where
  subnetPrefix : String
  interfaceName : String
deriving DecidableEq

structure SubnetRouteAdvertisement where
  schemaVersion : UInt8
  networkId : Uuid
  nodeIdBase64 : String
  generation : UInt64
  generatedAt : Int
  expiresAt : Int
  suggestions : List SubnetRouteSuggestion
deriving DecidableEq

structure NetworkRow where
  id : Uuid
  name : String
  addressPool : Ipv4Net
  reservedAddresses : Nat
  configVersion : Nat
  policyVersion : Nat
deriving DecidableEq

structure EnrollmentTokenRow where
  networkId : Uuid
  tokenHash : Block 32
  expiresAt : Int
  maxUses : Nat
  useCount : Nat
  defaultRoleBitmap : UInt32
  defaultTags : List String
  requestedVirtualIp : Option Ipv4Addr
deriving DecidableEq

structure NodeRow where
  id : Uuid
  networkId : Uuid
  nodeId : Block 16
  identityPublicKey : Block 32
  virtualIp : Ipv4Addr
  roleBitmap : UInt32
  tags : List String
  credential : Block 200
  credentialSerial : UInt64
  credentialNotAfter : Int
  updateChannel : UpdateChannel
  revokedAt : Option Int
deriving DecidableEq

inductive IpLeaseState
  | active
  | cooling (cooldownUntil : Int)
deriving DecidableEq

structure IpLeaseRow where
  networkId : Uuid
  virtualIp : Ipv4Addr
  nodeId : Uuid
  state : IpLeaseState
deriving DecidableEq

/-- A stored advertisement of candidates or of subnet routes. -/
structure AdvertisementRow where
  nodeId : Uuid
  networkId : Uuid
  generation : UInt64
  payload : Bytes
  signature : Block 64
  expiresAt : Int
deriving DecidableEq

structure GroupMembershipRow where
  networkId : Uuid
  groupName : String
  nodeId : Uuid
deriving DecidableEq

structure AclRuleRow where
  networkId : Uuid
  rule : AclRule
deriving DecidableEq

inductive SubnetRouteState
  | enabled | paused | revoked
deriving DecidableEq

structure SubnetRouteRow where
  networkId : Uuid
  routeId : String
  gatewayNodeId : Uuid
  subnetPrefix : Ipv4Net
  interfaceName : String
  mode : SubnetRouteMode
  priority : UInt32
  state : SubnetRouteState
deriving DecidableEq

structure ConfigurationVersionRow where
  networkId : Uuid
  version : Nat
  payload : Bytes
  signature : Block 64
  signerKeyId : UInt32
deriving DecidableEq

/-- The tables of the controller. -/
structure Database where
  networks : List NetworkRow
  enrollmentTokens : List EnrollmentTokenRow
  nodes : List NodeRow
  ipLeases : List IpLeaseRow
  configurationVersions : List ConfigurationVersionRow
  candidateAdvertisements : List AdvertisementRow
  subnetRouteAdvertisements : List AdvertisementRow
  nodeGroupMemberships : List GroupMembershipRow
  aclRules : List AclRuleRow
  subnetRoutes : List SubnetRouteRow
  credentialSerial : Nat
deriving DecidableEq

def Database.empty : Database := ⟨[], [], [], [], [], [], [], [], [], [], 1⟩

/-- What the controller takes from its crates and from the data base: the JSON texts it stores and
signs, the order of texts and their lower case. -/
structure Platform where
  crypto : Crypto
  formats : Formats
  candidateAdvertisementText : CandidateAdvertisement → Option Bytes
  candidateAdvertisement : Bytes → Option CandidateAdvertisement
  subnetRouteAdvertisementText : SubnetRouteAdvertisement → Option Bytes
  subnetRouteAdvertisement : Bytes → Option SubnetRouteAdvertisement
  configurationPayloadText : ConfigurationPayload → Option Bytes
  textLe : String → String → Bool
  lower : String → String

structure AppState where
  credentialSigningKey : SigningKey
  configSigningKey : SigningKey
  credentialTtlSeconds : UInt64
  discoveryPublicEndpoints : List SocketAddr
  relays : List ConfigurationRelay

/-- What one request reads of the clocks: `now()` of the data base, its own `Utc::now()` and the
`Utc::now()` of `publish_configuration`. -/
structure Times where
  transaction : Int
  utc : Int
  generated : Int
deriving DecidableEq

def seconds (n : Int) : Int := n * 10 ^ 9

def minutes (n : Int) : Int := seconds (60 * n)

/-- 2000-01-01, from where `timestamptz` counts microseconds. -/
def postgresEpoch : Int := seconds 946684800

/-- What is left of a time in a `timestamptz` column. -/
def timestamptz (t : Int) : Int := postgresEpoch + (t - postgresEpoch).tdiv 1000 * 1000

/-- The upper bound of `bigint`. -/
def bigintLimit : Nat := 2 ^ 63

namespace Database

def network (db : Database) (networkId : Uuid) : Option NetworkRow :=
  db.networks.find? fun network => network.id = networkId

/-- `UPDATE networks SET … WHERE id = …` -/
def updateNetwork (db : Database) (networkId : Uuid) (change : NetworkRow → NetworkRow) : Database :=
  { db with networks := db.networks.map fun network =>
      if network.id = networkId then change network else network }

/-- `WHERE network_id = … AND revoked_at IS NULL` -/
def activeNodes (db : Database) (networkId : Uuid) : List NodeRow :=
  db.nodes.filter fun node => node.networkId = networkId ∧ node.revokedAt = none

def activeNode (db : Database) (networkId : Uuid) (nodeId : Block 16) : Option NodeRow :=
  (db.activeNodes networkId).find? fun node => node.nodeId = nodeId

/-- `UPDATE nodes SET … WHERE id = …` -/
def updateNode (db : Database) (databaseId : Uuid) (change : NodeRow → NodeRow) : Database :=
  { db with nodes := db.nodes.map fun node => if node.id = databaseId then change node else node }

end Database

/-- `INSERT … ON CONFLICT (node_id) DO UPDATE` -/
def upsertAdvertisement (rows : List AdvertisementRow) (row : AdvertisementRow) :
    List AdvertisementRow :=
  if rows.any fun stored => stored.nodeId = row.nodeId then
    rows.map fun stored => if stored.nodeId = row.nodeId then row else stored
  else rows ++ [row]

end XsNexus
