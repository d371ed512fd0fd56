import XsNexus.Publication

namespace XsNexus

open ByteCodec Checks

variable (p : Platform)

/-- `b"XS Nexus enrollment token v1"` -/
def enrollmentTokenDomain : Bytes := utf8 "XS Nexus enrollment token v1"

/-- `b"XS Nexus control authentication v1"` -/
def controlAuthenticationDomain : Bytes := utf8 "XS Nexus control authentication v1"

/-- The last second a `DateTime<Utc>` holds. -/
def maxUtcSeconds : Nat := 8210266876799

/-- `char::is_whitespace` -/
def isWhitespace (ch : Char) : Bool :=
  decide ((9 ≤ ch.toNat ∧ ch.toNat ≤ 13) ∨ (0x2000 ≤ ch.toNat ∧ ch.toNat ≤ 0x200a) ∨
    ch.toNat ∈ [0x20, 0x85, 0xa0, 0x1680, 0x2028, 0x2029, 0x202f, 0x205f, 0x3000])

/-- `char::is_control` -/
def isControl (ch : Char) : Bool :=
  decide (ch.toNat < 0x20 ∨ (0x7f ≤ ch.toNat ∧ ch.toNat ≤ 0x9f))

/-- `str::trim` -/
def trim (text : String) : String :=
  String.ofList (((text.toList.dropWhile isWhitespace).reverse.dropWhile isWhitespace).reverse)

def validateName (name : String) : Except ApiError String :=
  let trimmed := trim name
  if trimmed.toList = [] ∨ trimmed.toList.length > 64 ∨ trimmed.toList.any isControl then
    .error .validation
  else .ok trimmed

def validateDeviceType (deviceType : String) : Except ApiError String :=
  if deviceType ∈ ["linux", "windows", "nas", "test"] then .ok deviceType else .error .validation

def decodeArray (n : Nat) (encoded : String) : Option (Block n) := do
  let decoded ← p.formats.base64Decode encoded
  array n decoded

def decodeCanonicalArray (n : Nat) (encoded : String) : Option (Block n) := do
  let decoded ← decodeArray p n encoded
  if p.formats.base64Encode decoded.val = encoded then some decoded else none

def enrollmentTokenHash (token : String) : Block 32 :=
  p.crypto.sha256 (enrollmentTokenDomain ++ utf8 token)

structure CreateNetworkRequest where
  name : String
  addressPool : String
  reservedAddresses : UInt32

structure NetworkResponse where
  id : Uuid
  name : String
  addressPool : String
  reservedAddresses : UInt32
  configVersion : UInt64
  createdAt : Int
deriving DecidableEq

def createNetwork (state : AppState) (db : Database) (request : CreateNetworkRequest)
    (networkId : Uuid) (times : Times) : Except ApiError (NetworkResponse × Database) := do
  let name ← validateName request.name
  let pool ← okOr .validation (p.formats.ipv4Net request.addressPool)
  if ¬(8 ≤ pool.prefixLen ∧ pool.prefixLen ≤ 30) then .error .validation
  else
    let usableAddresses := pool.broadcast.bits.toNat - pool.network.bits.toNat
    if request.reservedAddresses < 2 ∨ request.reservedAddresses > 4096 ∨
        request.reservedAddresses.toNat ≥ usableAddresses then
      .error .validation
    else if pool.addr ≠ pool.network then
      -- the cast to `cidr` refuses host bits
      .error .internal
    else if db.networks.any fun network => networksOverlap network.addressPool pool then
      .error .conflict
    else if db.networks.any fun network =>
        network.id = networkId ∨ p.lower network.name = p.lower name then
      .error .conflict
    else do
      let row : NetworkRow := {
        id := networkId
        name := name
        addressPool := pool
        reservedAddresses := request.reservedAddresses.toNat
        configVersion := 0
        policyVersion := 1 }
      let (configuration, db) ←
        publishConfiguration p state { db with networks := db.networks ++ [row] } networkId times
      .ok ({
        id := networkId
        name := name
        addressPool := p.formats.ipv4NetText pool
        reservedAddresses := request.reservedAddresses
        configVersion := configuration.version
        createdAt := times.utc }, db)

def validateAllocatableAddress (pool : Ipv4Net) (reserved : Nat) (address : Ipv4Addr) :
    Except ApiError Unit :=
  let first := pool.network.bits.toNat + reserved
  if first ≥ 2 ^ 32 then .error .validation
  else
    let last := pool.broadcast.bits.toNat - 1
    if pool.contains address ∧ first ≤ address.bits.toNat ∧ address.bits.toNat ≤ last then .ok ()
    else .error .validation

/-- `state = 'active' OR cooldown_until > now()` -/
def IpLeaseRow.occupied (now : Int) (row : IpLeaseRow) : Bool :=
  match row.state with
  | .active => true
  | .cooling cooldownUntil => decide (now < cooldownUntil)

def occupiedAddresses (db : Database) (networkId : Uuid) (now : Int) : List Ipv4Addr :=
  (db.ipLeases.filter fun row => row.networkId = networkId ∧ row.occupied now).map
    IpLeaseRow.virtualIp

def validateRequestedVirtualIp (db : Database) (network : NetworkRow) (requested : Option String)
    (now : Int) : Except ApiError (Option Ipv4Addr) :=
  match requested with
  | none => .ok none
  | some text => do
    let address ← okOr .validation (parseIpv4Addr text)
    validateAllocatableAddress network.addressPool network.reservedAddresses address
    if address ∈ occupiedAddresses db network.id now then .error .conflict
    else .ok (some address)

structure CreateEnrollmentTokenRequest where
  networkId : Uuid
  expiresInSeconds : UInt64
  maxUses : UInt16
  defaultRoleBitmap : UInt32
  defaultTags : List String
  requestedVirtualIp : Option String

structure EnrollmentTokenResponse where
  id : Uuid
  networkId : Uuid
  token : String
  expiresAt : Int
  maxUses : UInt16
deriving DecidableEq

def createEnrollmentToken (db : Database) (request : CreateEnrollmentTokenRequest) (tokenId : Uuid)
    (random : Block 32) (times : Times) : Except ApiError (EnrollmentTokenResponse × Database) :=
  if ¬(60 ≤ request.expiresInSeconds ∧ request.expiresInSeconds ≤ 604800) ∨
      ¬(1 ≤ request.maxUses ∧ request.maxUses ≤ 100) ∨
      roleSetDigest p.crypto request.defaultRoleBitmap request.defaultTags = none then
    .error .validation
  else do
    let network ← okOr .notFound (db.network request.networkId)
    let requestedVirtualIp ←
      validateRequestedVirtualIp db network request.requestedVirtualIp times.transaction
    let token := "xsenr1_" ++ p.formats.base64Encode random.val
    let tokenHash := enrollmentTokenHash p token
    let expiresAt := times.utc + seconds request.expiresInSeconds.toNat
    if db.enrollmentTokens.any fun row => row.tokenHash = tokenHash then .error .conflict
    else
      let row : EnrollmentTokenRow := {
        networkId := request.networkId
        tokenHash := tokenHash
        expiresAt := timestamptz expiresAt
        maxUses := request.maxUses.toNat
        useCount := 0
        defaultRoleBitmap := request.defaultRoleBitmap
        defaultTags := request.defaultTags
        requestedVirtualIp := requestedVirtualIp }
      .ok (⟨tokenId, request.networkId, token, expiresAt, request.maxUses⟩,
        { db with enrollmentTokens := db.enrollmentTokens ++ [row] })

structure EnrollRequest where
  token : String
  name : String
  deviceType : String
  identityPublicKeyBase64 : String

structure ValidatedEnrollment where
  name : String
  deviceType : String
  identityPublicKey : Block 32
  nodeId : Block 16
  tokenHash : Block 32

def validateEnrollment (request : EnrollRequest) : Except ApiError ValidatedEnrollment := do
  let name ← validateName request.name
  let deviceType ← validateDeviceType request.deviceType
  if (utf8 request.token).length > 96 ∨ !(utf8 "xsenr1_").isPrefixOf (utf8 request.token) then
    .error .invalidEnrollment
  else do
    let identityPublicKey ← okOr .validation (decodeArray p 32 request.identityPublicKeyBase64)
    let _ ← okOr .validation (p.crypto.verifyingKeyFromBytes identityPublicKey)
    .ok ⟨name, deviceType, identityPublicKey, nodeId p.crypto identityPublicKey,
      enrollmentTokenHash p request.token⟩

/-- The first address from `raw` on that no lease occupies, among `count`. -/
def firstFree (occupied : List Ipv4Addr) (raw : Nat) : Nat → Option Ipv4Addr
  | 0 => none
  | count + 1 =>
    if (⟨BitVec.ofNat 32 raw⟩ : Ipv4Addr) ∉ occupied then some ⟨BitVec.ofNat 32 raw⟩
    else firstFree occupied (raw + 1) count

def allocateVirtualIp (db : Database) (network : NetworkRow) (requested : Option Ipv4Addr)
    (now : Int) : Except ApiError Ipv4Addr :=
  let occupied := occupiedAddresses db network.id now
  match requested with
  | some address => do
    validateAllocatableAddress network.addressPool network.reservedAddresses address
    if address ∈ occupied then .error .conflict else .ok address
  | none =>
    let first := network.addressPool.network.bits.toNat + network.reservedAddresses
    if first ≥ 2 ^ 32 then .error .addressPoolExhausted
    else
      let last := network.addressPool.broadcast.bits.toNat - 1
      okOr .addressPoolExhausted (firstFree occupied first (last + 1 - first))

structure IssuedCredential where
  credential : Block 200
  serial : UInt64
  roleBitmap : UInt32
  credentialKeyId : UInt32
  issuedAt : Int
  expiresAt : Int

def issueCredential (state : AppState) (db : Database) (token : EnrollmentTokenRow)
    (identityPublicKey : Block 32) (virtualIp : Ipv4Addr) (utcNow : Int) :
    Except ApiError (IssuedCredential × Database) :=
  if db.credentialSerial ≥ bigintLimit then .error .internal
  else do
    let serial := UInt64.ofNat db.credentialSerial
    let roleDigest ← okOr .internal (roleSetDigest p.crypto token.defaultRoleBitmap token.defaultTags)
    let notBefore ← okOr .internal (unixTimestamp utcNow)
    let notAfter := notBefore.toNat + state.credentialTtlSeconds.toNat
    if notAfter > maxUtcSeconds then .error .internal
    else
      let claims : CredentialClaims := {
        networkId := token.networkId
        identityPublicKey := identityPublicKey
        virtualIpv4 := virtualIp
        serial := serial
        notBefore := notBefore
        notAfter := UInt64.ofNat notAfter
        roleBitmap := token.defaultRoleBitmap
        roleSetDigest := roleDigest }
      .ok ({
        credential := signCredential p.crypto claims state.credentialSigningKey
        serial := serial
        roleBitmap := token.defaultRoleBitmap
        credentialKeyId := controllerKeyId p.crypto (p.crypto.verifyingKey state.credentialSigningKey)
        issuedAt := utcNow
        expiresAt := seconds notAfter },
        { db with credentialSerial := db.credentialSerial + 1 })

/-- `INSERT … ON CONFLICT (network_id, virtual_ip) DO UPDATE … WHERE` the lease has cooled. -/
def upsertIpLease (rows : List IpLeaseRow) (row : IpLeaseRow) (now : Int) : List IpLeaseRow :=
  if rows.any fun stored => stored.networkId = row.networkId ∧ stored.virtualIp = row.virtualIp then
    rows.map fun stored =>
      if stored.networkId = row.networkId ∧ stored.virtualIp = row.virtualIp ∧
          !stored.occupied now then
        row
      else stored
  else rows ++ [row]

/-- The unique indexes of the table of nodes. -/
def nodeRowsClash (stored row : NodeRow) : Prop :=
  stored.id = row.id ∨ stored.nodeId = row.nodeId ∨
    stored.identityPublicKey = row.identityPublicKey ∨
    stored.credentialSerial = row.credentialSerial ∨
    (stored.revokedAt = none ∧ stored.networkId = row.networkId ∧ stored.virtualIp = row.virtualIp)

instance (stored row : NodeRow) : Decidable (nodeRowsClash stored row) :=
  inferInstanceAs (Decidable (_ ∨ _))

def persistNode (db : Database) (row : NodeRow) (issuedAt now : Int) : Except ApiError Database :=
  if db.nodes.any fun stored => nodeRowsClash stored row then .error .conflict
  else if row.credentialNotAfter ≤ timestamptz issuedAt then .error .internal
  else
    .ok { db with
      nodes := db.nodes ++ [row]
      ipLeases := upsertIpLease db.ipLeases ⟨row.networkId, row.virtualIp, row.id, .active⟩ now }

def consumeToken (db : Database) (tokenHash : Block 32) (now : Int) : Except ApiError Database :=
  let usable (row : EnrollmentTokenRow) : Bool :=
    decide (row.tokenHash = tokenHash ∧ now < row.expiresAt ∧ row.useCount < row.maxUses)
  if db.enrollmentTokens.any usable then
    .ok { db with
      enrollmentTokens := db.enrollmentTokens.map fun row =>
        if usable row then { row with useCount := row.useCount + 1 } else row }
  else .error .invalidEnrollment

def enrollNode (state : AppState) (db : Database) (request : EnrollRequest) (databaseId : Uuid)
    (times : Times) : Except ApiError (EnrollResponse × Database) := do
  let enrollment ← validateEnrollment p request
  let token ← okOr .invalidEnrollment
    (db.enrollmentTokens.find? fun row => row.tokenHash = enrollment.tokenHash)
  if token.expiresAt ≤ times.utc ∨ token.useCount ≥ token.maxUses then .error .invalidEnrollment
  else if db.nodes.any fun node =>
      node.nodeId = enrollment.nodeId ∨ node.identityPublicKey = enrollment.identityPublicKey then
    .error .conflict
  else do
    let network ← okOr .internal (db.network token.networkId)
    let virtualIp ← allocateVirtualIp db network token.requestedVirtualIp times.transaction
    let (issued, db) ← issueCredential p state db token enrollment.identityPublicKey virtualIp times.utc
    let row : NodeRow := {
      id := databaseId
      networkId := token.networkId
      nodeId := enrollment.nodeId
      identityPublicKey := enrollment.identityPublicKey
      virtualIp := virtualIp
      roleBitmap := issued.roleBitmap
      tags := token.defaultTags
      credential := issued.credential
      credentialSerial := issued.serial
      credentialNotAfter := issued.expiresAt
      updateChannel := .stable
      revokedAt := none }
    let db ← persistNode db row issued.issuedAt times.transaction
    let db ← consumeToken db enrollment.tokenHash times.transaction
    let (configuration, db) ← publishConfiguration p state db token.networkId times
    .ok ({
      networkId := token.networkId
      nodeIdBase64 := p.formats.base64Encode enrollment.nodeId.val
      virtualIp := virtualIp.text
      credentialBase64 := p.formats.base64Encode issued.credential.val
      credentialKeyId := issued.credentialKeyId
      credentialSigningPublicKeyBase64 :=
        p.formats.base64Encode (p.crypto.verifyingKey state.credentialSigningKey).bytes.val
      configurationSigningPublicKeyBase64 :=
        p.formats.base64Encode (p.crypto.verifyingKey state.configSigningKey).bytes.val
      configuration := configuration }, db)

/-- The node of a control connection. -/
structure AuthenticatedNode where
  networkId : Uuid
  nodeIdBase64 : String
  nodeId : Block 16
  identityPublicKey : Block 32
deriving DecidableEq

def authenticateControl (state : AppState) (db : Database) (challenge : Block 32)
    (nodeIdBase64 credentialBase64 signatureBase64 : String) (utcNow : Int) :
    Except ApiError AuthenticatedNode := do
  let claimedNodeId ← okOr .unauthorized (decodeArray p 16 nodeIdBase64)
  let credential ← okOr .unauthorized (decodeArray p 200 credentialBase64)
  let signature ← okOr .unauthorized (decodeArray p 64 signatureBase64)
  let now ← okOr .unauthorized (unixTimestamp utcNow)
  let verified ← okOr .unauthorized (verifyCredential p.crypto credential.val
    (p.crypto.verifyingKey state.credentialSigningKey) now)
  if verified.nodeId ≠ claimedNodeId then .error .unauthorized
  else do
    let stored ← okOr .unauthorized
      (db.nodes.find? fun node => node.nodeId = claimedNodeId ∧ node.revokedAt = none)
    if stored.credential ≠ credential ∨ stored.identityPublicKey ≠ verified.identityPublicKey ∨
        stored.networkId ≠ verified.networkId then
      .error .unauthorized
    else do
      let verifyingKey ← okOr .unauthorized
        (p.crypto.verifyingKeyFromBytes verified.identityPublicKey)
      if !p.crypto.verifyStrict verifyingKey
          (controlAuthenticationDomain ++ challenge.val ++ claimedNodeId.val) signature then
        .error .unauthorized
      else
        .ok ⟨stored.networkId, nodeIdBase64, claimedNodeId, stored.identityPublicKey⟩

end XsNexus
