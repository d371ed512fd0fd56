import XsNexus.Enrollment

namespace XsNexus

open ByteCodec Checks

variable (p : Platform)

/-- `b"XS Nexus candidate advertisement v1"` -/
def candidateAdvertisementDomain : Bytes := utf8 "XS Nexus candidate advertisement v1"

/-- `b"XS Nexus subnet route advertisement v1"` -/
def subnetRouteAdvertisementDomain : Bytes := utf8 "XS Nexus subnet route advertisement v1"

def maxCandidatesPerAdvertisement : Nat := 16

def maxCandidateAdvertisementBytes : Nat := 16 * 1024

def maxSubnetSuggestionsPerNode : Nat := 32

def maxSubnetRouteAdvertisementBytes : Nat := 64 * 1024

def validCandidateEndpoint (candidate : EndpointCandidate) : Bool :=
  if candidate.endpoint.port = 0 then false
  else
    match candidate.endpoint with
    | .v4 e =>
      if e.ip.isUnspecified ∨ e.ip.isLoopback ∨ e.ip.isMulticast ∨ e.ip = Ipv4Addr.BROADCAST then false
      else decide (candidate.kind ≠ .publicIpv6)
    | .v6 e =>
      if e.flowinfo ≠ 0 ∨ e.ip.isUnspecified ∨ e.ip.isLoopback ∨ e.ip.isMulticast ∨
          (e.ip.isUnicastLinkLocal ∧ e.scopeId = 0) ∨
          (!e.ip.isUnicastLinkLocal ∧ e.scopeId ≠ 0) then
        false
      else
        match candidate.kind with
        | .publicIpv6 => publicIpv6 e.ip && decide (e.scopeId = 0)
        | .localAddress | .mapped | .static => true
        | .relay => false

/-- One candidate of an advertisement; `seen` holds the endpoints with their kinds and the
priorities of the candidates before. -/
def checkAdvertisedCandidate (now advertisementExpiresAt : Int)
    (seen : List (EndpointCandidateKind × SocketAddr) × List UInt32) (candidate : EndpointCandidate) :
    Except ApiError (List (EndpointCandidateKind × SocketAddr) × List UInt32) :=
  if candidate.priority = 0 ∨ candidate.expiresAt ≤ now ∨
      candidate.expiresAt > advertisementExpiresAt ∨ candidate.kind = .relay ∨
      !validCandidateEndpoint candidate ∨ (candidate.kind, candidate.endpoint) ∈ seen.1 ∨
      candidate.priority ∈ seen.2 then
    .error .validation
  else .ok ((candidate.kind, candidate.endpoint) :: seen.1, candidate.priority :: seen.2)

def validateCandidateAdvertisement (authenticated : AuthenticatedNode)
    (advertisement : CandidateAdvertisement) (now : Int) : Except ApiError Unit :=
  if advertisement.schemaVersion ≠ 1 ∨ advertisement.networkId ≠ authenticated.networkId ∨
      advertisement.nodeIdBase64 ≠ authenticated.nodeIdBase64 ∨ advertisement.generation = 0 ∨
      advertisement.candidates.length > maxCandidatesPerAdvertisement ∨
      advertisement.generatedAt < now - minutes 5 ∨ advertisement.generatedAt > now + minutes 5 ∨
      advertisement.expiresAt ≤ now + seconds 30 ∨ advertisement.expiresAt > now + minutes 15 ∨
      !prioritiesDecrease advertisement.candidates then
    .error .validation
  else do
    let _ ← advertisement.candidates.foldlM
      (checkAdvertisedCandidate now advertisement.expiresAt) ([], [])
    .ok ()

/-- Whether a stored advertisement is the one received again; an older or different one of its
generation is refused. -/
def advertisementIsDuplicate (rows : List AdvertisementRow) (databaseId : Uuid) (generation : UInt64)
    (payload : Bytes) (signature : Block 64) : Except ApiError Bool :=
  match rows.find? fun row => row.nodeId = databaseId with
  | none => .ok false
  | some current =>
    let duplicate := decide (current.generation = generation ∧ current.payload = payload ∧
      current.signature = signature)
    if current.generation ≥ generation ∧ !duplicate then .error .conflict else .ok duplicate

def advertiseCandidates (state : AppState) (db : Database) (authenticated : AuthenticatedNode)
    (advertisement : CandidateAdvertisement) (signatureBase64 : String) (times : Times) :
    Except ApiError (SignedConfiguration × Database) := do
  let _ ← validateCandidateAdvertisement authenticated advertisement times.utc
  let payload ← okOr .validation (p.candidateAdvertisementText advertisement)
  if payload.length > maxCandidateAdvertisementBytes then .error .validation
  else do
    let signature ← okOr .unauthorized (decodeArray p 64 signatureBase64)
    let node ← okOr .unauthorized (db.activeNode authenticated.networkId authenticated.nodeId)
    let verifyingKey ← okOr .internal (p.crypto.verifyingKeyFromBytes node.identityPublicKey)
    if !p.crypto.verifyStrict verifyingKey (candidateAdvertisementDomain ++ payload) signature then
      .error .unauthorized
    else do
      let duplicate ← advertisementIsDuplicate db.candidateAdvertisements node.id
        advertisement.generation payload signature
      if duplicate then do
        let configuration ← latestConfiguration p db authenticated.networkId
        .ok (configuration, db)
      else if advertisement.generation.toNat ≥ bigintLimit then .error .validation
      else
        let row : AdvertisementRow := {
          nodeId := node.id
          networkId := authenticated.networkId
          generation := advertisement.generation
          payload := payload
          signature := signature
          expiresAt := timestamptz advertisement.expiresAt }
        publishConfiguration p state { db with
          candidateAdvertisements := upsertAdvertisement db.candidateAdvertisements row }
          authenticated.networkId times

def suggestionLt (left right : SubnetRouteSuggestion) : Prop :=
  strLt left.subnetPrefix right.subnetPrefix ∨
    (left.subnetPrefix = right.subnetPrefix ∧ strLt left.interfaceName right.interfaceName)

instance (left right : SubnetRouteSuggestion) : Decidable (suggestionLt left right) :=
  inferInstanceAs (Decidable (_ ∨ _))

def checkSuggestion (addressPool : String) (scopes : List (Ipv4Net × String))
    (suggestion : SubnetRouteSuggestion) : Except ApiError (List (Ipv4Net × String)) := do
  let net ← (validateSubnetRouteSuggestion p.formats suggestion.subnetPrefix
    suggestion.interfaceName addressPool).mapError fun _ => ApiError.validation
  if (net, suggestion.interfaceName) ∈ scopes then .error .validation
  else .ok ((net, suggestion.interfaceName) :: scopes)

def validateSubnetRouteAdvertisement (authenticated : AuthenticatedNode)
    (advertisement : SubnetRouteAdvertisement) (addressPool : String) (now : Int) :
    Except ApiError Unit :=
  if advertisement.schemaVersion ≠ 1 ∨ advertisement.networkId ≠ authenticated.networkId ∨
      advertisement.nodeIdBase64 ≠ authenticated.nodeIdBase64 ∨ advertisement.generation = 0 ∨
      advertisement.suggestions.length > maxSubnetSuggestionsPerNode ∨
      advertisement.generatedAt < now - minutes 5 ∨ advertisement.generatedAt > now + minutes 5 ∨
      advertisement.expiresAt ≤ now + seconds 30 ∨ advertisement.expiresAt > now + minutes 15 ∨
      (advertisement.suggestions.zip advertisement.suggestions.tail).any fun (left, right) =>
        ¬suggestionLt left right then
    .error .validation
  else do
    let _ ← advertisement.suggestions.foldlM (checkSuggestion p addressPool) []
    .ok ()

/-- The tables are committed before the configuration of the answer is read. -/
def advertiseSubnetRoutes (db : Database) (authenticated : AuthenticatedNode)
    (advertisement : SubnetRouteAdvertisement) (signatureBase64 : String) (times : Times) :
    Except ApiError (Except ApiError SignedConfiguration × Database) := do
  let payload ← okOr .validation (p.subnetRouteAdvertisementText advertisement)
  if payload.length > maxSubnetRouteAdvertisementBytes then .error .validation
  else do
    let signature ← okOr .unauthorized (decodeArray p 64 signatureBase64)
    let node ← okOr .unauthorized (db.activeNode authenticated.networkId authenticated.nodeId)
    let network ← okOr .unauthorized (db.network node.networkId)
    let _ ← validateSubnetRouteAdvertisement p authenticated advertisement
      (p.formats.ipv4NetText network.addressPool) times.utc
    let verifyingKey ← okOr .internal (p.crypto.verifyingKeyFromBytes node.identityPublicKey)
    if !p.crypto.verifyStrict verifyingKey (subnetRouteAdvertisementDomain ++ payload) signature then
      .error .unauthorized
    else do
      let duplicate ← advertisementIsDuplicate db.subnetRouteAdvertisements node.id
        advertisement.generation payload signature
      if duplicate then .ok (latestConfiguration p db authenticated.networkId, db)
      else if advertisement.generation.toNat ≥ bigintLimit then .error .validation
      else
        let row : AdvertisementRow := {
          nodeId := node.id
          networkId := authenticated.networkId
          generation := advertisement.generation
          payload := payload
          signature := signature
          expiresAt := timestamptz advertisement.expiresAt }
        let db : Database := { db with
          subnetRouteAdvertisements := upsertAdvertisement db.subnetRouteAdvertisements row }
        .ok (latestConfiguration p db authenticated.networkId, db)

end XsNexus
