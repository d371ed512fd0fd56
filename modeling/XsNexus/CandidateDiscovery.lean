import XsNexus.Database
import XsNexus.RelayFrame
import XsNexus.StandardFormats

namespace XsNexus

open ByteCodec FiniteMap

def discoveryRequestLength : Nat := 334

def discoveryResponseLength : Nat := 188

/-- `b"XSD1"` -/
def discoveryMagic : Bytes := [88, 83, 68, 49]

def discoveryRequestDomain : Bytes := utf8 "XS Nexus discovery request v1"

def discoveryResponseDomain : Bytes := utf8 "XS Nexus discovery response v1"

structure DiscoveryRequest where
  encoded : Block 334
  networkId : Block 16
  nodeId : Block 16
  requestId : Block 16
deriving DecidableEq

structure VerifiedDiscoveryRequest where
  networkId : Block 16
  nodeId : Block 16
  identityPublicKey : Block 32
  credentialSerial : UInt64
  requestId : Block 16
  requestHash : Block 32

structure VerifiedDiscoveryResponse where
  observedEndpoint : SocketAddr
  serverTime : UInt64

/-- `encode_header` -/
def encodeDiscoveryHeader (packetType : UInt8) (length : UInt16) : Block 12 :=
  ⟨discoveryMagic ++ [1, packetType] ++ (zeros 2).val ++ (u16ToBe length).val ++ (zeros 2).val, by
    simp [discoveryMagic]⟩

/-- `validate_header` -/
def validDiscoveryHeader (encoded : Bytes) (packetType : UInt8) (expectedLength : Nat) : Bool :=
  decide (encoded.length = expectedLength) && slice encoded 0 4 == discoveryMagic &&
    encoded[4]? == some 1 && encoded[5]? == some packetType && slice encoded 6 8 == (zeros 2).val &&
    (field encoded 8 2).map (fun length => (u16FromBe length).toNat) == some expectedLength &&
    slice encoded 10 12 == (zeros 2).val

def DiscoveryRequest.new (c : Crypto) (networkId nodeId requestId : Block 16) (clientTime : UInt64)
    (credential : Block 200) (identitySigningKey : SigningKey) : Option DiscoveryRequest :=
  if networkId = zeros 16 ∨ nodeId = zeros 16 ∨ requestId = zeros 16 ∨ clientTime = 0 ∨
      nodeId ≠ XsNexus.nodeId c (c.verifyingKey identitySigningKey).bytes then
    none
  else
    let signed : Block 270 :=
      ⟨(encodeDiscoveryHeader 1 334).val ++ networkId.val ++ nodeId.val ++ requestId.val ++
        (u64ToBe clientTime).val ++ (u16ToBe 200).val ++ credential.val, by simp⟩
    some {
      encoded := ⟨signed.val ++ (c.sign identitySigningKey (discoveryRequestDomain ++ signed.val)).val,
        by simp⟩
      networkId := networkId
      nodeId := nodeId
      requestId := requestId }

def verifyDiscoveryRequest (c : Crypto) (encoded : Bytes) (credentialVerifyingKey : VerifyingKey)
    (now : UInt64) : Option VerifiedDiscoveryRequest := do
  if !validDiscoveryHeader encoded 1 discoveryRequestLength then none
  else
    let networkId ← field encoded 12 16
    let encodedNodeId ← field encoded 28 16
    let requestId ← field encoded 44 16
    let clientTime := u64FromBe (← field encoded 60 8)
    let credentialLength := u16FromBe (← field encoded 68 2)
    if networkId = zeros 16 ∨ encodedNodeId = zeros 16 ∨ requestId = zeros 16 ∨ clientTime = 0 ∨
        !timeIsFresh clientTime now ∨ credentialLength.toNat ≠ XsNexus.credentialLength then
      none
    else
      let claims ← verifyCredential c (slice encoded 70 270) credentialVerifyingKey now
      if claims.networkId ≠ networkId ∨ claims.nodeId ≠ encodedNodeId ∨
          XsNexus.nodeId c claims.identityPublicKey ≠ encodedNodeId then
        none
      else
        let verifyingKey ← c.verifyingKeyFromBytes claims.identityPublicKey
        let signature ← field encoded 270 64
        if !c.verifyStrict verifyingKey (discoveryRequestDomain ++ encoded.take 270) signature then none
        else
          some {
            networkId := networkId
            nodeId := encodedNodeId
            identityPublicKey := claims.identityPublicKey
            credentialSerial := claims.serial
            requestId := requestId
            requestHash := c.sha256 encoded }

def validObservedEndpoint (endpoint : SocketAddr) : Bool :=
  if endpoint.port = 0 then false
  else
    match endpoint.ip with
    | .v4 address =>
      !address.isUnspecified && !address.isMulticast && decide (address ≠ Ipv4Addr.BROADCAST)
    | .v6 address => !address.isUnspecified && !address.isMulticast

/-- `encode_endpoint`, for an endpoint that is a valid observation -/
def encodeObservedEndpoint (endpoint : SocketAddr) : Block 24 :=
  match endpoint with
  | .v4 e => ⟨[4, 0, 0, 0] ++ e.ip.octets.val ++ (zeros 12).val ++ (u16ToBe e.port).val ++ [0, 0], by
      simp⟩
  | .v6 e => ⟨[6, 0, 0, 0] ++ beBytes 16 e.ip.bits.toNat ++ (u16ToBe e.port).val ++ [0, 0], by simp⟩

/-- `decode_endpoint` -/
def decodeObservedEndpoint (encoded : Block 24) : Option SocketAddr := do
  if slice encoded.val 1 4 ≠ (zeros 3).val ∨ slice encoded.val 22 24 ≠ (zeros 2).val then none
  else
    let port := u16FromBe (← field encoded.val 20 2)
    if encoded.val.head? = some 4 ∧ slice encoded.val 8 20 = (zeros 12).val then
      some (.v4 ⟨Ipv4Addr.fromOctets (← field encoded.val 4 4), port⟩)
    else if encoded.val.head? = some 6 then
      some (.v6 ⟨⟨BitVec.ofNat 128 (beNat (slice encoded.val 4 20))⟩, port, 0, 0⟩)
    else none

def discoveryResponse (c : Crypto) (request : VerifiedDiscoveryRequest) (observedEndpoint : SocketAddr)
    (serverTime : UInt64) (configurationSigningKey : SigningKey) : Option (Block 188) :=
  if serverTime = 0 ∨ !validObservedEndpoint observedEndpoint then none
  else
    let signed : Block 124 :=
      ⟨(encodeDiscoveryHeader 2 188).val ++ request.networkId.val ++ request.nodeId.val ++
        request.requestId.val ++ (u64ToBe serverTime).val ++
        (encodeObservedEndpoint observedEndpoint).val ++ request.requestHash.val, by simp⟩
    some ⟨signed.val ++ (c.sign configurationSigningKey (discoveryResponseDomain ++ signed.val)).val,
      by simp⟩

def verifyDiscoveryResponse (c : Crypto) (encoded : Bytes) (request : DiscoveryRequest)
    (configurationVerifyingKey : VerifyingKey) (now : UInt64) : Option VerifiedDiscoveryResponse := do
  if !validDiscoveryHeader encoded 2 discoveryResponseLength then none
  else
    let networkId ← field encoded 12 16
    let encodedNodeId ← field encoded 28 16
    let requestId ← field encoded 44 16
    let serverTime := u64FromBe (← field encoded 60 8)
    let observedEndpoint ← decodeObservedEndpoint (← field encoded 68 24)
    let requestHash ← field encoded 92 32
    if networkId ≠ request.networkId ∨ encodedNodeId ≠ request.nodeId ∨
        requestId ≠ request.requestId ∨ requestHash ≠ c.sha256 request.encoded.val ∨
        !timeIsFresh serverTime now ∨ !validObservedEndpoint observedEndpoint then
      none
    else
      let signature ← field encoded 124 64
      if !c.verifyStrict configurationVerifyingKey (discoveryResponseDomain ++ encoded.take 124)
          signature then
        none
      else some ⟨observedEndpoint, serverTime⟩

def candidateLifetime : Int := minutes 10

def candidateRefreshInterval : Int := minutes 4

def maxLocalCandidates : Nat := 12

def maxAdvertisedCandidates : Nat := 16

structure CandidateManager where
  networkId : Uuid
  nodeIdBase64 : String
  nodeId : Block 16
  credential : Block 200
  configurationVerifyingKey : VerifyingKey
  identity : SigningKey
  generation : UInt64
  localEndpoints : List (EndpointCandidateKind × SocketAddr)
  mapped : Map SocketAddr Int
  pending : Map SocketAddr DiscoveryRequest
  nextRefresh : Int
  dirty : Bool

inductive AddressAttribute
  | localAddress (address : IpAddr)
  | address (address : IpAddr)
  | other
deriving DecidableEq

/-- An address of an interface, as Netlink lists it. -/
structure AddressMessage where
  index : UInt32
  attributes : List AddressAttribute
deriving DecidableEq

/-- The order of `SocketAddr`, as the derived order on its fields -/
def SocketAddr.orderKey : SocketAddr → List Nat
  | v4 e => [0, e.ip.bits.toNat, e.port.toNat]
  | v6 e => [1, e.ip.bits.toNat, e.port.toNat, e.flowinfo.toNat, e.scopeId.toNat]

def candidateRank : EndpointCandidateKind → Nat
  | .localAddress => 0
  | .publicIpv6 => 1
  | .mapped => 2
  | .static => 3
  | .relay => 4

def candidateKey (candidate : EndpointCandidateKind × SocketAddr) : List Nat :=
  candidateRank candidate.1 :: candidate.2.orderKey

def sortCandidates (candidates : List (EndpointCandidateKind × SocketAddr)) :
    List (EndpointCandidateKind × SocketAddr) :=
  candidates.insertionSort fun left right => candidateKey left ≤ candidateKey right

def localCandidate (address : IpAddr) (interfaceIndex : UInt32) (port : UInt16) (virtualIp : Ipv4Addr) :
    Option (EndpointCandidateKind × SocketAddr) :=
  match address with
  | .v4 address =>
    if !address.isUnspecified ∧ !address.isLoopback ∧ !address.isMulticast ∧
        address ≠ Ipv4Addr.BROADCAST ∧ address ≠ virtualIp then
      some (.localAddress, .v4 ⟨address, port⟩)
    else none
  | .v6 address =>
    if !address.isUnspecified ∧ !address.isLoopback ∧ !address.isMulticast then
      let scopeId := if address.isUnicastLinkLocal then interfaceIndex else 0
      let kind :=
        if address.isUniqueLocal ∨ address.isUnicastLinkLocal then EndpointCandidateKind.localAddress
        else .publicIpv6
      some (kind, .v6 ⟨address, port, 0, scopeId⟩)
    else none

def AddressMessage.address? (message : AddressMessage) : Option IpAddr :=
  (message.attributes.findSome? fun
    | .localAddress address => some address
    | _ => none).or
  (message.attributes.findSome? fun
    | .address address => some address
    | _ => none)

def collectLocalEndpoints (messages : List AddressMessage) (port : UInt16) (virtualIp : Ipv4Addr) :
    List (EndpointCandidateKind × SocketAddr) :=
  let endpoints := messages.filterMap fun message =>
    message.address?.bind fun address => localCandidate address message.index port virtualIp
  (sortCandidates endpoints.dedup).take maxLocalCandidates

/-- `enumerate` with the priorities -/
def numberCandidates (expiresAt : Int) (candidates : List (EndpointCandidateKind × SocketAddr)) :
    List EndpointCandidate :=
  candidates.zipIdx.map fun ((kind, endpoint), index) =>
    { kind := kind
      endpoint := endpoint
      priority := UInt32.ofNat (10000 - index)
      expiresAt := expiresAt }

def prioritizeCandidates (localEndpoints : List (EndpointCandidateKind × SocketAddr))
    (mapped : List SocketAddr) (expiresAt : Int) : List EndpointCandidate :=
  let raw := localEndpoints ++ mapped.map fun endpoint => (EndpointCandidateKind.mapped, endpoint)
  numberCandidates expiresAt
    ((Checks.distinctBy Prod.snd [] (sortCandidates raw)).take maxAdvertisedCandidates)

/-- `retain` -/
def retainMapped (mapped : Map SocketAddr Int) (now : Int) : Map SocketAddr Int :=
  eraseAll mapped ((mapped.entries.filter fun entry => ¬entry.2 > now).map Sigma.fst)

/-- What one pass of the loop over the discovery endpoints reads. -/
structure DiscoveryReads where
  requestId : Option (Block 16)
  utcNow : Int
  sent : Bool

namespace CandidateManager

def new (c : Crypto) (f : Formats) (state : NodeState) (identity : SigningKey) (instantNow : Int) :
    Except AgentError CandidateManager := do
  let keyBytes ← decodeFixed f 32 state.configurationSigningPublicKeyBase64
  match c.verifyingKeyFromBytes keyBytes with
  | none => .error .controllerTrust
  | some configurationVerifyingKey =>
    let nodeId ← decodeFixed f 16 state.nodeIdBase64
    let credential ← decodeFixed f 200 state.credentialBase64
    .ok {
      networkId := state.networkId
      nodeIdBase64 := state.nodeIdBase64
      nodeId := nodeId
      credential := credential
      configurationVerifyingKey := configurationVerifyingKey
      identity := identity
      generation := state.candidateGeneration
      localEndpoints := []
      mapped := ∅
      pending := ∅
      nextRefresh := instantNow
      dirty := true }

def forceRefresh (manager : CandidateManager) (instantNow : Int) : CandidateManager :=
  { manager with nextRefresh := instantNow }

/-- The loop over the discovery endpoints -/
def sendRequests (c : Crypto) (manager : CandidateManager) :
    List (SocketAddr × DiscoveryReads) → Except AgentError Unit × CandidateManager
  | [] => (.ok (), manager)
  | (endpoint, reads) :: rest =>
    match reads.requestId, unixTimestamp reads.utcNow with
    | some requestId, some clientTime =>
      match DiscoveryRequest.new c manager.networkId manager.nodeId requestId clientTime
          manager.credential manager.identity with
      | none => (.error .dataPlane, manager)
      | some request =>
        let manager := if reads.sent then
          { manager with pending := manager.pending.insert (normalizeEndpoint endpoint) request }
        else manager
        sendRequests c manager rest
    | _, _ => (.error .dataPlane, manager)

/-- `none` for a port or addresses stands for a failed call. -/
def refresh (c : Crypto) (manager : CandidateManager) (port : Option UInt16)
    (messages : Option (List AddressMessage)) (state : NodeState) (utcNow : Int)
    (reads : Nat → DiscoveryReads) (instantNow : Int) : Except AgentError Unit × CandidateManager :=
  match port, messages with
  | some port, some messages =>
    let manager := { manager with
      localEndpoints := collectLocalEndpoints messages port state.virtualIp
      mapped := retainMapped manager.mapped utcNow
      pending := ∅ }
    let targets := state.configurationPayload.discoveryEndpoints.take maxDiscoveryEndpoints
    match sendRequests c manager (targets.zipIdx.map fun (endpoint, index) => (endpoint, reads index)) with
    | (.error e, manager) => (.error e, manager)
    | (.ok (), manager) =>
      (.ok (), { manager with nextRefresh := instantNow + candidateRefreshInterval, dirty := true })
  | _, _ => (.error .network, manager)

def handlesDiscoveryResponse (datagram : Bytes) : Bool :=
  decide (datagram.length = discoveryResponseLength) && decide (datagram.take 4 = discoveryMagic)

def handleDiscoveryResponse (c : Crypto) (manager : CandidateManager) (source : SocketAddr)
    (datagram : Bytes) (utcNow : Int) : Bool × CandidateManager :=
  let source := normalizeEndpoint source
  match manager.pending.lookup source with
  | none => (false, manager)
  | some request =>
    match (unixTimestamp utcNow).bind
        (verifyDiscoveryResponse c datagram request manager.configurationVerifyingKey) with
    | none => (false, manager)
    | some response =>
      (true, { manager with
        pending := manager.pending.erase source
        mapped := manager.mapped.insert (normalizeEndpoint response.observedEndpoint)
          (utcNow + candidateLifetime)
        dirty := true })

/-- `u64::try_from(now.timestamp_millis()).unwrap_or(1).max(1)` -/
def clockGeneration (now : Int) : UInt64 :=
  let millis := now / 10 ^ 6
  if 0 ≤ millis ∧ millis < 2 ^ 64 then max (UInt64.ofNat millis.toNat) 1 else 1

def takeAdvertisement (manager : CandidateManager) (now : Int) :
    Option CandidateAdvertisement × CandidateManager :=
  if !manager.dirty then (none, manager)
  else
    let mapped := retainMapped manager.mapped now
    let expiresAt := now + candidateLifetime
    let candidates := prioritizeCandidates manager.localEndpoints mapped.keys expiresAt
    let generation := max (MachineWords.u64SaturatingAdd manager.generation 1) (clockGeneration now)
    (some {
      schemaVersion := 1
      networkId := manager.networkId
      nodeIdBase64 := manager.nodeIdBase64
      generation := generation
      generatedAt := now
      expiresAt := expiresAt
      candidates := candidates },
      { manager with mapped := mapped, generation := generation, dirty := false })

end CandidateManager

/-- The managers that come of the state of a node. -/
inductive ReachableCandidates (c : Crypto) (f : Formats) (state : NodeState) : CandidateManager → Prop
  | new {identity : SigningKey} {instantNow : Int} {manager : CandidateManager}
      (hs : CandidateManager.new c f state identity instantNow = .ok manager) :
      ReachableCandidates c f state manager
  | forceRefresh {manager : CandidateManager} (h : ReachableCandidates c f state manager)
      (instantNow : Int) : ReachableCandidates c f state (manager.forceRefresh instantNow)
  | refresh {manager : CandidateManager} (h : ReachableCandidates c f state manager)
      (port : Option UInt16) (messages : Option (List AddressMessage)) (current : NodeState)
      (utcNow : Int) (reads : Nat → DiscoveryReads) (instantNow : Int) :
      ReachableCandidates c f state
        (manager.refresh c port messages current utcNow reads instantNow).2
  | handleDiscoveryResponse {manager : CandidateManager} (h : ReachableCandidates c f state manager)
      (source : SocketAddr) (datagram : Bytes) (utcNow : Int) :
      ReachableCandidates c f state (manager.handleDiscoveryResponse c source datagram utcNow).2
  | takeAdvertisement {manager : CandidateManager} (h : ReachableCandidates c f state manager)
      (now : Int) : ReachableCandidates c f state (manager.takeAdvertisement now).2

end XsNexus
