import XsNexus.RelayManager

namespace XsNexus

open ByteCodec Checks FiniteMap MachineWords

def maxConfiguredPeers : Nat := 1024

def maxRelayCandidatesPerPeer : Nat := 2

structure PeerDirectory where
  localEndpoint : SocketAddr
  peers : Map Ipv4Addr Peer
  endpoints : Map SocketAddr Ipv4Addr
  nodeIds : Map (Block 16) Ipv4Addr

def parseDirectEndpoint (encoded : String) : Except AgentError SocketAddr :=
  match parseSocketAddrV4 encoded with
  | none => .error .controllerTrust
  | some endpoint => .ok (.v4 endpoint)

/-- The signed candidates of a node that can be used at `utcNow`, each endpoint once. -/
def signedCandidates (node : ConfigurationNode) (utcNow : Int) : List EndpointCandidate :=
  let usable := node.candidates.filter fun candidate =>
    candidate.expiresAt > utcNow ∧ candidate.kind ≠ .relay
  distinctBy EndpointCandidate.endpoint [] (usable.map fun candidate =>
    { candidate with endpoint := normalizeEndpoint candidate.endpoint })

def staticCandidates (node : ConfigurationNode) (directEndpoints : List SocketAddr) :
    List EndpointCandidate :=
  (distinctBy id [] (directEndpoints.map normalizeEndpoint)).zipIdx.map fun (endpoint, index) => {
    kind := .static
    endpoint := endpoint
    priority := indexedPriority 10000 index
    expiresAt := node.credentialNotAfter }

def selectedCandidates (node : ConfigurationNode) (directEndpoints : List SocketAddr) (utcNow : Int) :
    List EndpointCandidate :=
  let signed := signedCandidates node utcNow
  if signed = [] then staticCandidates node directEndpoints else signed

/-- The candidates before the relays: sorted, cut off and numbered anew. -/
def directCandidates (node : ConfigurationNode) (directEndpoints : List SocketAddr)
    (directLimit : Nat) (utcNow : Int) : List EndpointCandidate :=
  let sorted := (selectedCandidates node directEndpoints utcNow).insertionSort fun left right =>
    left.priority ≥ right.priority
  (sorted.take directLimit).zipIdx.map fun (candidate, index) =>
    { candidate with priority := indexedPriority 20000 index }

def configuredCandidates (node : ConfigurationNode) (directEndpoints : List SocketAddr)
    (relayCandidates : List EndpointCandidate) (utcNow : Int) : List EndpointCandidate :=
  let relayLimit := min relayCandidates.length maxRelayCandidatesPerPeer
  let directLimit := maxHandshakeCandidatesPerCycle - relayLimit
  directCandidates node directEndpoints directLimit utcNow ++ relayCandidates.take relayLimit

def claimEndpoint (virtualIp : Ipv4Addr) (endpoints : Map SocketAddr Ipv4Addr)
    (candidate : EndpointCandidate) : Except AgentError (Map SocketAddr Ipv4Addr) :=
  if candidate.kind = .relay then .ok endpoints
  else if candidate.endpoint ∈ endpoints then .error .dataPlane
  else .ok (endpoints.insert candidate.endpoint virtualIp)

def newPeer (nodeId : Block 16) (nodeIdBase64 : String) (virtualIp : Ipv4Addr)
    (candidates : List EndpointCandidate) (now : Nat) : Peer :=
  let activeEndpoint := candidates.head?.map EndpointCandidate.endpoint
  { nodeId := nodeId
    nodeIdBase64 := nodeIdBase64
    virtualIp := virtualIp
    candidates := candidates
    activeEndpoint := activeEndpoint
    pathReason := activeEndpoint.map fun _ => .highestPriority
    state := .idle
    queuedPackets := []
    queuedBytes := 0
    recentClientHellos := []
    pendingPathProbe := none
    pathProbeRetryAfter := now
    nextLatencyProbeAt := now
    nextProactiveHandshakeAt := now
    handshakeFailures := 0
    handshakeCandidateAttempts := 0
    txPacketsTotal := 0
    txBytesTotal := 0
    rxPacketsTotal := 0
    rxBytesTotal := 0
    handshakeAttemptsTotal := 0
    handshakeSuccessesTotal := 0
    latencySamplesTotal := 0
    latencyMicrosecondsTotal := 0
    lastLatencyMicroseconds := none }

/-- The endpoint the local node is to bind: its first direct one, else a local or static candidate. -/
def localBindEndpoint (node : ConfigurationNode) (directEndpoints : List SocketAddr) (utcNow : Int) :
    Option SocketAddr :=
  directEndpoints.head?.or
    ((node.candidates.find? fun candidate => candidate.expiresAt > utcNow ∧
      (candidate.kind = .localAddress ∨ candidate.kind = .static)).map fun candidate =>
        normalizeEndpoint candidate.endpoint)

/-- The part of `build_peer_directory` for a node that is not the local one. -/
def enterPeer (directory : PeerDirectory) (node : ConfigurationNode) (nodeId : Block 16)
    (virtualIp : Ipv4Addr) (candidates : List EndpointCandidate) (now : Nat) :
    Except AgentError PeerDirectory :=
  if size directory.peers ≥ maxConfiguredPeers ∨ virtualIp ∈ directory.peers then .error .dataPlane
  else if nodeId ∈ directory.nodeIds then .error .dataPlane
  else do
    let endpoints ← candidates.foldlM (claimEndpoint virtualIp) directory.endpoints
    .ok { directory with
      peers := directory.peers.insert virtualIp
        (newPeer nodeId node.nodeIdBase64 virtualIp candidates now)
      endpoints := endpoints
      nodeIds := directory.nodeIds.insert nodeId virtualIp }

/-- The body of the loop of `build_peer_directory`. -/
def addNode (f : Formats) (localNodeId : Block 16) (relayCandidates : List EndpointCandidate)
    (now : Nat) (utcNow : Int) (directory : PeerDirectory) (node : ConfigurationNode) :
    Except AgentError PeerDirectory := do
  let nodeId ← decodeFixed f 16 node.nodeIdBase64
  match parseIpv4Addr node.virtualIp with
  | none => .error .controllerTrust
  | some virtualIp => do
    let directEndpoints ← node.directEndpoints.mapM parseDirectEndpoint
    if nodeId = localNodeId then
      .ok { directory with
        localEndpoint :=
          (localBindEndpoint node directEndpoints utcNow).getD directory.localEndpoint }
    else
      enterPeer directory node nodeId virtualIp
        (configuredCandidates node directEndpoints relayCandidates utcNow) now

def buildPeerDirectory (f : Formats) (state : NodeState) (localNodeId : Block 16)
    (relayCandidates : List EndpointCandidate) (now : Nat) (utcNow : Int) :
    Except AgentError PeerDirectory :=
  state.configurationPayload.nodes.foldlM (addNode f localNodeId relayCandidates now utcNow) {
    localEndpoint := .v4 ⟨Ipv4Addr.UNSPECIFIED, 0⟩
    peers := ∅
    endpoints := ∅
    nodeIds := ∅ }

/-- The `LocalMaterial` of `bind`. -/
def localMaterial (c : Crypto) (f : Formats) (state : NodeState) (identity : SigningKey) :
    Except AgentError LocalMaterial := do
  let localNodeId ← decodeFixed f 16 state.nodeIdBase64
  let credential ← decodeFixed f 200 state.credentialBase64
  let controllerVerifyingKey ← verifyingKey c f state.credentialSigningPublicKeyBase64
  .ok {
    networkId := state.networkId
    nodeId := localNodeId
    virtualIp := state.virtualIp
    credential := credential
    controllerVerifyingKey := controllerVerifyingKey
    identity := identity }

/-- What a data plane is made of, apart from its socket and its candidate manager. -/
structure DataPlaneParts where
  material : LocalMaterial
  relayManager : RelayManager
  directory : PeerDirectory
  aclPolicy : AclPolicy
  subnetRoutes : SubnetRoutePolicy

def compileAcl (f : Formats) (state : NodeState) : Except AgentError AclPolicy :=
  (AclPolicy.compile f state.configurationPayload).mapError fun _ => .controllerTrust

def compileSubnetRoutes (f : Formats) (state : NodeState) : Except AgentError SubnetRoutePolicy :=
  (SubnetRoutePolicy.compile f state.configurationPayload).mapError fun _ => .controllerTrust

/-- `UdpDataPlane::bind` -/
def bindDataPlane (c : Crypto) (f : Formats) (state : NodeState) (identity : SigningKey) (now : Nat)
    (utcNow : Int) : Except AgentError DataPlaneParts := do
  let material ← localMaterial c f state identity
  let relayManager ← RelayManager.new c f state material.networkId material.nodeId
    material.credential material.identity now utcNow
  let directory ←
    buildPeerDirectory f state material.nodeId relayManager.candidates now utcNow
  let aclPolicy ← compileAcl f state
  let subnetRoutes ← compileSubnetRoutes f state
  .ok ⟨material, relayManager, directory, aclPolicy, subnetRoutes⟩

/-- `UdpDataPlane::apply_configuration` up to the new directory, with the relays that failed. -/
def rebuildDataPlane (c : Crypto) (f : Formats) (state : NodeState) (running : DataPlaneParts)
    (now : Nat) (utcNow : Int) : Except AgentError (List SocketAddr × DataPlaneParts) := do
  let aclPolicy ← compileAcl f state
  let subnetRoutes ← compileSubnetRoutes f state
  let applied := running.relayManager.applyConfiguration c f state now utcNow
  let failedRelays ← applied.1
  let directory ←
    buildPeerDirectory f state running.material.nodeId applied.2.candidates now utcNow
  .ok (failedRelays, ⟨running.material, applied.2, directory, aclPolicy, subnetRoutes⟩)

end XsNexus
