import XsNexus.Acl
import XsNexus.Credential

namespace XsNexus

open ByteCodec MachineWords

/-- `b"XSP/1 role set v1"` -/
def roleSetDomain : Bytes := utf8 "XSP/1 role set v1"

/-- `b"XS Nexus configuration v1"` -/
def configurationDomain : Bytes := utf8 "XS Nexus configuration v1"

def maxConfigurationBytes : Nat := 256 * 1024

def maxConfigurationNodes : Nat := 65535

def maxDirectEndpointsPerNode : Nat := 8

def maxDiscoveryEndpoints : Nat := 8

def maxCandidatesPerNode : Nat := 16

def maxConfiguredRelays : Nat := 16

def validRoleTag (tag : String) : Bool :=
  let bytes := utf8 tag
  if bytes = [] ∨ bytes.length > 63 ∨ !bytes.head?.any isAsciiLowercase then false
  else
    bytes.all fun byte => isAsciiLowercase byte || isAsciiDigit byte || decide (byte ∈ utf8 "-_.:/")

def roleSetDigest (c : Crypto) (roleBitmap : UInt32) (tags : List String) : Option (Block 32) :=
  if tags.length > 32 then none
  else
    let ordered := (tags.map utf8).insertionSort (fun left right => ¬right < left)
    if (ordered.zip ordered.tail).any fun (left, right) => left = right then none
    else if !tags.all validRoleTag then none
    else
      some (c.sha256 (roleSetDomain ++ (u32ToBe roleBitmap).val ++
        (u16ToBe (UInt16.ofNat ordered.length)).val ++
        ordered.flatMap fun tag => (u16ToBe (UInt16.ofNat tag.length)).val ++ tag))

def decodeBounded (f : Formats) (encoded : String) (maximum : Nat) : Except AgentError Bytes :=
  if utf8 encoded = [] ∨
      (utf8 encoded).length > usizeSaturatingAdd (usizeSaturatingMul maximum 2) 16 then
    .error .controllerTrust
  else
    match f.base64Decode encoded with
    | none => .error .controllerTrust
    | some decoded =>
      if decoded.length > maximum ∨ f.base64Encode decoded ≠ encoded then .error .controllerTrust
      else .ok decoded

def decodeFixed (f : Formats) (n : Nat) (encoded : String) : Except AgentError (Block n) := do
  let decoded ← decodeBounded f encoded n
  match array n decoded with
  | none => .error .controllerTrust
  | some block => .ok block

def verifyingKey (c : Crypto) (f : Formats) (encoded : String) : Except AgentError VerifyingKey := do
  let bytes ← decodeFixed f 32 encoded
  match c.verifyingKeyFromBytes bytes with
  | none => .error .controllerTrust
  | some key => .ok key

def publicIpv6 (address : Ipv6Addr) : Bool := !address.isUniqueLocal && !address.isUnicastLinkLocal

def validServiceEndpoint (endpoint : SocketAddr) : Bool :=
  if endpoint.port = 0 then false
  else
    match endpoint with
    | .v4 e => !e.ip.isUnspecified && !e.ip.isMulticast && decide (e.ip ≠ Ipv4Addr.BROADCAST)
    | .v6 e =>
      decide (e.flowinfo = 0) && !e.ip.isUnspecified && !e.ip.isMulticast &&
        (!e.ip.isUnicastLinkLocal || decide (e.scopeId ≠ 0)) &&
        (e.ip.isUnicastLinkLocal || decide (e.scopeId = 0))

def validCandidate (candidate : EndpointCandidate) : Bool :=
  if !validServiceEndpoint candidate.endpoint then false
  else
    match candidate.endpoint with
    | .v4 e => !e.ip.isLoopback && decide (candidate.kind ≠ .publicIpv6)
    | .v6 e =>
      if e.ip.isLoopback then false
      else
        match candidate.kind with
        | .publicIpv6 => publicIpv6 e.ip && decide (e.scopeId = 0)
        | .localAddress | .mapped | .static | .relay => true

/-- No pair of neighbours with `pair[0].priority <= pair[1].priority`. -/
def prioritiesDecrease (candidates : List EndpointCandidate) : Bool :=
  !(candidates.zip candidates.tail).any fun (left, right) => left.priority ≤ right.priority

def checkDiscoveryEndpoint (unique : List SocketAddr) (endpoint : SocketAddr) :
    Except AgentError (List SocketAddr) :=
  if !validServiceEndpoint endpoint ∨ endpoint ∈ unique then .error .controllerTrust
  else .ok (endpoint :: unique)

def validateDiscoveryEndpoints (endpoints : List SocketAddr) : Except AgentError Unit := do
  let _ ← endpoints.foldlM checkDiscoveryEndpoint []
  .ok ()

/-- The variables of the loop of `validate_relays`. -/
structure RelayChecks where
  relayIds : List (Block 16)
  endpoints : List SocketAddr
  publicKeys : List (Block 32)
  previous : Option (UInt32 × String)

def checkRelay (c : Crypto) (f : Formats) (payload : ConfigurationPayload) (seen : RelayChecks)
    (relay : ConfigurationRelay) : Except AgentError RelayChecks := do
  let relayId ← decodeFixed f 16 relay.relayIdBase64
  let publicKey ← decodeFixed f 32 relay.identityPublicKeyBase64
  if relayId = zeros 16 ∨ c.verifyingKeyFromBytes publicKey = none ∨ relay.priority = 0 ∨
      relay.expiresAt ≤ payload.generatedAt ∨ !validServiceEndpoint relay.endpoint ∨
      relay.endpoint ∈ payload.discoveryEndpoints ∨ relayId ∈ seen.relayIds ∨
      relay.endpoint ∈ seen.endpoints ∨ publicKey ∈ seen.publicKeys then
    .error .controllerTrust
  else if seen.previous.any fun (priority, relayIdBase64) => priority < relay.priority ∨
      (priority = relay.priority ∧ ¬strLt relayIdBase64 relay.relayIdBase64) then
    .error .controllerTrust
  else
    .ok {
      relayIds := relayId :: seen.relayIds
      endpoints := relay.endpoint :: seen.endpoints
      publicKeys := publicKey :: seen.publicKeys
      previous := some (relay.priority, relay.relayIdBase64) }

def validateRelays (c : Crypto) (f : Formats) (payload : ConfigurationPayload) :
    Except AgentError (List SocketAddr) := do
  let seen ← payload.relays.foldlM (checkRelay c f payload) ⟨[], [], [], none⟩
  .ok seen.endpoints

/-- One direct endpoint of a node; `seen` holds the endpoints of this node and those of all nodes. -/
def checkDirectEndpoint (relayEndpoints : List SocketAddr) (seen : List SocketAddr × List SocketAddr)
    (encoded : String) : Except AgentError (List SocketAddr × List SocketAddr) :=
  match parseSocketAddrV4 encoded with
  | none => .error .controllerTrust
  | some endpoint =>
    if endpoint.port = 0 ∨ endpoint.ip.isUnspecified ∨ endpoint.ip.isMulticast ∨
        endpoint.ip = Ipv4Addr.BROADCAST ∨ .v4 endpoint ∈ relayEndpoints ∨
        .v4 endpoint ∈ seen.1 ∨ .v4 endpoint ∈ seen.2 then
      .error .controllerTrust
    else .ok (.v4 endpoint :: seen.1, .v4 endpoint :: seen.2)

/-- One candidate of a node; `seen` holds the candidate endpoints of this node and the endpoints of
all nodes. -/
def checkCandidate (generatedAt : Int) (relayEndpoints nodeDirectEndpoints : List SocketAddr)
    (seen : List SocketAddr × List SocketAddr) (candidate : EndpointCandidate) :
    Except AgentError (List SocketAddr × List SocketAddr) :=
  if candidate.priority = 0 ∨ candidate.expiresAt ≤ generatedAt ∨ !validCandidate candidate ∨
      candidate.endpoint ∈ relayEndpoints ∨ candidate.endpoint ∈ seen.1 ∨
      (candidate.endpoint ∉ nodeDirectEndpoints ∧ candidate.endpoint ∈ seen.2) then
    .error .controllerTrust
  else
    .ok (candidate.endpoint :: seen.1,
      if candidate.endpoint ∈ nodeDirectEndpoints then seen.2 else candidate.endpoint :: seen.2)

/-- The two inner loops of `validate_configuration`, from the endpoints of the nodes before. -/
def checkNodeEndpoints (generatedAt : Int) (relayEndpoints directEndpoints : List SocketAddr)
    (node : ConfigurationNode) : Except AgentError (List SocketAddr) := do
  let direct ← node.directEndpoints.foldlM (checkDirectEndpoint relayEndpoints) ([], directEndpoints)
  let all ←
    node.candidates.foldlM (checkCandidate generatedAt relayEndpoints direct.1) ([], direct.2)
  .ok all.2

/-- The variables of the loop over the nodes of `validate_configuration`. -/
structure NodeChecks where
  nodeIds : List (Block 16)
  publicKeys : List (Block 32)
  virtualIps : List Ipv4Addr
  directEndpoints : List SocketAddr
  localMatch : Bool

/-- The local node as its credential describes it. -/
structure LocalNode where
  nodeId : Block 16
  publicKey : Block 32
  virtualIp : Ipv4Addr
  credentialSerial : UInt64

def checkNode (c : Crypto) (f : Formats) (addressPool : Ipv4Net) (generatedAt : Int)
    (relayEndpoints : List SocketAddr) (localNode : LocalNode) (seen : NodeChecks)
    (node : ConfigurationNode) : Except AgentError NodeChecks := do
  let decodedId ← decodeFixed f 16 node.nodeIdBase64
  let publicKey ← decodeFixed f 32 node.identityPublicKeyBase64
  match parseIpv4Addr node.virtualIp with
  | none => .error .controllerTrust
  | some assignedIp =>
    if node.directEndpoints.length > maxDirectEndpointsPerNode ∨
        node.candidates.length > maxCandidatesPerNode ∨ !prioritiesDecrease node.candidates ∨
        decodedId ≠ nodeId c publicKey ∨ !addressPool.contains assignedIp ∨
        roleSetDigest c node.roleBitmap node.tags = none ∨ decodedId ∈ seen.nodeIds ∨
        publicKey ∈ seen.publicKeys ∨ assignedIp ∈ seen.virtualIps then
      .error .controllerTrust
    else do
      let directEndpoints ← checkNodeEndpoints generatedAt relayEndpoints seen.directEndpoints node
      .ok {
        nodeIds := decodedId :: seen.nodeIds
        publicKeys := publicKey :: seen.publicKeys
        virtualIps := assignedIp :: seen.virtualIps
        directEndpoints := directEndpoints
        localMatch :=
          if decodedId = localNode.nodeId then
            decide (publicKey = localNode.publicKey ∧ assignedIp = localNode.virtualIp ∧
              node.credentialSerial = localNode.credentialSerial)
          else seen.localMatch }

def decodeSignedConfiguration (c : Crypto) (f : Formats) (configuration : SignedConfiguration)
    (key : VerifyingKey) : Except AgentError (ConfigurationPayload × Bytes) :=
  if configuration.version = 0 ∨ configuration.signerKeyId ≠ controllerKeyId c key then
    .error .controllerTrust
  else do
    let payloadBytes ← decodeBounded f configuration.payloadBase64 maxConfigurationBytes
    let signature ← decodeFixed f 64 configuration.signatureBase64
    if !c.verifyStrict key (configurationDomain ++ payloadBytes) signature then
      .error .controllerTrust
    else
      match f.configurationPayload payloadBytes with
      | none => .error .controllerTrust
      | some payload => .ok (payload, payloadBytes)

def validateConfiguration (c : Crypto) (f : Formats) (configuration : SignedConfiguration)
    (key : VerifyingKey) (networkId : Block 16) (localNode : LocalNode) :
    Except AgentError (ConfigurationPayload × String) := do
  let decoded ← decodeSignedConfiguration c f configuration key
  let payload := decoded.1
  match f.ipv4Net payload.addressPool with
  | none => .error .controllerTrust
  | some addressPool =>
    if payload.schemaVersion ≠ 1 ∨ payload.networkId ≠ networkId ∨
        payload.version ≠ configuration.version ∨ payload.policyVersion > payload.version ∨
        ¬(8 ≤ addressPool.prefixLen ∧ addressPool.prefixLen ≤ 30) ∨
        !addressPool.contains localNode.virtualIp ∨
        payload.discoveryEndpoints.length > maxDiscoveryEndpoints ∨
        payload.nodes.length > maxConfigurationNodes ∨
        payload.relays.length > maxConfiguredRelays ∨ payload.policies.length > 4096 then
      .error .controllerTrust
    else do
      validateDiscoveryEndpoints payload.discoveryEndpoints
      let relayEndpoints ← validateRelays c f payload
      let seen ← payload.nodes.foldlM
        (checkNode c f addressPool payload.generatedAt relayEndpoints localNode)
        ⟨[], [], [], [], false⟩
      if !seen.localMatch then .error .controllerTrust
      else do
        let _ ← (AclPolicy.compile f payload).mapError fun _ => AgentError.controllerTrust
        .ok (payload, hex (c.sha256 decoded.2).val)

structure EnrollResponse where
  networkId : Block 16
  nodeIdBase64 : String
  virtualIp : String
  credentialBase64 : String
  credentialKeyId : UInt32
  credentialSigningPublicKeyBase64 : String
  configurationSigningPublicKeyBase64 : String
  configuration : SignedConfiguration
deriving DecidableEq

structure NodeState where
  schemaVersion : UInt8
  controllerUrl : String
  networkId : Block 16
  nodeIdBase64 : String
  virtualIp : Ipv4Addr
  credentialBase64 : String
  credentialKeyId : UInt32
  credentialSigningPublicKeyBase64 : String
  configurationSigningPublicKeyBase64 : String
  configuration : SignedConfiguration
  configurationPayload : ConfigurationPayload
  configurationSha256 : String
  credentialSerial : UInt64
  candidateGeneration : UInt64
  subnetRouteGeneration : UInt64
deriving DecidableEq

/-- `u64::try_from(Utc::now().timestamp())` -/
def unixTimestamp (utcNow : Int) : Option UInt64 :=
  let seconds := utcNow / 10 ^ 9
  if 0 ≤ seconds ∧ seconds < 2 ^ 64 then some (UInt64.ofNat seconds.toNat) else none

namespace NodeState

/-- The credential with its checks against the signing key and the time. -/
def verifiedClaims (c : Crypto) (credential : Bytes) (credentialKey : VerifyingKey) (utcNow : Int)
    (noTime : AgentError) : Except AgentError VerifiedCredential :=
  match unixTimestamp utcNow with
  | none => .error noTime
  | some now =>
    match verifyCredential c credential credentialKey now with
    | none => .error .controllerTrust
    | some claims => .ok claims

def fromEnrollment (c : Crypto) (f : Formats) (response : EnrollResponse) (identity : SigningKey)
    (controllerUrl : String) (utcNow : Int) : Except AgentError NodeState := do
  let credentialKey ← verifyingKey c f response.credentialSigningPublicKeyBase64
  let configurationKey ← verifyingKey c f response.configurationSigningPublicKeyBase64
  if credentialKey = configurationKey then .error .controllerTrust
  else do
    let credential ← decodeBounded f response.credentialBase64 200
    if credential.length ≠ 200 then .error .controllerTrust
    else do
      let claims ← verifiedClaims c credential credentialKey utcNow .controllerTrust
      let localPublicKey := (c.verifyingKey identity).bytes
      let localNodeId := nodeId c localPublicKey
      let encodedNodeId ← decodeFixed f 16 response.nodeIdBase64
      match parseIpv4Addr response.virtualIp with
      | none => .error .controllerTrust
      | some virtualIp =>
        if claims.networkId ≠ response.networkId ∨ claims.identityPublicKey ≠ localPublicKey ∨
            claims.nodeId ≠ localNodeId ∨ encodedNodeId ≠ localNodeId ∨
            claims.virtualIpv4 ≠ virtualIp ∨ claims.controllerKeyId ≠ response.credentialKeyId then
          .error .controllerTrust
        else do
          let validated ← validateConfiguration c f response.configuration configurationKey
            response.networkId ⟨localNodeId, localPublicKey, virtualIp, claims.serial⟩
          .ok {
            schemaVersion := 1
            controllerUrl := controllerUrl
            networkId := response.networkId
            nodeIdBase64 := response.nodeIdBase64
            virtualIp := virtualIp
            credentialBase64 := response.credentialBase64
            credentialKeyId := response.credentialKeyId
            credentialSigningPublicKeyBase64 := response.credentialSigningPublicKeyBase64
            configurationSigningPublicKeyBase64 := response.configurationSigningPublicKeyBase64
            configuration := response.configuration
            configurationPayload := validated.1
            configurationSha256 := validated.2
            credentialSerial := claims.serial
            candidateGeneration := 0
            subnetRouteGeneration := 0 }

def validate (c : Crypto) (f : Formats) (state : NodeState) (identity : SigningKey)
    (controllerUrl : String) (utcNow : Int) : Except AgentError Unit :=
  if state.schemaVersion ≠ 1 ∨ state.controllerUrl ≠ controllerUrl then .error .state
  else do
    let credentialKey ← verifyingKey c f state.credentialSigningPublicKeyBase64
    let configurationKey ← verifyingKey c f state.configurationSigningPublicKeyBase64
    if credentialKey = configurationKey then .error .controllerTrust
    else do
      let credential ← decodeBounded f state.credentialBase64 200
      let claims ← verifiedClaims c credential credentialKey utcNow .state
      let localPublicKey := (c.verifyingKey identity).bytes
      let localNodeId := nodeId c localPublicKey
      if claims.networkId ≠ state.networkId ∨ claims.nodeId ≠ localNodeId ∨
          claims.identityPublicKey ≠ localPublicKey ∨ claims.virtualIpv4 ≠ state.virtualIp ∨
          claims.serial ≠ state.credentialSerial ∨
          claims.controllerKeyId ≠ state.credentialKeyId then
        .error .controllerTrust
      else do
        let encodedNodeId ← decodeFixed f 16 state.nodeIdBase64
        if encodedNodeId ≠ localNodeId then .error .controllerTrust
        else do
          let validated ← validateConfiguration c f state.configuration configurationKey
            state.networkId ⟨localNodeId, localPublicKey, state.virtualIp, state.credentialSerial⟩
          if validated.1 ≠ state.configurationPayload ∨ validated.2 ≠ state.configurationSha256 then
            .error .controllerTrust
          else .ok ()

/-- A configuration with the checks of `validate_configuration` for this node. -/
def validateUpdate (c : Crypto) (f : Formats) (state : NodeState) (configuration : SignedConfiguration)
    (identity : SigningKey) : Except AgentError (ConfigurationPayload × String) := do
  let configurationKey ← verifyingKey c f state.configurationSigningPublicKeyBase64
  let localPublicKey := (c.verifyingKey identity).bytes
  validateConfiguration c f configuration configurationKey state.networkId
    ⟨nodeId c localPublicKey, localPublicKey, state.virtualIp, state.credentialSerial⟩

def applyConfiguration (c : Crypto) (f : Formats) (state : NodeState)
    (configuration : SignedConfiguration) (identity : SigningKey) :
    Except AgentError Bool × NodeState :=
  match state.validateUpdate c f configuration identity with
  | .error e => (.error e, state)
  | .ok (payload, hash) =>
    if configuration.version < state.configuration.version ∨
        (configuration.version = state.configuration.version ∧
          (configuration ≠ state.configuration ∨ hash ≠ state.configurationSha256)) then
      (.error .controllerTrust, state)
    else if configuration.version = state.configuration.version then (.ok false, state)
    else
      (.ok true, { state with
        configuration := configuration
        configurationPayload := payload
        configurationSha256 := hash })

end NodeState

end XsNexus
