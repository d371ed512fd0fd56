import XsNexus.CandidateDiscovery
import XsNexus.PeerDirectory
import XsNexus.PeerUpkeep
import XsNexus.RelayUpkeep

namespace XsNexus

open ByteCodec Checks FiniteMap MachineWords

structure TelemetryCounters where
  txBytes : UInt64
  rxBytes : UInt64
  handshakeAttempts : UInt64
  handshakeSuccesses : UInt64
  latencySamples : UInt64
  latencyMicroseconds : UInt64
deriving DecidableEq

def TelemetryCounters.zero : TelemetryCounters := ⟨0, 0, 0, 0, 0, 0⟩

def TelemetryCounters.addPeer (counters : TelemetryCounters) (peer : Peer) : TelemetryCounters where
  txBytes := u64SaturatingAdd counters.txBytes peer.txBytesTotal
  rxBytes := u64SaturatingAdd counters.rxBytes peer.rxBytesTotal
  handshakeAttempts := u64SaturatingAdd counters.handshakeAttempts peer.handshakeAttemptsTotal
  handshakeSuccesses := u64SaturatingAdd counters.handshakeSuccesses peer.handshakeSuccessesTotal
  latencySamples := u64SaturatingAdd counters.latencySamples peer.latencySamplesTotal
  latencyMicroseconds :=
    u64SaturatingAdd counters.latencyMicroseconds peer.latencyMicrosecondsTotal

structure Ipv4Flow where
  source : Ipv4Addr
  destination : Ipv4Addr
  protocol : AclProtocol
  destinationPort : Option UInt16
deriving DecidableEq

def flowProtocol (byte : UInt8) : Option AclProtocol :=
  if byte = 1 then some .icmp else if byte = 6 then some .tcp else if byte = 17 then some .udp else none

/-- The port of a transport header; a protocol without ports has none. -/
def flowDestinationPort (protocol : AclProtocol) (transport : Bytes) : Option (Option UInt16) :=
  if protocol = .tcp ∨ protocol = .udp then
    if transport.length < 4 then none
    else (field transport 2 2).map fun port => some (u16FromBe port)
  else some none

def ipv4Flow (packet : Bytes) : Option Ipv4Flow := do
  let first : UInt8 ← packet[0]?
  if packet.length < 20 ∨ first >>> 4 ≠ 4 then none
  else
    let headerLength := (first &&& 0x0f).toNat * 4
    if headerLength < 20 ∨ packet.length < headerLength then none
    else
      let totalLength := (u16FromBe (← field packet 2 2)).toNat
      let fragment := u16FromBe (← field packet 6 2)
      if totalLength < headerLength ∨ totalLength > packet.length ∨ fragment &&& 0x3fff ≠ 0 then none
      else
        let protocol ← flowProtocol (← packet[9]?)
        let destinationPort ← flowDestinationPort protocol (slice packet headerLength totalLength)
        some {
          source := Ipv4Addr.fromOctets (← field packet 12 4)
          destination := Ipv4Addr.fromOctets (← field packet 16 4)
          protocol := protocol
          destinationPort := destinationPort }

/-- The sessions of one Agent, without its socket, its candidate manager and the status it publishes. -/
structure UdpDataPlane where
  material : LocalMaterial
  peersByVirtualIp : Map Ipv4Addr Peer
  peerByEndpoint : Map SocketAddr Ipv4Addr
  peerByNodeId : Map (Block 16) Ipv4Addr
  relayManager : RelayManager
  aclPolicy : AclPolicy
  subnetRoutes : SubnetRoutePolicy
  localNodeIdBase64 : String
  retiredTelemetry : TelemetryCounters
  configurationVersion : UInt64
  policyVersion : UInt64

/-- What a call comes back with: its result, what it handed to the socket and the data plane after
it. -/
structure Outcome (ε α : Type) where
  result : Except ε α
  sent : List (SocketAddr × Bytes)
  dataPlane : UdpDataPlane

/-- What sending one datagram reads of the clocks and hears from the socket. -/
structure SendReads where
  unixTime : Option UInt64
  utcNow : Int
  socketSends : Bool
deriving DecidableEq

/-- The readings of the clocks one call of `apply_configuration` takes. -/
structure ConfigurationReads where
  relayInstant : Nat
  relayUtc : Int
  directoryInstant : Nat
  directoryUtc : Int
  instant : Nat
  failoverInstant : Nat
deriving DecidableEq

structure ForwardReads where
  routeUtc : Int
  instant : Nat
  hello : HelloReads
  send : SendReads
deriving DecidableEq

structure ReceiveReads where
  instant : Nat
  unixTime : Option UInt64
  datagram : DatagramReads
  sends : Nat → SendReads

/-- `refresh` is how the candidate manager's own maintenance ends. -/
structure UpkeepReads where
  pruneUtc : Int
  instant : Nat
  unixTime : Option UInt64
  relays : SocketAddr → RelayReads
  failoverInstant : Nat
  peers : Ipv4Addr → MaintainReads
  sends : Nat → SendReads
  refresh : Except AgentError Unit

structure InboundPeer where
  virtualIp : Ipv4Addr
  sourceIsKnown : Bool
  throughRelay : Bool
  relayPayload : Option Bytes
deriving DecidableEq

def PeerState.isClientHandshake : PeerState → Bool
  | clientHello _ => true
  | clientFinish _ => true
  | _ => false

def Peer.countReceived (peer : Peer) (plaintext : Bytes) : Peer :=
  { peer with
    rxPacketsTotal := u64SaturatingAdd peer.rxPacketsTotal 1
    rxBytesTotal :=
      u64SaturatingAdd peer.rxBytesTotal ((u64TryFrom plaintext.length).getD u64Max) }

/-- `fail_relay_path`, over all peers. -/
def failRelayPath (peers : Map Ipv4Addr Peer) (failedEndpoint : SocketAddr) (now : Nat) :
    Map Ipv4Addr Peer :=
  mapWithKey (fun _ peer => peer.failRelayPath failedEndpoint now) peers

def failRelayPaths (peers : Map Ipv4Addr Peer) (failedEndpoints : List SocketAddr) (now : Nat) :
    Map Ipv4Addr Peer :=
  failedEndpoints.foldl (fun peers endpoint => failRelayPath peers endpoint now) peers

/-- The endpoints a peer is known by, each once: its direct candidates and its active path. -/
def indexedEndpoints (relayManager : RelayManager) (peer : Peer) : List SocketAddr :=
  distinctBy id [] (((peer.candidates.filter fun candidate => candidate.kind ≠ .relay).map
    EndpointCandidate.endpoint) ++
      (peer.activeEndpoint.filter fun endpoint => !relayManager.isRelay endpoint).toList)

def indexEndpoint (virtualIp : Ipv4Addr) (endpoints : Map SocketAddr Ipv4Addr)
    (endpoint : SocketAddr) : Except AgentError (Map SocketAddr Ipv4Addr) :=
  if endpoint ∈ endpoints then .error .dataPlane else .ok (endpoints.insert endpoint virtualIp)

/-- The body of the loop of `rebuild_endpoint_index`. -/
def indexPeer (relayManager : RelayManager)
    (index : Map SocketAddr Ipv4Addr × Map (Block 16) Ipv4Addr)
    (entry : Sigma fun _ : Ipv4Addr => Peer) :
    Except AgentError (Map SocketAddr Ipv4Addr × Map (Block 16) Ipv4Addr) :=
  if entry.2.nodeId ∈ index.2 then .error .dataPlane
  else do
    let endpoints ←
      (indexedEndpoints relayManager entry.2).foldlM (indexEndpoint entry.1) index.1
    .ok (endpoints, index.2.insert entry.2.nodeId entry.1)

namespace UdpDataPlane

def bind (c : Crypto) (f : Formats) (state : NodeState) (identity : SigningKey) (now : Nat)
    (utcNow : Int) : Except AgentError UdpDataPlane := do
  let parts ← bindDataPlane c f state identity now utcNow
  .ok {
    material := parts.material
    peersByVirtualIp := parts.directory.peers
    peerByEndpoint := parts.directory.endpoints
    peerByNodeId := parts.directory.nodeIds
    relayManager := parts.relayManager
    aclPolicy := parts.aclPolicy
    subnetRoutes := parts.subnetRoutes
    localNodeIdBase64 := state.nodeIdBase64
    retiredTelemetry := .zero
    configurationVersion := state.configuration.version
    policyVersion := state.configurationPayload.policyVersion }

def putPeer (dp : UdpDataPlane) (virtualIp : Ipv4Addr) (peer : Peer) : UdpDataPlane :=
  { dp with peersByVirtualIp := dp.peersByVirtualIp.insert virtualIp peer }

def rebuildEndpointIndex (dp : UdpDataPlane) : Except AgentError Unit × UdpDataPlane :=
  match dp.peersByVirtualIp.entries.foldlM (indexPeer dp.relayManager) (∅, ∅) with
  | .error e => (.error e, dp)
  | .ok (endpoints, nodeIds) =>
    (.ok (), { dp with peerByEndpoint := endpoints, peerByNodeId := nodeIds })

/-- The peer of a new directory, or the one in its place when its node is the same. -/
def adoptPeer (existing : Option Peer) (replacement : Peer) (policyChanged : Bool) (now : Nat) : Peer :=
  match existing with
  | none => replacement
  | some existing =>
    if existing.nodeId = replacement.nodeId then
      existing.applyConfiguration replacement.candidates policyChanged now
    else replacement

/-- The counters of the peers that are replaced, and then of those left out. -/
def retireTelemetry (dp : UdpDataPlane) (desired : Map Ipv4Addr Peer) : TelemetryCounters :=
  let replaced := desired.entries.filterMap fun entry =>
    (dp.peersByVirtualIp.lookup entry.1).filter fun existing => existing.nodeId ≠ entry.2.nodeId
  let dropped := (eraseAll dp.peersByVirtualIp desired.keys).entries.map Sigma.snd
  (replaced ++ dropped).foldl TelemetryCounters.addPeer dp.retiredTelemetry

/-- Each stage returns what the stages before it have changed. -/
def applyConfiguration (c : Crypto) (f : Formats) (dp : UdpDataPlane) (state : NodeState)
    (reads : ConfigurationReads) : Except AgentError Unit × UdpDataPlane :=
  match compileAcl f state with
  | .error e => (.error e, dp)
  | .ok aclPolicy =>
    match compileSubnetRoutes f state with
    | .error e => (.error e, dp)
    | .ok subnetRoutes =>
      let policyChanged := decide (state.configurationPayload.policyVersion ≠ dp.policyVersion)
      let (applied, relayManager) :=
        dp.relayManager.applyConfiguration c f state reads.relayInstant reads.relayUtc
      let dp := { dp with relayManager := relayManager }
      match applied with
      | .error e => (.error e, dp)
      | .ok failedRelays =>
        match buildPeerDirectory f state dp.material.nodeId relayManager.candidates
            reads.directoryInstant reads.directoryUtc with
        | .error e => (.error e, dp)
        | .ok directory =>
          let updated := mapWithKey (fun virtualIp replacement =>
            adoptPeer (dp.peersByVirtualIp.lookup virtualIp) replacement policyChanged reads.instant)
              directory.peers
          let dp := { dp with
            retiredTelemetry := dp.retireTelemetry directory.peers
            peersByVirtualIp := failRelayPaths updated failedRelays reads.failoverInstant }
          match dp.rebuildEndpointIndex with
          | (.error e, dp) => (.error e, dp)
          | (.ok (), dp) =>
            (.ok (), { dp with
              aclPolicy := aclPolicy
              subnetRoutes := subnetRoutes
              configurationVersion := state.configuration.version
              policyVersion := state.configurationPayload.policyVersion })

def sendXsp (dp : UdpDataPlane) (transmission : Transmission) (reads : SendReads) :
    Outcome AgentError Bool :=
  let (endpoint, destinationNodeId, encoded) := transmission
  if dp.relayManager.isRelay endpoint then
    match reads.unixTime with
    | none => ⟨.error .dataPlane, [], dp⟩
    | some unixTime =>
      let (wrapped, relayManager) :=
        dp.relayManager.wrap endpoint destinationNodeId encoded unixTime reads.utcNow
      let dp := { dp with relayManager := relayManager }
      match wrapped with
      | .error e => ⟨.error e, [], dp⟩
      | .ok none => ⟨.ok false, [], dp⟩
      | .ok (some envelope) => ⟨.ok reads.socketSends, [(endpoint, envelope)], dp⟩
  else ⟨.ok reads.socketSends, [(endpoint, encoded)], dp⟩

/-- One transmission after the other, up to the first that fails. -/
def sendAll (dp : UdpDataPlane) : List Transmission → (Nat → SendReads) → Outcome AgentError Unit
  | [], _ => ⟨.ok (), [], dp⟩
  | transmission :: transmissions, reads =>
    let first := dp.sendXsp transmission (reads 0)
    match first.result with
    | .error e => ⟨.error e, first.sent, first.dataPlane⟩
    | .ok _ =>
      let rest := first.dataPlane.sendAll transmissions fun index => reads (index + 1)
      ⟨rest.result, first.sent ++ rest.sent, rest.dataPlane⟩

/-- The peer a packet of the TUN goes to, and whether it is sent as routed. -/
def tunDestination (dp : UdpDataPlane) (flow : Ipv4Flow) (utcNow : Int) : Option (Ipv4Addr × Bool) :=
  if flow.destination ∈ dp.peersByVirtualIp then
    if flow.source ≠ dp.material.virtualIp ∧
        dp.subnetRoutes.localGatewayRoute dp.localNodeIdBase64 flow.source = none then
      none
    else some (flow.destination, decide (flow.source ≠ dp.material.virtualIp))
  else if flow.source ≠ dp.material.virtualIp then none
  else
    (dp.subnetRoutes.resolveDestination flow.destination utcNow).map fun route =>
      (route.gatewayVirtualIp, true)

def flowAllowed (dp : UdpDataPlane) (flow : Ipv4Flow) : Bool :=
  (dp.aclPolicy.evaluate flow.source flow.destination flow.protocol flow.destinationPort).allowed

/-- The result is true when the packet was dropped. -/
def forwardTun (c : Crypto) (dp : UdpDataPlane) (packet : Bytes) (reads : ForwardReads) :
    Outcome AgentError Bool :=
  if packet.length > maxEncryptedPayloadLength then ⟨.ok true, [], dp⟩
  else
    match ipv4Flow packet with
    | none => ⟨.ok true, [], dp⟩
    | some flow =>
      if !dp.flowAllowed flow then ⟨.ok true, [], dp⟩
      else
        match dp.tunDestination flow reads.routeUtc with
        | none => ⟨.ok true, [], dp⟩
        | some (destinationPeerIp, routedPacket) =>
          match dp.peersByVirtualIp.lookup destinationPeerIp with
          | none => ⟨.ok true, [], dp⟩
          | some peer =>
            let (outcome, peer) :=
              peer.forwardTun c dp.material packet routedPacket reads.instant reads.hello
            let dp := dp.putPeer destinationPeerIp peer
            match outcome with
            | .error e => ⟨.error e, [], dp⟩
            | .ok .dropped => ⟨.ok true, [], dp⟩
            | .ok .queued => ⟨.ok false, [], dp⟩
            | .ok (.sent establishedPath transmission) =>
              let sending := dp.sendXsp transmission reads.send
              ⟨sending.result.map fun sent => establishedPath && !sent, sending.sent,
                sending.dataPlane⟩

def rebindingPeer (dp : UdpDataPlane) (datagram : Bytes) : Option Ipv4Addr := do
  let header ← DataHeader.parse datagram
  if header.networkId ≠ dp.material.networkId ∨ header.destinationNodeId ≠ dp.material.nodeId then none
  else
    let virtualIp ← dp.peerByNodeId.lookup header.sourceNodeId
    let peer ← dp.peersByVirtualIp.lookup virtualIp
    match peer.state with
    | .established established =>
      if established.sessionId = header.sessionId then some virtualIp else none
    | _ => none

def resolveInboundPeer (c : Crypto) (dp : UdpDataPlane) (source : SocketAddr) (datagram : Bytes)
    (now : Nat) (unixNow : UInt64) : Option InboundPeer × UdpDataPlane :=
  let (inbound, relayManager) := dp.relayManager.handleDatagram c source datagram now unixNow
  let dp := { dp with relayManager := relayManager }
  match inbound with
  | .consumed => (none, dp)
  | .data sourceNodeId payload =>
    ((dp.peerByNodeId.lookup sourceNodeId).map fun virtualIp =>
      ⟨virtualIp, false, true, some payload⟩, dp)
  | .notRelay =>
    match dp.peerByEndpoint.lookup source with
    | some virtualIp => (some ⟨virtualIp, true, false, none⟩, dp)
    | none => ((dp.rebindingPeer datagram).map fun virtualIp => ⟨virtualIp, false, false, none⟩, dp)

/-- The filter of `receive` on what a peer sends to the TUN. -/
def admits (dp : UdpDataPlane) (peerIp : Ipv4Addr) (peerNodeIdBase64 : String) (plaintext : Bytes) :
    Bool :=
  (ipv4Flow plaintext).any fun flow =>
    let identityBound :=
      (decide (flow.source = peerIp) && (decide (flow.destination = dp.material.virtualIp) ||
        (dp.subnetRoutes.localGatewayRoute dp.localNodeIdBase64 flow.destination).isSome)) ||
      (decide (flow.destination = dp.material.virtualIp) &&
        dp.subnetRoutes.sourceOwnedByGateway flow.source peerNodeIdBase64)
    identityBound && dp.flowAllowed flow

def receive (c : Crypto) (dp : UdpDataPlane) (source : SocketAddr) (datagram : Bytes)
    (reads : ReceiveReads) : Outcome AgentError (Option Bytes) :=
  let source := normalizeEndpoint source
  if CandidateManager.handlesDiscoveryResponse datagram then ⟨.ok none, [], dp⟩
  else
    match reads.unixTime with
    | none => ⟨.error .dataPlane, [], dp⟩
    | some unixNow =>
      match dp.resolveInboundPeer c source datagram reads.instant unixNow with
      | (none, dp) => ⟨.ok none, [], dp⟩
      | (some inbound, dp) =>
        let packet := inbound.relayPayload.getD datagram
        match dp.peersByVirtualIp.lookup inbound.virtualIp with
        | none => ⟨.ok none, [], dp⟩
        | some peer =>
          let allowRoutedData :=
            dp.subnetRoutes.permitsRoutedSession dp.localNodeIdBase64 peer.nodeIdBase64
          let (result, peer) := peer.receive c dp.material source packet reads.instant
            allowRoutedData inbound.throughRelay reads.datagram
          let endpointIndexChanged := !inbound.throughRelay && !inbound.sourceIsKnown &&
            result.pathAuthenticated && decide (peer.activeEndpoint = some source)
          let plaintext :=
            result.plaintext.filter (dp.admits inbound.virtualIp peer.nodeIdBase64)
          let peer := plaintext.elim peer peer.countReceived
          let dp := dp.putPeer inbound.virtualIp peer
          let dp :=
            if inbound.throughRelay && result.pathAuthenticated then
              { dp with relayManager := dp.relayManager.authenticateActivity source reads.instant }
            else dp
          let sending := dp.sendAll
            (result.outbound.map fun outbound => (source, peer.nodeId, outbound)) reads.sends
          match sending.result with
          | .error e => ⟨.error e, sending.sent, sending.dataPlane⟩
          | .ok () =>
            if endpointIndexChanged then
              let rebuilt := sending.dataPlane.rebuildEndpointIndex
              ⟨rebuilt.1.map fun _ => plaintext, sending.sent, rebuilt.2⟩
            else ⟨.ok plaintext, sending.sent, sending.dataPlane⟩

def pruneExpiredCandidates (dp : UdpDataPlane) (now : Int) : Except AgentError Unit × UdpDataPlane :=
  rebuildEndpointIndex { dp with
    peersByVirtualIp := mapWithKey (fun _ peer => peer.pruneExpiredCandidates now)
      dp.peersByVirtualIp }

/-- The loop of `maintain` over the peers. -/
def maintainPeers (c : Crypto) (dp : UdpDataPlane) (now : Nat) (reads : Ipv4Addr → MaintainReads) :
    Except AgentError (List Transmission) × UdpDataPlane :=
  let active := (dp.peersByVirtualIp.entries.filter fun entry =>
    entry.2.state.isClientHandshake).length
  let visited := visit (fun virtualIp peer (progress : List Transmission × HandshakeCounters) =>
    match peer.maintain c dp.material now progress.2 (reads virtualIp) with
    | (.error e, peer) => (.error e, peer)
    | (.ok (transmissions, counters), peer) =>
      (.ok (progress.1 ++ transmissions, counters), peer)) dp.peersByVirtualIp ([], ⟨active, 0⟩)
  (visited.1.map Prod.fst, { dp with peersByVirtualIp := visited.2 })

def maintain (c : Crypto) (dp : UdpDataPlane) (reads : UpkeepReads) : Outcome AgentError Unit :=
  match dp.pruneExpiredCandidates reads.pruneUtc with
  | (.error e, dp) => ⟨.error e, [], dp⟩
  | (.ok (), dp) =>
    match reads.unixTime with
    | none => ⟨.error .dataPlane, [], dp⟩
    | some unixNow =>
      let (maintained, relayManager) :=
        dp.relayManager.maintain c reads.instant unixNow reads.relays
      let dp := { dp with relayManager := relayManager }
      match maintained with
      | .error e => ⟨.error e, [], dp⟩
      | .ok maintenance =>
        let dp := { dp with
          peersByVirtualIp :=
            failRelayPaths dp.peersByVirtualIp maintenance.failedEndpoints reads.failoverInstant }
        match dp.maintainPeers c reads.instant reads.peers with
        | (.error e, dp) => ⟨.error e, maintenance.outbound, dp⟩
        | (.ok retransmissions, dp) =>
          let sending := dp.sendAll retransmissions reads.sends
          match sending.result with
          | .error e => ⟨.error e, maintenance.outbound ++ sending.sent, sending.dataPlane⟩
          | .ok () => ⟨reads.refresh, maintenance.outbound ++ sending.sent, sending.dataPlane⟩

def startManualPathProbe (c : Crypto) (dp : UdpDataPlane) (virtualIp : Ipv4Addr) (now : Nat)
    (reads : ProbeReads) (send : SendReads) : Outcome Peer.ManualProbeError Unit :=
  match dp.peersByVirtualIp.lookup virtualIp with
  | none => ⟨.error .peerNotFound, [], dp⟩
  | some peer =>
    let (probe, peer) := peer.startManualPathProbe c now reads
    let dp := dp.putPeer virtualIp peer
    match probe with
    | .error e => ⟨.error e, [], dp⟩
    | .ok transmission =>
      let sending := dp.sendXsp transmission send
      match sending.result with
      | .error _ => ⟨.error .sendFailed, sending.sent, sending.dataPlane⟩
      | .ok true => ⟨.ok (), sending.sent, sending.dataPlane⟩
      | .ok false =>
        ⟨.error .sendFailed, sending.sent,
          sending.dataPlane.putPeer virtualIp peer.manualPathProbeUnsent⟩

end UdpDataPlane

end XsNexus
