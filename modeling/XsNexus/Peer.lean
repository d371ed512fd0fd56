import XsNexus.Clock
import XsNexus.Handshake

namespace XsNexus

open ByteCodec MachineWords

inductive AgentError
  | configuration | state | enrollment | controllerTrust | control | network | dataPlane | ipc
  | runtime | update | unsupportedPlatform
deriving DecidableEq

inductive EndpointCandidateKind
  | localAddress | publicIpv6 | mapped | static | relay
deriving DecidableEq

/-- `expiresAt` is a UTC time in nanoseconds. -/
structure EndpointCandidate where
  kind : EndpointCandidateKind
  endpoint : SocketAddr
  priority : UInt32
  expiresAt : Int
deriving DecidableEq

inductive PathSelectionReason
  | highestPriority | handshakeFallback | relayFallback | relayFailover | authenticatedHandshake
  | authenticatedPeerTraffic | authenticatedPathProbe | configurationUpdate
deriving DecidableEq

def maxQueuedPacketsPerPeer : Nat := 32

def maxQueuedBytesPerPeer : Nat := 64 * 1024

def maxRecentClientHellos : Nat := 64

def clientHelloCacheLifetime : Nat := durationFromSecs (5 * 60)

def handshakeRetryInterval : Nat := durationFromMillis 300

def handshakeMaxAttempts : UInt8 := 6

def maxHandshakeCandidatesPerCycle : Nat := 8

def handshakeBackoffBase : Nat := durationFromSecs 1

def handshakeBackoffMax : Nat := durationFromSecs 60

def keyUpdateRetryInterval : Nat := durationFromMillis 300

def keyUpdateMaxAttempts : UInt8 := 6

def pathProbeRetryInterval : Nat := durationFromMillis 300

def pathProbeMaxAttempts : UInt8 := 4

def manualPathProbeCooldown : Nat := durationFromSecs 1

def pathProbeCooldown : Nat := durationFromSecs 30

def latencyProbeInterval : Nat := durationFromSecs 30

def keyUpdatePacketLimit : UInt64 := (1 : UInt64) <<< (20 : UInt64)

def keyUpdateInterval : Nat := durationFromSecs 3600

def previousEpochRetention : Nat := durationFromSecs 30

def keepaliveInterval : Nat := durationFromSecs 15

structure LocalMaterial where
  networkId : Block 16
  nodeId : Block 16
  virtualIp : Ipv4Addr
  credential : Block 200
  controllerVerifyingKey : VerifyingKey
  identity : SigningKey
deriving DecidableEq

structure RetryState where
  encoded : Bytes
  lastSent : Nat
  attempts : UInt8
  interval : Nat
  maxAttempts : UInt8
deriving DecidableEq

inductive RetryAction
  | wait
  | send (encoded : Bytes)
  | expired
deriving DecidableEq

namespace RetryState

def new (encoded : Bytes) (now interval : Nat) (maxAttempts : UInt8) : RetryState where
  encoded := encoded
  lastSent := now
  attempts := 1
  interval := interval
  maxAttempts := maxAttempts

def handshake (encoded : Bytes) (now : Nat) : RetryState :=
  new encoded now handshakeRetryInterval handshakeMaxAttempts

def keyUpdate (encoded : Bytes) (now : Nat) : RetryState :=
  new encoded now keyUpdateRetryInterval keyUpdateMaxAttempts

def pathProbe (encoded : Bytes) (now : Nat) : RetryState :=
  new encoded now pathProbeRetryInterval pathProbeMaxAttempts

def poll (r : RetryState) (now : Nat) : RetryAction × RetryState :=
  if saturatingDurationSince now r.lastSent < r.interval then (.wait, r)
  else if r.attempts ≥ r.maxAttempts then (.expired, r)
  else (.send r.encoded, { r with attempts := u8SaturatingAdd r.attempts 1, lastSent := now })

end RetryState

structure ClientHelloPending where
  machine : ClientHelloSent
  retry : RetryState
deriving DecidableEq

structure ClientFinishPending where
  machine : ClientFinishSent
  retry : RetryState
deriving DecidableEq

structure ServerHelloPending where
  machine : ServerHelloSent
  requestHash : Block 32
  retry : RetryState
deriving DecidableEq

structure PendingKeyUpdate where
  nextEpoch : UInt32
  retry : RetryState
deriving DecidableEq

structure EstablishedPeer where
  sessionId : Block 16
  sender : DataSender
  receiver : DataReceiver
  sentPacketsInEpoch : UInt64
  epochStartedAt : Nat
  outboundKeyUpdate : Option PendingKeyUpdate
  previousEpochInstalledAt : Option Nat
  lastKeepaliveAt : Nat
deriving DecidableEq

inductive PeerState
  | idle
  | clientHello (pending : ClientHelloPending)
  | clientFinish (pending : ClientFinishPending)
  | serverHello (pending : ServerHelloPending)
  | established (peer : EstablishedPeer)
deriving DecidableEq

def PeerState.isEstablished : PeerState → Bool
  | established _ => true
  | _ => false

def PeerState.isIdle : PeerState → Bool
  | idle => true
  | _ => false

structure PendingPathProbe where
  endpoint : SocketAddr
  pathId : UInt32
  token : Block 8
  promotesPath : Bool
  retry : RetryState
deriving DecidableEq

structure QueuedPacket where
  encoded : Bytes
  routed : Bool
deriving DecidableEq

structure Peer where
  nodeId : Block 16
  nodeIdBase64 : String
  virtualIp : Ipv4Addr
  candidates : List EndpointCandidate
  activeEndpoint : Option SocketAddr
  pathReason : Option PathSelectionReason
  state : PeerState
  queuedPackets : List QueuedPacket
  queuedBytes : Nat
  recentClientHellos : List (Block 32 × Nat)
  pendingPathProbe : Option PendingPathProbe
  pathProbeRetryAfter : Nat
  nextLatencyProbeAt : Nat
  nextProactiveHandshakeAt : Nat
  handshakeFailures : UInt8
  handshakeCandidateAttempts : Nat
  txPacketsTotal : UInt64
  txBytesTotal : UInt64
  rxPacketsTotal : UInt64
  rxBytesTotal : UInt64
  handshakeAttemptsTotal : UInt64
  handshakeSuccessesTotal : UInt64
  latencySamplesTotal : UInt64
  latencyMicrosecondsTotal : UInt64
  lastLatencyMicroseconds : Option UInt64
deriving DecidableEq

def context (material : LocalMaterial) (peer : Peer) : HandshakeContext where
  networkId := material.networkId
  localNodeId := material.nodeId
  localVirtualIp := material.virtualIp
  peerNodeId := peer.nodeId
  peerVirtualIp := peer.virtualIp

namespace Peer

def clearQueue (peer : Peer) : Peer :=
  { peer with queuedPackets := [], queuedBytes := 0, state := .idle }

def rememberClientHello (peer : Peer) (requestHash : Block 32) (now : Nat) : Peer :=
  let kept :=
    if peer.recentClientHellos.length ≥ maxRecentClientHellos then peer.recentClientHellos.tail
    else peer.recentClientHellos
  { peer with recentClientHellos := kept ++ [(requestHash, now)] }

def pruneClientHelloCache (peer : Peer) (now : Nat) : Peer :=
  { peer with recentClientHellos := peer.recentClientHellos.dropWhile fun (_, seen) =>
      saturatingDurationSince now seen ≥ clientHelloCacheLifetime }

def queuePacket (peer : Peer) (packet : Bytes) (routed : Bool) : Bool × Peer :=
  if peer.queuedPackets.length ≥ maxQueuedPacketsPerPeer ∨
      usizeSaturatingAdd peer.queuedBytes packet.length > maxQueuedBytesPerPeer then
    (false, peer)
  else
    (true, { peer with
      queuedBytes := usizeSaturatingAdd peer.queuedBytes packet.length
      queuedPackets := peer.queuedPackets ++ [⟨packet, routed⟩] })

def hasEndpoint (peer : Peer) (endpoint : SocketAddr) : Bool :=
  peer.candidates.any fun candidate => candidate.endpoint = endpoint

def firstEndpoint (peer : Peer) : Option SocketAddr :=
  peer.candidates.head?.map EndpointCandidate.endpoint

def priorityOf (peer : Peer) (endpoint : SocketAddr) : Option UInt32 :=
  (peer.candidates.find? fun candidate => candidate.endpoint = endpoint).map
    EndpointCandidate.priority

def promotePath (peer : Peer) (endpoint : SocketAddr) (reason : PathSelectionReason) : Peer :=
  { peer with activeEndpoint := some endpoint, pathReason := some reason, pendingPathProbe := none }

def authenticatedHandshakeReason (peer : Peer) (source : SocketAddr) : PathSelectionReason :=
  if peer.pathReason = some .handshakeFallback then .handshakeFallback
  else
    let sourcePriority := peer.priorityOf source
    let activePriority := peer.activeEndpoint.bind peer.priorityOf
    let lower : Bool := match sourcePriority, activePriority with
      | some source, some active => decide (source < active)
      | _, _ => false
    if peer.handshakeCandidateAttempts > 0 ∧ lower then .handshakeFallback
    else .authenticatedHandshake

def classifyAuthenticatedRelayPath (currentReason : Option PathSelectionReason)
    (activeEndpoint : Option SocketAddr) (source : SocketAddr) (activeIsRelay : Bool) :
    PathSelectionReason :=
  if currentReason = some .relayFailover ∨
      (activeIsRelay ∧ activeEndpoint.any fun active => active ≠ source) then
    .relayFailover
  else .relayFallback

def authenticatedPathReason (peer : Peer) (source : SocketAddr)
    (handshakePacket throughRelay : Bool) : PathSelectionReason :=
  if throughRelay then
    let activeIsRelay := peer.activeEndpoint.any fun active =>
      peer.candidates.any fun candidate => candidate.endpoint = active ∧ candidate.kind = .relay
    classifyAuthenticatedRelayPath peer.pathReason peer.activeEndpoint source activeIsRelay
  else if handshakePacket then peer.authenticatedHandshakeReason source
  else .authenticatedPeerTraffic

def awaitingPathResponse (peer : Peer) (source : SocketAddr) (handshakePacket : Bool) : Bool :=
  !handshakePacket && peer.pendingPathProbe.any fun pending => pending.endpoint = source

end Peer

end XsNexus
