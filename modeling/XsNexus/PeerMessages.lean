import XsNexus.Peer

namespace XsNexus

open ByteCodec MachineWords

/-- What the processing of one datagram reads of the random generator and of the clocks. -/
structure DatagramReads where
  ephemeralPrivateKey : Option (Block 32)
  serverNonce : Option (Block 32)
  sessionId : Option (Block 16)
  serverTime : Option UInt64
  unixTime : Option UInt64
  instant : Nat
deriving DecidableEq

structure ProcessResult where
  outbound : List Bytes
  plaintext : Option Bytes
  pathAuthenticated : Bool
deriving DecidableEq

def ProcessResult.empty : ProcessResult := ⟨[], none, false⟩

def handleKeyUpdate (c : Crypto) (established : EstablishedPeer) (opened : OpenedPacket)
    (instant : Nat) : Option Bytes × EstablishedPeer :=
  match verifyKeyUpdatePayload c opened.plaintext established.sessionId opened.keyEpoch with
  | none => (none, established)
  | some nextEpoch =>
    let currentEpoch := established.receiver.currentEpoch
    let acknowledge (established : EstablishedPeer) : Option Bytes × EstablishedPeer :=
      let (encoded, sender) :=
        established.sender.sealControl c .keyUpdateAck .control 0 opened.plaintext
      (encoded, { established with sender := sender })
    if u32CheckedAdd currentEpoch 1 = some nextEpoch then
      match established.receiver.installNextEpoch c nextEpoch with
      | (none, receiver) => (none, { established with receiver := receiver })
      | (some (), receiver) =>
        acknowledge { established with
          receiver := receiver, previousEpochInstalledAt := some instant }
    else if currentEpoch ≠ nextEpoch ∨ u32CheckedAdd opened.keyEpoch 1 ≠ some currentEpoch then
      (none, established)
    else acknowledge established

def handleKeyUpdateAck (c : Crypto) (established : EstablishedPeer) (opened : OpenedPacket)
    (instant : Nat) : EstablishedPeer :=
  match established.outboundKeyUpdate with
  | none => established
  | some pending =>
    let currentEpoch := established.sender.currentEpoch
    match verifyKeyUpdatePayload c opened.plaintext established.sessionId currentEpoch with
    | none => established
    | some nextEpoch =>
      if nextEpoch ≠ pending.nextEpoch then established
      else
        match established.sender.rotateEpoch c nextEpoch with
        | (none, sender) => { established with sender := sender }
        | (some (), sender) =>
          { established with
            sender := sender
            sentPacketsInEpoch := 0
            epochStartedAt := instant
            outboundKeyUpdate := none }

/-- The packets of the queue, sealed one after the other; what cannot be sealed is left out. -/
def sealQueued (c : Crypto) : List QueuedPacket → DataSender → List Bytes × DataSender
  | [], sender => ([], sender)
  | packet :: packets, sender =>
    let (encoded, sender) :=
      if packet.routed then sender.sealRoutedIpv4 c .ackEliciting 0 packet.encoded
      else sender.sealIpv4 c .ackEliciting 0 packet.encoded
    let (outbound, sender) := sealQueued c packets sender
    (encoded.toList ++ outbound, sender)

def openDatagram (c : Crypto) (receiver : DataReceiver) (datagram : Bytes) (allowRoutedData : Bool) :
    Option OpenedPacket × DataReceiver :=
  match receiver.openPacket c datagram with
  | (some opened, receiver) => (some opened, receiver)
  | (none, receiver) =>
    if allowRoutedData ∧ datagram[5]? = some PacketType.data.toByte then
      receiver.openRouted c datagram
    else (none, receiver)

namespace Peer

def installSession (c : Crypto) (peer : Peer) (session : EstablishedSession) (instant : Nat) :
    List Bytes × Peer :=
  match session.intoDataPlane c with
  | none => ([], { peer.clearQueue with state := .idle })
  | some (sender, receiver) =>
    let (outbound, sender) := sealQueued c peer.queuedPackets sender
    (outbound, { peer with
      queuedPackets := []
      queuedBytes := 0
      handshakeFailures := 0
      handshakeCandidateAttempts := 0
      handshakeSuccessesTotal := u64SaturatingAdd peer.handshakeSuccessesTotal 1
      nextProactiveHandshakeAt := instant
      state := .established {
        sessionId := session.sessionId
        sender := sender
        receiver := receiver
        sentPacketsInEpoch := 0
        epochStartedAt := instant
        outboundKeyUpdate := none
        previousEpochInstalledAt := none
        lastKeepaliveAt := instant } })

/-- The cached `ServerHello` of the request with the given hash. -/
def cachedServerHello (peer : Peer) (requestHash : Block 32) : Option Bytes :=
  match peer.state with
  | .serverHello pending =>
    if pending.requestHash = requestHash then some pending.retry.encoded else none
  | _ => none

def initiates (peer : Peer) : Bool :=
  match peer.state with
  | .clientHello _ | .clientFinish _ => true
  | _ => false

def acceptClientHello (c : Crypto) (material : LocalMaterial) (peer : Peer) (datagram : Bytes)
    (reads : DatagramReads) : Option ServerHelloSent := do
  let parameters : ServerHandshakeParameters := {
    context := context material peer
    credential := material.credential
    ephemeralPrivateKey := ⟨← reads.ephemeralPrivateKey⟩
    serverNonce := ← reads.serverNonce
    sessionId := ← reads.sessionId
    serverTime := ← reads.serverTime }
  let now ← reads.unixTime
  ServerHelloSent.accept c datagram parameters material.identity material.controllerVerifyingKey now

def startServerHandshake (peer : Peer) (machine : ServerHelloSent) (requestHash : Block 32)
    (now : Nat) : Peer :=
  let peer := { peer with
    handshakeAttemptsTotal := u64SaturatingAdd peer.handshakeAttemptsTotal 1 }
  let peer := peer.rememberClientHello requestHash now
  { peer with
    state := .serverHello {
      machine := machine
      requestHash := requestHash
      retry := .handshake machine.encoded now } }

def handleClientHello (c : Crypto) (material : LocalMaterial) (peer : Peer) (datagram : Bytes)
    (now : Nat) (reads : DatagramReads) : ProcessResult × Peer :=
  let requestHash := c.sha256 datagram
  match peer.cachedServerHello requestHash with
  | some encoded => (⟨[encoded], none, true⟩, peer)
  | none =>
    let peer := peer.pruneClientHelloCache now
    if peer.recentClientHellos.any fun (known, _) => known = requestHash then (.empty, peer)
    else if peer.initiates ∧ material.nodeId.val < peer.nodeId.val then (.empty, peer)
    else
      match peer.acceptClientHello c material datagram reads with
      | none => (.empty, peer)
      | some machine =>
        (⟨[machine.encoded], none, true⟩, peer.startServerHandshake machine requestHash now)

/-- The state is taken out of the peer before the datagram is checked: only the branches that put
one back keep it. -/
def handleServerHello (c : Crypto) (material : LocalMaterial) (peer : Peer) (datagram : Bytes)
    (now : Nat) (reads : DatagramReads) : ProcessResult × Peer :=
  match peer.state with
  | .clientFinish pending => (⟨[pending.retry.encoded], none, true⟩, peer)
  | .clientHello pending =>
    match reads.unixTime with
    | none => (.empty, { peer with state := .idle })
    | some unixTime =>
      match pending.machine.acceptServerHello c datagram material.controllerVerifyingKey unixTime with
      | none => (.empty, peer.clearQueue)
      | some machine =>
        (⟨[machine.encoded], none, true⟩, { peer with
          state := .clientFinish { machine := machine, retry := .handshake machine.encoded now } })
  | _ => (.empty, peer)

def handleClientFinish (c : Crypto) (peer : Peer) (datagram : Bytes) (instant : Nat) :
    ProcessResult × Peer :=
  match peer.state with
  | .serverHello pending =>
    match pending.machine.acceptClientFinish c datagram with
    | none => (.empty, peer.clearQueue)
    | some (session, serverFinish) =>
      let (outbound, peer) := { peer with state := .idle }.installSession c session instant
      (⟨serverFinish :: outbound, none, true⟩, peer)
  | _ => (.empty, peer)

def handleServerFinish (c : Crypto) (peer : Peer) (datagram : Bytes) (instant : Nat) :
    ProcessResult × Peer :=
  match peer.state with
  | .clientFinish pending =>
    match pending.machine.acceptServerFinish c datagram with
    | none => (.empty, peer.clearQueue)
    | some session =>
      let (outbound, peer) := { peer with state := .idle }.installSession c session instant
      (⟨outbound, none, true⟩, peer)
  | _ => (.empty, peer)

/-- A response is answered to the probe that is pending: same endpoint, path and token. -/
def matchingProbe (peer : Peer) (source : SocketAddr) (opened : OpenedPacket) :
    Option PendingPathProbe :=
  peer.pendingPathProbe.filter fun pending =>
    pending.endpoint = source ∧ pending.pathId = opened.pathId ∧ pending.token.val = opened.plaintext

def completePathProbe (peer : Peer) (pending : PendingPathProbe) (source : SocketAddr) (now : Nat) :
    Peer :=
  let latency := saturatingDurationSince now pending.retry.lastSent
  let latencyMicroseconds := (u64TryFrom (latency / 1000)).getD u64Max
  let peer := { peer with
    pendingPathProbe := none
    lastLatencyMicroseconds := some latencyMicroseconds
    latencySamplesTotal := u64SaturatingAdd peer.latencySamplesTotal 1
    latencyMicrosecondsTotal := u64SaturatingAdd peer.latencyMicrosecondsTotal latencyMicroseconds
    nextLatencyProbeAt := now + latencyProbeInterval }
  if pending.promotesPath then peer.promotePath source .authenticatedPathProbe else peer

def handleData (c : Crypto) (peer : Peer) (source : SocketAddr) (datagram : Bytes) (now : Nat)
    (allowRoutedData : Bool) (instant : Nat) : ProcessResult × Peer :=
  match peer.state with
  | .established established =>
    let (result, receiver) := openDatagram c established.receiver datagram allowRoutedData
    let established := { established with receiver := receiver }
    match result with
    | none => (.empty, { peer with state := .established established })
    | some opened =>
      match opened.packetType with
      | .data =>
        (⟨[], some opened.plaintext, true⟩, { peer with state := .established established })
      | .keyUpdate =>
        let (outbound, established) := handleKeyUpdate c established opened instant
        (⟨outbound.toList, none, true⟩, { peer with state := .established established })
      | .keyUpdateAck =>
        (⟨[], none, true⟩, { peer with
          state := .established (handleKeyUpdateAck c established opened instant) })
      | .keepalive => (⟨[], none, true⟩, { peer with state := .established established })
      | .pathChallenge =>
        let (outbound, sender) :=
          established.sender.sealControl c .pathResponse .pathProbe opened.pathId opened.plaintext
        (⟨outbound.toList, none, false⟩, { peer with
          state := .established { established with sender := sender } })
      | .pathResponse =>
        let peer := { peer with state := .established established }
        match peer.matchingProbe source opened with
        | none => (.empty, peer)
        | some pending => (.empty, peer.completePathProbe pending source now)
      | .close => (.empty, { peer with state := .established established })
  | _ => (.empty, peer)

def processDatagram (c : Crypto) (material : LocalMaterial) (peer : Peer) (source : SocketAddr)
    (datagram : Bytes) (now : Nat) (allowRoutedData : Bool) (reads : DatagramReads) :
    ProcessResult × Peer :=
  match datagram[5]? with
  | none => (.empty, peer)
  | some value =>
    if value = clientHelloType then peer.handleClientHello c material datagram now reads
    else if value = serverHelloType then peer.handleServerHello c material datagram now reads
    else if value = clientFinishType then peer.handleClientFinish c datagram reads.instant
    else if value = serverFinishType then peer.handleServerFinish c datagram reads.instant
    else if (PacketType.tryFrom value).isSome then
      peer.handleData c source datagram now allowRoutedData reads.instant
    else (.empty, peer)

def isHandshakePacket (packet : Bytes) : Bool :=
  packet[5]?.any fun value => value = clientHelloType ∨ value = serverHelloType ∨
    value = clientFinishType ∨ value = serverFinishType

/-- What `receive` does with the peer of a packet, up to the choice of its active path. -/
def receive (c : Crypto) (material : LocalMaterial) (peer : Peer) (source : SocketAddr)
    (packet : Bytes) (now : Nat) (allowRoutedData throughRelay : Bool) (reads : DatagramReads) :
    ProcessResult × Peer :=
  let handshakePacket := isHandshakePacket packet
  let (result, peer) :=
    peer.processDatagram c material source packet now allowRoutedData reads
  let awaitingPathResponse := peer.awaitingPathResponse source handshakePacket
  let retainFallbackReason := !throughRelay && handshakePacket &&
    decide (peer.activeEndpoint = some source) && decide (peer.pathReason = some .handshakeFallback)
  if result.pathAuthenticated && !retainFallbackReason && !awaitingPathResponse &&
      (handshakePacket || decide (peer.activeEndpoint ≠ some source)) then
    let reason := peer.authenticatedPathReason source handshakePacket throughRelay
    (result, peer.promotePath source reason)
  else (result, peer)

end Peer

end XsNexus
