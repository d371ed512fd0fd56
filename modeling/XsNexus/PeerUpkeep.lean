import XsNexus.PeerMessages

namespace XsNexus

open ByteCodec MachineWords

def maxConcurrentProactiveHandshakes : Nat := 32

def maxProactiveHandshakesPerTick : Nat := 8

/-- What the start of a handshake reads of the random generator and of the Unix clock. -/
structure HelloReads where
  ephemeralPrivateKey : Option (Block 32)
  clientNonce : Option (Block 32)
  messageId : Option (Block 4)
  clientTime : Option UInt64
deriving DecidableEq

structure ProbeReads where
  token : Option (Block 8)
  pathId : Option (Block 4)
deriving DecidableEq

structure MaintainReads where
  retry : HelloReads
  probe : ProbeReads
  proactive : HelloReads
deriving DecidableEq

/-- What one round of maintenance shares between the peers. -/
structure HandshakeCounters where
  activeClientHandshakes : Nat
  proactiveStarted : Nat
deriving DecidableEq

/-- A datagram on its way: endpoint, destination node and bytes. -/
abbrev Transmission := SocketAddr × Block 16 × Bytes

inductive ForwardOutcome
  | dropped
  | queued
  | sent (establishedPath : Bool) (transmission : Transmission)
deriving DecidableEq

theorem poll_encoded (retry : RetryState) (now : Nat) :
    (retry.poll now).2.encoded = retry.encoded ∧
      ∀ encoded, (retry.poll now).1 = .send encoded → encoded = retry.encoded := by
  unfold RetryState.poll
  split
  next => exact ⟨rfl, fun encoded h => by simp at h⟩
  next =>
    split
    next => exact ⟨rfl, fun encoded h => by simp at h⟩
    next => exact ⟨rfl, fun encoded h => (RetryAction.send.inj h).symm⟩

def maintainEstablished (c : Crypto) (established : EstablishedPeer) (now : Nat) :
    Except AgentError (Option Bytes) × EstablishedPeer :=
  let established :=
    if established.previousEpochInstalledAt.any fun installed =>
        saturatingDurationSince now installed ≥ previousEpochRetention then
      { established with
        receiver := established.receiver.retirePreviousEpoch
        previousEpochInstalledAt := none }
    else established
  match established.outboundKeyUpdate with
  | some pending =>
    match pending.retry.poll now with
    | (.wait, retry) =>
      (.ok none, { established with outboundKeyUpdate := some { pending with retry := retry } })
    | (.send encoded, retry) =>
      (.ok (some encoded),
        { established with outboundKeyUpdate := some { pending with retry := retry } })
    | (.expired, _) => (.ok none, { established with outboundKeyUpdate := none })
  | none =>
    if established.sentPacketsInEpoch ≥ keyUpdatePacketLimit ∨
        saturatingDurationSince now established.epochStartedAt ≥ keyUpdateInterval then
      let currentEpoch := established.sender.currentEpoch
      match u32CheckedAdd currentEpoch 1 with
      | none => (.error .dataPlane, established)
      | some nextEpoch =>
        match keyUpdatePayload c established.sessionId currentEpoch nextEpoch with
        | none => (.error .dataPlane, established)
        | some payload =>
          match established.sender.sealControl c .keyUpdate .control 0 payload.val with
          | (none, sender) => (.error .dataPlane, { established with sender := sender })
          | (some encoded, sender) =>
            (.ok (some encoded), { established with
              sender := sender
              outboundKeyUpdate := some ⟨nextEpoch, .keyUpdate encoded now⟩ })
    else if saturatingDurationSince now established.lastKeepaliveAt ≥ keepaliveInterval then
      match established.sender.sealControl c .keepalive .NONE 0 [] with
      | (none, sender) => (.error .dataPlane, { established with sender := sender })
      | (some encoded, sender) =>
        (.ok (some encoded), { established with sender := sender, lastKeepaliveAt := now })
    else (.ok none, established)

namespace Peer

/-- Every failure comes before the first change of the peer. -/
def beginClientHandshake (c : Crypto) (material : LocalMaterial) (peer : Peer) (now : Nat)
    (reads : HelloReads) : Except AgentError (Bytes × Peer) :=
  if peer.activeEndpoint = none ∨ peer.handshakeCandidateAttempts ≥ maxHandshakeCandidatesPerCycle then
    .error .dataPlane
  else
    let machine : Option ClientHelloSent := do
      let parameters : ClientHandshakeParameters := {
        context := context material peer
        credential := material.credential
        ephemeralPrivateKey := ⟨← reads.ephemeralPrivateKey⟩
        clientNonce := ← reads.clientNonce
        messageId := u32FromBe (← reads.messageId)
        clientTime := ← reads.clientTime }
      ClientHelloSent.start c parameters material.identity
    match machine with
    | none => .error .dataPlane
    | some machine =>
      .ok (machine.encoded, { peer with
        handshakeAttemptsTotal := u64SaturatingAdd peer.handshakeAttemptsTotal 1
        state := .clientHello { machine := machine, retry := .handshake machine.encoded now }
        handshakeCandidateAttempts := usizeSaturatingAdd peer.handshakeCandidateAttempts 1 })

def pollPeerRetry (peer : Peer) (now : Nat) : RetryAction × Peer :=
  match peer.state with
  | .clientHello pending =>
    match pending.retry.poll now with
    | (.expired, _) => (.expired, { peer with state := .idle })
    | (action, retry) => (action, { peer with state := .clientHello { pending with retry := retry } })
  | .clientFinish pending =>
    match pending.retry.poll now with
    | (.expired, _) => (.expired, { peer with state := .idle })
    | (action, retry) => (action, { peer with state := .clientFinish { pending with retry := retry } })
  | .serverHello pending =>
    match pending.retry.poll now with
    | (.expired, _) => (.wait, { peer with state := .idle })
    | (action, retry) => (action, { peer with state := .serverHello { pending with retry := retry } })
  | _ => (.wait, peer)

def advanceHandshakeCandidate (peer : Peer) : Bool × Peer :=
  if peer.handshakeCandidateAttempts ≥ maxHandshakeCandidatesPerCycle then (false, peer)
  else
    let next := (peer.activeEndpoint.bind fun active =>
      (peer.candidates.findIdx? fun candidate => candidate.endpoint = active).map
        fun index => usizeSaturatingAdd index 1).getD 0
    match peer.candidates[next]? with
    | none => (false, peer)
    | some candidate =>
      (true, { peer with
        activeEndpoint := some candidate.endpoint
        pathReason := some .handshakeFallback
        state := .idle
        pendingPathProbe := none })

def scheduleHandshakeRetry (peer : Peer) (now : Nat) : Peer :=
  let peer := peer.clearQueue
  let failures := u8SaturatingAdd peer.handshakeFailures 1
  let exponent := min (failures.toNat - 1) 6
  let delay := min (handshakeBackoffBase * 2 ^ exponent) handshakeBackoffMax
  { peer with
    handshakeCandidateAttempts := 0
    handshakeFailures := failures
    nextProactiveHandshakeAt := now + delay
    activeEndpoint := peer.firstEndpoint
    pathReason := peer.firstEndpoint.map fun _ => .highestPriority }

def bestProbeTarget (peer : Peer) : Option SocketAddr :=
  let activePriority := peer.activeEndpoint.bind peer.priorityOf
  (peer.candidates.find? fun candidate =>
    some candidate.endpoint ≠ peer.activeEndpoint ∧
      activePriority.all fun priority => candidate.priority > priority).map EndpointCandidate.endpoint

def createPathProbe (c : Crypto) (peer : Peer) (endpoint : SocketAddr) (now : Nat)
    (reads : ProbeReads) : Except AgentError Bytes × Peer :=
  match peer.state with
  | .established established =>
    match reads.token, reads.pathId with
    | some token, some encodedPathId =>
      let drawn := u32FromBe encodedPathId
      let pathId := if drawn = 0 then 1 else drawn
      match established.sender.sealControl c .pathChallenge .pathProbe pathId token.val with
      | (none, sender) =>
        (.error .dataPlane, { peer with state := .established { established with sender := sender } })
      | (some encoded, sender) =>
        (.ok encoded, { peer with
          state := .established { established with sender := sender }
          pendingPathProbe := some {
            endpoint := endpoint
            pathId := pathId
            token := token
            promotesPath := peer.activeEndpoint ≠ some endpoint
            retry := .pathProbe encoded now }
          nextLatencyProbeAt := now + latencyProbeInterval })
    | _, _ => (.error .dataPlane, peer)
  | _ => (.error .dataPlane, peer)

def maintainPathProbe (c : Crypto) (peer : Peer) (now : Nat) (reads : ProbeReads) :
    Except AgentError (Option (SocketAddr × Bytes)) × Peer :=
  if !peer.state.isEstablished then (.ok none, { peer with pendingPathProbe := none })
  else
    match peer.pendingPathProbe with
    | some pending =>
      match pending.retry.poll now with
      | (.wait, retry) =>
        (.ok none, { peer with pendingPathProbe := some { pending with retry := retry } })
      | (.send encoded, retry) =>
        (.ok (some (pending.endpoint, encoded)),
          { peer with pendingPathProbe := some { pending with retry := retry } })
      | (.expired, _) =>
        (.ok none, { peer with
          pendingPathProbe := none
          pathProbeRetryAfter := now + pathProbeCooldown
          nextLatencyProbeAt := now + latencyProbeInterval })
    | none =>
      if now < peer.pathProbeRetryAfter then (.ok none, peer)
      else
        let target := peer.bestProbeTarget.or
          (if peer.state.isEstablished ∧ now ≥ peer.nextLatencyProbeAt then peer.activeEndpoint else none)
        match target with
        | none => (.ok none, peer)
        | some endpoint =>
          let (encoded, peer) := peer.createPathProbe c endpoint now reads
          (encoded.map fun encoded => some (endpoint, encoded), peer)

/-- The retransmission of a pending handshake, or what follows when it has run out. -/
def maintainRetry (c : Crypto) (material : LocalMaterial) (peer : Peer) (now : Nat)
    (counters : HandshakeCounters) (reads : HelloReads) :
    Except AgentError (List Transmission × HandshakeCounters) × Peer :=
  match peer.pollPeerRetry now with
  | (.wait, peer) => (.ok ([], counters), peer)
  | (.send encoded, peer) =>
    (.ok ((peer.activeEndpoint.map fun endpoint => (endpoint, peer.nodeId, encoded)).toList, counters),
      peer)
  | (.expired, peer) =>
    match peer.advanceHandshakeCandidate with
    | (true, peer) =>
      match peer.activeEndpoint with
      | none => (.ok ([], counters), peer)
      | some endpoint =>
        match peer.beginClientHandshake c material now reads with
        | .error error => (.error error, peer)
        | .ok (encoded, peer) => (.ok ([(endpoint, peer.nodeId, encoded)], counters), peer)
    | (false, peer) =>
      (.ok ([], { counters with activeClientHandshakes := counters.activeClientHandshakes - 1 }),
        peer.scheduleHandshakeRetry now)

def maintainSession (c : Crypto) (peer : Peer) (now : Nat) :
    Except AgentError (List Transmission) × Peer :=
  match peer.state with
  | .established established =>
    let (encoded, established) := maintainEstablished c established now
    let peer := { peer with state := .established established }
    (encoded.map fun encoded => match encoded, peer.activeEndpoint with
      | some encoded, some endpoint => [(endpoint, peer.nodeId, encoded)]
      | _, _ => [], peer)
  | _ => (.ok [], peer)

def maintainProactive (c : Crypto) (material : LocalMaterial) (peer : Peer) (now : Nat)
    (counters : HandshakeCounters) (reads : HelloReads) :
    Except AgentError (List Transmission × HandshakeCounters) × Peer :=
  let peer :=
    if peer.state.isIdle ∧ peer.handshakeCandidateAttempts ≥ maxHandshakeCandidatesPerCycle then
      peer.scheduleHandshakeRetry now
    else peer
  match peer.activeEndpoint with
  | none => (.ok ([], counters), peer)
  | some endpoint =>
    if peer.state.isIdle ∧ now ≥ peer.nextProactiveHandshakeAt ∧
        counters.activeClientHandshakes < maxConcurrentProactiveHandshakes ∧
        counters.proactiveStarted < maxProactiveHandshakesPerTick then
      match peer.beginClientHandshake c material now reads with
      | .error error => (.error error, peer)
      | .ok (encoded, peer) =>
        (.ok ([(endpoint, peer.nodeId, encoded)],
          ⟨usizeSaturatingAdd counters.activeClientHandshakes 1,
            usizeSaturatingAdd counters.proactiveStarted 1⟩), peer)
    else (.ok ([], counters), peer)

/-- The body of the loop of `maintain`, for one peer. -/
def maintain (c : Crypto) (material : LocalMaterial) (peer : Peer) (now : Nat)
    (counters : HandshakeCounters) (reads : MaintainReads) :
    Except AgentError (List Transmission × HandshakeCounters) × Peer :=
  let peer := peer.pruneClientHelloCache now
  match peer.maintainRetry c material now counters reads.retry with
  | (.error error, peer) => (.error error, peer)
  | (.ok (retried, counters), peer) =>
    match peer.maintainSession c now with
    | (.error error, peer) => (.error error, peer)
    | (.ok sent, peer) =>
      match peer.maintainPathProbe c now reads.probe with
      | (.error error, peer) => (.error error, peer)
      | (.ok probe, peer) =>
        let probed := (probe.map fun (endpoint, encoded) => (endpoint, peer.nodeId, encoded)).toList
        match peer.maintainProactive c material now counters reads.proactive with
        | (.error error, peer) => (.error error, peer)
        | (.ok (started, counters), peer) =>
          (.ok (retried ++ sent ++ probed ++ started, counters), peer)

/-- What `forward_tun` does with the peer a permitted packet goes to. -/
def forwardTun (c : Crypto) (material : LocalMaterial) (peer : Peer) (packet : Bytes)
    (routedPacket : Bool) (now : Nat) (reads : HelloReads) : Except AgentError ForwardOutcome × Peer :=
  if !peer.state.isEstablished ∧ peer.activeEndpoint = none then (.ok .dropped, peer)
  else
    let countSent (peer : Peer) : Peer := { peer with
      txPacketsTotal := u64SaturatingAdd peer.txPacketsTotal 1
      txBytesTotal :=
        u64SaturatingAdd peer.txBytesTotal ((u64TryFrom packet.length).getD u64Max) }
    let transmit (peer : Peer) (establishedPath : Bool) (outbound : Bytes) : ForwardOutcome :=
      match peer.activeEndpoint with
      | none => .dropped
      | some endpoint => .sent establishedPath (endpoint, peer.nodeId, outbound)
    match peer.state with
    | .established established =>
      let (outbound, sender) :=
        if routedPacket then established.sender.sealRoutedIpv4 c .ackEliciting 0 packet
        else established.sender.sealIpv4 c .ackEliciting 0 packet
      match outbound with
      | none =>
        (.ok .dropped, { peer with state := .established { established with sender := sender } })
      | some outbound =>
        let peer := countSent { peer with
          state := .established { established with
            sender := sender
            sentPacketsInEpoch := u64SaturatingAdd established.sentPacketsInEpoch 1
            lastKeepaliveAt := now } }
        (.ok (transmit peer true outbound), peer)
    | _ =>
      match peer.queuePacket packet routedPacket with
      | (false, peer) => (.ok .dropped, peer)
      | (true, peer) =>
        let peer := countSent peer
        if peer.state.isIdle then
          match peer.beginClientHandshake c material now reads with
          | .error error => (.error error, peer)
          | .ok (outbound, peer) => (.ok (transmit peer false outbound), peer)
        else (.ok .queued, peer)

inductive ManualProbeError
  | peerNotFound | sessionUnavailable | busy | sendFailed
deriving DecidableEq

/-- `start_manual_path_probe` up to the transmission. -/
def startManualPathProbe (c : Crypto) (peer : Peer) (now : Nat) (reads : ProbeReads) :
    Except ManualProbeError Transmission × Peer :=
  match peer.activeEndpoint with
  | none => (.error .sessionUnavailable, peer)
  | some endpoint =>
    if !peer.state.isEstablished then (.error .sessionUnavailable, peer)
    else if peer.pendingPathProbe.isSome ∨ now < peer.pathProbeRetryAfter then (.error .busy, peer)
    else
      match peer.createPathProbe c endpoint now reads with
      | (.error _, peer) => (.error .sendFailed, peer)
      | (.ok encoded, peer) =>
        (.ok (endpoint, peer.nodeId, encoded),
          { peer with pathProbeRetryAfter := now + manualPathProbeCooldown })

/-- A probe that could not be sent is forgotten. -/
def manualPathProbeUnsent (peer : Peer) : Peer := { peer with pendingPathProbe := none }

def pruneExpiredCandidates (peer : Peer) (now : Int) : Peer :=
  let peer := { peer with
    candidates := peer.candidates.filter fun candidate => candidate.expiresAt > now }
  if !peer.state.isEstablished ∧ peer.activeEndpoint.any fun endpoint => !peer.hasEndpoint endpoint then
    { peer with activeEndpoint := peer.firstEndpoint, pathReason := some .configurationUpdate }
  else peer

def candidateRoutesChanged (current replacement : List EndpointCandidate) : Bool :=
  decide (current.length ≠ replacement.length) ||
    (current.zip replacement).any fun (current, replacement) =>
      current.kind ≠ replacement.kind ∨ current.endpoint ≠ replacement.endpoint ∨
        current.priority ≠ replacement.priority

def replaceCandidates (peer : Peer) (candidates : List EndpointCandidate) (now : Nat) : Peer :=
  let candidatesChanged := candidateRoutesChanged peer.candidates candidates
  let peer : Peer := { peer with candidates := candidates }
  if candidatesChanged then
    let peer : Peer := { peer with pendingPathProbe := none, pathProbeRetryAfter := now }
    if !peer.state.isEstablished then
      { peer with
        state := .idle
        handshakeCandidateAttempts := 0
        nextProactiveHandshakeAt := now
        activeEndpoint := peer.firstEndpoint
        pathReason := some .configurationUpdate }
    else peer
  else peer

/-- What `apply_configuration` does with a peer whose node keeps its virtual address. -/
def applyConfiguration (peer : Peer) (candidates : List EndpointCandidate) (policyChanged : Bool)
    (now : Nat) : Peer :=
  let peer : Peer := if policyChanged then peer.clearQueue else peer
  let peer := peer.replaceCandidates candidates now
  if !peer.state.isEstablished ∧ peer.activeEndpoint.all fun endpoint => !peer.hasEndpoint endpoint then
    { peer with activeEndpoint := peer.firstEndpoint, pathReason := some .configurationUpdate }
  else peer

/-- The body of the loop of `fail_relay_path`, for one peer. -/
def failRelayPath (peer : Peer) (failedEndpoint : SocketAddr) (now : Nat) : Peer :=
  if peer.activeEndpoint ≠ some failedEndpoint then peer
  else
    let nextIndex := ((peer.candidates.findIdx? fun candidate => candidate.endpoint = failedEndpoint).map
      fun index => usizeSaturatingAdd index 1).getD 0
    let other (candidate : EndpointCandidate) : Bool := decide (candidate.endpoint ≠ failedEndpoint)
    let next := (((peer.candidates.drop nextIndex).find? other).or (peer.candidates.find? other)).map
      EndpointCandidate.endpoint
    let peer := { peer with
      activeEndpoint := next
      pathReason := next.map fun _ => .relayFailover
      pendingPathProbe := none
      pathProbeRetryAfter := now }
    if !peer.state.isEstablished then
      { peer with state := .idle, handshakeCandidateAttempts := 0, nextProactiveHandshakeAt := now }
    else peer

end Peer

end XsNexus
