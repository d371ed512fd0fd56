import XsNexus.PeerSteps

namespace XsNexus

open ByteCodec

/-- The bytes of the datagram pass, in this call, the check their type asks for: credential and
signature, the tag of a finish, or the peer's receiver. -/
inductive VerifiedInCall (c : Crypto) (material : LocalMaterial) (peer : Peer) (datagram : Bytes)
    (allowRoutedData : Bool) (reads : DatagramReads) : Prop
  | clientHello {now : UInt64} {parsed : ParsedClientHello}
      (unanswered : peer.cachedServerHello (c.sha256 datagram) = none)
      (clock : reads.unixTime = some now)
      (parses : parseClientHello c datagram (context material peer) material.controllerVerifyingKey
        now = some parsed)
  | serverHello {pending : ClientHelloPending} {now : UInt64} {parsed : ParsedServerHello}
      (state : peer.state = .clientHello pending)
      (clock : reads.unixTime = some now)
      (parses : parseServerHello c datagram pending.machine.context pending.machine.encoded
        pending.machine.clientNonce material.controllerVerifyingKey now = some parsed)
  | clientFinish {pending : ServerHelloPending}
      (state : peer.state = .serverHello pending)
      (decodes : decodeFinish c datagram clientFinishType pending.machine.messageId
        pending.machine.sessionId pending.machine.keys.clientKey
        pending.machine.keys.clientNonceSalt = some pending.machine.keys.helloTranscriptHash)
  | serverFinish {pending : ClientFinishPending}
      (state : peer.state = .clientFinish pending)
      (decodes : decodeFinish c datagram serverFinishType pending.machine.messageId
        pending.machine.sessionId pending.machine.keys.serverKey
        pending.machine.keys.serverNonceSalt = some (transcriptHash c serverFinishDomain
          [pending.machine.clientHello, pending.machine.serverHello, pending.machine.encoded]))
  | data {established : EstablishedPeer} {opened : OpenedPacket} {receiver : DataReceiver}
      (state : peer.state = .established established)
      (opens : openDatagram c established.receiver datagram allowRoutedData = (some opened, receiver))

/-- The two retransmission branches, which answer before any check. -/
def Peer.AnswersUnchecked (c : Crypto) (peer : Peer) (datagram : Bytes) : Prop :=
  (datagram[5]? = some serverHelloType ∧ ∃ pending, peer.state = .clientFinish pending) ∨
  (datagram[5]? = some clientHelloType ∧ peer.cachedServerHello (c.sha256 datagram) ≠ none)

theorem parseCommonHeader_type {encoded : Bytes} {expectedType : UInt8} {length : Nat}
    {messageId : UInt32} (h : parseCommonHeader encoded expectedType length = some messageId) :
    encoded[5]? = some expectedType := by
  obtain ⟨total, _, h⟩ := Option.bind_eq_some_iff.mp h
  split at h
  next => simp at h
  next hform =>
    simp only [not_or, not_not] at hform
    exact hform.2.2.2.1

theorem parseClientHello_type {c : Crypto} {encoded : Bytes} {ctx : HandshakeContext}
    {key : VerifyingKey} {now : UInt64} {parsed : ParsedClientHello}
    (h : parseClientHello c encoded ctx key now = some parsed) :
    encoded[5]? = some clientHelloType := by
  obtain ⟨messageId, hheader, _⟩ := Option.bind_eq_some_iff.mp h
  exact parseCommonHeader_type hheader

theorem parseServerHello_header {c : Crypto} {encoded clientHello : Bytes} {ctx : HandshakeContext}
    {nonce : Block 32} {key : VerifyingKey} {now : UInt64} {parsed : ParsedServerHello}
    (h : parseServerHello c encoded ctx clientHello nonce key now = some parsed) :
    ∃ messageId, parseCommonHeader encoded serverHelloType serverHelloBodyLength = some messageId := by
  obtain ⟨messageId, hheader, _⟩ := Option.bind_eq_some_iff.mp h
  exact ⟨messageId, hheader⟩

theorem decodeFinish_type {c : Crypto} {encoded : Bytes} {expectedType : UInt8} {messageId : UInt32}
    {sessionId : Block 16} {key : Block 32} {salt : Block 4} {plaintext : Block 32}
    (h : decodeFinish c encoded expectedType messageId sessionId key salt = some plaintext) :
    encoded[5]? = some expectedType := by
  obtain ⟨messageId, hheader, _⟩ := Option.bind_eq_some_iff.mp h
  exact parseCommonHeader_type hheader

theorem Peer.cachedServerHello_eq_some {peer : Peer} {requestHash : Block 32} {encoded : Bytes}
    (h : peer.cachedServerHello requestHash = some encoded) :
    ∃ pending, peer.state = .serverHello pending ∧ pending.requestHash = requestHash ∧
      encoded = pending.retry.encoded := by
  unfold Peer.cachedServerHello at h
  split at h
  next pending hs =>
    split at h
    next heq => exact ⟨pending, hs, heq, (Option.some.inj h).symm⟩
    next => simp at h
  next => simp at h

/-- No check of a call covers what it answers unchecked. -/
theorem not_verified_of_answersUnchecked {c : Crypto} {material : LocalMaterial} {peer : Peer}
    {datagram : Bytes} {allowRoutedData : Bool} {reads : DatagramReads}
    (h : peer.AnswersUnchecked c datagram) :
    ¬ VerifiedInCall c material peer datagram allowRoutedData reads := by
  intro hv
  rcases h with ⟨htype, pending, hs⟩ | ⟨htype, hcached⟩
  · cases hv with
    | clientHello _ _ parses =>
      have hother := parseClientHello_type parses
      rw [htype] at hother
      exact absurd hother (by decide)
    | serverHello state => exact absurd (hs.symm.trans state) (by simp)
    | clientFinish state => exact absurd (hs.symm.trans state) (by simp)
    | serverFinish _ decodes =>
      have hother := decodeFinish_type decodes
      rw [htype] at hother
      exact absurd hother (by decide)
    | data state => exact absurd (hs.symm.trans state) (by simp)
  · obtain ⟨encoded, hsome⟩ := Option.ne_none_iff_exists'.mp hcached
    obtain ⟨pending, hs, _⟩ := Peer.cachedServerHello_eq_some hsome
    cases hv with
    | clientHello unanswered => exact hcached unanswered
    | serverHello state => exact absurd (hs.symm.trans state) (by simp)
    | clientFinish _ decodes =>
      have hother := decodeFinish_type decodes
      rw [htype] at hother
      exact absurd hother (by decide)
    | serverFinish state => exact absurd (hs.symm.trans state) (by simp)
    | data state => exact absurd (hs.symm.trans state) (by simp)

theorem Peer.answersUnchecked_authenticates {c : Crypto} {peer : Peer} {datagram : Bytes}
    (h : peer.AnswersUnchecked c datagram) (material : LocalMaterial) (source : SocketAddr)
    (now : Nat) (allowRoutedData : Bool) (reads : DatagramReads) :
    (peer.processDatagram c material source datagram now allowRoutedData
      reads).1.pathAuthenticated = true := by
  rcases h with ⟨htype, pending, hs⟩ | ⟨htype, hcached⟩
  · have hother : serverHelloType ≠ clientHelloType := by decide
    simp only [processDatagram, htype, if_neg hother, if_true, handleServerHello, hs]
  · obtain ⟨encoded, hsome⟩ := Option.ne_none_iff_exists'.mp hcached
    simp only [processDatagram, htype, if_true, handleClientHello, hsome]

/-- What a handler may leave of the peer's path when it has verified nothing. -/
theorem Peer.unverified_keeps_path {c : Crypto} {material : LocalMaterial} {peer : Peer}
    {datagram : Bytes} {allowRoutedData : Bool} {reads : DatagramReads}
    (hv : ¬ VerifiedInCall c material peer datagram allowRoutedData reads)
    (source : SocketAddr) (now : Nat) {result : ProcessResult} {peer' : Peer}
    (h : peer.processDatagram c material source datagram now allowRoutedData reads =
      (result, peer')) :
    peer'.activeEndpoint = peer.activeEndpoint ∧
      (result.pathAuthenticated = false ∨ peer.AnswersUnchecked c datagram) := by
  rcases processDatagram_cases h with ⟨htype, h⟩ | ⟨htype, h⟩ | ⟨htype, h⟩ | ⟨htype, h⟩ | ⟨_, h⟩
  · rcases handleClientHello_cases h with ⟨encoded, hcached, hr, hp⟩ | ⟨_, hr, hp⟩ |
      ⟨machine, hcached, _, haccept, _, _⟩
    · rw [hp]
      refine ⟨rfl, Or.inr (Or.inr ⟨htype, ?_⟩)⟩
      simp [hcached]
    · rw [hr, hp]
      exact ⟨rfl, Or.inl rfl⟩
    · obtain ⟨unixTime, parsed, hclock, hparsed⟩ := acceptClientHello_parses haccept
      exact absurd (.clientHello hcached hclock hparsed) hv
  · rcases handleServerHello_cases h with ⟨pending, hs, hr, hp⟩ |
      ⟨pending, unixTime, machine, hs, hclock, haccept, _, _⟩ | ⟨pending, hs, hr, hp⟩ | ⟨_, _, hr, hp⟩
    · rw [hp]
      exact ⟨rfl, Or.inr (Or.inl ⟨htype, pending, hs⟩)⟩
    · obtain ⟨parsed, hparsed⟩ := ClientHelloSent.acceptServerHello_parses haccept
      exact absurd (.serverHello hs hclock hparsed) hv
    · rw [hr]
      rcases hp with hp | ⟨_, hp⟩
      · rw [hp]
        exact ⟨rfl, Or.inl rfl⟩
      · rw [hp]
        exact ⟨rfl, Or.inl rfl⟩
    · rw [hr, hp]
      exact ⟨rfl, Or.inl rfl⟩
  · rcases handleClientFinish_cases h with ⟨pending, session, serverFinish, hs, haccept, _, _, _⟩ |
      ⟨pending, hs, hr, hp⟩ | ⟨_, hr, hp⟩
    · exact absurd (.clientFinish hs (ServerHelloSent.acceptClientFinish_decodes haccept)) hv
    · rw [hr, hp]
      exact ⟨rfl, Or.inl rfl⟩
    · rw [hr, hp]
      exact ⟨rfl, Or.inl rfl⟩
  · rcases handleServerFinish_cases h with ⟨pending, session, hs, haccept, _, _, _⟩ |
      ⟨pending, hs, hr, hp⟩ | ⟨_, hr, hp⟩
    · exact absurd (.serverFinish hs (ClientFinishSent.acceptServerFinish_decodes haccept)) hv
    · rw [hr, hp]
      exact ⟨rfl, Or.inl rfl⟩
    · rw [hr, hp]
      exact ⟨rfl, Or.inl rfl⟩
  · rcases h with h | ⟨hr, hp⟩
    · rcases handleData_cases h with ⟨_, hr, hp⟩ | ⟨established, hs, _, hr, hp⟩ |
        ⟨established, opened, receiver, _, hs, hopen, _, _⟩
      · rw [hr, hp]
        exact ⟨rfl, Or.inl rfl⟩
      · rw [hr, hp]
        exact ⟨rfl, Or.inl rfl⟩
      · exact absurd (.data hs hopen) hv
    · rw [hr, hp]
      exact ⟨rfl, Or.inl rfl⟩

/-- A path is authenticated by verified bytes alone, exactly where no retransmission branch answers
first. -/
theorem Peer.authenticates_iff (c : Crypto) (material : LocalMaterial) (peer : Peer)
    (source : SocketAddr) (datagram : Bytes) (now : Nat) (allowRoutedData : Bool)
    (reads : DatagramReads) :
    ((peer.processDatagram c material source datagram now allowRoutedData
        reads).1.pathAuthenticated = true →
      VerifiedInCall c material peer datagram allowRoutedData reads) ↔
        ¬ peer.AnswersUnchecked c datagram := by
  obtain ⟨result, peer', h⟩ : ∃ result peer',
    peer.processDatagram c material source datagram now allowRoutedData reads = (result, peer') :=
      ⟨_, _, rfl⟩
  constructor
  · intro hauth hunchecked
    have hverified :=
      hauth (Peer.answersUnchecked_authenticates hunchecked material source now allowRoutedData reads)
    exact not_verified_of_answersUnchecked hunchecked hverified
  · intro hchecked hauth
    by_contra hv
    obtain ⟨_, hno | hunchecked⟩ := Peer.unverified_keeps_path hv source now h
    · rw [h, hno] at hauth
      simp at hauth
    · exact hchecked hunchecked

def samplePeer : Peer where
  nodeId := nodeId .transparent sampleIdentityKey.seed
  nodeIdBase64 := "sample-peer"
  virtualIp := .new 100 127 0 2
  candidates := []
  activeEndpoint := some sampleEndpoint
  pathReason := some .highestPriority
  state := .idle
  queuedPackets := []
  queuedBytes := 0
  recentClientHellos := []
  pendingPathProbe := none
  pathProbeRetryAfter := 0
  nextLatencyProbeAt := 0
  nextProactiveHandshakeAt := 0
  handshakeFailures := 0
  handshakeCandidateAttempts := 0
  txPacketsTotal := 0
  txBytesTotal := 0
  rxPacketsTotal := 0
  rxBytesTotal := 0
  handshakeAttemptsTotal := 0
  handshakeSuccessesTotal := 0
  latencySamplesTotal := 0
  latencyMicrosecondsTotal := 0
  lastLatencyMicroseconds := none

def sampleLocalKey : SigningKey := ⟨fill 32 61⟩

def sampleMaterial : LocalMaterial where
  networkId := fill 16 21
  nodeId := nodeId .transparent sampleLocalKey.seed
  virtualIp := .new 100 127 0 3
  credential := sampleCredential sampleLocalKey (.new 100 127 0 3)
  controllerVerifyingKey := Crypto.transparent.verifyingKey sampleControllerKey
  identity := sampleLocalKey

/-- The context of the handshake as the peer sees it. -/
def samplePeerContext : HandshakeContext where
  networkId := fill 16 21
  localNodeId := samplePeer.nodeId
  localVirtualIp := samplePeer.virtualIp
  peerNodeId := sampleMaterial.nodeId
  peerVirtualIp := sampleMaterial.virtualIp

def sampleHello : Option ClientHelloSent :=
  ClientHelloSent.start .transparent {
    context := context sampleMaterial samplePeer
    credential := sampleMaterial.credential
    ephemeralPrivateKey := ⟨fill 32 3⟩
    clientNonce := fill 32 4
    messageId := 5
    clientTime := 1700000100 } sampleMaterial.identity

/-- What the peer answers to a `ClientHello`. -/
def sampleAnswer (clientHello : Bytes) : Option ServerHelloSent :=
  ServerHelloSent.accept .transparent clientHello {
    context := samplePeerContext
    credential := sampleCredential sampleIdentityKey samplePeer.virtualIp
    ephemeralPrivateKey := ⟨fill 32 7⟩
    serverNonce := fill 32 8
    sessionId := fill 16 9
    serverTime := 1700000100 } sampleIdentityKey sampleMaterial.controllerVerifyingKey 1700000100

/-- The handshake after the peer's `ServerHello` was accepted, waiting for its `ServerFinish`. -/
def sampleFinishing : Option ClientFinishSent := do
  let hello ← sampleHello
  let answer ← sampleAnswer hello.encoded
  hello.acceptServerHello .transparent answer.encoded sampleMaterial.controllerVerifyingKey 1700000100

/-- Six bytes with the type of a `ServerHello` at offset 5. -/
def garbageServerHello : Bytes := [0, 0, 0, 0, 0, 0x11]

end XsNexus
