import XsNexus.PathAuthentication

namespace XsNexus

open ByteCodec MachineWords

/-- The datagram has the type the peer's pending handshake waits for. -/
def Peer.Awaits (peer : Peer) (datagram : Bytes) : Prop :=
  (datagram[5]? = some serverHelloType ∧ ∃ pending, peer.state = .clientHello pending) ∨
  (datagram[5]? = some clientFinishType ∧ ∃ pending, peer.state = .serverHello pending) ∨
  (datagram[5]? = some serverFinishType ∧ ∃ pending, peer.state = .clientFinish pending)

/-- The peer with another cache of requests; nothing else of it differs. -/
def Peer.withClientHellos (peer : Peer) (known : List (Block 32 × Nat)) : Peer :=
  { peer with recentClientHellos := known }

namespace Peer

theorem Awaits.isHandshakePacket {peer : Peer} {datagram : Bytes} (h : peer.Awaits datagram) :
    isHandshakePacket datagram = true := by
  rcases h with ⟨htype, _⟩ | ⟨htype, _⟩ | ⟨htype, _⟩
  · simp [XsNexus.Peer.isHandshakePacket, htype]
  · simp [XsNexus.Peer.isHandshakePacket, htype]
  · simp [XsNexus.Peer.isHandshakePacket, htype]

/-- What an unverified datagram does to a peer: it drops a handshake that waits for its type, and
leaves anything else alone but the age of the request cache. -/
theorem processDatagram_unverified {c : Crypto} {material : LocalMaterial} {peer : Peer}
    {datagram : Bytes} {allowRoutedData : Bool} {reads : DatagramReads}
    (hv : ¬ VerifiedInCall c material peer datagram allowRoutedData reads)
    (source : SocketAddr) (now : Nat) {result : ProcessResult} {peer' : Peer}
    (h : peer.processDatagram c material source datagram now allowRoutedData reads =
      (result, peer')) :
    (peer.Awaits datagram ∧
      (peer' = peer.clearQueue ∨ reads.unixTime = none ∧ peer' = { peer with state := .idle })) ∨
    (¬ peer.Awaits datagram ∧ ∃ known, peer' = peer.withClientHellos known) := by
  rcases processDatagram_cases h with ⟨htype, h⟩ | ⟨htype, h⟩ | ⟨htype, h⟩ | ⟨htype, h⟩ | ⟨hplain, h⟩
  · have hawaits : ¬ peer.Awaits datagram := by
      rintro (⟨hother, _⟩ | ⟨hother, _⟩ | ⟨hother, _⟩)
      · exact absurd (htype.symm.trans hother) (by decide)
      · exact absurd (htype.symm.trans hother) (by decide)
      · exact absurd (htype.symm.trans hother) (by decide)
    refine Or.inr ⟨hawaits, ?_⟩
    rcases handleClientHello_cases h with ⟨encoded, _, _, hp⟩ | ⟨_, _, hp⟩ |
      ⟨machine, hcached, _, haccept, _, _⟩
    · exact ⟨_, hp⟩
    · exact ⟨_, hp⟩
    · obtain ⟨unixTime, parsed, hclock, hparsed⟩ := acceptClientHello_parses haccept
      exact absurd (.clientHello hcached hclock hparsed) hv
  · have hawaits : (∀ pending, peer.state ≠ .clientHello pending) → ¬ peer.Awaits datagram := by
      rintro hstate (⟨_, pending, hs⟩ | ⟨hother, _⟩ | ⟨hother, _⟩)
      · exact hstate pending hs
      · exact absurd (htype.symm.trans hother) (by decide)
      · exact absurd (htype.symm.trans hother) (by decide)
    rcases handleServerHello_cases h with ⟨pending, hs, _, hp⟩ |
      ⟨pending, unixTime, machine, hs, hclock, haccept, _, _⟩ | ⟨pending, hs, _, hp⟩ |
      ⟨_, hhello, _, hp⟩
    · refine Or.inr ⟨hawaits fun other ho => ?_, _, hp⟩
      exact absurd (hs.symm.trans ho) (by simp)
    · obtain ⟨parsed, hparsed⟩ := ClientHelloSent.acceptServerHello_parses haccept
      exact absurd (.serverHello hs hclock hparsed) hv
    · exact Or.inl ⟨Or.inl ⟨htype, pending, hs⟩, hp⟩
    · exact Or.inr ⟨hawaits hhello, _, hp⟩
  · have hawaits : (∀ pending, peer.state ≠ .serverHello pending) → ¬ peer.Awaits datagram := by
      rintro hstate (⟨hother, _⟩ | ⟨_, pending, hs⟩ | ⟨hother, _⟩)
      · exact absurd (htype.symm.trans hother) (by decide)
      · exact hstate pending hs
      · exact absurd (htype.symm.trans hother) (by decide)
    rcases handleClientFinish_cases h with ⟨pending, session, serverFinish, hs, haccept, _, _, _⟩ |
      ⟨pending, hs, _, hp⟩ | ⟨hhello, _, hp⟩
    · exact absurd (.clientFinish hs (ServerHelloSent.acceptClientFinish_decodes haccept)) hv
    · exact Or.inl ⟨Or.inr (Or.inl ⟨htype, pending, hs⟩), Or.inl hp⟩
    · exact Or.inr ⟨hawaits hhello, _, hp⟩
  · have hawaits : (∀ pending, peer.state ≠ .clientFinish pending) → ¬ peer.Awaits datagram := by
      rintro hstate (⟨hother, _⟩ | ⟨hother, _⟩ | ⟨_, pending, hs⟩)
      · exact absurd (htype.symm.trans hother) (by decide)
      · exact absurd (htype.symm.trans hother) (by decide)
      · exact hstate pending hs
    rcases handleServerFinish_cases h with ⟨pending, session, hs, haccept, _, _, _⟩ |
      ⟨pending, hs, _, hp⟩ | ⟨hfinish, _, hp⟩
    · exact absurd (.serverFinish hs (ClientFinishSent.acceptServerFinish_decodes haccept)) hv
    · exact Or.inl ⟨Or.inr (Or.inr ⟨htype, pending, hs⟩), Or.inl hp⟩
    · exact Or.inr ⟨hawaits hfinish, _, hp⟩
  · have hawaits : ¬ peer.Awaits datagram := by
      intro hawaits
      rw [hawaits.isHandshakePacket] at hplain
      simp at hplain
    refine Or.inr ⟨hawaits, ?_⟩
    rcases h with h | ⟨_, hp⟩
    · rcases handleData_cases h with ⟨_, _, hp⟩ | ⟨established, hs, _, _, hp⟩ |
        ⟨established, opened, receiver, _, hs, hopen, _, _⟩
      · exact ⟨_, hp⟩
      · exact ⟨_, hp⟩
      · exact absurd (.data hs hopen) hv
    · exact ⟨_, hp⟩

theorem installSession_withClientHellos (c : Crypto) (peer : Peer) (known : List (Block 32 × Nat))
    (session : EstablishedSession) (instant : Nat) :
    (peer.withClientHellos known).installSession c session instant =
      ((peer.installSession c session instant).1,
        (peer.installSession c session instant).2.withClientHellos known) := by
  unfold installSession
  split
  next => rfl
  next => rfl

/-- No step of a pending handshake reads the cache of requests. -/
theorem processDatagram_withClientHellos {peer : Peer} {datagram : Bytes}
    (hawaits : peer.Awaits datagram) (c : Crypto) (material : LocalMaterial)
    (known : List (Block 32 × Nat)) (source : SocketAddr) (now : Nat) (allowRoutedData : Bool)
    (reads : DatagramReads) :
    (peer.withClientHellos known).processDatagram c material source datagram now allowRoutedData
        reads =
      ((peer.processDatagram c material source datagram now allowRoutedData reads).1,
        (peer.processDatagram c material source datagram now allowRoutedData
          reads).2.withClientHellos known) := by
  have h1 : serverHelloType ≠ clientHelloType := by decide
  have h2 : clientFinishType ≠ clientHelloType := by decide
  have h3 : clientFinishType ≠ serverHelloType := by decide
  have h4 : serverFinishType ≠ clientHelloType := by decide
  have h5 : serverFinishType ≠ serverHelloType := by decide
  have h6 : serverFinishType ≠ clientFinishType := by decide
  have hstate : (peer.withClientHellos known).state = peer.state := rfl
  have hidle : { peer.withClientHellos known with state := .idle } =
    ({ peer with state := .idle } : Peer).withClientHellos known := rfl
  rcases hawaits with ⟨htype, pending, hs⟩ | ⟨htype, pending, hs⟩ | ⟨htype, pending, hs⟩
  · simp only [processDatagram, htype, if_neg h1, if_true, handleServerHello, hstate, hs]
    split
    next => rfl
    next => split <;> rfl
  · simp only [processDatagram, htype, if_neg h2, if_neg h3, if_true, handleClientFinish, hstate, hs]
    split
    next => rfl
    next session serverFinish _ =>
      rw [hidle, installSession_withClientHellos]
  · simp only [processDatagram, htype, if_neg h4, if_neg h5, if_neg h6, if_true, handleServerFinish,
      hstate, hs]
    split
    next => rfl
    next session _ =>
      rw [hidle, installSession_withClientHellos]

end Peer

theorem Peer.serverHello_authenticates {c : Crypto} {material : LocalMaterial} {peer : Peer}
    {pending : ClientHelloPending} {datagram : Bytes} {reads : DatagramReads} {unixTime : UInt64}
    {machine : ClientFinishSent} (hs : peer.state = .clientHello pending)
    (htype : datagram[5]? = some serverHelloType) (hclock : reads.unixTime = some unixTime)
    (haccept : pending.machine.acceptServerHello c datagram material.controllerVerifyingKey unixTime =
      some machine) (source : SocketAddr) (now : Nat) (allowRoutedData : Bool) :
    (peer.processDatagram c material source datagram now allowRoutedData
      reads).1.pathAuthenticated = true := by
  have hother : serverHelloType ≠ clientHelloType := by decide
  simp only [processDatagram, htype, if_neg hother, if_true, handleServerHello, hs, hclock, haccept]

theorem Peer.clientFinish_authenticates {c : Crypto} {peer : Peer} {pending : ServerHelloPending}
    {datagram : Bytes} {accepted : EstablishedSession × Bytes}
    (hs : peer.state = .serverHello pending) (htype : datagram[5]? = some clientFinishType)
    (haccept : pending.machine.acceptClientFinish c datagram = some accepted)
    (material : LocalMaterial) (source : SocketAddr) (now : Nat) (allowRoutedData : Bool)
    (reads : DatagramReads) :
    (peer.processDatagram c material source datagram now allowRoutedData
      reads).1.pathAuthenticated = true := by
  have hhello : clientFinishType ≠ clientHelloType := by decide
  have hanswer : clientFinishType ≠ serverHelloType := by decide
  simp only [processDatagram, htype, if_neg hhello, if_neg hanswer, if_true, handleClientFinish, hs,
    haccept]

theorem Peer.serverHello_ignored {peer : Peer} {datagram : Bytes} (hs : peer.state = .idle)
    (htype : datagram[5]? = some serverHelloType) (c : Crypto) (material : LocalMaterial)
    (source : SocketAddr) (now : Nat) (allowRoutedData : Bool) (reads : DatagramReads) :
    peer.processDatagram c material source datagram now allowRoutedData reads = (.empty, peer) := by
  have hother : serverHelloType ≠ clientHelloType := by decide
  simp only [processDatagram, htype, if_neg hother, if_true, handleServerHello, hs]

theorem parseCommonHeader_garbage (expectedType : UInt8) (length : Nat) :
    parseCommonHeader garbageServerHello expectedType length = none := by
  unfold parseCommonHeader
  cases usizeCheckedAdd commonHeaderLength length with
  | none => rfl
  | some total =>
    rw [Option.bind_eq_bind, Option.bind_some, if_pos]
    have hmagic : slice garbageServerHello 0 4 ≠ magic := by decide
    exact Or.inr (Or.inl hmagic)

theorem garbage_not_opened (c : Crypto) (receiver : DataReceiver) (allowRoutedData : Bool) :
    (openDatagram c receiver garbageServerHello allowRoutedData).1 = none := by
  have hshort : garbageServerHello.length < dataHeaderLength + dataTagLength := by decide
  have hclosed : ∀ (r : DataReceiver) (routed : Bool),
      r.openWithRoutedAddresses c garbageServerHello routed = (none, r) := by
    intro r routed
    rw [DataReceiver.openWithRoutedAddresses, if_pos (Or.inl hshort)]
  rw [openDatagram, DataReceiver.openPacket, hclosed]
  dsimp only
  split
  next => rw [DataReceiver.openRouted, hclosed]
  next => rfl

/-- Six bytes verify for nobody. -/
theorem garbage_not_verified (c : Crypto) (material : LocalMaterial) (peer : Peer)
    (allowRoutedData : Bool) (reads : DatagramReads) :
    ¬ VerifiedInCall c material peer garbageServerHello allowRoutedData reads := by
  intro hv
  cases hv with
  | clientHello _ _ parses =>
    exact absurd (parseClientHello_type parses) (by decide)
  | serverHello _ _ parses =>
    obtain ⟨messageId, hheader⟩ := parseServerHello_header parses
    rw [parseCommonHeader_garbage] at hheader
    simp at hheader
  | clientFinish _ decodes =>
    exact absurd (decodeFinish_type decodes) (by decide)
  | serverFinish _ decodes =>
    exact absurd (decodeFinish_type decodes) (by decide)
  | @data established _ _ _ opens =>
    have hnone := garbage_not_opened c established.receiver allowRoutedData
    rw [opens] at hnone
    simp at hnone

/-- An unverified datagram leaves state machine, queue and session keys as they were, and the
handshake open for its next message, unless its type is the one the handshake waits for: that ends
the handshake and drops the queue. -/
theorem unverified_datagram_effect (c : Crypto) (material : LocalMaterial) (peer : Peer)
    (source : SocketAddr) (datagram : Bytes) (now : Nat) (allowRoutedData : Bool)
    (reads : DatagramReads)
    (unverified : ¬ VerifiedInCall c material peer datagram allowRoutedData reads) :
    let after := (peer.processDatagram c material source datagram now allowRoutedData reads).2
    (¬ peer.Awaits datagram →
      after.state = peer.state ∧ after.queuedPackets = peer.queuedPackets ∧
      after.queuedBytes = peer.queuedBytes ∧
      ∀ (genuine : Bytes) (source' : SocketAddr) (now' : Nat) (allowRoutedData' : Bool)
        (reads' : DatagramReads), peer.Awaits genuine →
        (after.processDatagram c material source' genuine now' allowRoutedData' reads').1 =
          (peer.processDatagram c material source' genuine now' allowRoutedData' reads').1 ∧
        (after.processDatagram c material source' genuine now' allowRoutedData' reads').2.state =
          (peer.processDatagram c material source' genuine now' allowRoutedData' reads').2.state) ∧
    (peer.Awaits datagram →
      after.state = .idle ∧
      (reads.unixTime ≠ none → after.queuedPackets = [] ∧ after.queuedBytes = 0)) := by
  intro after
  rcases Peer.processDatagram_unverified unverified source now (Prod.mk.eta).symm with
    ⟨hawaits, hafter⟩ | ⟨hawaits, known, hafter⟩
  · refine ⟨fun hno => absurd hawaits hno, fun _ => ?_⟩
    rcases hafter with hcleared | ⟨hclock, hidle⟩
    · have heq : after = peer.clearQueue := hcleared
      rw [heq]
      exact ⟨rfl, fun _ => ⟨rfl, rfl⟩⟩
    · have heq : after = { peer with state := .idle } := hidle
      rw [heq]
      exact ⟨rfl, fun hread => absurd hclock hread⟩
  · refine ⟨fun _ => ?_, fun hyes => absurd hyes hawaits⟩
    have heq : after = peer.withClientHellos known := hafter
    rw [heq]
    refine ⟨rfl, rfl, rfl, ?_⟩
    intro genuine source' now' allowRoutedData' reads' hgenuine
    rw [Peer.processDatagram_withClientHellos hgenuine]
    exact ⟨rfl, rfl⟩

/-- A peer waits for the `ClientFinish` to its answer, with a packet queued. -/
def sampleServerPeer (answer : ServerHelloSent) : Peer :=
  { samplePeer with
    state := .serverHello ⟨answer, zeros 32, .handshake answer.encoded 0⟩
    queuedPackets := [⟨[1, 2, 3], false⟩]
    queuedBytes := 3 }

/-- The six bytes are of another type than the peer waits for: the genuine `ClientFinish` still
completes the handshake. -/
theorem unverified_datagram_effect_garbage : ∃ machine answer finish, sampleHello = some machine ∧
    sampleAnswer machine.encoded = some answer ∧
    machine.acceptServerHello .transparent answer.encoded sampleMaterial.controllerVerifyingKey
      1700000100 = some finish ∧
    let peer := sampleServerPeer answer
    let reads : DatagramReads := ⟨none, none, none, none, some 1700000100, 1⟩
    let after := (peer.processDatagram .transparent sampleMaterial sampleEndpoint garbageServerHello 1
      false reads).2
    after.state = peer.state ∧ after.queuedPackets = [⟨[1, 2, 3], false⟩] ∧
    (after.processDatagram .transparent sampleMaterial sampleEndpoint finish.encoded 2 false
      reads).1.pathAuthenticated = true := by
  have hsome : (sampleHello.bind fun machine => (sampleAnswer machine.encoded).bind fun answer =>
      (machine.acceptServerHello .transparent answer.encoded sampleMaterial.controllerVerifyingKey
        1700000100).filter fun finish => finish.encoded[5]? = some clientFinishType ∧
          (answer.acceptClientFinish .transparent finish.encoded).isSome).isSome = true := by
    decide +kernel
  obtain ⟨finish, hfinish⟩ := Option.isSome_iff_exists.mp hsome
  obtain ⟨machine, hmachine, hfinish⟩ := Option.bind_eq_some_iff.mp hfinish
  obtain ⟨answer, hanswer, hfinish⟩ := Option.bind_eq_some_iff.mp hfinish
  obtain ⟨hfinish, hgenuine⟩ := Option.filter_eq_some_iff.mp hfinish
  obtain ⟨htype, haccepted⟩ := of_decide_eq_true hgenuine
  obtain ⟨accepted, haccepted⟩ := Option.isSome_iff_exists.mp haccepted
  refine ⟨machine, answer, finish, hmachine, hanswer, hfinish, ?_⟩
  intro peer reads after
  have hawaits : ¬ peer.Awaits garbageServerHello := by
    rintro (⟨_, pending, hs⟩ | ⟨htype, _⟩ | ⟨htype, _⟩)
    · exact nomatch hs
    · exact absurd htype (by decide)
    · exact absurd htype (by decide)
  obtain ⟨hstate, hqueue, _, hgoes⟩ := (unverified_datagram_effect .transparent sampleMaterial peer
    sampleEndpoint garbageServerHello 1 false reads (garbage_not_verified _ _ _ _ _)).1 hawaits
  have hwaits : peer.state = .serverHello ⟨answer, zeros 32, .handshake answer.encoded 0⟩ := rfl
  have hsame := (hgoes finish.encoded sampleEndpoint 2 false reads
    (Or.inr (Or.inl ⟨htype, _, hwaits⟩))).1
  have hcompletes := Peer.clientFinish_authenticates hwaits htype haccepted sampleMaterial sampleEndpoint
    2 false reads
  rw [← hsame] at hcompletes
  exact ⟨hstate, hqueue, hcompletes⟩

/-- While a peer waits for its `ServerHello`, six bytes end the handshake and drop the queued packet;
the genuine answer is ignored afterwards. -/
theorem garbage_ends_handshake : ∃ machine answer, sampleHello = some machine ∧
    sampleAnswer machine.encoded = some answer ∧
    let peer := { samplePeer with
      state := .clientHello { machine := machine, retry := .handshake machine.encoded 0 }
      queuedPackets := [⟨[1, 2, 3], false⟩]
      queuedBytes := 3 }
    let reads : DatagramReads := ⟨none, none, none, none, some 1700000100, 1⟩
    let after := (peer.processDatagram .transparent sampleMaterial sampleEndpoint garbageServerHello 1
      false reads).2
    ¬ VerifiedInCall .transparent sampleMaterial peer garbageServerHello false reads ∧
    after.state = .idle ∧ after.queuedPackets = [] ∧
    (peer.processDatagram .transparent sampleMaterial sampleEndpoint answer.encoded 2 false
      reads).1.pathAuthenticated = true ∧
    after.processDatagram .transparent sampleMaterial sampleEndpoint answer.encoded 2 false reads =
      (.empty, after) := by
  have hsome : (sampleHello.bind fun machine => (sampleAnswer machine.encoded).filter fun answer =>
      answer.encoded[5]? = some serverHelloType ∧
      (machine.acceptServerHello .transparent answer.encoded sampleMaterial.controllerVerifyingKey
        1700000100).isSome).isSome = true := by
    decide +kernel
  obtain ⟨answer, hanswer⟩ := Option.isSome_iff_exists.mp hsome
  obtain ⟨machine, hmachine, hanswer⟩ := Option.bind_eq_some_iff.mp hanswer
  obtain ⟨hanswer, hgenuine⟩ := Option.filter_eq_some_iff.mp hanswer
  obtain ⟨htype, haccepted⟩ := of_decide_eq_true hgenuine
  obtain ⟨accepted, haccepted⟩ := Option.isSome_iff_exists.mp haccepted
  refine ⟨machine, answer, hmachine, hanswer, ?_⟩
  intro peer reads after
  have hends : after.state = .idle := rfl
  exact ⟨garbage_not_verified _ _ _ false reads, hends, rfl,
    Peer.serverHello_authenticates rfl htype rfl haccepted sampleEndpoint 2 false,
    Peer.serverHello_ignored hends htype _ _ sampleEndpoint 2 false reads⟩

end XsNexus
