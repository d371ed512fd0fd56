import XsNexus.Delivery
import XsNexus.PeerMessages

namespace XsNexus

open ByteCodec

theorem ClientHelloSent.acceptServerHello_parses {c : Crypto} {machine : ClientHelloSent}
    {serverHello : Bytes} {key : VerifyingKey} {now : UInt64} {accepted : ClientFinishSent}
    (h : machine.acceptServerHello c serverHello key now = some accepted) :
    ∃ parsed, parseServerHello c serverHello machine.context machine.encoded machine.clientNonce key
      now = some parsed := by
  obtain ⟨parsed, hp, _⟩ := Option.bind_eq_some_iff.mp h
  exact ⟨parsed, hp⟩

theorem ServerHelloSent.accept_parses {c : Crypto} {clientHello : Bytes}
    {parameters : ServerHandshakeParameters} {identity : SigningKey} {key : VerifyingKey}
    {now : UInt64} {machine : ServerHelloSent}
    (h : ServerHelloSent.accept c clientHello parameters identity key now = some machine) :
    ∃ parsed, parseClientHello c clientHello parameters.context key now = some parsed := by
  obtain ⟨_, _, h⟩ := Option.bind_eq_some_iff.mp h
  obtain ⟨_, _, h⟩ := Option.bind_eq_some_iff.mp h
  split at h
  next => simp at h
  next =>
    obtain ⟨parsed, hp, _⟩ := Option.bind_eq_some_iff.mp h
    exact ⟨parsed, hp⟩

theorem ServerHelloSent.acceptClientFinish_decodes {c : Crypto} {machine : ServerHelloSent}
    {clientFinish : Bytes} {accepted : EstablishedSession × Bytes}
    (h : machine.acceptClientFinish c clientFinish = some accepted) :
    decodeFinish c clientFinish clientFinishType machine.messageId machine.sessionId
      machine.keys.clientKey machine.keys.clientNonceSalt = some machine.keys.helloTranscriptHash := by
  obtain ⟨plaintext, hd, h⟩ := Option.bind_eq_some_iff.mp h
  split at h
  next => simp at h
  next heq =>
    rw [hd, not_not.mp heq]

theorem ClientFinishSent.acceptServerFinish_decodes {c : Crypto} {machine : ClientFinishSent}
    {serverFinish : Bytes} {session : EstablishedSession}
    (h : machine.acceptServerFinish c serverFinish = some session) :
    decodeFinish c serverFinish serverFinishType machine.messageId machine.sessionId
      machine.keys.serverKey machine.keys.serverNonceSalt =
        some (transcriptHash c serverFinishDomain
          [machine.clientHello, machine.serverHello, machine.encoded]) := by
  obtain ⟨plaintext, hd, h⟩ := Option.bind_eq_some_iff.mp h
  dsimp only at h
  split at h
  next => simp at h
  next heq =>
    rw [hd, not_not.mp heq]

/-- A packet that is not opened leaves the receiver as it was. -/
theorem openWithRoutedAddresses_eq_none {c : Crypto} {r r' : DataReceiver} {encoded : Bytes}
    {routed : Bool} (h : r.openWithRoutedAddresses c encoded routed = (none, r')) : r' = r := by
  unfold DataReceiver.openWithRoutedAddresses at h
  split at h
  next => exact (Prod.mk.inj h).2.symm
  next =>
    split at h
    next => exact (Prod.mk.inj h).2.symm
    next header _ =>
      dsimp only at h
      split at h
      next => exact (Prod.mk.inj h).2.symm
      next =>
        split at h
        next =>
          obtain ⟨hopened, hr⟩ := Prod.mk.inj h
          rcases openInEpoch_cases (Prod.mk.eta (p := r.openInEpoch c r.current header encoded routed)).symm with
            ⟨_, hs⟩ | ⟨opened, _, ho, _⟩
          · rw [← hr, hs]
          · rw [hopened] at ho
            simp at ho
        next =>
          split at h
          next => exact (Prod.mk.inj h).2.symm
          next previous hp =>
            split at h
            next =>
              obtain ⟨hopened, hr⟩ := Prod.mk.inj h
              rcases openInEpoch_cases (Prod.mk.eta (p := r.openInEpoch c previous header encoded routed)).symm with
                ⟨_, hs⟩ | ⟨opened, _, ho, _⟩
              · rw [← hr, hs, ← hp]
              · rw [hopened] at ho
                simp at ho
            next => exact (Prod.mk.inj h).2.symm

theorem openDatagram_eq_none {c : Crypto} {receiver receiver' : DataReceiver} {datagram : Bytes}
    {allowRoutedData : Bool} (h : openDatagram c receiver datagram allowRoutedData = (none, receiver')) :
    receiver' = receiver := by
  unfold openDatagram at h
  split at h
  next => simp at h
  next opened hopen =>
    have hfirst := openWithRoutedAddresses_eq_none hopen
    split at h
    next => exact (openWithRoutedAddresses_eq_none h).trans hfirst
    next => exact (Prod.mk.inj h).2.symm.trans hfirst

theorem handleKeyUpdate_sessionId (c : Crypto) (established : EstablishedPeer) (opened : OpenedPacket)
    (instant : Nat) :
    (handleKeyUpdate c established opened instant).2.sessionId = established.sessionId := by
  unfold handleKeyUpdate
  split
  next => rfl
  next =>
    dsimp only
    split
    next => split <;> rfl
    next => split <;> rfl

theorem handleKeyUpdateAck_sessionId (c : Crypto) (established : EstablishedPeer)
    (opened : OpenedPacket) (instant : Nat) :
    (handleKeyUpdateAck c established opened instant).sessionId = established.sessionId := by
  unfold handleKeyUpdateAck
  split
  next => rfl
  next =>
    dsimp only
    split
    next => rfl
    next =>
      split
      next => rfl
      next => split <;> rfl

namespace Peer

theorem acceptClientHello_parses {c : Crypto} {material : LocalMaterial} {peer : Peer}
    {datagram : Bytes} {reads : DatagramReads} {machine : ServerHelloSent}
    (h : peer.acceptClientHello c material datagram reads = some machine) :
    ∃ now parsed, reads.unixTime = some now ∧
      parseClientHello c datagram (context material peer) material.controllerVerifyingKey now =
        some parsed := by
  obtain ⟨_, _, h⟩ := Option.bind_eq_some_iff.mp h
  obtain ⟨_, _, h⟩ := Option.bind_eq_some_iff.mp h
  obtain ⟨_, _, h⟩ := Option.bind_eq_some_iff.mp h
  obtain ⟨_, _, h⟩ := Option.bind_eq_some_iff.mp h
  obtain ⟨now, hnow, h⟩ := Option.bind_eq_some_iff.mp h
  obtain ⟨parsed, hp⟩ := ServerHelloSent.accept_parses h
  exact ⟨now, parsed, hnow, hp⟩

theorem handleClientHello_cases {c : Crypto} {material : LocalMaterial} {peer peer' : Peer}
    {datagram : Bytes} {now : Nat} {reads : DatagramReads} {result : ProcessResult}
    (h : peer.handleClientHello c material datagram now reads = (result, peer')) :
    (∃ encoded, peer.cachedServerHello (c.sha256 datagram) = some encoded ∧
      result = ⟨[encoded], none, true⟩ ∧ peer' = peer) ∨
    (peer.cachedServerHello (c.sha256 datagram) = none ∧ result = .empty ∧
      peer' = peer.pruneClientHelloCache now) ∨
    ∃ machine, peer.cachedServerHello (c.sha256 datagram) = none ∧
      (∀ known ∈ (peer.pruneClientHelloCache now).recentClientHellos, known.1 ≠ c.sha256 datagram) ∧
      peer.acceptClientHello c material datagram reads = some machine ∧
      result = ⟨[machine.encoded], none, true⟩ ∧
      peer' = (peer.pruneClientHelloCache now).startServerHandshake machine (c.sha256 datagram) now := by
  unfold handleClientHello at h
  dsimp only at h
  split at h
  next encoded hcached =>
    obtain ⟨hr, hp⟩ := Prod.mk.inj h
    exact Or.inl ⟨encoded, hcached, hr.symm, hp.symm⟩
  next hcached =>
    refine Or.inr ?_
    split at h
    next =>
      obtain ⟨hr, hp⟩ := Prod.mk.inj h
      exact Or.inl ⟨hcached, hr.symm, hp.symm⟩
    next hunknown =>
      split at h
      next =>
        obtain ⟨hr, hp⟩ := Prod.mk.inj h
        exact Or.inl ⟨hcached, hr.symm, hp.symm⟩
      next =>
        split at h
        next =>
          obtain ⟨hr, hp⟩ := Prod.mk.inj h
          exact Or.inl ⟨hcached, hr.symm, hp.symm⟩
        next machine haccept =>
          obtain ⟨hr, hp⟩ := Prod.mk.inj h
          refine Or.inr ⟨machine, hcached, ?_, haccept, hr.symm, hp.symm⟩
          intro known hm heq
          exact hunknown (List.any_eq_true.mpr ⟨known, hm, decide_eq_true heq⟩)

theorem handleServerHello_cases {c : Crypto} {material : LocalMaterial} {peer peer' : Peer}
    {datagram : Bytes} {now : Nat} {reads : DatagramReads} {result : ProcessResult}
    (h : peer.handleServerHello c material datagram now reads = (result, peer')) :
    (∃ pending, peer.state = .clientFinish pending ∧
      result = ⟨[pending.retry.encoded], none, true⟩ ∧ peer' = peer) ∨
    (∃ pending unixTime machine, peer.state = .clientHello pending ∧ reads.unixTime = some unixTime ∧
      pending.machine.acceptServerHello c datagram material.controllerVerifyingKey unixTime =
        some machine ∧
      result = ⟨[machine.encoded], none, true⟩ ∧
      peer' = { peer with
        state := .clientFinish { machine := machine, retry := .handshake machine.encoded now } }) ∨
    (∃ pending, peer.state = .clientHello pending ∧ result = .empty ∧
      (peer' = peer.clearQueue ∨ reads.unixTime = none ∧ peer' = { peer with state := .idle })) ∨
    ((∀ pending, peer.state ≠ .clientFinish pending) ∧ (∀ pending, peer.state ≠ .clientHello pending) ∧
      result = .empty ∧ peer' = peer) := by
  unfold handleServerHello at h
  split at h
  next pending hs =>
    obtain ⟨hr, hp⟩ := Prod.mk.inj h
    exact Or.inl ⟨pending, hs, hr.symm, hp.symm⟩
  next pending hs =>
    refine Or.inr ?_
    split at h
    next hclock =>
      obtain ⟨hr, hp⟩ := Prod.mk.inj h
      exact Or.inr (Or.inl ⟨pending, hs, hr.symm, Or.inr ⟨hclock, hp.symm⟩⟩)
    next unixTime hclock =>
      split at h
      next =>
        obtain ⟨hr, hp⟩ := Prod.mk.inj h
        exact Or.inr (Or.inl ⟨pending, hs, hr.symm, Or.inl hp.symm⟩)
      next machine haccept =>
        obtain ⟨hr, hp⟩ := Prod.mk.inj h
        exact Or.inl ⟨pending, unixTime, machine, hs, hclock, haccept, hr.symm, hp.symm⟩
  next hfinish hhello =>
    obtain ⟨hr, hp⟩ := Prod.mk.inj h
    exact Or.inr (Or.inr (Or.inr ⟨hfinish, hhello, hr.symm, hp.symm⟩))

theorem handleClientFinish_cases {c : Crypto} {peer peer' : Peer} {datagram : Bytes} {instant : Nat}
    {result : ProcessResult} (h : peer.handleClientFinish c datagram instant = (result, peer')) :
    (∃ pending session serverFinish, peer.state = .serverHello pending ∧
      pending.machine.acceptClientFinish c datagram = some (session, serverFinish) ∧
      result.plaintext = none ∧ result.pathAuthenticated = true ∧
      peer' = ({ peer with state := .idle }.installSession c session instant).2) ∨
    (∃ pending, peer.state = .serverHello pending ∧ result = .empty ∧ peer' = peer.clearQueue) ∨
    ((∀ pending, peer.state ≠ .serverHello pending) ∧ result = .empty ∧ peer' = peer) := by
  unfold handleClientFinish at h
  split at h
  next pending hs =>
    split at h
    next =>
      obtain ⟨hr, hp⟩ := Prod.mk.inj h
      exact Or.inr (Or.inl ⟨pending, hs, hr.symm, hp.symm⟩)
    next session serverFinish haccept =>
      obtain ⟨hr, hp⟩ := Prod.mk.inj h
      subst hr
      exact Or.inl ⟨pending, session, serverFinish, hs, haccept, rfl, rfl, hp.symm⟩
  next hs =>
    obtain ⟨hr, hp⟩ := Prod.mk.inj h
    exact Or.inr (Or.inr ⟨hs, hr.symm, hp.symm⟩)

theorem handleServerFinish_cases {c : Crypto} {peer peer' : Peer} {datagram : Bytes} {instant : Nat}
    {result : ProcessResult} (h : peer.handleServerFinish c datagram instant = (result, peer')) :
    (∃ pending session, peer.state = .clientFinish pending ∧
      pending.machine.acceptServerFinish c datagram = some session ∧
      result.plaintext = none ∧ result.pathAuthenticated = true ∧
      peer' = ({ peer with state := .idle }.installSession c session instant).2) ∨
    (∃ pending, peer.state = .clientFinish pending ∧ result = .empty ∧ peer' = peer.clearQueue) ∨
    ((∀ pending, peer.state ≠ .clientFinish pending) ∧ result = .empty ∧ peer' = peer) := by
  unfold handleServerFinish at h
  split at h
  next pending hs =>
    split at h
    next =>
      obtain ⟨hr, hp⟩ := Prod.mk.inj h
      exact Or.inr (Or.inl ⟨pending, hs, hr.symm, hp.symm⟩)
    next session haccept =>
      obtain ⟨hr, hp⟩ := Prod.mk.inj h
      subst hr
      exact Or.inl ⟨pending, session, hs, haccept, rfl, rfl, hp.symm⟩
  next hs =>
    obtain ⟨hr, hp⟩ := Prod.mk.inj h
    exact Or.inr (Or.inr ⟨hs, hr.symm, hp.symm⟩)

theorem installSession_cases {c : Crypto} {peer peer' : Peer} {session : EstablishedSession}
    {instant : Nat} {outbound : List Bytes}
    (h : peer.installSession c session instant = (outbound, peer')) :
    (session.intoDataPlane c = none ∧ outbound = [] ∧ peer' = peer.clearQueue) ∨
    ∃ sender receiver sealing established, session.intoDataPlane c = some (sender, receiver) ∧
      sealQueued c peer.queuedPackets sender = (outbound, sealing) ∧
      established.sessionId = session.sessionId ∧ established.sender = sealing ∧
      established.receiver = receiver ∧
      peer' = { peer with
        queuedPackets := []
        queuedBytes := 0
        handshakeFailures := 0
        handshakeCandidateAttempts := 0
        handshakeSuccessesTotal := MachineWords.u64SaturatingAdd peer.handshakeSuccessesTotal 1
        nextProactiveHandshakeAt := instant
        state := .established established } := by
  unfold installSession at h
  split at h
  next hsession =>
    obtain ⟨ho, hp⟩ := Prod.mk.inj h
    exact Or.inl ⟨hsession, ho.symm, hp.symm⟩
  next sender receiver hsession =>
    obtain ⟨ho, hp⟩ := Prod.mk.inj h
    subst ho
    exact Or.inr ⟨sender, receiver, _, _, hsession, rfl, rfl, rfl, rfl, hp.symm⟩

theorem installSession_activeEndpoint (c : Crypto) (peer : Peer) (session : EstablishedSession)
    (instant : Nat) : (peer.installSession c session instant).2.activeEndpoint = peer.activeEndpoint := by
  obtain ⟨_, _, h⟩ | ⟨_, _, _, _, _, _, _, _, _, h⟩ :=
    installSession_cases (Prod.mk.eta (p := peer.installSession c session instant)).symm
  · rw [h]
    rfl
  · rw [h]

theorem installSession_recentClientHellos (c : Crypto) (peer : Peer) (session : EstablishedSession)
    (instant : Nat) :
    (peer.installSession c session instant).2.recentClientHellos = peer.recentClientHellos := by
  obtain ⟨_, _, h⟩ | ⟨_, _, _, _, _, _, _, _, _, h⟩ :=
    installSession_cases (Prod.mk.eta (p := peer.installSession c session instant)).symm
  · rw [h]
    rfl
  · rw [h]

/-- Data reaches a peer only through its receiver; what is opened keeps the session it came in. -/
theorem handleData_cases {c : Crypto} {peer peer' : Peer} {source : SocketAddr} {datagram : Bytes}
    {now : Nat} {allowRoutedData : Bool} {instant : Nat} {result : ProcessResult}
    (h : peer.handleData c source datagram now allowRoutedData instant = (result, peer')) :
    (peer.state.isEstablished = false ∧ result = .empty ∧ peer' = peer) ∨
    (∃ established, peer.state = .established established ∧
      (openDatagram c established.receiver datagram allowRoutedData).1 = none ∧
      result = .empty ∧ peer' = peer) ∨
    ∃ established opened receiver established', peer.state = .established established ∧
      openDatagram c established.receiver datagram allowRoutedData = (some opened, receiver) ∧
      (peer' = { peer with state := .established established' } ∨
        ∃ pending, opened.packetType = .pathResponse ∧ result = .empty ∧
          peer.matchingProbe source opened = some pending ∧
          peer' = { peer with state := .established established' }.completePathProbe pending source
            now) ∧
      established'.sessionId = established.sessionId := by
  unfold handleData at h
  split at h
  next established hs =>
    refine Or.inr ?_
    obtain ⟨opened, receiver, hopen⟩ : ∃ opened receiver,
      openDatagram c established.receiver datagram allowRoutedData = (opened, receiver) := ⟨_, _, rfl⟩
    rw [hopen] at h
    dsimp only at h
    split at h
    next =>
      obtain ⟨hr, hp⟩ := Prod.mk.inj h
      refine Or.inl ⟨established, hs, by rw [hopen], hr.symm, ?_⟩
      rw [← hp, openDatagram_eq_none hopen, ← hs]
    next opened =>
      refine Or.inr ?_
      split at h
      next =>
        obtain ⟨_, hp⟩ := Prod.mk.inj h
        exact ⟨established, opened, receiver, _, hs, hopen, Or.inl hp.symm, rfl⟩
      next =>
        obtain ⟨_, hp⟩ := Prod.mk.inj h
        refine ⟨established, opened, receiver, _, hs, hopen, Or.inl hp.symm, ?_⟩
        exact handleKeyUpdate_sessionId c _ opened instant
      next =>
        obtain ⟨_, hp⟩ := Prod.mk.inj h
        refine ⟨established, opened, receiver, _, hs, hopen, Or.inl hp.symm, ?_⟩
        exact handleKeyUpdateAck_sessionId c _ opened instant
      next =>
        obtain ⟨_, hp⟩ := Prod.mk.inj h
        exact ⟨established, opened, receiver, _, hs, hopen, Or.inl hp.symm, rfl⟩
      next =>
        obtain ⟨_, hp⟩ := Prod.mk.inj h
        exact ⟨established, opened, receiver, _, hs, hopen, Or.inl hp.symm, rfl⟩
      next htype =>
        split at h
        next =>
          obtain ⟨_, hp⟩ := Prod.mk.inj h
          exact ⟨established, opened, receiver, _, hs, hopen, Or.inl hp.symm, rfl⟩
        next pending hprobe =>
          obtain ⟨hr, hp⟩ := Prod.mk.inj h
          exact ⟨established, opened, receiver, _, hs, hopen,
            Or.inr ⟨pending, htype, hr.symm, hprobe, hp.symm⟩, rfl⟩
      next =>
        obtain ⟨_, hp⟩ := Prod.mk.inj h
        exact ⟨established, opened, receiver, _, hs, hopen, Or.inl hp.symm, rfl⟩
  next hs =>
    obtain ⟨hr, hp⟩ := Prod.mk.inj h
    refine Or.inl ⟨?_, hr.symm, hp.symm⟩
    cases hstate : peer.state with
    | established established => exact absurd hstate (hs established)
    | idle => rfl
    | clientHello pending => rfl
    | clientFinish pending => rfl
    | serverHello pending => rfl

/-- Each datagram goes to the one handler of its type. -/
theorem processDatagram_cases {c : Crypto} {material : LocalMaterial} {peer peer' : Peer}
    {source : SocketAddr} {datagram : Bytes} {now : Nat} {allowRoutedData : Bool}
    {reads : DatagramReads} {result : ProcessResult}
    (h : peer.processDatagram c material source datagram now allowRoutedData reads =
      (result, peer')) :
    (datagram[5]? = some clientHelloType ∧
      peer.handleClientHello c material datagram now reads = (result, peer')) ∨
    (datagram[5]? = some serverHelloType ∧
      peer.handleServerHello c material datagram now reads = (result, peer')) ∨
    (datagram[5]? = some clientFinishType ∧
      peer.handleClientFinish c datagram reads.instant = (result, peer')) ∨
    (datagram[5]? = some serverFinishType ∧
      peer.handleServerFinish c datagram reads.instant = (result, peer')) ∨
    (isHandshakePacket datagram = false ∧
      (peer.handleData c source datagram now allowRoutedData reads.instant = (result, peer') ∨
        result = .empty ∧ peer' = peer)) := by
  unfold processDatagram at h
  split at h
  next hnone =>
    obtain ⟨hr, hp⟩ := Prod.mk.inj h
    have hplain : isHandshakePacket datagram = false := by rw [isHandshakePacket, hnone]; rfl
    exact Or.inr (Or.inr (Or.inr (Or.inr ⟨hplain, Or.inr ⟨hr.symm, hp.symm⟩⟩)))
  next value hvalue =>
    split at h
    next heq => exact Or.inl ⟨heq ▸ hvalue, h⟩
    next h1 =>
      refine Or.inr ?_
      split at h
      next heq => exact Or.inl ⟨heq ▸ hvalue, h⟩
      next h2 =>
        refine Or.inr ?_
        split at h
        next heq => exact Or.inl ⟨heq ▸ hvalue, h⟩
        next h3 =>
          refine Or.inr ?_
          split at h
          next heq => exact Or.inl ⟨heq ▸ hvalue, h⟩
          next h4 =>
            have hplain : isHandshakePacket datagram = false := by
              rw [isHandshakePacket, hvalue, Option.any_some]
              simp [h1, h2, h3, h4]
            refine Or.inr ⟨hplain, ?_⟩
            split at h
            next => exact Or.inl h
            next =>
              obtain ⟨hr, hp⟩ := Prod.mk.inj h
              exact Or.inr ⟨hr.symm, hp.symm⟩

end Peer

end XsNexus
