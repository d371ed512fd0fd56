import XsNexus.HandshakeLayout
import XsNexus.SessionReplacement

namespace XsNexus

open ByteCodec MachineWords Runs

/-- The requests that `RetryState` sends again byte for byte. -/
inductive RequestKind
  | clientHello | clientFinish | keyUpdate | pathChallenge
deriving DecidableEq

def RequestKind.replyType : RequestKind → UInt8
  | clientHello => serverHelloType
  | clientFinish => serverFinishType
  | keyUpdate => PacketType.keyUpdateAck.toByte
  | pathChallenge => PacketType.pathResponse.toByte

/-- What goes back is one datagram, of the type that answers the request. -/
def RequestKind.Replies (kind : RequestKind) (outbound : List Bytes) : Prop :=
  outbound.map (fun datagram => datagram[5]?) = [some kind.replyType]

instance RequestKind.decidableReplies (kind : RequestKind) (outbound : List Bytes) :
    Decidable (kind.Replies outbound) :=
  inferInstanceAs (Decidable (_ = _))

theorem RequestKind.not_replies_nil (kind : RequestKind) : ¬ kind.Replies [] := by
  simp [Replies]

section Waiting

variable {c : Crypto} {material : LocalMaterial} {peer peer' : Peer}

theorem ServerHelloSent.accept_type {clientHello : Bytes} {parameters : ServerHandshakeParameters}
    {identitySigningKey : SigningKey} {controllerVerifyingKey : VerifyingKey} {now : UInt64}
    {machine : ServerHelloSent}
    (h : ServerHelloSent.accept c clientHello parameters identitySigningKey controllerVerifyingKey now =
      some machine) :
    machine.encoded[5]? = some serverHelloType := by
  obtain ⟨_, _, _, _, _, _, _, rfl⟩ := (accept_eq_some_iff c clientHello parameters identitySigningKey
    controllerVerifyingKey now machine).mp h
  unfold serverHelloSigned serverHelloUnsigned
  simp only [List.append_assoc]
  exact (commonHeader_magic ..).2.2

theorem Peer.acceptClientHello_type {datagram : Bytes} {reads : DatagramReads}
    {machine : ServerHelloSent}
    (h : peer.acceptClientHello c material datagram reads = some machine) :
    machine.encoded[5]? = some serverHelloType := by
  obtain ⟨_, _, h⟩ := Option.bind_eq_some_iff.mp h
  obtain ⟨_, _, h⟩ := Option.bind_eq_some_iff.mp h
  obtain ⟨_, _, h⟩ := Option.bind_eq_some_iff.mp h
  obtain ⟨_, _, h⟩ := Option.bind_eq_some_iff.mp h
  obtain ⟨_, _, h⟩ := Option.bind_eq_some_iff.mp h
  exact ServerHelloSent.accept_type h

/-- The message a peer waits with in state `ServerHello` is a `ServerHello`. -/
def Peer.HelloReady (peer : Peer) : Prop :=
  ∀ encoded, peer.state.waitingHello = some encoded → encoded[5]? = some serverHelloType

theorem Peer.HelloReady.of_none (h : peer.state.waitingHello = none) : peer.HelloReady := by
  intro encoded hsome
  rw [h] at hsome
  simp at hsome

theorem Peer.HelloReady.kept (hready : peer.HelloReady) (hkept : peer.Keeps peer') :
    peer'.HelloReady := by
  rcases hkept.waiting with hgone | hsame
  · exact .of_none hgone
  · intro encoded hsome
    exact hready encoded (hsame ▸ hsome)

theorem Peer.cachedServerHello_waiting {requestHash : Block 32} {encoded : Bytes}
    (h : peer.cachedServerHello requestHash = some encoded) :
    peer.state.waitingHello = some encoded := by
  obtain ⟨pending, hstate, _, rfl⟩ := Peer.cachedServerHello_eq_some h
  rw [hstate]
  rfl

theorem Peer.installSession_waiting (c : Crypto) (peer : Peer) (session : EstablishedSession)
    (instant : Nat) : (peer.installSession c session instant).2.state.waitingHello = none := by
  obtain ⟨_, _, h⟩ | ⟨_, _, _, _, _, _, _, _, _, h⟩ :=
    installSession_cases (Prod.mk.eta (p := peer.installSession c session instant)).symm
  · rw [h]
    rfl
  · rw [h]
    rfl

/-- Only `handle_client_hello` lets a peer wait with a `ServerHello`, with the one it has built. -/
theorem Peer.processDatagram_helloReady (hready : peer.HelloReady) {source : SocketAddr}
    {datagram : Bytes} {now : Nat} {allowRoutedData : Bool} {reads : DatagramReads}
    {result : ProcessResult}
    (h : peer.processDatagram c material source datagram now allowRoutedData reads =
      (result, peer')) : peer'.HelloReady := by
  rcases Peer.processDatagram_cases h with ⟨_, h⟩ | ⟨_, h⟩ | ⟨_, h⟩ | ⟨_, h⟩ | ⟨_, h | ⟨_, rfl⟩⟩
  · rcases Peer.handleClientHello_cases h with ⟨_, _, _, rfl⟩ | ⟨_, _, rfl⟩ |
      ⟨machine, _, _, haccept, _, rfl⟩
    · exact hready
    · exact hready
    · intro encoded hsome
      cases Option.some.inj hsome
      exact Peer.acceptClientHello_type haccept
  · rcases Peer.handleServerHello_cases h with ⟨_, _, _, rfl⟩ | ⟨_, _, _, _, _, _, _, rfl⟩ |
      ⟨_, _, _, rfl | ⟨_, rfl⟩⟩ | ⟨_, _, _, rfl⟩
    · exact hready
    · exact .of_none rfl
    · exact .of_none rfl
    · exact .of_none rfl
    · exact hready
  · rcases Peer.handleClientFinish_cases h with ⟨_, _, _, _, _, _, _, rfl⟩ | ⟨_, _, _, rfl⟩ |
      ⟨_, _, rfl⟩
    · exact .of_none (Peer.installSession_waiting ..)
    · exact .of_none rfl
    · exact hready
  · rcases Peer.handleServerFinish_cases h with ⟨_, _, _, _, _, _, rfl⟩ | ⟨_, _, _, rfl⟩ | ⟨_, _, rfl⟩
    · exact .of_none (Peer.installSession_waiting ..)
    · exact .of_none rfl
    · exact hready
  · rcases Peer.handleData_cases h with ⟨_, _, rfl⟩ | ⟨_, _, _, _, rfl⟩ |
      ⟨_, _, _, _, _, _, rfl | ⟨_, _, _, _, rfl⟩, _⟩
    · exact hready
    · exact hready
    · exact .of_none rfl
    · exact .of_none (congrArg PeerState.waitingHello (Peer.completePathProbe_state ..))
  · exact hready

theorem Peer.apply_helloReady (hready : peer.HelloReady) (op : PeerOp) :
    (peer.apply c material op).2.HelloReady := by
  cases op with
  | datagram source packet now allowRoutedData throughRelay reads =>
    have hprocessed := Peer.processDatagram_helloReady hready (Prod.mk.eta (p :=
      peer.processDatagram c material source packet now allowRoutedData reads)).symm
    exact hprocessed.kept (Peer.receive_keepsQueue ..)
  | maintain now counters reads =>
    have hpruned : (peer.pruneClientHelloCache now).HelloReady := hready
    exact hpruned.kept (Peer.maintain_keepsQueue ..)
  | forwardTun packet routedPacket now reads =>
    rcases Peer.forwardTun_keepsQueue c material peer packet routedPacket now reads with
      ⟨_, hkept⟩ | ⟨_, _, queued, hqueue, hkept⟩
    · exact hready.kept hkept
    · obtain ⟨_, _, rfl⟩ := Peer.queuePacket_accepted hqueue
      have hqueued : Peer.HelloReady { peer with
          queuedBytes := usizeSaturatingAdd peer.queuedBytes packet.length
          queuedPackets := peer.queuedPackets ++ [⟨packet, routedPacket⟩] } := hready
      exact hqueued.kept hkept
  | startManualPathProbe now reads => exact hready.kept (Peer.startManualPathProbe_keepsQueue ..)
  | manualPathProbeUnsent => exact hready
  | pruneExpiredCandidates now => exact hready.kept (Peer.pruneExpiredCandidates_keepsQueue ..)
  | applyConfiguration candidates policyChanged now =>
    exact hready.kept (Peer.applyConfiguration_keepsQueue ..).1
  | failRelayPath failedEndpoint now => exact hready.kept (Peer.failRelayPath_keepsQueue ..)

theorem Peer.run_helloReady (hready : peer.HelloReady) (ops : List PeerOp) :
    (final (Peer.apply c material) peer ops).HelloReady := by
  induction ops generalizing peer with
  | nil => exact hready
  | cons op ops ih => exact ih (Peer.apply_helloReady hready op)

end Waiting

section Opened

variable {c : Crypto} {r r' : DataReceiver} {delivered : List (UInt32 × UInt64)}

/-- The epoch and the sequence a datagram names. -/
def datagramId (datagram : Bytes) : Option (UInt32 × UInt64) :=
  (DataHeader.parse datagram).map fun header => (header.keyEpoch, header.sequence)

theorem openWithRoutedAddresses_id {datagram : Bytes} {routed : Bool} {opened : OpenedPacket}
    (h : r.openWithRoutedAddresses c datagram routed = (some opened, r')) :
    datagramId datagram = some (opened.keyEpoch, opened.sequence) := by
  have hid : ∀ {state state' : EpochCipher} {header : DataHeader},
      r.openInEpoch c state header datagram routed = (some opened, state') →
      DataHeader.parse datagram = some header →
      datagramId datagram = some (opened.keyEpoch, opened.sequence) := by
    intro state state' header hopen hparse
    rcases openInEpoch_cases hopen with ⟨hnone, _⟩ | ⟨other, _, hsome, hepoch, hsequence, _⟩
    · simp at hnone
    · cases Option.some.inj hsome
      unfold datagramId
      rw [hparse, Option.map_some, hepoch, hsequence]
  unfold DataReceiver.openWithRoutedAddresses at h
  split at h
  next => simp at h
  next =>
    split at h
    next => simp at h
    next header hparse =>
      dsimp only at h
      split at h
      next => simp at h
      next =>
        split at h
        next =>
          obtain ⟨hopened, _⟩ := Prod.mk.inj h
          exact hid (Prod.ext hopened rfl) hparse
        next =>
          split at h
          next => simp at h
          next previous _ =>
            split at h
            next =>
              obtain ⟨hopened, _⟩ := Prod.mk.inj h
              exact hid (Prod.ext hopened rfl) hparse
            next => simp at h

theorem DeliveryInvariant.openDatagram (hi : DeliveryInvariant r delivered) {datagram : Bytes}
    {allowRoutedData : Bool} {result : Option OpenedPacket}
    (h : XsNexus.openDatagram c r datagram allowRoutedData = (result, r')) :
    DeliveryInvariant r'
        (delivered ++ (result.map fun opened => (opened.keyEpoch, opened.sequence)).toList) ∧
      ∀ opened, result = some opened →
        datagramId datagram = some (opened.keyEpoch, opened.sequence) := by
  unfold XsNexus.openDatagram DataReceiver.openPacket at h
  split at h
  next opened r1 hopen =>
    cases h
    refine ⟨hi.openWithRoutedAddresses hopen, fun other hother => ?_⟩
    cases Option.some.inj hother
    exact openWithRoutedAddresses_id hopen
  next r1 hopen =>
    have hfirst := hi.openWithRoutedAddresses hopen
    rw [Option.map_none, Option.toList_none, List.append_nil] at hfirst
    split at h
    next =>
      refine ⟨hfirst.openWithRoutedAddresses h, fun opened hopened => ?_⟩
      rw [hopened] at h
      exact openWithRoutedAddresses_id h
    next =>
      cases h
      rw [Option.map_none, Option.toList_none, List.append_nil]
      exact ⟨hfirst, fun opened hopened => by simp at hopened⟩

/-- What has been delivered does not open again. -/
theorem DeliveryInvariant.openDatagram_once (hi : DeliveryInvariant r delivered) {datagram : Bytes}
    {id : UInt32 × UInt64} (hid : datagramId datagram = some id) (hmem : id ∈ delivered)
    (allowRoutedData : Bool) : (XsNexus.openDatagram c r datagram allowRoutedData).1 = none := by
  rcases hopen : XsNexus.openDatagram c r datagram allowRoutedData with ⟨result, after⟩
  cases result with
  | none => rfl
  | some opened =>
    obtain ⟨hafter, hopened⟩ := hi.openDatagram hopen
    have hsame := (hopened opened rfl).symm.trans hid
    have hnodup := hafter.nodup
    rw [Option.map_some, Option.toList_some, Option.some.inj hsame] at hnodup
    exact absurd rfl ((List.nodup_append.mp hnodup).2.2 id hmem id (List.mem_singleton_self id))

end Opened

section Sessions

variable {c : Crypto} {e : EstablishedPeer} {delivered : List (UInt32 × UInt64)}

theorem handleKeyUpdate_receiver (c : Crypto) (e : EstablishedPeer) (opened : OpenedPacket)
    (instant : Nat) : (handleKeyUpdate c e opened instant).2.receiver = e.receiver ∨
      ∃ nextEpoch, (handleKeyUpdate c e opened instant).2.receiver =
        (e.receiver.installNextEpoch c nextEpoch).2 := by
  unfold handleKeyUpdate
  split
  next => exact Or.inl rfl
  next nextEpoch _ =>
    dsimp only
    split
    next =>
      refine Or.inr ⟨nextEpoch, ?_⟩
      split
      next receiver h => rw [h]
      next receiver h => rw [h]
    next =>
      split
      next => exact Or.inl rfl
      next => exact Or.inl rfl

theorem handleKeyUpdateAck_receiver (c : Crypto) (e : EstablishedPeer) (opened : OpenedPacket)
    (instant : Nat) : (handleKeyUpdateAck c e opened instant).receiver = e.receiver := by
  rcases handleKeyUpdateAck_cases c e opened instant with h | ⟨h, _⟩
  · rw [h]
  · exact h

/-- What the session opens now is added to what it has delivered. -/
theorem EstablishedPeer.receive_delivers (hi : DeliveryInvariant e.receiver delivered) {datagram : Bytes}
    {allowRoutedData : Bool} {result : Option OpenedPacket} {receiver : DataReceiver}
    (hopen : openDatagram c e.receiver datagram allowRoutedData = (result, receiver)) (instant : Nat) :
    DeliveryInvariant (e.receive c datagram allowRoutedData instant).2.receiver
      (delivered ++ (result.map fun opened => (opened.keyEpoch, opened.sequence)).toList) := by
  have hafter := (hi.openDatagram hopen).1
  unfold EstablishedPeer.receive
  rw [hopen]
  dsimp only
  cases result with
  | none => exact hafter
  | some opened =>
    dsimp only
    cases opened.packetType with
    | keyUpdate =>
      show DeliveryInvariant (handleKeyUpdate c { e with receiver := receiver } opened instant).2.receiver _
      rcases handleKeyUpdate_receiver c { e with receiver := receiver } opened instant with
        h | ⟨nextEpoch, h⟩
      · rw [h]
        exact hafter
      · rw [h]
        exact hafter.installNextEpoch nextEpoch
    | keyUpdateAck =>
      dsimp only
      rw [handleKeyUpdateAck_receiver c { e with receiver := receiver } opened instant]
      exact hafter
    | _ => exact hafter

/-- What a session has delivered once stays delivered, and what it opens now is added. -/
theorem EstablishedPeer.apply_delivers (hi : DeliveryInvariant e.receiver delivered) (op : SessionOp) :
    ∃ delivered', DeliveryInvariant (e.apply c op).2.receiver delivered' ∧
      (∀ id ∈ delivered, id ∈ delivered') ∧
      ∀ datagram allowRoutedData instant, op = .receive datagram allowRoutedData instant →
        (openDatagram c e.receiver datagram allowRoutedData).1 ≠ none →
          ∃ id, datagramId datagram = some id ∧ id ∈ delivered' := by
  cases op with
  | receive datagram allowRoutedData instant =>
    rcases hopen : openDatagram c e.receiver datagram allowRoutedData with ⟨result, receiver⟩
    have hid := (hi.openDatagram hopen).2
    refine ⟨_, EstablishedPeer.receive_delivers hi hopen instant,
      fun id hmem => List.mem_append_left _ hmem, ?_⟩
    intro datagram' allowRoutedData' instant' hop hopens
    cases hop
    rw [hopen] at hopens
    obtain ⟨opened, hresult⟩ := Option.ne_none_iff_exists'.mp hopens
    dsimp only at hresult
    refine ⟨_, hid opened hresult, ?_⟩
    rw [hresult]
    exact List.mem_append_right _ (List.mem_singleton_self _)
  | maintain now =>
    refine ⟨delivered, ?_, fun id hmem => hmem, fun datagram _ _ hop => by simp at hop⟩
    show DeliveryInvariant (e.maintain c now).2.receiver delivered
    rw [(e.maintain_epochs c now).1]
    split
    next => exact hi.retirePreviousEpoch
    next => exact hi
  | forward packet routedPacket now =>
    refine ⟨delivered, ?_, fun id hmem => hmem, fun datagram _ _ hop => by simp at hop⟩
    show DeliveryInvariant (e.forward c packet routedPacket now).2.receiver delivered
    rw [(e.forward_epochs c packet routedPacket now).1]
    exact hi
  | probe pathId token =>
    exact ⟨delivered, hi, fun id hmem => hmem, fun datagram _ _ hop => by simp at hop⟩

theorem EstablishedPeer.run_delivers (ops : List SessionOp) {delivered : List (UInt32 × UInt64)}
    (hi : DeliveryInvariant e.receiver delivered) :
    ∃ delivered', DeliveryInvariant (final (EstablishedPeer.apply c) e ops).receiver delivered' ∧
      ∀ id ∈ delivered, id ∈ delivered' := by
  induction ops generalizing e delivered with
  | nil => exact ⟨delivered, hi, fun id hmem => hmem⟩
  | cons op ops ih =>
    obtain ⟨first, hfirst, hkept, _⟩ := @EstablishedPeer.apply_delivers c e delivered hi op
    obtain ⟨last, hlast, hlater⟩ := ih hfirst
    exact ⟨last, hlast, fun id hmem => hlater id (hkept id hmem)⟩

theorem EstablishedPeer.receive_unopened {datagram : Bytes} {allowRoutedData : Bool}
    (h : (openDatagram c e.receiver datagram allowRoutedData).1 = none) (instant : Nat) :
    (e.receive c datagram allowRoutedData instant).1 = [] := by
  unfold EstablishedPeer.receive
  dsimp only
  rw [h]

/-- A datagram that a session has opened once is not opened again, whatever the session does in
between. -/
theorem EstablishedPeer.opens_once (hi : DeliveryInvariant e.receiver delivered)
    {datagram : Bytes} {allowRoutedData : Bool}
    (hopened : (openDatagram c e.receiver datagram allowRoutedData).1 ≠ none) (instant : Nat)
    (ops : List SessionOp) (allowRoutedData' : Bool) :
    (openDatagram c (final (EstablishedPeer.apply c)
      (e.receive c datagram allowRoutedData instant).2 ops).receiver datagram
        allowRoutedData').1 = none := by
  obtain ⟨first, hfirst, _, hid⟩ := @EstablishedPeer.apply_delivers c e delivered hi
    (.receive datagram allowRoutedData instant)
  obtain ⟨id, hdatagram, hmem⟩ := hid datagram allowRoutedData instant rfl hopened
  obtain ⟨last, hlast, hkept⟩ := @EstablishedPeer.run_delivers c _ ops _ hfirst
  exact hlast.openDatagram_once hdatagram (hkept id hmem) allowRoutedData'

end Sessions

/-- A datagram of the data plane is no message of a handshake. -/
theorem not_isHandshakePacket {datagram : Bytes} {id : UInt32 × UInt64}
    (h : datagramId datagram = some id) : Peer.isHandshakePacket datagram = false := by
  obtain ⟨header, hparse, _⟩ := Option.map_eq_some_iff.mp h
  unfold DataHeader.parse at hparse
  split at hparse
  next => simp at hparse
  next =>
    obtain ⟨length, _, hparse⟩ := Option.bind_eq_some_iff.mp hparse
    split at hparse
    next => simp at hparse
    next =>
      obtain ⟨value, hvalue, hparse⟩ := Option.bind_eq_some_iff.mp hparse
      obtain ⟨packetType, htype, _⟩ := Option.bind_eq_some_iff.mp hparse
      unfold Peer.isHandshakePacket
      rw [hvalue, ← PacketType.toByte_of_tryFrom htype]
      cases packetType <;> decide

/-- The peer has handled the request with an answer. What it goes through afterwards is open for a
`ClientHello`; the other requests belong to a session that it still has. -/
inductive Processed (c : Crypto) (material : LocalMaterial) (request : Bytes) :
    RequestKind → Peer → Prop
  | clientHello (before : Peer) (a : Arrival) (later : List PeerOp) (packet : a.packet = request)
      (type : request[5]? = some clientHelloType)
      (answered : RequestKind.clientHello.Replies (before.arrive c material a).1.outbound) :
      Processed c material request .clientHello
        (final (Peer.apply c material) (before.arrive c material a).2 later)
  | clientFinish (before : Peer) (a : Arrival) (packet : a.packet = request)
      (pending : ServerHelloPending) (waits : before.state = .serverHello pending)
      (accepted : EstablishedSession × Bytes)
      (accepts : pending.machine.acceptClientFinish c request = some accepted)
      (installed : EstablishedPeer)
      (installs : (before.arrive c material a).2.state = .established installed)
      (peer : Peer) (keeps : peer.HasSession installed) :
      Processed c material request .clientFinish peer
  | inSession (kind : RequestKind) (packetType : PacketType) (e : EstablishedPeer)
      (delivered : List (UInt32 × UInt64)) (invariant : DeliveryInvariant e.receiver delivered)
      (allowRoutedData : Bool) (instant : Nat) (opened : OpenedPacket)
      (opens : (openDatagram c e.receiver request allowRoutedData).1 = some opened)
      (type : opened.packetType = packetType)
      (known : (kind, packetType) = (.keyUpdate, .keyUpdate) ∨
        (kind, packetType) = (.pathChallenge, .pathChallenge))
      (later : List SessionOp) (peer : Peer)
      (state : peer.state = .established (final (EstablishedPeer.apply c)
        (e.receive c request allowRoutedData instant).2 later)) :
      Processed c material request kind peer

/-- The peer would take the `ClientHello` for a new one. -/
def Peer.TakesHello (c : Crypto) (material : LocalMaterial) (peer : Peer) (a : Arrival) : Prop :=
  peer.AcceptsHello c material a ∧ ¬(peer.initiates = true ∧ material.nodeId.val < peer.nodeId.val)

/-- The datagram is the `ServerHello` the peer has waited with for the request, or the one it builds
when the request counts as new. -/
def Peer.IsServerHello (c : Crypto) (material : LocalMaterial) (peer : Peer) (a : Arrival)
    (reply : Bytes) : Prop :=
  peer.cachedServerHello (c.sha256 a.packet) = some reply ∨
    peer.cachedServerHello (c.sha256 a.packet) = none ∧ ∃ machine,
      peer.acceptClientHello c material a.packet a.reads = some machine ∧ machine.encoded = reply

theorem Peer.arrive_clientHello (c : Crypto) (material : LocalMaterial) (peer : Peer) {a : Arrival}
    (htype : a.packet[5]? = some clientHelloType) :
    (peer.arrive c material a).1 = (peer.handleClientHello c material a.packet a.now a.reads).1 := by
  unfold arrive
  rw [receive_result, processDatagram, htype]
  simp

/-- What goes back to a `ClientHello` is at most one datagram, and that a `ServerHello` of its own. -/
theorem Peer.arrive_isServerHello (c : Crypto) (material : LocalMaterial) (peer : Peer) {a : Arrival}
    (htype : a.packet[5]? = some clientHelloType) :
    (peer.arrive c material a).1.outbound = [] ∨ ∃ reply,
      (peer.arrive c material a).1.outbound = [reply] ∧ peer.IsServerHello c material a reply := by
  rw [peer.arrive_clientHello c material htype]
  rcases Peer.handleClientHello_cases (Prod.mk.eta (p :=
      peer.handleClientHello c material a.packet a.now a.reads)).symm with
    ⟨encoded, hcached, hresult, _⟩ | ⟨_, hresult, _⟩ | ⟨machine, hcached, _, haccept, hresult, _⟩
  · rw [hresult]
    exact Or.inr ⟨encoded, rfl, Or.inl hcached⟩
  · rw [hresult]
    exact Or.inl rfl
  · rw [hresult]
    exact Or.inr ⟨machine.encoded, rfl, Or.inr ⟨hcached, machine, haccept, rfl⟩⟩

theorem Peer.IsServerHello.type {c : Crypto} {material : LocalMaterial} {peer : Peer} {a : Arrival}
    {reply : Bytes} (h : peer.IsServerHello c material a reply) (hready : peer.HelloReady) :
    reply[5]? = some serverHelloType := by
  rcases h with hcached | ⟨_, machine, haccept, rfl⟩
  · exact hready reply (Peer.cachedServerHello_waiting hcached)
  · exact Peer.acceptClientHello_type haccept

theorem Peer.clientHello_replies_iff (c : Crypto) (material : LocalMaterial) {peer : Peer}
    (hready : peer.HelloReady) {a : Arrival} (htype : a.packet[5]? = some clientHelloType) :
    RequestKind.clientHello.Replies (peer.arrive c material a).1.outbound ↔
      (peer.arrive c material a).1.outbound ≠ [] := by
  rcases peer.arrive_isServerHello c material htype with hquiet | ⟨reply, hreply, hhello⟩
  · rw [hquiet]
    exact ⟨fun h => absurd h (RequestKind.not_replies_nil _), fun h => absurd rfl h⟩
  · rw [hreply]
    refine ⟨fun _ => by simp, fun _ => ?_⟩
    unfold RequestKind.Replies
    rw [List.map_singleton, hhello.type hready]
    rfl

/-- A peer that has answered a `ClientHello` waits with its answer. -/
theorem Peer.helloReady_of_replies {c : Crypto} {material : LocalMaterial} {peer : Peer} {a : Arrival}
    (htype : a.packet[5]? = some clientHelloType)
    (hreplies : RequestKind.clientHello.Replies (peer.arrive c material a).1.outbound) :
    (peer.arrive c material a).2.HelloReady := by
  rw [peer.arrive_clientHello c material htype] at hreplies
  have hstate := receive_state c material peer a.source a.packet a.now a.allowRoutedData
    a.throughRelay a.reads
  have hprocessed : peer.processDatagram c material a.source a.packet a.now a.allowRoutedData
      a.reads = peer.handleClientHello c material a.packet a.now a.reads := by
    rw [processDatagram, htype]
    simp
  have hready : (peer.handleClientHello c material a.packet a.now a.reads).2.HelloReady := by
    rcases Peer.handleClientHello_cases (Prod.mk.eta (p :=
        peer.handleClientHello c material a.packet a.now a.reads)).symm with
      ⟨encoded, hcached, hresult, hsame⟩ | ⟨_, hresult, _⟩ | ⟨machine, _, _, haccept, _, hafter⟩
    · rw [hresult] at hreplies
      rw [hsame]
      intro other hother
      cases Option.some.inj ((Peer.cachedServerHello_waiting hcached).symm.trans hother)
      exact (List.cons.inj hreplies).1
    · rw [hresult] at hreplies
      exact absurd hreplies (RequestKind.not_replies_nil _)
    · rw [hafter]
      intro other hother
      cases Option.some.inj hother
      exact Peer.acceptClientHello_type haccept
  unfold arrive HelloReady
  rw [hstate, hprocessed]
  exact hready

theorem Peer.clientHello_answered_iff (c : Crypto) (material : LocalMaterial) (peer : Peer)
    (a : Arrival) (htype : a.packet[5]? = some clientHelloType) :
    (peer.arrive c material a).1.outbound ≠ [] ↔
      peer.cachedServerHello (c.sha256 a.packet) ≠ none ∨ peer.TakesHello c material a := by
  rw [peer.arrive_clientHello c material htype]
  unfold handleClientHello
  dsimp only
  cases hcached : peer.cachedServerHello (c.sha256 a.packet) with
  | some encoded => simp
  | none =>
    simp only [ne_eq, not_true_eq_false, false_or]
    by_cases hknown : (peer.pruneClientHelloCache a.now).remembersHello (c.sha256 a.packet) = true
    · unfold Peer.remembersHello at hknown
      rw [if_pos hknown]
      refine ⟨fun h => absurd rfl h, fun htakes => ?_⟩
      obtain ⟨known, hmem, hsame⟩ := List.any_eq_true.mp hknown
      exact absurd (of_decide_eq_true hsame) (htakes.1.2.1 known hmem)
    · unfold Peer.remembersHello at hknown
      rw [if_neg hknown]
      have hfresh : ∀ known ∈ (peer.pruneClientHelloCache a.now).recentClientHellos,
          known.1 ≠ c.sha256 a.packet := fun known hmem heq =>
        hknown (List.any_eq_true.mpr ⟨known, hmem, decide_eq_true heq⟩)
      by_cases hinitiates : peer.initiates = true ∧ material.nodeId.val < peer.nodeId.val
      · have hsame : (peer.pruneClientHelloCache a.now).initiates = true ∧
            material.nodeId.val < (peer.pruneClientHelloCache a.now).nodeId.val := hinitiates
        rw [if_pos hsame]
        exact ⟨fun h => absurd rfl h, fun htakes => absurd hinitiates htakes.2⟩
      · have hsame : ¬((peer.pruneClientHelloCache a.now).initiates = true ∧
            material.nodeId.val < (peer.pruneClientHelloCache a.now).nodeId.val) := hinitiates
        rw [if_neg hsame]
        have haccept : (peer.pruneClientHelloCache a.now).acceptClientHello c material a.packet
            a.reads = peer.acceptClientHello c material a.packet a.reads := rfl
        rw [haccept]
        cases hmachine : peer.acceptClientHello c material a.packet a.reads with
        | none =>
          refine ⟨fun h => absurd rfl h, fun htakes => ?_⟩
          obtain ⟨_, _, machine, hsome⟩ := htakes.1
          rw [hmachine] at hsome
          simp at hsome
        | some machine =>
          exact ⟨fun _ => ⟨⟨htype, hfresh, machine, hmachine⟩, hinitiates⟩, fun _ => by simp⟩

theorem Processed.helloReady {c : Crypto} {material : LocalMaterial} {request : Bytes} {peer : Peer}
    (h : Processed c material request .clientHello peer) :
    request[5]? = some clientHelloType ∧ peer.HelloReady := by
  cases h with
  | clientHello before a later packet type answered =>
    exact ⟨type, Peer.run_helloReady (Peer.helloReady_of_replies (packet.symm ▸ type) answered) later⟩
  | inSession _ _ _ _ _ _ _ _ _ _ known => simp at known

/-- The handlers of the other requests have no branch for a copy. -/
theorem Processed.quiet {c : Crypto} {material : LocalMaterial} {request : Bytes} {kind : RequestKind}
    {peer : Peer} (h : Processed c material request kind peer) (hkind : kind ≠ .clientHello)
    {a : Arrival} (hcopy : a.packet = request) : (peer.arrive c material a).1.outbound = [] := by
  subst hcopy
  cases h with
  | clientHello => exact absurd rfl hkind
  | clientFinish before first packet pending waits accepted accepts installed installs _ keeps =>
    have htype : a.packet[5]? = some clientFinishType :=
      decodeFinish_type (ServerHelloSent.acceptClientFinish_decodes accepts)
    have hresult : (peer.arrive c material a).1 =
        (peer.handleClientFinish c a.packet a.reads.instant).1 := by
      unfold Peer.arrive
      rw [Peer.receive_result, Peer.processDatagram, htype]
      rfl
    obtain ⟨e, hstate, _⟩ := keeps
    rw [hresult, Peer.handleClientFinish, hstate]
    rfl
  | inSession _ packetType e delivered invariant allowRoutedData instant opened opens type known later
      _ state =>
    have hopened : (openDatagram c e.receiver a.packet allowRoutedData).1 ≠ none := by
      rw [opens]
      simp
    have honce := EstablishedPeer.opens_once invariant hopened instant later a.allowRoutedData
    have hplain : Peer.isHandshakePacket a.packet = false := by
      rcases hopen : openDatagram c e.receiver a.packet allowRoutedData with ⟨result, receiver⟩
      rw [hopen] at opens
      exact not_isHandshakePacket ((invariant.openDatagram hopen).2 opened opens)
    unfold Peer.arrive
    rw [Peer.receive_result]
    obtain ⟨result, after, h⟩ : ∃ result after, peer.processDatagram c material a.source a.packet
      a.now a.allowRoutedData a.reads = (result, after) := ⟨_, _, rfl⟩
    rw [h]
    have hother : ∀ value ∈ [clientHelloType, serverHelloType, clientFinishType, serverFinishType],
        a.packet[5]? ≠ some value := by
      intro value hmem hvalue
      unfold Peer.isHandshakePacket at hplain
      rw [hvalue, Option.any_some] at hplain
      simp only [List.mem_cons, List.not_mem_nil, or_false] at hmem
      exact absurd hmem (by simpa using hplain)
    rcases Peer.processDatagram_cases h with ⟨htype, _⟩ | ⟨htype, _⟩ | ⟨htype, _⟩ | ⟨htype, _⟩ |
      ⟨_, hdata | ⟨hresult, _⟩⟩
    · exact absurd htype (hother _ (by simp))
    · exact absurd htype (hother _ (by simp))
    · exact absurd htype (hother _ (by simp))
    · exact absurd htype (hother _ (by simp))
    · have hsession := (@Peer.handleData_established c peer _ state a.source a.packet a.now
        a.allowRoutedData a.reads.instant).1
      rw [hdata] at hsession
      rw [hsession]
      exact EstablishedPeer.receive_unopened honce a.reads.instant
    · rw [hresult]
      rfl

/-- A copy of a request is answered again exactly if it is a `ClientHello` and the peer still waits
with its `ServerHello`, or takes it for a new one; what goes back is that `ServerHello`. -/
theorem retransmission_answered_iff {c : Crypto} {material : LocalMaterial} {request : Bytes}
    {kind : RequestKind} {peer : Peer} (h : Processed c material request kind peer) {a : Arrival}
    (hcopy : a.packet = request) :
    (kind.Replies (peer.arrive c material a).1.outbound ↔
      kind = .clientHello ∧
        (peer.cachedServerHello (c.sha256 request) ≠ none ∨ peer.TakesHello c material a)) ∧
    ∀ reply ∈ (peer.arrive c material a).1.outbound,
      kind = .clientHello ∧ peer.IsServerHello c material a reply := by
  by_cases hkind : kind = .clientHello
  · subst hkind
    obtain ⟨htype, hready⟩ := h.helloReady
    subst hcopy
    constructor
    · rw [Peer.clientHello_replies_iff c material hready htype,
        Peer.clientHello_answered_iff c material peer a htype]
      exact ⟨fun hanswered => ⟨rfl, hanswered⟩, fun hanswered => hanswered.2⟩
    · intro reply hmem
      rcases peer.arrive_isServerHello c material htype with hquiet | ⟨other, hother, hhello⟩
      · rw [hquiet] at hmem
        exact absurd hmem List.not_mem_nil
      · rw [hother] at hmem
        cases List.mem_singleton.mp hmem
        exact ⟨rfl, hhello⟩
  · rw [h.quiet hkind hcopy]
    exact ⟨⟨fun hreplies => absurd hreplies kind.not_replies_nil, fun h => absurd h.1 hkind⟩,
      fun reply hmem => absurd hmem List.not_mem_nil⟩

/-- The `ClientHello` of the sample peer arrives twice. -/
theorem retransmission_answered_sample :
    RequestKind.clientHello.Replies ((samplePeer.arrive .transparent sampleMaterial
      sampleHelloArrival).2.arrive .transparent sampleMaterial sampleHelloArrival).1.outbound := by
  have hrun : sampleHelloArrival.packet[5]? = some clientHelloType ∧
      RequestKind.clientHello.Replies
        (samplePeer.arrive .transparent sampleMaterial sampleHelloArrival).1.outbound ∧
      (samplePeer.arrive .transparent sampleMaterial sampleHelloArrival).2.cachedServerHello
        (Crypto.transparent.sha256 sampleHelloArrival.packet) ≠ none := by
    decide +kernel
  obtain ⟨htype, hreplies, hcached⟩ := hrun
  exact (retransmission_answered_iff
    (.clientHello samplePeer sampleHelloArrival [] rfl htype hreplies) rfl).1.mpr ⟨rfl, Or.inl hcached⟩

/-- The right end acknowledges a key update, the acknowledgement is lost, and the same key update
arrives once more. -/
def sampleCopy (request : Bytes) : Arrival where
  source := sampleEndpoint
  packet := request
  now := keyUpdateInterval
  allowRoutedData := false
  throughRelay := false
  reads := ⟨none, none, none, none, none, keyUpdateInterval⟩

theorem samplePair_deliveryInvariant {pair : SessionPair} (h : samplePair = some pair) (side : Side) :
    DeliveryInvariant (pair.peer side).receiver [] := by
  obtain ⟨session, _, hinstalled⟩ := (samplePair_begins h).installed
  obtain ⟨peer, instant, _, hstate⟩ := hinstalled side
  obtain ⟨sender, hinto, _⟩ := installSession_established hstate
  unfold EstablishedSession.intoDataPlane at hinto
  simp only [Option.bind_eq_bind, Option.bind_eq_some_iff] at hinto
  obtain ⟨_, _, receiver, hreceiver, hinto⟩ := hinto
  cases Option.some.inj hinto
  exact deliveryInvariant_new hreceiver

/-- The peer whose session has opened the request. -/
def sampleReceived (e : EstablishedPeer) (request : Bytes) : Peer :=
  { samplePeer with
    state := .established (e.receive .transparent request false keyUpdateInterval).2 }

theorem key_update_copy_unanswered : ∃ request e,
    RequestKind.keyUpdate.Replies
      (EstablishedPeer.receive .transparent e request false keyUpdateInterval).1 ∧
    Processed .transparent sampleMaterial request .keyUpdate (sampleReceived e request) ∧
    ¬ RequestKind.keyUpdate.Replies ((sampleReceived e request).arrive .transparent sampleMaterial
      (sampleCopy request)).1.outbound := by
  have hrun : (samplePair.any fun pair =>
      let request := ((pair.peer .left).maintain .transparent keyUpdateInterval).1.flatten
      ((openDatagram .transparent (pair.peer .right).receiver request false).1.any fun opened =>
        decide (opened.packetType = .keyUpdate)) &&
      decide (RequestKind.keyUpdate.Replies
        ((pair.peer .right).receive .transparent request false keyUpdateInterval).1) &&
      decide (((sampleReceived (pair.peer .right) request).arrive .transparent sampleMaterial
        (sampleCopy request)).1.outbound = [])) = true := by
    decide +kernel
  obtain ⟨pair, hpair, hrun⟩ := (Option.any_eq_true _ _).mp hrun
  simp only [Bool.and_eq_true, decide_eq_true_eq, Option.any_eq_true] at hrun
  obtain ⟨⟨⟨opened, hopens, htype⟩, hreplies⟩, hquiet⟩ := hrun
  refine ⟨_, pair.peer .right, hreplies, .inSession .keyUpdate .keyUpdate (pair.peer .right) []
    (samplePair_deliveryInvariant hpair .right) false keyUpdateInterval opened hopens htype
    (Or.inl rfl) [] _ rfl, ?_⟩
  rw [hquiet]
  exact RequestKind.not_replies_nil _

end XsNexus
