import XsNexus.HelloReplay
import XsNexus.KeyLockstep

namespace XsNexus

open ByteCodec Runs

section Secrets

variable {c : Crypto}

theorem SealOutcome.directionSecret {s : DataSender} {outcome : Option Bytes × DataSender}
    (h : SealOutcome c s outcome) : outcome.2.directionSecret = s.directionSecret := by
  rcases h with h | ⟨datagram, _, packetType, flags, pathId, plaintext, ciphertext, tag, next, hseals⟩
  · rw [h]
  · obtain ⟨_, _, _, _, hafter⟩ := hseals
    rw [hafter]

theorem installNextEpoch_directionSecret (c : Crypto) (r : DataReceiver) (nextEpoch : UInt32) :
    (r.installNextEpoch c nextEpoch).2.directionSecret = r.directionSecret := by
  unfold DataReceiver.installNextEpoch
  split
  next => rfl
  next => split <;> rfl

theorem rotateEpoch_directionSecret (c : Crypto) (s : DataSender) (nextEpoch : UInt32) :
    (s.rotateEpoch c nextEpoch).2.directionSecret = s.directionSecret := by
  rcases rotateEpoch_outcome c s nextEpoch with h | ⟨s', h, _, _, _, _, hs⟩
  · rw [h]
  · rw [h, hs]

/-- The same session under the same secrets; its epochs, windows and timers may have moved on. -/
def EstablishedPeer.SameSession (e e' : EstablishedPeer) : Prop :=
  e'.sessionId = e.sessionId ∧ e'.sender.directionSecret = e.sender.directionSecret ∧
    e'.receiver.directionSecret = e.receiver.directionSecret

theorem EstablishedPeer.SameSession.trans {e1 e2 e3 : EstablishedPeer} (h : e1.SameSession e2)
    (h' : e2.SameSession e3) : e1.SameSession e3 :=
  ⟨h'.1.trans h.1, h'.2.1.trans h.2.1, h'.2.2.trans h.2.2⟩

theorem handleKeyUpdate_sameSession (c : Crypto) (e : EstablishedPeer) (opened : OpenedPacket)
    (instant : Nat) : e.SameSession (handleKeyUpdate c e opened instant).2 := by
  have hseals := (sealControl_outcome c e.sender .keyUpdateAck .control 0
    opened.plaintext).directionSecret
  refine ⟨handleKeyUpdate_sessionId c e opened instant, ?_, ?_⟩
  · unfold handleKeyUpdate
    split
    next => rfl
    next nextEpoch _ =>
      dsimp only
      split
      next =>
        split
        next => rfl
        next => exact hseals
      next =>
        split
        next => rfl
        next => exact hseals
  · unfold handleKeyUpdate
    split
    next => rfl
    next nextEpoch _ =>
      have hinstall := installNextEpoch_directionSecret c e.receiver nextEpoch
      dsimp only
      split
      next =>
        split
        next receiver h =>
          rw [h] at hinstall
          exact hinstall
        next receiver h =>
          rw [h] at hinstall
          exact hinstall
      next => split <;> rfl

theorem handleKeyUpdateAck_sameSession (c : Crypto) (e : EstablishedPeer) (opened : OpenedPacket)
    (instant : Nat) : e.SameSession (handleKeyUpdateAck c e opened instant) := by
  refine ⟨handleKeyUpdateAck_sessionId c e opened instant, ?_, ?_⟩
  · unfold handleKeyUpdateAck
    split
    next => rfl
    next =>
      dsimp only
      split
      next => rfl
      next nextEpoch _ =>
        have hrotate := rotateEpoch_directionSecret c e.sender nextEpoch
        split
        next => rfl
        next =>
          split
          next sender h =>
            rw [h] at hrotate
            exact hrotate
          next sender h =>
            rw [h] at hrotate
            exact hrotate
  · unfold handleKeyUpdateAck
    split
    next => rfl
    next =>
      dsimp only
      split
      next => rfl
      next =>
        split
        next => rfl
        next => split <;> rfl

theorem EstablishedPeer.receive_sameSession (c : Crypto) (e : EstablishedPeer) (datagram : Bytes)
    (allowRoutedData : Bool) (instant : Nat) :
    e.SameSession (e.receive c datagram allowRoutedData instant).2 := by
  have hsecret := (DataReceiver.of_windowless
    (openDatagram_windowless c e.receiver datagram allowRoutedData)).1
  have hopens : e.SameSession { e with
      receiver := (openDatagram c e.receiver datagram allowRoutedData).2 } := ⟨rfl, rfl, hsecret⟩
  unfold EstablishedPeer.receive
  dsimp only
  split
  next => exact hopens
  next opened _ =>
    cases opened.packetType with
    | keyUpdate => exact hopens.trans (handleKeyUpdate_sameSession c _ opened instant)
    | keyUpdateAck => exact hopens.trans (handleKeyUpdateAck_sameSession c _ opened instant)
    | pathChallenge =>
      exact ⟨rfl, (sealControl_outcome c e.sender .pathResponse .pathProbe opened.pathId
        opened.plaintext).directionSecret, hsecret⟩
    | _ => exact hopens

end Secrets

/-- A datagram as `receive` gets it. -/
structure Arrival where
  source : SocketAddr
  packet : Bytes
  now : Nat
  allowRoutedData : Bool
  throughRelay : Bool
  reads : DatagramReads
deriving DecidableEq

namespace Peer

variable {c : Crypto} {material : LocalMaterial} {peer : Peer}

def arrive (c : Crypto) (material : LocalMaterial) (peer : Peer) (a : Arrival) :
    ProcessResult × Peer :=
  peer.receive c material a.source a.packet a.now a.allowRoutedData a.throughRelay a.reads

def HasSession (peer : Peer) (e : EstablishedPeer) : Prop :=
  ∃ e', peer.state = .established e' ∧ e.SameSession e'

/-- The datagram is the Finish that the peer waits for. -/
def Confirms (c : Crypto) (peer : Peer) (a : Arrival) : Prop :=
  (∃ pending accepted, peer.state = .serverHello pending ∧
    pending.machine.acceptClientFinish c a.packet = some accepted) ∨
  ∃ pending session, peer.state = .clientFinish pending ∧
    pending.machine.acceptServerFinish c a.packet = some session

/-- The cache has an entry for the hash. -/
def remembersHello (peer : Peer) (hash : Block 32) : Bool :=
  peer.recentClientHellos.any fun (known, _) => decide (known = hash)

/-- A `ClientHello` that is not remembered and passes every check of `accept`. -/
def AcceptsHello (c : Crypto) (material : LocalMaterial) (peer : Peer) (a : Arrival) : Prop :=
  a.packet[5]? = some clientHelloType ∧
    (∀ known ∈ (peer.pruneClientHelloCache a.now).recentClientHellos, known.1 ≠ c.sha256 a.packet) ∧
    ∃ machine, peer.acceptClientHello c material a.packet a.reads = some machine

theorem receive_state (c : Crypto) (material : LocalMaterial) (peer : Peer) (source : SocketAddr)
    (packet : Bytes) (now : Nat) (allowRoutedData throughRelay : Bool) (reads : DatagramReads) :
    (peer.receive c material source packet now allowRoutedData throughRelay reads).2.state =
      (peer.processDatagram c material source packet now allowRoutedData reads).2.state := by
  unfold receive
  dsimp only
  split
  next => rfl
  next => rfl

/-- An established peer leaves its session for a `ClientHello` that it accepts and for nothing
else. -/
theorem arrive_established {e e' : EstablishedPeer} (hstate : peer.state = .established e')
    (hsame : e.SameSession e') (a : Arrival) :
    (peer.arrive c material a).2.HasSession e ↔ ¬peer.AcceptsHello c material a := by
  obtain ⟨result, after, h⟩ : ∃ result after, peer.processDatagram c material a.source a.packet a.now
    a.allowRoutedData a.reads = (result, after) := ⟨_, _, rfl⟩
  have hafter : (peer.arrive c material a).2.state = after.state := by
    unfold arrive
    rw [receive_state, h]
  have hkeeps : after.state = peer.state → (peer.arrive c material a).2.HasSession e := fun heq =>
    ⟨e', hafter.trans (heq.trans hstate), hsame⟩
  rcases processDatagram_cases h with ⟨htype, h⟩ | ⟨htype, h⟩ | ⟨htype, h⟩ | ⟨htype, h⟩ | ⟨htype, h⟩
  · rcases handleClientHello_cases h with ⟨encoded, hcached, _, heq⟩ | ⟨hcached, hresult, heq⟩ |
      ⟨machine, _, hfresh, haccept, _, heq⟩
    · obtain ⟨pending, hpending, _⟩ := cachedServerHello_eq_some hcached
      rw [hstate] at hpending
      simp at hpending
    · have hsession := hkeeps (by rw [heq]; rfl)
      refine ⟨fun _ haccepts => ?_, fun _ => hsession⟩
      obtain ⟨_, hfresh, machine, haccept⟩ := haccepts
      have hcalled := h
      unfold handleClientHello at hcalled
      dsimp only at hcalled
      have hunknown : ¬(peer.pruneClientHelloCache a.now).remembersHello (c.sha256 a.packet) = true := by
        intro hany
        obtain ⟨known, hmem, hknown⟩ := List.any_eq_true.mp hany
        exact hfresh known hmem (of_decide_eq_true hknown)
      have hresponds : ¬((peer.pruneClientHelloCache a.now).initiates = true ∧
          material.nodeId.val < (peer.pruneClientHelloCache a.now).nodeId.val) := by
        intro hinitiates
        have hstate' : (peer.pruneClientHelloCache a.now).state = .established e' := hstate
        have hfalse := hinitiates.1
        unfold initiates at hfalse
        rw [hstate'] at hfalse
        simp at hfalse
      have haccept' : (peer.pruneClientHelloCache a.now).acceptClientHello c material a.packet
          a.reads = some machine := haccept
      rw [hcached] at hcalled
      dsimp only at hcalled
      unfold remembersHello at hunknown
      rw [if_neg hunknown, if_neg hresponds, haccept'] at hcalled
      rw [hresult] at hcalled
      simp [ProcessResult.empty] at hcalled
    · refine ⟨fun hsession => ?_, fun hrefused => absurd ⟨htype, hfresh, machine, haccept⟩ hrefused⟩
      obtain ⟨e'', hsession, _⟩ := hsession
      rw [hafter, heq] at hsession
      simp [startServerHandshake] at hsession
  · refine ⟨fun _ haccepts => ?_, fun _ => ?_⟩
    · rw [haccepts.1] at htype
      exact absurd htype (by decide)
    · rcases handleServerHello_cases h with ⟨_, hs, _⟩ | ⟨_, _, _, hs, _⟩ | ⟨_, hs, _⟩ | ⟨_, _, _, heq⟩
      · rw [hstate] at hs
        simp at hs
      · rw [hstate] at hs
        simp at hs
      · rw [hstate] at hs
        simp at hs
      · exact hkeeps (by rw [heq])
  · refine ⟨fun _ haccepts => ?_, fun _ => ?_⟩
    · rw [haccepts.1] at htype
      exact absurd htype (by decide)
    · rcases handleClientFinish_cases h with ⟨_, _, _, hs, _⟩ | ⟨_, hs, _⟩ | ⟨_, _, heq⟩
      · rw [hstate] at hs
        simp at hs
      · rw [hstate] at hs
        simp at hs
      · exact hkeeps (by rw [heq])
  · refine ⟨fun _ haccepts => ?_, fun _ => ?_⟩
    · rw [haccepts.1] at htype
      exact absurd htype (by decide)
    · rcases handleServerFinish_cases h with ⟨_, _, hs, _⟩ | ⟨_, hs, _⟩ | ⟨_, _, heq⟩
      · rw [hstate] at hs
        simp at hs
      · rw [hstate] at hs
        simp at hs
      · exact hkeeps (by rw [heq])
  · refine ⟨fun _ haccepts => ?_, fun _ => ?_⟩
    · unfold isHandshakePacket at htype
      rw [haccepts.1] at htype
      simp at htype
    · rcases h with h | ⟨_, heq⟩
      · have hdata := (@handleData_established c peer e' hstate a.source a.packet a.now a.allowRoutedData
          a.reads.instant).2
        rw [h] at hdata
        exact ⟨_, hafter.trans hdata, hsame.trans (e'.receive_sameSession c a.packet a.allowRoutedData
          a.reads.instant)⟩
      · exact hkeeps (by rw [heq])

/-- A peer with a session waits for no Finish. -/
theorem HasSession.not_confirms {e : EstablishedPeer} (h : peer.HasSession e) (a : Arrival) :
    ¬peer.Confirms c a := by
  obtain ⟨e', hstate, _⟩ := h
  rintro (⟨pending, _, hpending, _⟩ | ⟨pending, _, hpending, _⟩)
  · rw [hstate] at hpending
    simp at hpending
  · rw [hstate] at hpending
    simp at hpending

theorem HasSession.arrivals {e : EstablishedPeer} (is : List Arrival) (h : peer.HasSession e) :
    (∀ js, js <+: is → (final (arrive c material) peer js).HasSession e) ↔
      Along (arrive c material) (fun peer a => ¬peer.AcceptsHello c material a) peer is := by
  induction is generalizing peer with
  | nil =>
    refine ⟨fun _ => trivial, fun _ js hjs => ?_⟩
    rw [List.prefix_nil.mp hjs]
    exact h
  | cons a is ih =>
    obtain ⟨e', hstate, hsame⟩ := h
    have hfirst := @arrive_established c material peer e e' hstate hsame a
    constructor
    · intro hkept
      have hnext : (peer.arrive c material a).2.HasSession e :=
        hkept [a] (List.prefix_cons_inj a |>.mpr List.nil_prefix)
      exact ⟨hfirst.mp hnext, (ih hnext).mp fun js hjs =>
        hkept (a :: js) (List.prefix_cons_inj a |>.mpr hjs)⟩
    · rintro ⟨hrefused, hrest⟩ js hjs
      have hlater := (ih (hfirst.mpr hrefused)).mpr hrest
      cases js with
      | nil => exact ⟨e', hstate, hsame⟩
      | cons b js =>
        obtain ⟨rfl, hprefix⟩ := List.cons_prefix_cons.mp hjs
        exact hlater js hprefix

/-- Whatever arrives, a session is left only for a confirmed one exactly if no `ClientHello` is
accepted meanwhile. -/
theorem session_left_for_confirmed_iff {e : EstablishedPeer} (h : peer.HasSession e)
    (is : List Arrival) :
    (∀ js, js <+: is → (final (arrive c material) peer js).HasSession e ∨
      ∃ ks a, ks ++ [a] <+: js ∧ (final (arrive c material) peer ks).HasSession e ∧
        (final (arrive c material) peer ks).Confirms c a) ↔
      Along (arrive c material) (fun peer a => ¬peer.AcceptsHello c material a) peer is := by
  rw [← h.arrivals]
  constructor
  · intro hkept js hjs
    rcases hkept js hjs with hhas | ⟨ks, a, _, hhas, hconfirms⟩
    · exact hhas
    · exact absurd hconfirms (hhas.not_confirms a)
  · exact fun hkept js hjs => Or.inl (hkept js hjs)

end Peer

/-- A fresh `ClientHello` of the sample peer, and nothing after it. -/
def sampleHelloArrival : Arrival where
  source := sampleEndpoint
  packet := samplePeerHello 1700000050
  now := 0
  allowRoutedData := false
  throughRelay := false
  reads := ⟨some (fill 32 3), some (fill 32 8), some (fill 16 9), some 1700000100, some 1700000100, 0⟩

theorem session_left_for_confirmed_sample : ∃ e, sampleInstalled .left = some e ∧
    ((∀ js, js <+: [sampleHelloArrival] → (final (Peer.arrive .transparent sampleMaterial)
        { samplePeer with state := .established e } js).HasSession e ∨
      ∃ ks a, ks ++ [a] <+: js ∧ (final (Peer.arrive .transparent sampleMaterial)
          { samplePeer with state := .established e } ks).HasSession e ∧
        (final (Peer.arrive .transparent sampleMaterial)
          { samplePeer with state := .established e } ks).Confirms .transparent a) ↔
    Along (Peer.arrive .transparent sampleMaterial)
      (fun peer a => ¬peer.AcceptsHello .transparent sampleMaterial a)
      { samplePeer with state := .established e } [sampleHelloArrival]) := by
  have hsome : (sampleInstalled .left).isSome = true := by decide +kernel
  obtain ⟨e, he⟩ := Option.isSome_iff_exists.mp hsome
  exact ⟨e, he, Peer.session_left_for_confirmed_iff ⟨e, rfl, rfl, rfl, rfl⟩ _⟩

/-- An authentic `ClientHello` alone takes the session away: no Finish has arrived. -/
theorem client_hello_ends_session : ∃ e, sampleInstalled .left = some e ∧
    ¬ ∀ js, js <+: [sampleHelloArrival] → (final (Peer.arrive .transparent sampleMaterial)
        { samplePeer with state := .established e } js).HasSession e ∨
      ∃ ks a, ks ++ [a] <+: js ∧ (final (Peer.arrive .transparent sampleMaterial)
          { samplePeer with state := .established e } ks).HasSession e ∧
        (final (Peer.arrive .transparent sampleMaterial)
          { samplePeer with state := .established e } ks).Confirms .transparent a := by
  have hrun : ((sampleInstalled .left).any fun e =>
      !(({ samplePeer with state := .established e } : Peer).arrive .transparent sampleMaterial
        sampleHelloArrival).2.state.isEstablished) = true := by decide +kernel
  obtain ⟨e, he, hleft⟩ := (Option.any_eq_true _ _).mp hrun
  have hhas : ({ samplePeer with state := .established e } : Peer).HasSession e :=
    ⟨e, rfl, rfl, rfl, rfl⟩
  refine ⟨e, he, fun hkept => ?_⟩
  rcases hkept [sampleHelloArrival] List.prefix_rfl with ⟨e', hstate, _⟩ | ⟨ks, a, hprefix, hks, hconfirms⟩
  · change (({ samplePeer with state := .established e } : Peer).arrive .transparent sampleMaterial
      sampleHelloArrival).2.state = _ at hstate
    rw [hstate] at hleft
    simp [PeerState.isEstablished] at hleft
  · exact hks.not_confirms a hconfirms

end XsNexus
