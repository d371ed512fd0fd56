import XsNexus.PeerRuns

namespace XsNexus

open ByteCodec

namespace Peer

/-- The endpoint is that of a candidate, and the candidate has a higher priority than the active
path has as a candidate. -/
def Upgrades (peer : Peer) (endpoint : SocketAddr) : Prop :=
  ∃ candidate ∈ peer.candidates, candidate.endpoint = endpoint ∧
    ∀ priority ∈ peer.activeEndpoint.bind peer.priorityOf, priority < candidate.priority

instance (peer : Peer) : DecidablePred peer.Upgrades := fun endpoint =>
  have : ∀ candidate : EndpointCandidate,
      Decidable (∀ priority ∈ peer.activeEndpoint.bind peer.priorityOf, priority < candidate.priority) :=
    fun _ => Option.decidableForallMem _
  inferInstanceAs (Decidable (∃ candidate ∈ peer.candidates, candidate.endpoint = endpoint ∧ _))

/-- The pending probe for which `handle_data` takes a `PathResponse`, when it then moves the path. -/
def answeredProbe (c : Crypto) (peer : Peer) : PeerOp → Option PendingPathProbe
  | .datagram source packet _ allowRoutedData _ _ =>
    match peer.state with
    | .established established =>
      if isHandshakePacket packet ∨ ¬packet[5]?.any fun value => (PacketType.tryFrom value).isSome then
        none
      else
        ((openDatagram c established.receiver packet allowRoutedData).1.filter fun opened =>
          opened.packetType = .pathResponse).bind fun opened =>
            (peer.matchingProbe source opened).filter PendingPathProbe.promotesPath
    | _ => none
  | _ => none

/-- The packet is the Finish the peer waits for, and it ends in a session. -/
def finishesHandshake (c : Crypto) (peer : Peer) (packet : Bytes) : Bool :=
  match peer.state with
  | .serverHello pending =>
    decide (packet[5]? = some clientFinishType) &&
      (pending.machine.acceptClientFinish c packet).any fun (session, _) =>
        (session.intoDataPlane c).isSome
  | .clientFinish pending =>
    decide (packet[5]? = some serverFinishType) &&
      (pending.machine.acceptServerFinish c packet).any fun session =>
        (session.intoDataPlane c).isSome
  | _ => false

end Peer

/-- The probe after a call is the one from before, whatever was retransmitted. -/
def SameProbe (before after : Option PendingPathProbe) : Prop :=
  ∀ pending' ∈ after, ∃ pending ∈ before,
    pending'.endpoint = pending.endpoint ∧ pending'.promotesPath = pending.promotesPath

theorem SameProbe.refl (probe : Option PendingPathProbe) : SameProbe probe probe :=
  fun pending hpending => ⟨pending, hpending, rfl, rfl⟩

def EndpointCandidate.route (candidate : EndpointCandidate) : SocketAddr × UInt32 :=
  (candidate.endpoint, candidate.priority)

/-- What a call can do to a pending probe and to what it was sealed for. -/
inductive ProbeEffect (c : Crypto) (peer : Peer) (op : PeerOp) (peer' : Peer) : Prop
  | ended (gone : peer'.state.isEstablished = false ∨ peer'.pendingPathProbe = none)
  | kept (session : peer'.state.isEstablished = peer.state.isEstablished)
      (routes : peer'.candidates.map EndpointCandidate.route =
        peer.candidates.map EndpointCandidate.route)
      (active : peer'.activeEndpoint = peer.activeEndpoint)
      (probe : SameProbe peer.pendingPathProbe peer'.pendingPathProbe)
  | created (session : peer'.state.isEstablished = peer.state.isEstablished)
      (candidates : peer'.candidates = peer.candidates)
      (active : peer'.activeEndpoint = peer.activeEndpoint)
      (none : peer.pendingPathProbe = none)
      (target : ∀ pending ∈ peer'.pendingPathProbe, pending.promotesPath = true →
        peer.Upgrades pending.endpoint)
  | pruned {now : Int} (op : op = .pruneExpiredCandidates now)
      (before : peer.state.isEstablished = true) (after : peer'.state.isEstablished = true)
      (candidates : peer'.candidates = peer.candidates.filter fun candidate =>
        candidate.expiresAt > now)
      (active : peer'.activeEndpoint = peer.activeEndpoint)
      (probe : peer'.pendingPathProbe = peer.pendingPathProbe)
  | installed {source : SocketAddr} {packet : Bytes} {now : Nat} {allowRoutedData : Bool}
      {reads : DatagramReads}
      (op : op = .datagram source packet now allowRoutedData false reads)
      (finishes : peer.finishesHandshake c packet = true)
      (active : peer.activeEndpoint = some source)
      (reason : peer.pathReason = some .handshakeFallback)
      (probe : peer'.pendingPathProbe = peer.pendingPathProbe)

section Effects

variable {c : Crypto} {material : LocalMaterial} {peer peer' : Peer} {op : PeerOp}

/-- A call that touches neither the candidates, nor the path, nor the probe. -/
theorem ProbeEffect.same (session : peer'.state.isEstablished = peer.state.isEstablished)
    (candidates : peer'.candidates = peer.candidates)
    (active : peer'.activeEndpoint = peer.activeEndpoint)
    (probe : peer'.pendingPathProbe = peer.pendingPathProbe) : ProbeEffect c peer op peer' :=
  .kept session (by rw [candidates]) active (by rw [probe]; exact .refl _)

namespace Peer

/-- Where `receive` leaves the path of an authenticated handshake, it keeps a fallback. -/
theorem receive_path (source : SocketAddr) (packet : Bytes) (now : Nat)
    (allowRoutedData throughRelay : Bool) (reads : DatagramReads) {result : ProcessResult}
    (h : peer.processDatagram c material source packet now allowRoutedData reads = (result, peer')) :
    (peer.receive c material source packet now allowRoutedData throughRelay
        reads).2.pendingPathProbe = none ∨
      (peer.receive c material source packet now allowRoutedData throughRelay reads).2 = peer' ∧
        (isHandshakePacket packet = true → result.pathAuthenticated = true →
          throughRelay = false ∧ peer'.activeEndpoint = some source ∧
            peer'.pathReason = some .handshakeFallback) := by
  unfold receive
  dsimp only
  rw [h]
  split
  next => exact Or.inl rfl
  next hstays =>
    refine Or.inr ⟨rfl, fun hhandshake hauthenticated => ?_⟩
    have hretained : (!throughRelay && isHandshakePacket packet &&
        decide (peer'.activeEndpoint = some source) &&
        decide (peer'.pathReason = some .handshakeFallback)) = true := by
      by_contra hfree
      have hnot := Bool.eq_false_of_not_eq_true hfree
      rw [hnot, hauthenticated, hhandshake] at hstays
      simp [awaitingPathResponse] at hstays
    simpa [hhandshake, and_assoc] using hretained

theorem installSession_path (peer : Peer) (session : EstablishedSession) (instant : Nat) :
    (peer.installSession c session instant).2.pathReason = peer.pathReason ∧
      (peer.installSession c session instant).2.pendingPathProbe = peer.pendingPathProbe ∧
      ((peer.installSession c session instant).2.state.isEstablished = true →
        (session.intoDataPlane c).isSome = true) := by
  obtain ⟨_, _, h⟩ | ⟨_, _, _, _, hsession, _, _, _, _, h⟩ :=
    installSession_cases (Prod.mk.eta (p := peer.installSession c session instant)).symm
  · rw [h]
    exact ⟨rfl, rfl, fun hidle => absurd hidle (by simp [clearQueue, PeerState.isEstablished])⟩
  · rw [h, hsession]
    exact ⟨rfl, rfl, fun _ => rfl⟩

theorem isHandshakePacket_of_type {packet : Bytes} {value : UInt8} (h : packet[5]? = some value)
    (hvalue : value = clientHelloType ∨ value = serverHelloType ∨ value = clientFinishType ∨
      value = serverFinishType) : isHandshakePacket packet = true := by
  unfold isHandshakePacket
  rw [h, Option.any_some]
  exact decide_eq_true hvalue

/-- A session that is installed leaves the probe pending only on the path of a fallback. -/
theorem installed_effect {source : SocketAddr} {packet : Bytes} {now : Nat}
    {allowRoutedData throughRelay : Bool} {reads : DatagramReads} (session : EstablishedSession)
    (hfinishes : (session.intoDataPlane c).isSome = true → peer.finishesHandshake c packet = true)
    (hpath : (peer.receive c material source packet now allowRoutedData throughRelay
        reads).2.pendingPathProbe = none ∨
      (peer.receive c material source packet now allowRoutedData throughRelay reads).2 =
          ({ peer with state := .idle }.installSession c session reads.instant).2 ∧
        throughRelay = false ∧
        ({ peer with state := .idle }.installSession c session reads.instant).2.activeEndpoint =
          some source ∧
        ({ peer with state := .idle }.installSession c session reads.instant).2.pathReason =
          some .handshakeFallback) :
    ProbeEffect c peer (.datagram source packet now allowRoutedData throughRelay reads)
      (peer.receive c material source packet now allowRoutedData throughRelay reads).2 := by
  rcases hpath with hnone | ⟨hreceived, hdirect, hactive, hreason⟩
  · exact .ended (Or.inr hnone)
  · obtain ⟨hkept, hprobe, hinstalled⟩ :=
      @installSession_path c { peer with state := .idle } session reads.instant
    rw [installSession_activeEndpoint] at hactive
    rw [hkept] at hreason
    by_cases hestablished : ({ peer with state := .idle }.installSession c session
        reads.instant).2.state.isEstablished = true
    · subst hdirect
      exact .installed rfl (hfinishes (hinstalled hestablished)) hactive hreason
        (by rw [hreceived, hprobe])
    · exact .ended (Or.inl (by rw [hreceived]; exact Bool.eq_false_of_not_eq_true hestablished))

theorem datagram_effect (source : SocketAddr) (packet : Bytes) (now : Nat)
    (allowRoutedData throughRelay : Bool) (reads : DatagramReads) :
    ProbeEffect c peer (.datagram source packet now allowRoutedData throughRelay reads)
      (peer.receive c material source packet now allowRoutedData throughRelay reads).2 := by
  obtain ⟨result, processed, h⟩ : ∃ result processed, peer.processDatagram c material source packet
    now allowRoutedData reads = (result, processed) := ⟨_, _, rfl⟩
  have hpath := receive_path source packet now allowRoutedData throughRelay reads h
  have hsame : ∀ {after : Peer}, processed = after →
      after.state.isEstablished = peer.state.isEstablished → after.candidates = peer.candidates →
      after.activeEndpoint = peer.activeEndpoint → after.pendingPathProbe = peer.pendingPathProbe →
      ProbeEffect c peer (.datagram source packet now allowRoutedData throughRelay reads)
        (peer.receive c material source packet now allowRoutedData throughRelay reads).2 := by
    intro after hafter hstate hcandidates hactive hprobe
    rcases hpath with hnone | ⟨hreceived, _⟩
    · exact .ended (Or.inr hnone)
    · rw [hreceived, hafter]
      exact .same hstate hcandidates hactive hprobe
  have hleft : processed.state.isEstablished = false →
      ProbeEffect c peer (.datagram source packet now allowRoutedData throughRelay reads)
        (peer.receive c material source packet now allowRoutedData throughRelay reads).2 := by
    intro hstate
    rcases hpath with hnone | ⟨hreceived, _⟩
    · exact .ended (Or.inr hnone)
    · exact .ended (Or.inl (hreceived ▸ hstate))
  rcases processDatagram_cases h with ⟨_, h⟩ | ⟨_, h⟩ | ⟨htype, h⟩ | ⟨htype, h⟩ | ⟨_, h | ⟨_, heq⟩⟩
  · obtain ⟨_, _, _, heq⟩ | ⟨_, _, heq⟩ | ⟨machine, _, _, _, _, heq⟩ := handleClientHello_cases h
    · exact hsame heq rfl rfl rfl rfl
    · exact hsame heq rfl rfl rfl rfl
    · exact hleft (by rw [heq]; rfl)
  · obtain ⟨_, _, _, heq⟩ | ⟨_, _, _, _, _, _, _, heq⟩ | ⟨_, _, _, heq | ⟨_, heq⟩⟩ | ⟨_, _, _, heq⟩ :=
      handleServerHello_cases h
    · exact hsame heq rfl rfl rfl rfl
    · exact hleft (by rw [heq]; rfl)
    · exact hleft (by rw [heq]; rfl)
    · exact hleft (by rw [heq]; rfl)
    · exact hsame heq rfl rfl rfl rfl
  · obtain ⟨pending, session, serverFinish, hstate, haccept, _, hauthenticated, heq⟩ | ⟨_, _, _, heq⟩ |
      ⟨_, _, heq⟩ := handleClientFinish_cases h
    · have hhandshake := isHandshakePacket_of_type htype (Or.inr (Or.inr (Or.inl rfl)))
      refine installed_effect session (fun hsome => ?_) (hpath.imp_right fun hkept => ?_)
      · unfold finishesHandshake
        rw [hstate]
        simp [htype, haccept, hsome]
      · rw [← heq]
        exact ⟨hkept.1, hkept.2 hhandshake hauthenticated⟩
    · exact hleft (by rw [heq]; rfl)
    · exact hsame heq rfl rfl rfl rfl
  · obtain ⟨pending, session, hstate, haccept, _, hauthenticated, heq⟩ | ⟨_, _, _, heq⟩ | ⟨_, _, heq⟩ :=
      handleServerFinish_cases h
    · have hhandshake := isHandshakePacket_of_type htype (Or.inr (Or.inr (Or.inr rfl)))
      refine installed_effect session (fun hsome => ?_) (hpath.imp_right fun hkept => ?_)
      · unfold finishesHandshake
        rw [hstate]
        simp [htype, haccept, hsome]
      · rw [← heq]
        exact ⟨hkept.1, hkept.2 hhandshake hauthenticated⟩
    · exact hleft (by rw [heq]; rfl)
    · exact hsame heq rfl rfl rfl rfl
  · obtain ⟨_, _, heq⟩ | ⟨_, _, _, _, heq⟩ |
      ⟨established, _, _, established', hstate, _, heq | ⟨pending, _, _, _, heq⟩, _⟩ :=
        handleData_cases h
    · exact hsame heq rfl rfl rfl rfl
    · exact hsame heq rfl rfl rfl rfl
    · exact hsame heq (by rw [hstate]; rfl) rfl rfl rfl
    · have hnone : processed.pendingPathProbe = none := by
        rw [heq]
        unfold completePathProbe
        dsimp only
        split <;> rfl
      rcases hpath with hnone' | ⟨hreceived, _⟩
      · exact .ended (Or.inr hnone')
      · exact .ended (Or.inr (hreceived ▸ hnone))
  · exact hsame heq rfl rfl rfl rfl

theorem pollPeerRetry_established {peer : Peer} (h : peer.state.isEstablished = true) (now : Nat) :
    peer.pollPeerRetry now = (.wait, peer) := by
  unfold pollPeerRetry
  split
  next hstate => simp [hstate, PeerState.isEstablished] at h
  next hstate => simp [hstate, PeerState.isEstablished] at h
  next hstate => simp [hstate, PeerState.isEstablished] at h
  next => rfl

theorem pollPeerRetry_isEstablished (now : Nat) :
    (peer.pollPeerRetry now).2.state.isEstablished = peer.state.isEstablished := by
  unfold pollPeerRetry
  split
  next hstate => split <;> simp [hstate, PeerState.isEstablished]
  next hstate => split <;> simp [hstate, PeerState.isEstablished]
  next hstate => split <;> simp [hstate, PeerState.isEstablished]
  next => rfl

theorem beginClientHandshake_isEstablished {now : Nat} {reads : HelloReads} {encoded : Bytes}
    (h : peer.beginClientHandshake c material now reads = .ok (encoded, peer')) :
    peer'.state.isEstablished = false := by
  unfold beginClientHandshake at h
  split at h
  next => simp at h
  next =>
    dsimp only at h
    split at h
    next => simp at h
    next =>
      cases Except.ok.inj h
      rfl

/-- What a call to `create_path_probe` leaves: a failed one leaves the probe as it is. -/
theorem createPathProbe_effect (endpoint : SocketAddr) (now : Nat) (reads : ProbeReads)
    (hnone : peer.pendingPathProbe = none)
    (htarget : peer.activeEndpoint ≠ some endpoint → peer.Upgrades endpoint) :
    ProbeEffect c peer op (peer.createPathProbe c endpoint now reads).2 := by
  unfold createPathProbe
  split
  next established hstate =>
    split
    next =>
      dsimp only
      split
      next => exact .same (by rw [hstate]; rfl) rfl rfl rfl
      next =>
        refine .created (by rw [hstate]; rfl) rfl rfl hnone fun pending hpending hpromotes => ?_
        cases hpending
        exact htarget (of_decide_eq_true hpromotes)
    next => exact .same rfl rfl rfl rfl
  next => exact .same rfl rfl rfl rfl

theorem bestProbeTarget_upgrades {endpoint : SocketAddr} (h : peer.bestProbeTarget = some endpoint) :
    peer.Upgrades endpoint := by
  unfold bestProbeTarget at h
  obtain ⟨candidate, hfind, hendpoint⟩ := Option.map_eq_some_iff.mp h
  have hmem := List.mem_of_find?_eq_some hfind
  have hcondition := List.find?_some hfind
  obtain ⟨_, habove⟩ := of_decide_eq_true hcondition
  refine ⟨candidate, hmem, hendpoint, fun priority hpriority => ?_⟩
  rw [Option.mem_def.mp hpriority, Option.all_some] at habove
  exact of_decide_eq_true habove

theorem maintainPathProbe_effect (now : Nat) (reads : ProbeReads) :
    ProbeEffect c peer op (peer.maintainPathProbe c now reads).2 := by
  unfold maintainPathProbe
  split
  next => exact .ended (Or.inr rfl)
  next =>
    split
    next pending hpending =>
      have hretried : ∀ retry, SameProbe peer.pendingPathProbe (some { pending with retry := retry }) := by
        intro retry pending' hpending'
        cases hpending'
        exact ⟨pending, hpending, rfl, rfl⟩
      split
      next => exact .kept rfl rfl rfl (hretried _)
      next => exact .kept rfl rfl rfl (hretried _)
      next => exact .ended (Or.inr rfl)
    next hnone =>
      split
      next => exact .same rfl rfl rfl rfl
      next =>
        dsimp only
        split
        next => exact .same rfl rfl rfl rfl
        next endpoint htarget =>
          refine createPathProbe_effect endpoint now reads hnone fun hmoves => ?_
          rcases Option.or_eq_some_iff.mp htarget with hbest | ⟨_, hlatency⟩
          · exact bestProbeTarget_upgrades hbest
          · split at hlatency
            next => exact absurd hlatency hmoves
            next => simp at hlatency

theorem advanceHandshakeCandidate_idle (h : peer.state.isEstablished = false) :
    peer.advanceHandshakeCandidate.2.state.isEstablished = false := by
  unfold advanceHandshakeCandidate
  split
  next => exact h
  next =>
    dsimp only
    split
    next => exact h
    next => rfl

theorem maintainRetry_idle (h : peer.state.isEstablished = false) (now : Nat)
    (counters : HandshakeCounters) (reads : HelloReads) :
    (peer.maintainRetry c material now counters reads).2.state.isEstablished = false := by
  have hpoll := @pollPeerRetry_isEstablished peer now
  rw [h] at hpoll
  unfold maintainRetry
  split
  next heq =>
    rw [heq] at hpoll
    exact hpoll
  next heq =>
    rw [heq] at hpoll
    exact hpoll
  next polled heq =>
    rw [heq] at hpoll
    have hadvance := advanceHandshakeCandidate_idle hpoll
    split
    next advanced hadv =>
      rw [hadv] at hadvance
      split
      next => exact hadvance
      next =>
        split
        next => exact hadvance
        next hbegin => exact beginClientHandshake_isEstablished hbegin
    next => rfl

theorem maintainProactive_idle (h : peer.state.isEstablished = false) (now : Nat)
    (counters : HandshakeCounters) (reads : HelloReads) :
    (peer.maintainProactive c material now counters reads).2.state.isEstablished = false := by
  obtain ⟨scheduled, hs⟩ : ∃ scheduled : Peer, scheduled =
      (if peer.state.isIdle ∧ peer.handshakeCandidateAttempts ≥ maxHandshakeCandidatesPerCycle then
        peer.scheduleHandshakeRetry now else peer) := ⟨_, rfl⟩
  have hidle : scheduled.state.isEstablished = false := by
    rw [hs]
    split
    next => rfl
    next => exact h
  unfold maintainProactive
  rw [← hs]
  dsimp only
  split
  next => exact hidle
  next =>
    split
    next =>
      split
      next => exact hidle
      next hbegin => exact beginClientHandshake_isEstablished hbegin
    next => exact hidle

/-- Without a session, maintenance brings none about. -/
theorem maintain_idle (h : peer.state.isEstablished = false) (now : Nat) (counters : HandshakeCounters)
    (reads : MaintainReads) :
    (peer.maintain c material now counters reads).2.state.isEstablished = false := by
  have hretry := @maintainRetry_idle c material (peer.pruneClientHelloCache now) h now counters
    reads.retry
  unfold maintain
  dsimp only
  split
  next heq =>
    rw [heq] at hretry
    exact hretry
  next _ counters retried heq =>
    rw [heq] at hretry
    have hsession : retried.maintainSession c now = (.ok [], retried) := by
      unfold maintainSession
      split
      next hstate => simp [hstate, PeerState.isEstablished] at hretry
      next => rfl
    have hprobe : retried.maintainPathProbe c now reads.probe =
        (.ok none, { retried with pendingPathProbe := none }) := by
      unfold maintainPathProbe
      rw [if_pos (by simpa using hretry)]
    rw [hsession]
    dsimp only
    rw [hprobe]
    dsimp only
    have hproactive := @maintainProactive_idle c material { retried with pendingPathProbe := none }
      hretry now counters reads.proactive
    split
    next heq =>
      rw [heq] at hproactive
      exact hproactive
    next heq =>
      rw [heq] at hproactive
      exact hproactive

theorem maintainPathProbe_isEstablished (now : Nat) (reads : ProbeReads) :
    (peer.maintainPathProbe c now reads).2.state.isEstablished = peer.state.isEstablished := by
  unfold maintainPathProbe
  split
  next => rfl
  next =>
    split
    next => split <;> rfl
    next =>
      split
      next => rfl
      next =>
        dsimp only
        split
        next => rfl
        next =>
          unfold createPathProbe
          split
          next hstate =>
            split
            next =>
              dsimp only
              split <;> simp [hstate, PeerState.isEstablished]
            next => rfl
          next => rfl

theorem maintainProactive_established (h : peer.state.isEstablished = true) (now : Nat)
    (counters : HandshakeCounters) (reads : HelloReads) :
    peer.maintainProactive c material now counters reads = (.ok ([], counters), peer) := by
  have hbusy : peer.state.isIdle = false := by
    cases hstate : peer.state <;> simp [hstate, PeerState.isEstablished, PeerState.isIdle] at h ⊢
  unfold maintainProactive
  simp only [hbusy, Bool.false_eq_true, false_and, if_false]
  split <;> rfl

/-- Under a session, maintenance is that of the session and of its probe. -/
theorem maintain_established (h : peer.state.isEstablished = true) (now : Nat)
    (counters : HandshakeCounters) (reads : MaintainReads) :
    ∃ established, (peer.maintain c material now counters reads).2 =
        { peer.pruneClientHelloCache now with state := .established established } ∨
      (peer.maintain c material now counters reads).2 =
        ({ peer.pruneClientHelloCache now with state := .established established }.maintainPathProbe c
          now reads.probe).2 := by
  obtain ⟨established, hstate⟩ : ∃ established, peer.state = .established established := by
    cases hstate : peer.state <;> simp [hstate, PeerState.isEstablished] at h ⊢
  have hretry : (peer.pruneClientHelloCache now).maintainRetry c material now counters reads.retry =
      (.ok ([], counters), peer.pruneClientHelloCache now) := by
    unfold maintainRetry
    rw [@pollPeerRetry_established (peer.pruneClientHelloCache now) h now]
  have hsession : ((peer.pruneClientHelloCache now).maintainSession c now).2 =
      { peer.pruneClientHelloCache now with
        state := .established (maintainEstablished c established now).2 } := by
    unfold maintainSession
    split
    next other hother =>
      have hsame : other = established := PeerState.established.inj (hother.symm.trans hstate)
      rw [hsame]
    next hother => exact absurd hstate (hother established)
  refine ⟨(maintainEstablished c established now).2, ?_⟩
  unfold maintain
  dsimp only
  rw [hretry]
  dsimp only
  split
  next heq =>
    rw [heq] at hsession
    exact Or.inl hsession
  next maintained heq =>
    rw [heq] at hsession
    have hkept := @maintainPathProbe_isEstablished c maintained now reads.probe
    have hestablished : maintained.state.isEstablished = true := by
      rw [show maintained = _ from hsession]
      rfl
    rw [hestablished] at hkept
    refine Or.inr ?_
    rw [← hsession]
    split
    next probed heq => rw [heq]
    next probe probed heq =>
      rw [heq] at hkept
      rw [heq, maintainProactive_established hkept]

theorem maintain_effect (now : Nat) (counters : HandshakeCounters) (reads : MaintainReads) :
    ProbeEffect c peer op (peer.maintain c material now counters reads).2 := by
  cases h : peer.state.isEstablished with
  | false => exact .ended (Or.inl (maintain_idle h now counters reads))
  | true =>
    obtain ⟨established, hmaintain | hmaintain⟩ :=
      @maintain_established c material peer h now counters reads
    · rw [hmaintain]
      exact .same h.symm rfl rfl rfl
    · rw [hmaintain]
      have heffect := @maintainPathProbe_effect c
        { peer.pruneClientHelloCache now with state := .established established } op now reads.probe
      cases heffect with
      | ended gone => exact .ended gone
      | kept session routes active probe => exact .kept (session.trans h.symm) routes active probe
      | created session candidates active none target =>
        exact .created (session.trans h.symm) candidates active none target
      | pruned op _ after candidates active probe => exact .pruned op h after candidates active probe
      | installed op finishes active reason probe => simp [finishesHandshake] at finishes

theorem forwardTun_effect (packet : Bytes) (routedPacket : Bool) (now : Nat) (reads : HelloReads) :
    ProbeEffect c peer op (peer.forwardTun c material packet routedPacket now reads).2 := by
  unfold forwardTun
  split
  next => exact .same rfl rfl rfl rfl
  next =>
    dsimp only
    split
    next established hstate =>
      split
      next => exact .same (by rw [hstate]; rfl) rfl rfl rfl
      next => exact .same (by rw [hstate]; rfl) rfl rfl rfl
    next hstate =>
      have hqueue : (peer.queuePacket packet routedPacket).2.state = peer.state ∧
          (peer.queuePacket packet routedPacket).2.candidates = peer.candidates ∧
          (peer.queuePacket packet routedPacket).2.activeEndpoint = peer.activeEndpoint ∧
          (peer.queuePacket packet routedPacket).2.pendingPathProbe = peer.pendingPathProbe := by
        unfold queuePacket
        split
        next => exact ⟨rfl, rfl, rfl, rfl⟩
        next => exact ⟨rfl, rfl, rfl, rfl⟩
      split
      next queued heq =>
        rw [heq] at hqueue
        obtain ⟨hsame, hcandidates, hactive, hprobe⟩ := hqueue
        exact .same (by rw [← hsame]) hcandidates hactive hprobe
      next queued heq =>
        rw [heq] at hqueue
        obtain ⟨hsame, hcandidates, hactive, hprobe⟩ := hqueue
        split
        next =>
          split
          next => exact .same (by rw [← hsame]) hcandidates hactive hprobe
          next hbegin => exact .ended (Or.inl (beginClientHandshake_isEstablished hbegin))
        next => exact .same (by rw [← hsame]) hcandidates hactive hprobe

theorem startManualPathProbe_effect (now : Nat) (reads : ProbeReads) :
    ProbeEffect c peer op (peer.startManualPathProbe c now reads).2 := by
  unfold startManualPathProbe
  split
  next => exact .same rfl rfl rfl rfl
  next endpoint hactive =>
    split
    next => exact .same rfl rfl rfl rfl
    next =>
      split
      next => exact .same rfl rfl rfl rfl
      next hfree =>
        have hnone : peer.pendingPathProbe = none := by
          cases hpending : peer.pendingPathProbe with
          | none => rfl
          | some pending => exact absurd (Or.inl (by rw [hpending]; rfl)) hfree
        have heffect := @createPathProbe_effect c peer op endpoint now reads hnone fun hmoves =>
          absurd hactive hmoves
        split
        next heq =>
          rw [heq] at heffect
          exact heffect
        next probed heq =>
          rw [heq] at heffect
          cases heffect with
          | ended gone => exact .ended gone
          | kept session routes active probe => exact .kept session routes active probe
          | created session candidates active none target =>
            exact .created session candidates active none target
          | pruned op before after candidates active probe =>
            exact .pruned op before after candidates active probe
          | installed op finishes active reason probe =>
            exact .installed op finishes active reason probe

theorem pruneExpiredCandidates_effect (now : Int) :
    ProbeEffect c peer (.pruneExpiredCandidates now) (peer.pruneExpiredCandidates now) := by
  unfold pruneExpiredCandidates
  dsimp only
  cases h : peer.state.isEstablished with
  | false => split <;> exact .ended (Or.inl h)
  | true =>
    rw [if_neg (by simp)]
    exact .pruned rfl h h rfl rfl rfl

theorem failRelayPath_effect (failedEndpoint : SocketAddr) (now : Nat) :
    ProbeEffect c peer op (peer.failRelayPath failedEndpoint now) := by
  unfold failRelayPath
  split
  next => exact .same rfl rfl rfl rfl
  next =>
    dsimp only
    split <;> exact .ended (Or.inr rfl)

/-- Candidates that are no change are the same routes. -/
theorem routes_of_unchanged : {current replacement : List EndpointCandidate} →
    candidateRoutesChanged current replacement = false →
      replacement.map EndpointCandidate.route = current.map EndpointCandidate.route
  | [], [], _ => rfl
  | [], _ :: _, h => by simp [candidateRoutesChanged] at h
  | _ :: _, [], h => by simp [candidateRoutesChanged] at h
  | candidate :: current, other :: replacement, h => by
    unfold candidateRoutesChanged at h
    obtain ⟨hlength, hroutes⟩ := Bool.or_eq_false_iff.mp h
    rw [List.zip_cons_cons, List.any_cons] at hroutes
    obtain ⟨hhead, htail⟩ := Bool.or_eq_false_iff.mp hroutes
    have hlength' : current.length = replacement.length := by simpa using hlength
    have hrest : candidateRoutesChanged current replacement = false := by
      unfold candidateRoutesChanged
      rw [htail, hlength']
      simp
    simp only [decide_eq_false_iff_not, not_or, not_not] at hhead
    obtain ⟨_, hendpoint, hpriority⟩ := hhead
    rw [List.map_cons, List.map_cons, routes_of_unchanged hrest]
    unfold EndpointCandidate.route
    rw [hendpoint, hpriority]

theorem applyConfiguration_effect (candidates : List EndpointCandidate) (policyChanged : Bool)
    (now : Nat) : ProbeEffect c peer op (peer.applyConfiguration candidates policyChanged now) := by
  obtain ⟨cleared, hc⟩ : ∃ cleared : Peer,
    cleared = (if policyChanged then peer.clearQueue else peer) := ⟨_, rfl⟩
  unfold applyConfiguration
  rw [← hc]
  dsimp only
  cases h : cleared.state.isEstablished with
  | false =>
    have hreplaced : (cleared.replaceCandidates candidates now).state.isEstablished = false := by
      unfold replaceCandidates
      dsimp only
      split
      next => split <;> first | rfl | exact h
      next => exact h
    split
    next => exact .ended (Or.inl hreplaced)
    next => exact .ended (Or.inl hreplaced)
  | true =>
    have hcleared : cleared = peer := by
      cases policyChanged with
      | true =>
        rw [hc] at h
        simp [clearQueue, PeerState.isEstablished] at h
      | false => exact hc
    have hreplaced : (cleared.replaceCandidates candidates now).state.isEstablished = true := by
      unfold replaceCandidates
      dsimp only
      split
      next => split <;> simp_all
      next => exact h
    rw [if_neg (by simp [hreplaced]), hcleared]
    rw [hcleared] at h
    unfold replaceCandidates
    dsimp only
    cases hchanged : candidateRoutesChanged peer.candidates candidates with
    | true =>
      rw [if_pos rfl, if_neg (by simp [h])]
      exact .ended (Or.inr rfl)
    | false =>
      rw [if_neg (by simp)]
      exact .kept rfl (routes_of_unchanged hchanged) rfl (.refl _)

/-- The effect of every call. -/
theorem apply_effect (op : PeerOp) : ProbeEffect c peer op (peer.apply c material op).2 := by
  cases op with
  | datagram source packet now allowRoutedData throughRelay reads =>
    exact datagram_effect source packet now allowRoutedData throughRelay reads
  | maintain now counters reads => exact maintain_effect now counters reads
  | forwardTun packet routedPacket now reads => exact forwardTun_effect packet routedPacket now reads
  | startManualPathProbe now reads => exact startManualPathProbe_effect now reads
  | manualPathProbeUnsent => exact .ended (Or.inr rfl)
  | pruneExpiredCandidates now => exact pruneExpiredCandidates_effect now
  | applyConfiguration candidates policyChanged now =>
    exact applyConfiguration_effect candidates policyChanged now
  | failRelayPath failedEndpoint now => exact failRelayPath_effect failedEndpoint now

end Peer

end Effects

end XsNexus
