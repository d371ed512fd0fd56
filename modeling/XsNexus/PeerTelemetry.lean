import XsNexus.TelemetryTotals

namespace XsNexus

open ByteCodec Checks MachineWords

namespace Peer

/-- One more attempt to reach a peer, and nothing less of the rest. -/
theorem attempted_telemetry (peer : Peer) :
    peer.telemetry ≤ { peer with
      handshakeAttemptsTotal := u64SaturatingAdd peer.handshakeAttemptsTotal 1 : Peer }.telemetry :=
  ⟨UInt64.le_refl _, UInt64.le_refl _, le_u64SaturatingAdd _ 1, UInt64.le_refl _, UInt64.le_refl _,
    UInt64.le_refl _⟩

theorem countReceived_telemetry (peer : Peer) (plaintext : Bytes) :
    peer.telemetry ≤ (peer.countReceived plaintext).telemetry :=
  ⟨UInt64.le_refl _, le_u64SaturatingAdd _ _, UInt64.le_refl _, UInt64.le_refl _, UInt64.le_refl _,
    UInt64.le_refl _⟩

theorem beginClientHandshake_telemetry {c : Crypto} {material : LocalMaterial} {peer peer' : Peer}
    {now : Nat} {reads : HelloReads} {encoded : Bytes}
    (h : peer.beginClientHandshake c material now reads = .ok (encoded, peer')) :
    peer.telemetry ≤ peer'.telemetry := by
  unfold beginClientHandshake at h
  split at h
  next => simp at h
  next =>
    dsimp only at h
    split at h
    next => simp at h
    next =>
      cases Except.ok.inj h
      exact attempted_telemetry peer

theorem pollPeerRetry_telemetry (peer : Peer) (now : Nat) :
    (peer.pollPeerRetry now).2.telemetry = peer.telemetry := by
  unfold pollPeerRetry
  split
  next => split <;> rfl
  next => split <;> rfl
  next => split <;> rfl
  next => rfl

theorem advanceHandshakeCandidate_telemetry (peer : Peer) :
    peer.advanceHandshakeCandidate.2.telemetry = peer.telemetry := by
  unfold advanceHandshakeCandidate
  split
  next => rfl
  next =>
    dsimp only
    split <;> rfl

theorem createPathProbe_telemetry (c : Crypto) (peer : Peer) (endpoint : SocketAddr) (now : Nat)
    (reads : ProbeReads) : (peer.createPathProbe c endpoint now reads).2.telemetry = peer.telemetry := by
  unfold createPathProbe
  split
  next =>
    split
    next =>
      dsimp only
      split <;> rfl
    next => rfl
  next => rfl

theorem maintainPathProbe_telemetry (c : Crypto) (peer : Peer) (now : Nat) (reads : ProbeReads) :
    (peer.maintainPathProbe c now reads).2.telemetry = peer.telemetry := by
  unfold maintainPathProbe
  split
  next => rfl
  next =>
    split
    next => split <;> rfl
    next =>
      split
      next => rfl
      next =>
        dsimp only
        split
        next => rfl
        next endpoint _ => exact createPathProbe_telemetry c peer endpoint now reads

theorem maintainRetry_telemetry (c : Crypto) (material : LocalMaterial) (peer : Peer) (now : Nat)
    (counters : HandshakeCounters) (reads : HelloReads) :
    peer.telemetry ≤ (peer.maintainRetry c material now counters reads).2.telemetry := by
  have hpoll := pollPeerRetry_telemetry peer now
  unfold maintainRetry
  split
  next polled heq =>
    rw [heq] at hpoll
    exact hpoll.ge
  next encoded polled heq =>
    rw [heq] at hpoll
    exact hpoll.ge
  next polled heq =>
    rw [heq] at hpoll
    have hadvance := advanceHandshakeCandidate_telemetry polled
    split
    next advanced hadv =>
      rw [hadv] at hadvance
      have hreached : advanced.telemetry = peer.telemetry := hadvance.trans hpoll
      split
      next => exact hreached.ge
      next =>
        split
        next => exact hreached.ge
        next encoded begun hbegin => exact hreached.ge.trans (beginClientHandshake_telemetry hbegin)
    next advanced hadv =>
      rw [hadv] at hadvance
      exact (hadvance.trans hpoll).ge

theorem maintainSession_telemetry (c : Crypto) (peer : Peer) (now : Nat) :
    (peer.maintainSession c now).2.telemetry = peer.telemetry := by
  unfold maintainSession
  split <;> rfl

theorem maintainProactive_telemetry (c : Crypto) (material : LocalMaterial) (peer : Peer) (now : Nat)
    (counters : HandshakeCounters) (reads : HelloReads) :
    peer.telemetry ≤ (peer.maintainProactive c material now counters reads).2.telemetry := by
  obtain ⟨scheduled, hs⟩ : ∃ scheduled : Peer, scheduled =
      (if peer.state.isIdle ∧ peer.handshakeCandidateAttempts ≥ maxHandshakeCandidatesPerCycle then
        peer.scheduleHandshakeRetry now else peer) := ⟨_, rfl⟩
  have hkept : scheduled.telemetry = peer.telemetry := by
    rw [hs]
    split <;> rfl
  unfold maintainProactive
  rw [← hs]
  dsimp only
  split
  next => exact hkept.ge
  next =>
    split
    next =>
      split
      next => exact hkept.ge
      next encoded begun hbegin => exact hkept.ge.trans (beginClientHandshake_telemetry hbegin)
    next => exact hkept.ge

theorem maintain_telemetry (c : Crypto) (material : LocalMaterial) (peer : Peer) (now : Nat)
    (counters : HandshakeCounters) (reads : MaintainReads) :
    peer.telemetry ≤ (peer.maintain c material now counters reads).2.telemetry := by
  unfold maintain
  dsimp only
  have hretry : peer.telemetry ≤ ((peer.pruneClientHelloCache now).maintainRetry c material now
      counters reads.retry).2.telemetry :=
    maintainRetry_telemetry c material (peer.pruneClientHelloCache now) now counters reads.retry
  split
  next retried heq =>
    rw [heq] at hretry
    exact hretry
  next sent counters retried heq =>
    rw [heq] at hretry
    have hsession := maintainSession_telemetry c retried now
    split
    next maintained heq =>
      rw [heq] at hsession
      exact hretry.trans hsession.ge
    next _ maintained heq =>
      rw [heq] at hsession
      have hprobe := maintainPathProbe_telemetry c maintained now reads.probe
      split
      next probed heq =>
        rw [heq] at hprobe
        exact hretry.trans (hprobe.trans hsession).ge
      next _ probed heq =>
        rw [heq] at hprobe
        have hreached : peer.telemetry ≤ probed.telemetry := hretry.trans (hprobe.trans hsession).ge
        have hproactive := maintainProactive_telemetry c material probed now counters reads.proactive
        split
        next started heq =>
          rw [heq] at hproactive
          exact hreached.trans hproactive
        next _ _ started heq =>
          rw [heq] at hproactive
          exact hreached.trans hproactive

theorem queuePacket_telemetry (peer : Peer) (packet : Bytes) (routedPacket : Bool) :
    (peer.queuePacket packet routedPacket).2.telemetry = peer.telemetry := by
  unfold queuePacket
  split <;> rfl

theorem forwardTun_telemetry (c : Crypto) (material : LocalMaterial) (peer : Peer) (packet : Bytes)
    (routedPacket : Bool) (now : Nat) (reads : HelloReads) :
    peer.telemetry ≤ (peer.forwardTun c material packet routedPacket now reads).2.telemetry := by
  have hsent : ∀ counted : Peer, counted.telemetry = peer.telemetry →
      peer.telemetry ≤ { counted with
        txPacketsTotal := u64SaturatingAdd counted.txPacketsTotal 1
        txBytesTotal := u64SaturatingAdd counted.txBytesTotal
          ((u64TryFrom packet.length).getD u64Max) : Peer }.telemetry := by
    intro counted heq
    rw [← heq]
    exact ⟨le_u64SaturatingAdd _ _, UInt64.le_refl _, UInt64.le_refl _, UInt64.le_refl _,
      UInt64.le_refl _, UInt64.le_refl _⟩
  unfold forwardTun
  split
  next => exact le_refl _
  next =>
    dsimp only
    split
    next established _ =>
      split
      next => exact le_refl _
      next => exact hsent { peer with state := _ } rfl
    next =>
      have hqueue := queuePacket_telemetry peer packet routedPacket
      split
      next queued heq =>
        rw [heq] at hqueue
        exact hqueue.ge
      next queued heq =>
        rw [heq] at hqueue
        split
        next =>
          split
          next => exact hsent queued hqueue
          next outbound begun hbegin =>
            exact (hsent queued hqueue).trans (beginClientHandshake_telemetry hbegin)
        next => exact hsent queued hqueue

theorem startManualPathProbe_telemetry (c : Crypto) (peer : Peer) (now : Nat) (reads : ProbeReads) :
    (peer.startManualPathProbe c now reads).2.telemetry = peer.telemetry := by
  unfold startManualPathProbe
  split
  next => rfl
  next endpoint _ =>
    have hprobe := createPathProbe_telemetry c peer endpoint now reads
    split
    next => rfl
    next =>
      split
      next => rfl
      next =>
        split
        next _ probed heq =>
          rw [heq] at hprobe
          exact hprobe
        next _ probed heq =>
          rw [heq] at hprobe
          exact hprobe

theorem pruneExpiredCandidates_telemetry (peer : Peer) (now : Int) :
    (peer.pruneExpiredCandidates now).telemetry = peer.telemetry := by
  unfold pruneExpiredCandidates
  dsimp only
  split <;> rfl

theorem replaceCandidates_telemetry (peer : Peer) (candidates : List EndpointCandidate) (now : Nat) :
    (peer.replaceCandidates candidates now).telemetry = peer.telemetry := by
  unfold replaceCandidates
  dsimp only
  split
  next => split <;> rfl
  next => rfl

/-- An update that keeps a peer keeps its counters as they are. -/
theorem applyConfiguration_telemetry (peer : Peer) (candidates : List EndpointCandidate)
    (policyChanged : Bool) (now : Nat) :
    (peer.applyConfiguration candidates policyChanged now).telemetry = peer.telemetry := by
  obtain ⟨cleared, hc⟩ : ∃ cleared : Peer,
    cleared = (if policyChanged then peer.clearQueue else peer) := ⟨_, rfl⟩
  have hcleared : cleared.telemetry = peer.telemetry := by
    rw [hc]
    split <;> rfl
  have hreplaced : (cleared.replaceCandidates candidates now).telemetry = peer.telemetry :=
    (replaceCandidates_telemetry cleared candidates now).trans hcleared
  unfold applyConfiguration
  rw [← hc]
  dsimp only
  split
  next => exact hreplaced
  next => exact hreplaced

theorem failRelayPath_telemetry (peer : Peer) (failedEndpoint : SocketAddr) (now : Nat) :
    (peer.failRelayPath failedEndpoint now).telemetry = peer.telemetry := by
  unfold failRelayPath
  split
  next => rfl
  next =>
    dsimp only
    split <;> rfl

theorem failRelayPaths_telemetry (peer : Peer) (failedEndpoints : List SocketAddr) (now : Nat) :
    (peer.failRelayPaths failedEndpoints now).telemetry = peer.telemetry := by
  induction failedEndpoints generalizing peer with
  | nil => rfl
  | cons endpoint failedEndpoints ih =>
    exact (ih (peer.failRelayPath endpoint now)).trans (failRelayPath_telemetry peer endpoint now)

theorem installSession_telemetry (c : Crypto) (peer : Peer) (session : EstablishedSession)
    (instant : Nat) : peer.telemetry ≤ (peer.installSession c session instant).2.telemetry := by
  obtain ⟨_, _, h⟩ | ⟨_, _, _, _, _, _, _, _, _, h⟩ :=
    installSession_cases (Prod.mk.eta (p := peer.installSession c session instant)).symm
  · rw [h]
    exact le_refl peer.telemetry
  · rw [h]
    exact ⟨UInt64.le_refl _, UInt64.le_refl _, UInt64.le_refl _, le_u64SaturatingAdd _ 1,
      UInt64.le_refl _, UInt64.le_refl _⟩

theorem completePathProbe_telemetry (peer : Peer) (pending : PendingPathProbe) (source : SocketAddr)
    (now : Nat) : peer.telemetry ≤ (peer.completePathProbe pending source now).telemetry := by
  unfold completePathProbe
  dsimp only
  split <;> exact ⟨UInt64.le_refl _, UInt64.le_refl _, UInt64.le_refl _, UInt64.le_refl _,
    le_u64SaturatingAdd _ _, le_u64SaturatingAdd _ _⟩

theorem processDatagram_telemetry (c : Crypto) (material : LocalMaterial) (peer : Peer)
    (source : SocketAddr) (datagram : Bytes) (now : Nat) (allowRoutedData : Bool)
    (reads : DatagramReads) : peer.telemetry ≤
      (peer.processDatagram c material source datagram now allowRoutedData reads).2.telemetry := by
  obtain ⟨result, peer', hprocess⟩ : ∃ result peer', peer.processDatagram c material source datagram
    now allowRoutedData reads = (result, peer') := ⟨_, _, rfl⟩
  rw [hprocess]
  rcases processDatagram_cases hprocess with ⟨_, h⟩ | ⟨_, h⟩ | ⟨_, h⟩ | ⟨_, h⟩ | ⟨_, h | ⟨_, h⟩⟩
  · obtain ⟨_, _, _, h⟩ | ⟨_, _, h⟩ | ⟨machine, _, _, _, _, h⟩ := handleClientHello_cases h
    · rw [h]
    · rw [h]
      exact le_refl peer.telemetry
    · rw [h]
      exact attempted_telemetry peer
  · obtain ⟨_, _, _, h⟩ | ⟨_, _, _, _, _, _, _, h⟩ | ⟨_, _, _, h | ⟨_, h⟩⟩ | ⟨_, _, _, h⟩ :=
      handleServerHello_cases h
    all_goals
      subst h
      exact TelemetryCounters.le_refl _
  · obtain ⟨_, session, _, _, _, _, _, h⟩ | ⟨_, _, _, h⟩ | ⟨_, _, h⟩ := handleClientFinish_cases h
    · rw [h]
      exact installSession_telemetry c { peer with state := .idle } session reads.instant
    · rw [h]
      exact le_refl peer.telemetry
    · rw [h]
  · obtain ⟨_, session, _, _, _, _, h⟩ | ⟨_, _, _, h⟩ | ⟨_, _, h⟩ := handleServerFinish_cases h
    · rw [h]
      exact installSession_telemetry c { peer with state := .idle } session reads.instant
    · rw [h]
      exact le_refl peer.telemetry
    · rw [h]
  · obtain ⟨_, _, h⟩ | ⟨_, _, _, _, h⟩ | ⟨_, _, _, established, _, _, h | ⟨pending, _, _, _, h⟩, _⟩ :=
      handleData_cases h
    · rw [h]
    · rw [h]
    · rw [h]
      exact le_refl peer.telemetry
    · rw [h]
      exact completePathProbe_telemetry { peer with state := .established established } pending source
        now
  · rw [h]

theorem receive_telemetry (c : Crypto) (material : LocalMaterial) (peer : Peer) (source : SocketAddr)
    (packet : Bytes) (now : Nat) (allowRoutedData throughRelay : Bool) (reads : DatagramReads) :
    peer.telemetry ≤ (peer.receive c material source packet now allowRoutedData throughRelay
      reads).2.telemetry := by
  have hprocessed :=
    processDatagram_telemetry c material peer source packet now allowRoutedData reads
  unfold receive
  dsimp only
  split
  next => exact hprocessed
  next => exact hprocessed

/-- No call lets a counter of a peer go back. -/
theorem apply_telemetry (c : Crypto) (material : LocalMaterial) (peer : Peer) (op : PeerOp) :
    peer.telemetry ≤ (peer.apply c material op).2.telemetry := by
  cases op with
  | datagram source packet now allowRoutedData throughRelay reads =>
    exact receive_telemetry c material peer source packet now allowRoutedData throughRelay reads
  | maintain now counters reads => exact maintain_telemetry c material peer now counters reads
  | forwardTun packet routedPacket now reads =>
    exact forwardTun_telemetry c material peer packet routedPacket now reads
  | startManualPathProbe now reads => exact (startManualPathProbe_telemetry c peer now reads).ge
  | manualPathProbeUnsent => exact le_refl peer.telemetry
  | pruneExpiredCandidates now => exact (pruneExpiredCandidates_telemetry peer now).ge
  | applyConfiguration candidates policyChanged now =>
    exact (applyConfiguration_telemetry peer candidates policyChanged now).ge
  | failRelayPath failedEndpoint now => exact (failRelayPath_telemetry peer failedEndpoint now).ge

end Peer

end XsNexus
