import XsNexus.PeerSteps
import XsNexus.PeerUpkeep

namespace XsNexus

open ByteCodec

/-- The calls through which the data plane reaches one peer. -/
inductive PeerOp
  | datagram (source : SocketAddr) (packet : Bytes) (now : Nat) (allowRoutedData throughRelay : Bool)
      (reads : DatagramReads)
  | maintain (now : Nat) (counters : HandshakeCounters) (reads : MaintainReads)
  | forwardTun (packet : Bytes) (routedPacket : Bool) (now : Nat) (reads : HelloReads)
  | startManualPathProbe (now : Nat) (reads : ProbeReads)
  | manualPathProbeUnsent
  | pruneExpiredCandidates (now : Int)
  | applyConfiguration (candidates : List EndpointCandidate) (policyChanged : Bool) (now : Nat)
  | failRelayPath (failedEndpoint : SocketAddr) (now : Nat)
deriving DecidableEq

inductive PeerOutput
  | processed (result : ProcessResult)
  | maintained (outcome : Except AgentError (List Transmission × HandshakeCounters))
  | forwarded (outcome : Except AgentError ForwardOutcome)
  | probed (outcome : Except Peer.ManualProbeError Transmission)
  | done

/-- The reading of the monotonic clock a call starts from. -/
def PeerOp.instant : PeerOp → Option Nat
  | datagram _ _ now _ _ _ => some now
  | maintain now _ _ => some now
  | forwardTun _ _ now _ => some now
  | startManualPathProbe now _ => some now
  | manualPathProbeUnsent => none
  | pruneExpiredCandidates _ => none
  | applyConfiguration _ _ now => some now
  | failRelayPath _ now => some now

/-- The `ServerHello` a peer waits with. -/
def PeerState.waitingHello : PeerState → Option Bytes
  | serverHello pending => some pending.retry.encoded
  | _ => none

namespace Peer

/-- What is left of a peer's memory: the requests it has seen, and nothing more in its queue. -/
structure Remembers (peer peer' : Peer) : Prop where
  recentClientHellos : peer'.recentClientHellos = peer.recentClientHellos
  queuedPackets : peer'.queuedPackets ⊆ peer.queuedPackets

namespace Remembers

variable {peer peer' peer'' : Peer}

/-- Nothing of it has changed. -/
theorem same (hhellos : peer'.recentClientHellos = peer.recentClientHellos)
    (hqueue : peer'.queuedPackets = peer.queuedPackets) : Remembers peer peer' :=
  ⟨hhellos, fun _ hq => hqueue ▸ hq⟩

theorem trans (h : Remembers peer peer') (h' : Remembers peer' peer'') : Remembers peer peer'' :=
  ⟨h'.recentClientHellos.trans h.recentClientHellos,
    fun _ hq => h.queuedPackets (h'.queuedPackets hq)⟩

/-- The queue may be given up at any time. -/
theorem emptied (hhellos : peer'.recentClientHellos = peer.recentClientHellos)
    (hempty : peer'.queuedPackets = []) : Remembers peer peer' := by
  refine ⟨hhellos, ?_⟩
  rw [hempty]
  exact List.nil_subset _

end Remembers

/-- The queue stays as it is, with no session that was not there before, or all of it goes. -/
def QueueKept (peer peer' : Peer) : Prop :=
  (peer'.queuedPackets = peer.queuedPackets ∧ peer'.queuedBytes = peer.queuedBytes ∧
      (peer'.state.isEstablished = true → peer.state.isEstablished = true)) ∨
    (peer'.queuedPackets = [] ∧ peer'.queuedBytes = 0)

theorem QueueKept.trans {peer peer' peer'' : Peer} (h : QueueKept peer peer')
    (h' : QueueKept peer' peer'') : QueueKept peer peer'' := by
  rcases h' with ⟨hpackets, hbytes, hsession⟩ | hempty
  · rcases h with ⟨hpackets', hbytes', hsession'⟩ | ⟨hpackets', hbytes'⟩
    · exact Or.inl ⟨hpackets.trans hpackets', hbytes.trans hbytes', fun hh => hsession' (hsession hh)⟩
    · exact Or.inr ⟨hpackets.trans hpackets', hbytes.trans hbytes'⟩
  · exact Or.inr hempty

/-- The requests a peer has seen stay, its queue is kept, and so is the `ServerHello` it waits with
unless it waits no longer. -/
structure Keeps (peer peer' : Peer) : Prop where
  recentClientHellos : peer'.recentClientHellos = peer.recentClientHellos
  queue : QueueKept peer peer'
  waiting : peer'.state.waitingHello = none ∨ peer'.state.waitingHello = peer.state.waitingHello

namespace Keeps

variable {peer peer' peer'' : Peer}

/-- Nothing of it has changed, nor the state. -/
theorem same (hhellos : peer'.recentClientHellos = peer.recentClientHellos)
    (hpackets : peer'.queuedPackets = peer.queuedPackets) (hbytes : peer'.queuedBytes = peer.queuedBytes)
    (hstate : peer'.state = peer.state) : Keeps peer peer' :=
  ⟨hhellos, Or.inl ⟨hpackets, hbytes, fun hsession => hstate ▸ hsession⟩,
    Or.inr (congrArg PeerState.waitingHello hstate)⟩

/-- The state is no session. -/
theorem between (hhellos : peer'.recentClientHellos = peer.recentClientHellos)
    (hpackets : peer'.queuedPackets = peer.queuedPackets) (hbytes : peer'.queuedBytes = peer.queuedBytes)
    (hstate : peer'.state.isEstablished = false)
    (hwaiting : peer'.state.waitingHello = none ∨
      peer'.state.waitingHello = peer.state.waitingHello) : Keeps peer peer' :=
  ⟨hhellos, Or.inl ⟨hpackets, hbytes, fun hsession => absurd (hstate.symm.trans hsession) (by decide)⟩,
    hwaiting⟩

theorem session (hhellos : peer'.recentClientHellos = peer.recentClientHellos)
    (hpackets : peer'.queuedPackets = peer.queuedPackets) (hbytes : peer'.queuedBytes = peer.queuedBytes)
    (hsession : peer.state.isEstablished = true)
    (hwaiting : peer'.state.waitingHello = none) : Keeps peer peer' :=
  ⟨hhellos, Or.inl ⟨hpackets, hbytes, fun _ => hsession⟩, Or.inl hwaiting⟩

theorem emptied (hhellos : peer'.recentClientHellos = peer.recentClientHellos)
    (hpackets : peer'.queuedPackets = []) (hbytes : peer'.queuedBytes = 0)
    (hwaiting : peer'.state.waitingHello = none) : Keeps peer peer' :=
  ⟨hhellos, Or.inr ⟨hpackets, hbytes⟩, Or.inl hwaiting⟩

theorem trans (h : Keeps peer peer') (h' : Keeps peer' peer'') : Keeps peer peer'' := by
  refine ⟨h'.recentClientHellos.trans h.recentClientHellos, h.queue.trans h'.queue, ?_⟩
  rcases h'.waiting with hgone | hsame
  · exact Or.inl hgone
  · rw [hsame]
    exact h.waiting

theorem remembers (h : Keeps peer peer') : Remembers peer peer' := by
  refine ⟨h.recentClientHellos, ?_⟩
  rcases h.queue with ⟨hpackets, _⟩ | ⟨hpackets, _⟩
  · rw [hpackets]
    exact List.Subset.refl _
  · rw [hpackets]
    exact List.nil_subset _

end Keeps

def apply (c : Crypto) (material : LocalMaterial) (peer : Peer) : PeerOp → PeerOutput × Peer
  | .datagram source packet now allowRoutedData throughRelay reads =>
    Prod.map .processed id
      (peer.receive c material source packet now allowRoutedData throughRelay reads)
  | .maintain now counters reads =>
    Prod.map .maintained id (peer.maintain c material now counters reads)
  | .forwardTun packet routedPacket now reads =>
    Prod.map .forwarded id (peer.forwardTun c material packet routedPacket now reads)
  | .startManualPathProbe now reads => Prod.map .probed id (peer.startManualPathProbe c now reads)
  | .manualPathProbeUnsent => (.done, peer.manualPathProbeUnsent)
  | .pruneExpiredCandidates now => (.done, peer.pruneExpiredCandidates now)
  | .applyConfiguration candidates policyChanged now =>
    (.done, peer.applyConfiguration candidates policyChanged now)
  | .failRelayPath failedEndpoint now => (.done, peer.failRelayPath failedEndpoint now)

theorem beginClientHandshake_keepsQueue {c : Crypto} {material : LocalMaterial}
    {peer peer' : Peer} {now : Nat} {reads : HelloReads} {encoded : Bytes}
    (h : peer.beginClientHandshake c material now reads = .ok (encoded, peer')) :
    Keeps peer peer' := by
  unfold beginClientHandshake at h
  split at h
  next => simp at h
  next =>
    dsimp only at h
    split at h
    next => simp at h
    next =>
      cases Except.ok.inj h
      exact .between rfl rfl rfl rfl (Or.inl rfl)

theorem pollPeerRetry_keepsQueue (peer : Peer) (now : Nat) :
    Keeps peer (peer.pollPeerRetry now).2 := by
  unfold pollPeerRetry
  split
  next => split <;> exact .between rfl rfl rfl rfl (Or.inl rfl)
  next => split <;> exact .between rfl rfl rfl rfl (Or.inl rfl)
  next pending hstate =>
    have hkept := (poll_encoded pending.retry now).1
    split
    next => exact .between rfl rfl rfl rfl (Or.inl rfl)
    next _ retry hpoll =>
      rw [hpoll] at hkept
      refine .between rfl rfl rfl rfl (Or.inr ?_)
      rw [hstate]
      exact congrArg some hkept
  next => exact .same rfl rfl rfl rfl

theorem advanceHandshakeCandidate_keepsQueue (peer : Peer) :
    Keeps peer peer.advanceHandshakeCandidate.2 := by
  unfold advanceHandshakeCandidate
  split
  next => exact .same rfl rfl rfl rfl
  next =>
    dsimp only
    split
    next => exact .same rfl rfl rfl rfl
    next => exact .between rfl rfl rfl rfl (Or.inl rfl)

theorem scheduleHandshakeRetry_keepsQueue (peer : Peer) (now : Nat) :
    Keeps peer (peer.scheduleHandshakeRetry now) := .emptied rfl rfl rfl rfl

theorem createPathProbe_keepsQueue (c : Crypto) (peer : Peer) (endpoint : SocketAddr)
    (now : Nat) (reads : ProbeReads) :
    Keeps peer (peer.createPathProbe c endpoint now reads).2 := by
  unfold createPathProbe
  split
  next established hstate =>
    have hsession : peer.state.isEstablished = true := by
      rw [hstate]
      rfl
    split
    next =>
      dsimp only
      split <;> exact .session rfl rfl rfl hsession rfl
    next => exact .same rfl rfl rfl rfl
  next => exact .same rfl rfl rfl rfl

theorem maintainPathProbe_keepsQueue (c : Crypto) (peer : Peer) (now : Nat)
    (reads : ProbeReads) : Keeps peer (peer.maintainPathProbe c now reads).2 := by
  unfold maintainPathProbe
  split
  next => exact .same rfl rfl rfl rfl
  next =>
    split
    next => split <;> exact .same rfl rfl rfl rfl
    next =>
      split
      next => exact .same rfl rfl rfl rfl
      next =>
        dsimp only
        split
        next => exact .same rfl rfl rfl rfl
        next endpoint _ => exact createPathProbe_keepsQueue c peer endpoint now reads

theorem maintainRetry_keepsQueue (c : Crypto) (material : LocalMaterial) (peer : Peer)
    (now : Nat) (counters : HandshakeCounters) (reads : HelloReads) :
    Keeps peer (peer.maintainRetry c material now counters reads).2 := by
  have hpoll := pollPeerRetry_keepsQueue peer now
  unfold maintainRetry
  split
  next polled heq =>
    rw [heq] at hpoll
    exact hpoll
  next encoded polled heq =>
    rw [heq] at hpoll
    exact hpoll
  next polled heq =>
    rw [heq] at hpoll
    have hadvance := advanceHandshakeCandidate_keepsQueue polled
    split
    next advanced hadv =>
      rw [hadv] at hadvance
      split
      next => exact hpoll.trans hadvance
      next =>
        split
        next => exact hpoll.trans hadvance
        next encoded begun hbegin =>
          exact (hpoll.trans hadvance).trans (beginClientHandshake_keepsQueue hbegin)
    next advanced hadv =>
      rw [hadv] at hadvance
      exact (hpoll.trans hadvance).trans (scheduleHandshakeRetry_keepsQueue advanced now)

theorem maintainSession_keepsQueue (c : Crypto) (peer : Peer) (now : Nat) :
    Keeps peer (peer.maintainSession c now).2 := by
  unfold maintainSession
  split
  next established hstate =>
    have hsession : peer.state.isEstablished = true := by
      rw [hstate]
      rfl
    exact .session rfl rfl rfl hsession rfl
  next => exact .same rfl rfl rfl rfl

theorem maintainProactive_keepsQueue (c : Crypto) (material : LocalMaterial) (peer : Peer)
    (now : Nat) (counters : HandshakeCounters) (reads : HelloReads) :
    Keeps peer (peer.maintainProactive c material now counters reads).2 := by
  obtain ⟨scheduled, hs⟩ : ∃ scheduled : Peer, scheduled =
      (if peer.state.isIdle ∧ peer.handshakeCandidateAttempts ≥ maxHandshakeCandidatesPerCycle then
        peer.scheduleHandshakeRetry now else peer) := ⟨_, rfl⟩
  have hkept : Keeps peer scheduled := by
    rw [hs]
    split
    next => exact scheduleHandshakeRetry_keepsQueue peer now
    next => exact .same rfl rfl rfl rfl
  unfold maintainProactive
  rw [← hs]
  dsimp only
  split
  next => exact hkept
  next =>
    split
    next =>
      split
      next => exact hkept
      next encoded begun hbegin =>
        exact hkept.trans (beginClientHandshake_keepsQueue hbegin)
    next => exact hkept

/-- Maintenance prunes the cache of requests, also where it fails, and does nothing else to it. -/
theorem maintain_keepsQueue (c : Crypto) (material : LocalMaterial) (peer : Peer) (now : Nat)
    (counters : HandshakeCounters) (reads : MaintainReads) :
    Keeps (peer.pruneClientHelloCache now) (peer.maintain c material now counters reads).2 := by
  unfold maintain
  dsimp only
  have hretry := maintainRetry_keepsQueue c material (peer.pruneClientHelloCache now) now
    counters reads.retry
  split
  next retried heq =>
    rw [heq] at hretry
    exact hretry
  next sent counters retried heq =>
    rw [heq] at hretry
    have hsession := maintainSession_keepsQueue c retried now
    split
    next maintained heq =>
      rw [heq] at hsession
      exact hretry.trans hsession
    next _ maintained heq =>
      rw [heq] at hsession
      have hprobe := maintainPathProbe_keepsQueue c maintained now reads.probe
      split
      next probed heq =>
        rw [heq] at hprobe
        exact (hretry.trans hsession).trans hprobe
      next _ probed heq =>
        rw [heq] at hprobe
        have hproactive := maintainProactive_keepsQueue c material probed now counters
          reads.proactive
        split
        next started heq =>
          rw [heq] at hproactive
          exact ((hretry.trans hsession).trans hprobe).trans hproactive
        next _ _ started heq =>
          rw [heq] at hproactive
          exact ((hretry.trans hsession).trans hprobe).trans hproactive

/-- A packet of the TUN is at most added to the queue, where the peer has a path and no session. -/
theorem forwardTun_keepsQueue (c : Crypto) (material : LocalMaterial) (peer : Peer)
    (packet : Bytes) (routedPacket : Bool) (now : Nat) (reads : HelloReads) :
    (¬(peer.state.isEstablished = false ∧ peer.activeEndpoint ≠ none ∧
        (peer.queuePacket packet routedPacket).1 = true) ∧
      Keeps peer (peer.forwardTun c material packet routedPacket now reads).2) ∨
      (peer.state.isEstablished = false ∧ peer.activeEndpoint ≠ none ∧ ∃ queued,
        peer.queuePacket packet routedPacket = (true, queued) ∧
        Keeps queued (peer.forwardTun c material packet routedPacket now reads).2) := by
  unfold forwardTun
  split
  next hpath => exact Or.inl ⟨fun h => h.2.1 hpath.2, .same rfl rfl rfl rfl⟩
  next hpath =>
    dsimp only
    split
    next established hstate =>
      have hsession : peer.state.isEstablished = true := by
        rw [hstate]
        rfl
      refine Or.inl ⟨fun h => absurd (h.1.symm.trans hsession) (by decide), ?_⟩
      split
      next => exact .session rfl rfl rfl hsession rfl
      next => exact .session rfl rfl rfl hsession rfl
    next hstate =>
      have hnone : peer.state.isEstablished = false := by
        cases hs : peer.state with
        | established established => exact absurd hs (hstate established)
        | idle | clientHello | clientFinish | serverHello => rfl
      have hendpoint : peer.activeEndpoint ≠ none := fun hnothing =>
        hpath ⟨by rw [hnone]; rfl, hnothing⟩
      split
      next queued heq =>
        have hrefused : (peer.queuePacket packet routedPacket).1 = false := by
          rw [heq]
        refine Or.inl ⟨fun h => absurd (hrefused.symm.trans h.2.2) (by decide), ?_⟩
        unfold queuePacket at heq
        split at heq
        next =>
          cases heq
          exact .same rfl rfl rfl rfl
        next => simp at heq
      next queued heq =>
        refine Or.inr ⟨hnone, hendpoint, queued, heq, ?_⟩
        split
        next =>
          split
          next => exact .same rfl rfl rfl rfl
          next outbound begun hbegin =>
            have hcounted : Keeps queued { queued with
                txPacketsTotal := MachineWords.u64SaturatingAdd queued.txPacketsTotal 1
                txBytesTotal := MachineWords.u64SaturatingAdd queued.txBytesTotal
                  ((MachineWords.u64TryFrom packet.length).getD MachineWords.u64Max) } :=
              .same rfl rfl rfl rfl
            exact hcounted.trans (beginClientHandshake_keepsQueue hbegin)
        next => exact .same rfl rfl rfl rfl

theorem queuePacket_accepted {peer queued : Peer} {packet : Bytes} {routed : Bool}
    (h : peer.queuePacket packet routed = (true, queued)) :
    peer.queuedPackets.length < maxQueuedPacketsPerPeer ∧
      MachineWords.usizeSaturatingAdd peer.queuedBytes packet.length ≤ maxQueuedBytesPerPeer ∧
      queued = { peer with
        queuedBytes := MachineWords.usizeSaturatingAdd peer.queuedBytes packet.length
        queuedPackets := peer.queuedPackets ++ [⟨packet, routed⟩] } := by
  unfold queuePacket at h
  split at h
  next => simp at h
  next hroom =>
    rw [not_or, not_le, not_lt] at hroom
    cases h
    exact ⟨hroom.1, hroom.2, rfl⟩

theorem forwardTun_remembers (c : Crypto) (material : LocalMaterial) (peer : Peer)
    (packet : Bytes) (routedPacket : Bool) (now : Nat) (reads : HelloReads) :
    Remembers { peer with queuedPackets := peer.queuedPackets ++ [⟨packet, routedPacket⟩] }
      (peer.forwardTun c material packet routedPacket now reads).2 := by
  rcases forwardTun_keepsQueue c material peer packet routedPacket now reads with
    ⟨_, hkeeps⟩ | ⟨_, _, queued, hqueue, hkeeps⟩
  · have hleft : Remembers { peer with queuedPackets := peer.queuedPackets ++ [⟨packet, routedPacket⟩] }
        peer := ⟨rfl, List.subset_append_left ..⟩
    exact hleft.trans hkeeps.remembers
  · obtain ⟨_, _, rfl⟩ := queuePacket_accepted hqueue
    have hremembers := hkeeps.remembers
    exact ⟨hremembers.recentClientHellos, hremembers.queuedPackets⟩

theorem startManualPathProbe_keepsQueue (c : Crypto) (peer : Peer) (now : Nat)
    (reads : ProbeReads) : Keeps peer (peer.startManualPathProbe c now reads).2 := by
  unfold startManualPathProbe
  split
  next => exact .same rfl rfl rfl rfl
  next endpoint _ =>
    have hprobe := createPathProbe_keepsQueue c peer endpoint now reads
    split
    next => exact .same rfl rfl rfl rfl
    next =>
      split
      next => exact .same rfl rfl rfl rfl
      next =>
        split
        next _ probed heq =>
          rw [heq] at hprobe
          exact hprobe
        next _ probed heq =>
          rw [heq] at hprobe
          exact hprobe.trans (.same rfl rfl rfl rfl)

theorem pruneExpiredCandidates_keepsQueue (peer : Peer) (now : Int) :
    Keeps peer (peer.pruneExpiredCandidates now) := by
  unfold pruneExpiredCandidates
  dsimp only
  split <;> exact .same rfl rfl rfl rfl

theorem replaceCandidates_keepsQueue (peer : Peer) (candidates : List EndpointCandidate)
    (now : Nat) : Keeps peer (peer.replaceCandidates candidates now) := by
  unfold replaceCandidates
  dsimp only
  split
  next =>
    split
    next => exact .between rfl rfl rfl rfl (Or.inl rfl)
    next => exact .same rfl rfl rfl rfl
  next => exact .same rfl rfl rfl rfl

/-- Under a new policy the queue goes. -/
theorem applyConfiguration_keepsQueue (peer : Peer) (candidates : List EndpointCandidate)
    (policyChanged : Bool) (now : Nat) :
    Keeps peer (peer.applyConfiguration candidates policyChanged now) ∧
      (policyChanged = true →
        (peer.applyConfiguration candidates policyChanged now).queuedPackets = []) := by
  obtain ⟨cleared, hc⟩ : ∃ cleared : Peer,
    cleared = (if policyChanged then peer.clearQueue else peer) := ⟨_, rfl⟩
  have hcleared : Keeps peer cleared ∧ (policyChanged = true → cleared.queuedPackets = []) := by
    rw [hc]
    split
    next => exact ⟨.emptied rfl rfl rfl rfl, fun _ => rfl⟩
    next hunchanged => exact ⟨.same rfl rfl rfl rfl, fun hchanged => absurd hchanged hunchanged⟩
  have hreplaced := replaceCandidates_keepsQueue cleared candidates now
  have hkept : Keeps peer (cleared.replaceCandidates candidates now) := hcleared.1.trans hreplaced
  have hgone : policyChanged = true → (cleared.replaceCandidates candidates now).queuedPackets = [] :=
    fun hchanged => List.subset_nil.mp (hcleared.2 hchanged ▸ hreplaced.remembers.queuedPackets)
  unfold applyConfiguration
  rw [← hc]
  dsimp only
  split
  next => exact ⟨hkept.trans (.same rfl rfl rfl rfl), hgone⟩
  next => exact ⟨hkept, hgone⟩

theorem failRelayPath_keepsQueue (peer : Peer) (failedEndpoint : SocketAddr) (now : Nat) :
    Keeps peer (peer.failRelayPath failedEndpoint now) := by
  unfold failRelayPath
  split
  next => exact .same rfl rfl rfl rfl
  next =>
    dsimp only
    split
    next => exact .between rfl rfl rfl rfl (Or.inl rfl)
    next => exact .same rfl rfl rfl rfl

/-- The choice of the active path touches nothing but the path. -/
theorem receive_keepsQueue (c : Crypto) (material : LocalMaterial) (peer : Peer)
    (source : SocketAddr) (packet : Bytes) (now : Nat) (allowRoutedData throughRelay : Bool)
    (reads : DatagramReads) :
    Keeps (peer.processDatagram c material source packet now allowRoutedData reads).2
      (peer.receive c material source packet now allowRoutedData throughRelay reads).2 := by
  unfold receive
  dsimp only
  split <;> exact .same rfl rfl rfl rfl

theorem receive_result (c : Crypto) (material : LocalMaterial) (peer : Peer)
    (source : SocketAddr) (packet : Bytes) (now : Nat) (allowRoutedData throughRelay : Bool)
    (reads : DatagramReads) :
    (peer.receive c material source packet now allowRoutedData throughRelay reads).1 =
      (peer.processDatagram c material source packet now allowRoutedData reads).1 := by
  unfold receive
  dsimp only
  split
  next => rfl
  next => rfl

end Peer

end XsNexus
