import XsNexus.PeerUpkeep

namespace XsNexus

open ByteCodec MachineWords

/-- What one round of maintenance reads, apart from the peer. -/
structure MaintainTick where
  now : Nat
  counters : HandshakeCounters
  reads : MaintainReads
deriving DecidableEq

/-- How long a peer pauses after a failed cycle of its candidates, after so many failed ones. -/
def handshakeBackoff (failedCycles : Nat) : Nat :=
  min (handshakeBackoffBase * 2 ^ min failedCycles 6) handshakeBackoffMax

namespace Peer

/-- The hello `begin_client_handshake` would send. -/
def newClientHello (c : Crypto) (material : LocalMaterial) (peer : Peer) (reads : HelloReads) :
    Option ClientHelloSent := do
  let parameters : ClientHandshakeParameters := {
    context := context material peer
    credential := material.credential
    ephemeralPrivateKey := ⟨← reads.ephemeralPrivateKey⟩
    clientNonce := ← reads.clientNonce
    messageId := u32FromBe (← reads.messageId)
    clientTime := ← reads.clientTime }
  ClientHelloSent.start c parameters material.identity

def tick (c : Crypto) (material : LocalMaterial) (peer : Peer) (tick : MaintainTick) :
    Except AgentError (List Transmission × HandshakeCounters) × Peer :=
  peer.maintain c material tick.now tick.counters tick.reads

/-- The round may start a handshake of an idle peer. -/
def Due (peer : Peer) (tick : MaintainTick) : Prop :=
  tick.now ≥ peer.nextProactiveHandshakeAt ∧
    tick.counters.activeClientHandshakes < maxConcurrentProactiveHandshakes ∧
    tick.counters.proactiveStarted < maxProactiveHandshakesPerTick

instance (peer : Peer) : DecidablePred peer.Due := fun tick => by
  unfold Due
  infer_instance

/-- A peer between two rounds is one of these: what a cycle of hellos never touches. -/
structure SameDirectory (peer peer' : Peer) : Prop where
  nodeId : peer'.nodeId = peer.nodeId
  virtualIp : peer'.virtualIp = peer.virtualIp
  candidates : peer'.candidates = peer.candidates

/-- The candidate `advance_handshake_candidate` turns to. -/
def nextCandidate (peer : Peer) : Option EndpointCandidate :=
  if peer.handshakeCandidateAttempts ≥ maxHandshakeCandidatesPerCycle then none
  else
    peer.candidates[(peer.activeEndpoint.bind fun active =>
      (peer.candidates.findIdx? fun candidate => candidate.endpoint = active).map
        fun index => usizeSaturatingAdd index 1).getD 0]?

/-- A peer that waits for its next hello. -/
structure Waits (peer : Peer) (endpoint : SocketAddr) (attempts : Nat) : Prop where
  state : peer.state = .idle
  active : peer.activeEndpoint = some endpoint
  attempts : peer.handshakeCandidateAttempts = attempts

/-- A peer whose hello is out. -/
structure Tries (peer : Peer) (endpoint : SocketAddr) (attempts : Nat) (retry : RetryState) : Prop where
  state : ∃ machine, peer.state = .clientHello ⟨machine, retry⟩
  active : peer.activeEndpoint = some endpoint
  attempts : peer.handshakeCandidateAttempts = attempts

/-- What a peer keeps from round to round as long as its cycle goes on. -/
structure SameCycle (peer peer' : Peer) : Prop extends SameDirectory peer peer' where
  failures : peer'.handshakeFailures = peer.handshakeFailures
  next : peer'.nextProactiveHandshakeAt = peer.nextProactiveHandshakeAt
  packets : peer'.queuedPackets = peer.queuedPackets
  bytes : peer'.queuedBytes = peer.queuedBytes

/-- A round of a peer that waits. -/
inductive WaitsOutcome (c : Crypto) (material : LocalMaterial) (peer : Peer) (endpoint : SocketAddr)
    (attempts : Nat) (tick : MaintainTick) :
    Except AgentError (List Transmission × HandshakeCounters) → Peer → Prop
  | quiet {counters : HandshakeCounters} {after : Peer} (early : ¬peer.Due tick)
      (same : SameCycle peer after) (waits : after.Waits endpoint attempts) :
      WaitsOutcome c material peer endpoint attempts tick (.ok ([], counters)) after
  | failed {error : AgentError} {after : Peer}
      (nothing : peer.newClientHello c material tick.reads.proactive = none)
      (same : SameCycle peer after) (waits : after.Waits endpoint attempts) :
      WaitsOutcome c material peer endpoint attempts tick (.error error) after
  | begun {machine : ClientHelloSent} {counters : HandshakeCounters} {after : Peer}
      (due : peer.Due tick)
      (hello : peer.newClientHello c material tick.reads.proactive = some machine)
      (same : SameCycle peer after)
      (tries : after.Tries endpoint (attempts + 1) (.handshake machine.encoded tick.now)) :
      WaitsOutcome c material peer endpoint attempts tick
        (.ok ([(endpoint, peer.nodeId, machine.encoded)], counters)) after

/-- A round of a peer whose hello is out: it waits, sends it again, turns to the next candidate, or
ends its cycle. -/
inductive TriesOutcome (c : Crypto) (material : LocalMaterial) (peer : Peer) (endpoint : SocketAddr)
    (attempts : Nat) (retry : RetryState) (tick : MaintainTick) :
    Except AgentError (List Transmission × HandshakeCounters) → Peer → Prop
  | quiet {counters : HandshakeCounters} {after : Peer}
      (early : tick.now < retry.lastSent + retry.interval)
      (same : SameCycle peer after) (tries : after.Tries endpoint attempts retry) :
      TriesOutcome c material peer endpoint attempts retry tick (.ok ([], counters)) after
  | sentAgain {counters : HandshakeCounters} {after : Peer}
      (late : retry.lastSent + retry.interval ≤ tick.now) (more : retry.attempts < retry.maxAttempts)
      (same : SameCycle peer after)
      (tries : after.Tries endpoint attempts
        { retry with attempts := u8SaturatingAdd retry.attempts 1, lastSent := tick.now }) :
      TriesOutcome c material peer endpoint attempts retry tick
        (.ok ([(endpoint, peer.nodeId, retry.encoded)], counters)) after
  | failed {error : AgentError} {after : Peer} {candidate : EndpointCandidate}
      (late : retry.lastSent + retry.interval ≤ tick.now) (last : retry.maxAttempts ≤ retry.attempts)
      (next : peer.nextCandidate = some candidate)
      (nothing : peer.newClientHello c material tick.reads.retry = none)
      (same : SameCycle peer after) (waits : after.Waits candidate.endpoint attempts) :
      TriesOutcome c material peer endpoint attempts retry tick (.error error) after
  | advanced {machine : ClientHelloSent} {counters : HandshakeCounters} {after : Peer}
      {candidate : EndpointCandidate}
      (late : retry.lastSent + retry.interval ≤ tick.now) (last : retry.maxAttempts ≤ retry.attempts)
      (next : peer.nextCandidate = some candidate)
      (hello : peer.newClientHello c material tick.reads.retry = some machine)
      (same : SameCycle peer after)
      (tries : after.Tries candidate.endpoint (attempts + 1) (.handshake machine.encoded tick.now)) :
      TriesOutcome c material peer endpoint attempts retry tick
        (.ok ([(candidate.endpoint, peer.nodeId, machine.encoded)], counters)) after
  | returned {counters : HandshakeCounters} {after : Peer} {first : SocketAddr}
      (late : retry.lastSent + retry.interval ≤ tick.now) (last : retry.maxAttempts ≤ retry.attempts)
      (next : peer.nextCandidate = none) (same : SameDirectory peer after)
      (waits : after.Waits first 0) (isFirst : peer.firstEndpoint = some first)
      (failures : after.handshakeFailures = u8SaturatingAdd peer.handshakeFailures 1)
      (pause : after.nextProactiveHandshakeAt =
        tick.now + handshakeBackoff (after.handshakeFailures.toNat - 1))
      (packets : after.queuedPackets = []) (bytes : after.queuedBytes = 0) :
      TriesOutcome c material peer endpoint attempts retry tick (.ok ([], counters)) after

variable {c : Crypto} {material : LocalMaterial} {peer peer' peer'' : Peer}

theorem SameDirectory.refl (peer : Peer) : SameDirectory peer peer := ⟨rfl, rfl, rfl⟩

theorem SameDirectory.trans (h : SameDirectory peer peer') (h' : SameDirectory peer' peer'') :
    SameDirectory peer peer'' :=
  ⟨h'.nodeId.trans h.nodeId, h'.virtualIp.trans h.virtualIp, h'.candidates.trans h.candidates⟩

theorem SameDirectory.newClientHello (h : SameDirectory peer peer') (reads : HelloReads) :
    peer'.newClientHello c material reads = peer.newClientHello c material reads := by
  have hcontext : context material peer' = context material peer := by
    unfold context
    rw [h.nodeId, h.virtualIp]
  unfold Peer.newClientHello
  rw [hcontext]

/-- Of what `begin_client_handshake` asks, a peer on the way through its candidates has all but the
hello itself. -/
theorem beginClientHandshake_eq {endpoint : SocketAddr} (hactive : peer.activeEndpoint = some endpoint)
    (hattempts : peer.handshakeCandidateAttempts < maxHandshakeCandidatesPerCycle) (now : Nat)
    (reads : HelloReads) :
    peer.beginClientHandshake c material now reads =
      match peer.newClientHello c material reads with
      | none => .error .dataPlane
      | some machine => .ok (machine.encoded, { peer with
          handshakeAttemptsTotal := u64SaturatingAdd peer.handshakeAttemptsTotal 1
          state := .clientHello { machine := machine, retry := .handshake machine.encoded now }
          handshakeCandidateAttempts := usizeSaturatingAdd peer.handshakeCandidateAttempts 1 }) := by
  have hopen : ¬(peer.activeEndpoint = none ∨
      peer.handshakeCandidateAttempts ≥ maxHandshakeCandidatesPerCycle) := by
    rw [hactive]
    simp
    omega
  unfold beginClientHandshake
  rw [if_neg hopen]
  rfl

theorem attempts_succ {attempts : Nat} (h : attempts < maxHandshakeCandidatesPerCycle) :
    usizeSaturatingAdd attempts 1 = attempts + 1 := by
  unfold usizeSaturatingAdd usizeMax
  unfold maxHandshakeCandidatesPerCycle at h
  omega

theorem advanceHandshakeCandidate_eq (peer : Peer) :
    peer.advanceHandshakeCandidate =
      match peer.nextCandidate with
      | none => (false, peer)
      | some candidate => (true, { peer with
          activeEndpoint := some candidate.endpoint
          pathReason := some .handshakeFallback
          state := .idle
          pendingPathProbe := none }) := by
  unfold advanceHandshakeCandidate nextCandidate
  split
  next => rfl
  next => rfl

theorem maintainProactive_busy {p : Peer} (h : p.state.isIdle = false) (now : Nat)
    (counters : HandshakeCounters) (reads : HelloReads) :
    p.maintainProactive c material now counters reads = (.ok ([], counters), p) := by
  unfold maintainProactive
  simp only [h, Bool.false_eq_true, false_and, if_false]
  split <;> rfl

theorem maintainProactive_waits {p : Peer} {endpoint : SocketAddr} {attempts : Nat}
    (h : p.Waits endpoint attempts) (hattempts : attempts < maxHandshakeCandidatesPerCycle)
    (tick : MaintainTick) :
    p.maintainProactive c material tick.now tick.counters tick.reads.proactive =
      if p.Due tick then
        match p.beginClientHandshake c material tick.now tick.reads.proactive with
        | .error error => (.error error, p)
        | .ok (encoded, begun) =>
          (.ok ([(endpoint, begun.nodeId, encoded)],
            ⟨usizeSaturatingAdd tick.counters.activeClientHandshakes 1,
              usizeSaturatingAdd tick.counters.proactiveStarted 1⟩), begun)
      else (.ok ([], tick.counters), p) := by
  have hidle : p.state.isIdle = true := by
    rw [h.state]
    rfl
  have hopen : ¬(p.state.isIdle = true ∧
      p.handshakeCandidateAttempts ≥ maxHandshakeCandidatesPerCycle) := by
    rw [h.attempts]
    omega
  unfold maintainProactive
  rw [if_neg hopen]
  dsimp only
  rw [h.active]
  simp only [hidle, true_and]
  rfl

/-- Without a session, a round is that of the retry and of the proactive start. -/
theorem tick_of_retry {retried : List Transmission} {counters : HandshakeCounters} {p : Peer}
    {tick : MaintainTick}
    (h : (peer.pruneClientHelloCache tick.now).maintainRetry c material tick.now tick.counters
      tick.reads.retry = (.ok (retried, counters), p)) (hstate : p.state.isEstablished = false) :
    peer.tick c material tick =
      match { p with pendingPathProbe := none }.maintainProactive c material tick.now counters
        tick.reads.proactive with
      | (.error error, started) => (.error error, started)
      | (.ok (sent, counters), started) => (.ok (retried ++ sent, counters), started) := by
  have hsession : p.maintainSession c tick.now = (.ok [], p) := by
    unfold maintainSession
    split
    next hestablished => simp [hestablished, PeerState.isEstablished] at hstate
    next => rfl
  have hprobe : p.maintainPathProbe c tick.now tick.reads.probe =
      (.ok none, { p with pendingPathProbe := none }) := by
    unfold maintainPathProbe
    rw [if_pos (by simpa using hstate)]
  unfold Peer.tick maintain
  dsimp only
  rw [h]
  dsimp only
  rw [hsession]
  dsimp only
  rw [hprobe]
  dsimp only
  rcases ({ p with pendingPathProbe := none } : Peer).maintainProactive c material tick.now counters
    tick.reads.proactive with ⟨result, started⟩
  cases result with
  | error error => rfl
  | ok progress =>
    exact congrArg (fun sent => (Except.ok (sent ++ progress.1, progress.2), started)) (by simp)

theorem tick_waits {endpoint : SocketAddr} {attempts : Nat} (h : peer.Waits endpoint attempts)
    (hattempts : attempts < maxHandshakeCandidatesPerCycle) (tick : MaintainTick) :
    WaitsOutcome c material peer endpoint attempts tick (peer.tick c material tick).1
      (peer.tick c material tick).2 := by
  let quiet : Peer := { peer.pruneClientHelloCache tick.now with pendingPathProbe := none }
  have hsame : SameCycle peer quiet := ⟨⟨rfl, rfl, rfl⟩, rfl, rfl, rfl, rfl⟩
  have hwaits : quiet.Waits endpoint attempts := ⟨h.state, h.active, h.attempts⟩
  have hretry : (peer.pruneClientHelloCache tick.now).maintainRetry c material tick.now tick.counters
      tick.reads.retry = (.ok ([], tick.counters), peer.pruneClientHelloCache tick.now) := by
    have hpoll : (peer.pruneClientHelloCache tick.now).pollPeerRetry tick.now =
        (.wait, peer.pruneClientHelloCache tick.now) := by
      unfold pollPeerRetry
      rw [show (peer.pruneClientHelloCache tick.now).state = .idle from h.state]
    unfold maintainRetry
    rw [hpoll]
  have hidle : (peer.pruneClientHelloCache tick.now).state.isEstablished = false := by
    rw [show (peer.pruneClientHelloCache tick.now).state = .idle from h.state]
    rfl
  have hcount : quiet.handshakeCandidateAttempts < maxHandshakeCandidatesPerCycle :=
    hwaits.attempts ▸ hattempts
  rw [tick_of_retry hretry hidle, maintainProactive_waits hwaits hattempts]
  by_cases hdue : quiet.Due tick
  · rw [if_pos hdue, beginClientHandshake_eq hwaits.active hcount,
      hsame.toSameDirectory.newClientHello]
    cases hhello : peer.newClientHello c material tick.reads.proactive with
    | none => exact .failed hhello hsame hwaits
    | some machine =>
      refine .begun hdue hhello ⟨⟨rfl, rfl, rfl⟩, rfl, rfl, rfl, rfl⟩ ⟨⟨machine, rfl⟩, h.active, ?_⟩
      show usizeSaturatingAdd quiet.handshakeCandidateAttempts 1 = attempts + 1
      rw [hwaits.attempts, attempts_succ hattempts]
  · rw [if_neg hdue]
    exact .quiet hdue hsame hwaits

/-- What a polled retry makes of a peer that waits for a `ServerHello`. -/
def polledHello (peer : Peer) (machine : ClientHelloSent) (polled : RetryAction × RetryState) :
    RetryAction × Peer :=
  match polled with
  | (.expired, _) => (.expired, { peer with state := .idle })
  | (action, retry) => (action, { peer with state := .clientHello ⟨machine, retry⟩ })

theorem tick_tries {endpoint first : SocketAddr} {attempts : Nat} {retry : RetryState}
    (h : peer.Tries endpoint attempts retry) (hfirst : peer.firstEndpoint = some first)
    (hinterval : 0 < retry.interval) (tick : MaintainTick) :
    TriesOutcome c material peer endpoint attempts retry tick (peer.tick c material tick).1
      (peer.tick c material tick).2 := by
  obtain ⟨machine, hstate⟩ := h.state
  let pruned : Peer := peer.pruneClientHelloCache tick.now
  have hpruned : pruned.state = .clientHello ⟨machine, retry⟩ := hstate
  have hpoll : pruned.pollPeerRetry tick.now = pruned.polledHello machine (retry.poll tick.now) := by
    unfold pollPeerRetry polledHello
    split
    next pending h =>
      obtain rfl := PeerState.clientHello.inj (hpruned.symm.trans h)
      rfl
    next pending h => exact nomatch hpruned.symm.trans h
    next pending h => exact nomatch hpruned.symm.trans h
    next hother _ _ => exact absurd hpruned (hother _)
  by_cases hearly : saturatingDurationSince tick.now retry.lastSent < retry.interval
  · have hretry : pruned.maintainRetry c material tick.now tick.counters tick.reads.retry =
        (.ok ([], tick.counters), { pruned with state := .clientHello ⟨machine, retry⟩ }) := by
      unfold maintainRetry
      rw [hpoll]
      unfold polledHello RetryState.poll
      rw [if_pos hearly]
    rw [tick_of_retry hretry rfl, maintainProactive_busy rfl]
    refine .quiet ?_ ⟨⟨rfl, rfl, rfl⟩, rfl, rfl, rfl, rfl⟩ ⟨⟨machine, rfl⟩, h.active, h.attempts⟩
    unfold saturatingDurationSince at hearly
    omega
  have hlate : retry.lastSent + retry.interval ≤ tick.now := by
    unfold saturatingDurationSince at hearly
    omega
  by_cases hmore : retry.attempts ≥ retry.maxAttempts
  case neg =>
    have hretry : pruned.maintainRetry c material tick.now tick.counters tick.reads.retry =
        (.ok ([(endpoint, peer.nodeId, retry.encoded)], tick.counters), { pruned with
          state := .clientHello ⟨machine,
            { retry with attempts := u8SaturatingAdd retry.attempts 1, lastSent := tick.now }⟩ }) := by
      unfold maintainRetry
      rw [hpoll]
      unfold polledHello RetryState.poll
      rw [if_neg hearly, if_neg hmore]
      dsimp only
      rw [show pruned.activeEndpoint = some endpoint from h.active]
      rfl
    rw [tick_of_retry hretry rfl, maintainProactive_busy rfl]
    exact .sentAgain hlate (UInt8.not_le.mp hmore) ⟨⟨rfl, rfl, rfl⟩, rfl, rfl, rfl, rfl⟩
      ⟨⟨machine, rfl⟩, h.active, h.attempts⟩
  case pos =>
  have hexpired : pruned.pollPeerRetry tick.now = (.expired, { pruned with state := .idle }) := by
    rw [hpoll]
    unfold polledHello RetryState.poll
    rw [if_neg hearly, if_pos hmore]
  have hadvance := advanceHandshakeCandidate_eq { pruned with state := .idle }
  have hnext : ({ pruned with state := .idle } : Peer).nextCandidate = peer.nextCandidate := rfl
  rw [hnext] at hadvance
  cases hcandidate : peer.nextCandidate with
  | none =>
    rw [hcandidate] at hadvance
    dsimp only at hadvance
    let counters : HandshakeCounters :=
      { tick.counters with activeClientHandshakes := tick.counters.activeClientHandshakes - 1 }
    let scheduled : Peer := { pruned with state := .idle }.scheduleHandshakeRetry tick.now
    let quiet : Peer := { scheduled with pendingPathProbe := none }
    have hretry : pruned.maintainRetry c material tick.now tick.counters tick.reads.retry =
        (.ok ([], counters), scheduled) := by
      unfold maintainRetry
      rw [hexpired]
      dsimp only
      rw [hadvance]
    have hwaits : quiet.Waits first 0 := ⟨rfl, hfirst, rfl⟩
    have hpause : quiet.nextProactiveHandshakeAt =
        tick.now + handshakeBackoff (quiet.handshakeFailures.toNat - 1) := rfl
    have hpositive : 0 < handshakeBackoff (quiet.handshakeFailures.toNat - 1) := by
      unfold handshakeBackoff handshakeBackoffBase handshakeBackoffMax durationFromSecs
      positivity
    have hearly' : ¬quiet.Due ⟨tick.now, counters, tick.reads⟩ := by
      rintro ⟨hnow, _⟩
      have hpaused : tick.now ≥ quiet.nextProactiveHandshakeAt := hnow
      rw [hpause] at hpaused
      omega
    rw [tick_of_retry hretry rfl,
      maintainProactive_waits hwaits (by decide) ⟨tick.now, counters, tick.reads⟩, if_neg hearly']
    exact .returned hlate hmore hcandidate ⟨rfl, rfl, rfl⟩ hwaits hfirst rfl hpause rfl rfl
  | some candidate =>
    rw [hcandidate] at hadvance
    dsimp only at hadvance
    have hroom : peer.handshakeCandidateAttempts < maxHandshakeCandidatesPerCycle := by
      unfold nextCandidate at hcandidate
      split at hcandidate
      next => simp at hcandidate
      next hroom => omega
    let advanced : Peer := { pruned with
      activeEndpoint := some candidate.endpoint
      pathReason := some .handshakeFallback
      state := .idle
      pendingPathProbe := none }
    have hsame : SameCycle peer advanced := ⟨⟨rfl, rfl, rfl⟩, rfl, rfl, rfl, rfl⟩
    have hbegin := @beginClientHandshake_eq c material advanced candidate.endpoint rfl hroom tick.now
      tick.reads.retry
    rw [hsame.toSameDirectory.newClientHello] at hbegin
    cases hhello : peer.newClientHello c material tick.reads.retry with
    | none =>
      rw [hhello] at hbegin
      have hretry : pruned.maintainRetry c material tick.now tick.counters tick.reads.retry =
          (.error .dataPlane, advanced) := by
        unfold maintainRetry
        rw [hexpired]
        dsimp only
        rw [hadvance]
        dsimp only
        rw [show Peer.beginClientHandshake c material _ tick.now tick.reads.retry = _ from hbegin]
      have htick : peer.tick c material tick = (.error .dataPlane, advanced) := by
        unfold Peer.tick maintain
        dsimp only
        rw [show Peer.maintainRetry c material (peer.pruneClientHelloCache tick.now) tick.now
          tick.counters tick.reads.retry = _ from hretry]
      rw [htick]
      exact .failed hlate hmore hcandidate hhello hsame ⟨rfl, rfl, h.attempts⟩
    | some hello =>
      rw [hhello] at hbegin
      dsimp only at hbegin
      have hretry : pruned.maintainRetry c material tick.now tick.counters tick.reads.retry =
          (.ok ([(candidate.endpoint, peer.nodeId, hello.encoded)], tick.counters), { advanced with
            handshakeAttemptsTotal := u64SaturatingAdd advanced.handshakeAttemptsTotal 1
            state := .clientHello { machine := hello, retry := .handshake hello.encoded tick.now }
            handshakeCandidateAttempts := usizeSaturatingAdd advanced.handshakeCandidateAttempts 1 }) := by
        unfold maintainRetry
        rw [hexpired]
        dsimp only
        rw [hadvance]
        dsimp only
        rw [show Peer.beginClientHandshake c material _ tick.now tick.reads.retry = _ from hbegin]
        rfl
      rw [tick_of_retry hretry rfl, maintainProactive_busy rfl]
      refine .advanced hlate hmore hcandidate hhello ⟨⟨rfl, rfl, rfl⟩, rfl, rfl, rfl, rfl⟩
        ⟨⟨hello, rfl⟩, rfl, ?_⟩
      show usizeSaturatingAdd peer.handshakeCandidateAttempts 1 = attempts + 1
      rw [attempts_succ hroom, h.attempts]

end Peer

end XsNexus
