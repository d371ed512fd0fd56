import XsNexus.FallbackRuns
import XsNexus.PathAuthentication
import XsNexus.PeerDirectory

namespace XsNexus

open ByteCodec MachineWords Runs

/-- The time of the last round. -/
def lastTime (ticks : List MaintainTick) : Nat := (ticks.getLast?.map MaintainTick.now).getD 0

namespace Peer

/-- The next round goes on with the cycle when it is time. -/
structure Onward (c : Crypto) (material : LocalMaterial) (peer : Peer) (first : Nat)
    (visits : List CandidateVisit) (reached : Peer) (tick : MaintainTick) : Prop where
  starts : reached.state = .idle → reached.Due tick →
    peer.newClientHello c material tick.reads.proactive ≠ none →
    sentIn [(tick, (reached.tick c material tick).1)] ≠ []
  continues : ∀ machine retry, reached.state = .clientHello ⟨machine, retry⟩ →
    retry.lastSent + handshakeRetryInterval ≤ tick.now →
    peer.newClientHello c material tick.reads.retry ≠ none →
    sentIn [(tick, (reached.tick c material tick).1)] ≠ [] ∨
      (first + visits.length) % peer.candidates.length = 0 ∧
        ∃ start, peer.firstEndpoint = some start ∧ (reached.tick c material tick).2.Waits start 0 ∧
          (reached.tick c material tick).2.queuedPackets = [] ∧
          (reached.tick c material tick).2.queuedBytes = 0

/-- What the rounds of a peer send is the log of orderly visits to its candidates in turn. -/
structure Covers (c : Crypto) (material : LocalMaterial) (peer : Peer) (first : Nat)
    (ticks : List MaintainTick) (visits : List CandidateVisit) : Prop where
  sent : sentIn (trace (tick c material) peer ticks) = peer.visitLog first visits
  orderly : Orderly c material peer first visits
  same : SameDirectory peer (final (tick c material) peer ticks)
  standing : Standing peer first visits (final (tick c material) peer ticks) (lastTime ticks)
  errors : ∀ round error, (round, .error error) ∈ trace (tick c material) peer ticks →
    peer.newClientHello c material round.reads.retry = none ∨
      peer.newClientHello c material round.reads.proactive = none
  onward : ∀ round, lastTime ticks ≤ round.now →
    Onward c material peer first visits (final (tick c material) peer ticks) round

variable {c : Crypto} {material : LocalMaterial} {peer reached : Peer} {first : Nat}
  {visits : List CandidateVisit}

theorem WaitsOutcome.same {endpoint : SocketAddr} {attempts : Nat} {tick : MaintainTick}
    {outcome : Except AgentError (List Transmission × HandshakeCounters)} {after : Peer}
    (h : WaitsOutcome c material peer endpoint attempts tick outcome after) :
    SameDirectory peer after := by
  cases h with
  | quiet early same waits => exact same.toSameDirectory
  | failed nothing same waits => exact same.toSameDirectory
  | begun due hello same tries => exact same.toSameDirectory

theorem TriesOutcome.same {endpoint : SocketAddr} {attempts : Nat} {retry : RetryState}
    {tick : MaintainTick} {outcome : Except AgentError (List Transmission × HandshakeCounters)}
    {after : Peer} (h : TriesOutcome c material peer endpoint attempts retry tick outcome after) :
    SameDirectory peer after := by
  cases h with
  | quiet early same tries => exact same.toSameDirectory
  | sentAgain late more same tries => exact same.toSameDirectory
  | failed late last next nothing same waits => exact same.toSameDirectory
  | advanced late last next hello same tries => exact same.toSameDirectory
  | returned late last next same waits isFirst failures pause packets bytes => exact same

theorem WaitsOutcome.error {endpoint : SocketAddr} {attempts : Nat} {tick : MaintainTick}
    {error : AgentError} {after : Peer}
    (h : WaitsOutcome c material peer endpoint attempts tick (.error error) after) :
    peer.newClientHello c material tick.reads.proactive = none := by
  cases h with
  | failed nothing same waits => exact nothing

theorem TriesOutcome.error {endpoint : SocketAddr} {attempts : Nat} {retry : RetryState}
    {tick : MaintainTick} {error : AgentError} {after : Peer}
    (h : TriesOutcome c material peer endpoint attempts retry tick (.error error) after) :
    peer.newClientHello c material tick.reads.retry = none := by
  cases h with
  | failed late last next nothing same waits => exact nothing

theorem WaitsOutcome.starts {endpoint : SocketAddr} {attempts : Nat} {tick : MaintainTick}
    {outcome : Except AgentError (List Transmission × HandshakeCounters)} {after : Peer}
    (h : WaitsOutcome c material peer endpoint attempts tick outcome after) (hdue : peer.Due tick)
    (hhello : peer.newClientHello c material tick.reads.proactive ≠ none) :
    sentIn [(tick, outcome)] ≠ [] := by
  cases h with
  | quiet early same waits => exact absurd hdue early
  | failed nothing same waits => exact absurd nothing hhello
  | begun due hello same tries => exact List.cons_ne_nil _ _

theorem TriesOutcome.continues {endpoint : SocketAddr} {attempts : Nat} {retry : RetryState}
    {tick : MaintainTick} {outcome : Except AgentError (List Transmission × HandshakeCounters)}
    {after : Peer} (h : TriesOutcome c material peer endpoint attempts retry tick outcome after)
    (hlate : retry.lastSent + retry.interval ≤ tick.now)
    (hhello : peer.newClientHello c material tick.reads.retry ≠ none) :
    sentIn [(tick, outcome)] ≠ [] ∨ peer.nextCandidate = none ∧
      ∃ start, peer.firstEndpoint = some start ∧ after.Waits start 0 ∧
        after.queuedPackets = [] ∧ after.queuedBytes = 0 := by
  cases h with
  | quiet early same tries => omega
  | sentAgain late more same tries => exact .inl (List.cons_ne_nil _ _)
  | failed late last next nothing same waits => exact absurd nothing hhello
  | advanced late last next hello same tries => exact .inl (List.cons_ne_nil _ _)
  | returned late last next same waits isFirst failures pause packets bytes =>
    exact .inr ⟨next, _, isFirst, waits, packets, bytes⟩

theorem firstEndpoint_some {index : Nat} (hsame : SameDirectory peer reached)
    (inside : index < peer.candidates.length) : ∃ start, reached.firstEndpoint = some start := by
  unfold firstEndpoint
  rw [hsame.candidates, List.head?_eq_getElem?, List.getElem?_eq_getElem (by omega)]
  exact ⟨_, rfl⟩

/-- The round of a peer on its way through the candidates is one of a peer that waits or tries. -/
theorem Standing.outcome {clock : Nat} (h : Standing peer first visits reached clock)
    (hfew : peer.candidates.length ≤ maxHandshakeCandidatesPerCycle)
    (hsame : SameDirectory peer reached) (c : Crypto) (material : LocalMaterial) (tick : MaintainTick) :
    (∃ endpoint attempts, WaitsOutcome c material reached endpoint attempts tick
      (reached.tick c material tick).1 (reached.tick c material tick).2) ∨
    ∃ endpoint attempts retry, TriesOutcome c material reached endpoint attempts retry tick
      (reached.tick c material tick).1 (reached.tick c material tick).2 := by
  cases h with
  | waits position inside candidate waits few failures complete rested emptied =>
    exact .inl ⟨_, _, tick_waits waits (by omega) tick⟩
  | tries split position inside candidate tries few encoded lastSent count interval maximum failures
      complete =>
    obtain ⟨start, hstart⟩ := firstEndpoint_some hsame inside
    have hpositive := interval ▸ (by decide : 0 < handshakeRetryInterval)
    exact .inr ⟨_, _, _, tick_tries tries hstart hpositive tick⟩

theorem Standing.sameDirectory {clock : Nat} (h : Standing peer first visits reached clock)
    (hfew : peer.candidates.length ≤ maxHandshakeCandidatesPerCycle)
    (hsame : SameDirectory peer reached) (tick : MaintainTick) :
    SameDirectory peer (reached.tick c material tick).2 := by
  rcases h.outcome hfew hsame c material tick with
    ⟨endpoint, attempts, houtcome⟩ | ⟨endpoint, attempts, retry, houtcome⟩
  · exact hsame.trans houtcome.same
  · exact hsame.trans houtcome.same

theorem Standing.error {clock : Nat} (h : Standing peer first visits reached clock)
    (hfew : peer.candidates.length ≤ maxHandshakeCandidatesPerCycle)
    (hsame : SameDirectory peer reached) {tick : MaintainTick} {error : AgentError}
    (herror : (reached.tick c material tick).1 = .error error) :
    peer.newClientHello c material tick.reads.retry = none ∨
      peer.newClientHello c material tick.reads.proactive = none := by
  rw [← hsame.newClientHello, ← hsame.newClientHello]
  rcases h.outcome hfew hsame c material tick with
    ⟨endpoint, attempts, houtcome⟩ | ⟨endpoint, attempts, retry, houtcome⟩
  · rw [herror] at houtcome
    exact .inr houtcome.error
  · rw [herror] at houtcome
    exact .inl houtcome.error

theorem Standing.round {clock : Nat} (ho : Orderly c material peer first visits)
    (h : Standing peer first visits reached clock)
    (hdistinct : (peer.candidates.map EndpointCandidate.endpoint).Nodup)
    (hfew : peer.candidates.length ≤ maxHandshakeCandidatesPerCycle)
    (hsame : SameDirectory peer reached) {tick : MaintainTick} (hclock : clock ≤ tick.now) :
    ∃ visits', Round c material peer first visits visits' tick (reached.tick c material tick).1
      (reached.tick c material tick).2 := by
  cases h with
  | waits position inside candidate waits few failures complete rested emptied =>
    exact Standing.round_waits ho hsame position inside candidate few failures complete rested emptied
      hclock (tick_waits waits (by omega) tick)
  | tries split position inside candidate tries few encoded lastSent count interval maximum failures
      complete =>
    obtain ⟨start, hstart⟩ := firstEndpoint_some hsame inside
    have hpositive := interval ▸ (by decide : 0 < handshakeRetryInterval)
    subst split
    exact Standing.round_tries hdistinct hfew ho hsame position inside candidate tries few encoded
      lastSent count interval maximum failures complete (tick_tries tries hstart hpositive tick)

theorem Standing.onward {clock : Nat} (h : Standing peer first visits reached clock)
    (hdistinct : (peer.candidates.map EndpointCandidate.endpoint).Nodup)
    (hfew : peer.candidates.length ≤ maxHandshakeCandidatesPerCycle)
    (hsame : SameDirectory peer reached) (tick : MaintainTick) :
    Onward c material peer first visits reached tick := by
  cases h with
  | waits position inside candidate waits few failures complete rested emptied =>
    refine ⟨fun _ hdue hhello => ?_, fun machine retry hstate => ?_⟩
    · rw [← hsame.newClientHello] at hhello
      exact (tick_waits waits (by omega) tick).starts hdue hhello
    · rw [waits.state] at hstate
      cases hstate
  | @tries index cycle attempts endpoint retry earlier visit split position inside candidate tries few
      encoded lastSent count interval maximum failures complete =>
    obtain ⟨start, hstart⟩ := firstEndpoint_some hsame inside
    have hpositive := interval ▸ (by decide : 0 < handshakeRetryInterval)
    obtain ⟨machine, hmachine⟩ := tries.state
    refine ⟨fun hidle => ?_, fun machine' retry' hstate hlate hhello => ?_⟩
    · rw [hmachine] at hidle
      cases hidle
    · rw [hmachine] at hstate
      cases hstate
      rw [← hsame.newClientHello] at hhello
      rcases (tick_tries tries hstart hpositive tick).continues (interval.symm ▸ hlate) hhello with
        hsent | ⟨hnone, hreturned⟩
      · exact .inl hsent
      · refine .inr ⟨?_, ?_⟩
        · have hnext := hnone
          rw [← hsame.candidates] at hdistinct hfew inside candidate
          rw [nextCandidate_eq hdistinct hfew inside candidate tries.active tries.attempts few] at hnext
          have hbeyond := List.getElem?_eq_none_iff.mp hnext
          rw [hsame.candidates] at hbeyond inside
          have hlast : first + visits.length = (cycle + 1) * peer.candidates.length := by
            rw [split, List.length_append, List.length_singleton, Nat.add_mul, Nat.one_mul]
            omega
          rw [hlast, Nat.mul_mod_left]
        · unfold firstEndpoint at hreturned ⊢
          rw [← hsame.candidates]
          exact hreturned

theorem covers_nil {endpoint : SocketAddr} {attempts : Nat}
    (hdistinct : (peer.candidates.map EndpointCandidate.endpoint).Nodup)
    (hfew : peer.candidates.length ≤ maxHandshakeCandidatesPerCycle)
    (hcandidate : (peer.candidates[first]?).map EndpointCandidate.endpoint = some endpoint)
    (hwaits : peer.Waits endpoint attempts) (hattempts : attempts ≤ first) :
    Covers c material peer first [] [] := by
  have hinside : first < peer.candidates.length := by
    obtain ⟨candidate, hat, _⟩ := Option.map_eq_some_iff.mp hcandidate
    exact (List.getElem?_eq_some_iff.mp hat).1
  have hfailures : peer.handshakeFailures.toNat = min (peer.handshakeFailures.toNat + 0) 255 := by
    have hbyte := peer.handshakeFailures.toNat_lt
    omega
  have hstanding : Standing peer first [] peer (lastTime []) :=
    .waits (by simp : first + 0 = 0 * peer.candidates.length + first) hinside hcandidate hwaits
      hattempts hfailures (by simp) (by simp) (by simp)
  exact ⟨rfl, orderly_nil, .refl peer, hstanding, fun _ _ h => absurd h List.not_mem_nil,
    fun round _ => hstanding.onward hdistinct hfew (.refl peer) round⟩

/-- One more round after those that have covered the candidates. -/
theorem Covers.round {ticks : List MaintainTick} {tick : MaintainTick}
    (h : Covers c material peer first ticks visits)
    (hdistinct : (peer.candidates.map EndpointCandidate.endpoint).Nodup)
    (hfew : peer.candidates.length ≤ maxHandshakeCandidatesPerCycle)
    (hclock : lastTime ticks ≤ tick.now) :
    ∃ visits', Covers c material peer first (ticks ++ [tick]) visits' := by
  let before : Peer := final (Peer.tick c material) peer ticks
  obtain ⟨visits', hround⟩ := h.standing.round h.orderly hdistinct hfew h.same hclock
  have hsame : SameDirectory peer (before.tick c material tick).2 :=
    h.standing.sameDirectory hfew h.same tick
  have hfinal : final (Peer.tick c material) peer (ticks ++ [tick]) =
      (before.tick c material tick).2 := final_append _ _ _ _
  have htrace : trace (Peer.tick c material) peer (ticks ++ [tick]) =
      trace (Peer.tick c material) peer ticks ++ [(tick, (before.tick c material tick).1)] :=
    trace_append _ _ _ _
  have hlast : lastTime (ticks ++ [tick]) = tick.now := by
    unfold lastTime
    rw [List.getLast?_concat]
    rfl
  refine ⟨visits', ?_, hround.orderly, hfinal ▸ hsame, ?_, fun round error hmem => ?_, fun round _ => ?_⟩
  · rw [htrace, sentIn_append, h.sent, hround.log]
  · rw [hfinal, hlast]
    exact hround.standing
  · rw [htrace] at hmem
    rcases List.mem_append.mp hmem with hold | hnew
    · exact h.errors round error hold
    · obtain ⟨rfl, herror⟩ := Prod.mk.inj (List.mem_singleton.mp hnew)
      exact h.standing.error hfew h.same herror.symm
  · rw [hfinal]
    exact hround.standing.onward hdistinct hfew hsame round

/-- The first hello of all goes to the candidate the rounds begin with. -/
theorem Covers.head {ticks : List MaintainTick} (h : Covers c material peer first ticks visits)
    {sent : Nat × Transmission} {endpoint : SocketAddr}
    (hendpoint : peer.candidateEndpoint first = some endpoint)
    (hhead : (sentIn (trace (tick c material) peer ticks)).head? = some sent) :
    sent.2.1 = endpoint := by
  rw [h.sent] at hhead
  cases visits with
  | nil => simp [visitLog] at hhead
  | cons visit visits =>
    have hsome := (h.orderly.attempts visit List.mem_cons_self).1
    cases htimes : visit.times with
    | nil => simp [htimes] at hsome
    | cons time times =>
      simp only [visitLog, List.zipIdx_cons, List.flatMap_cons, Nat.add_zero, hendpoint, htimes,
        List.map_cons, List.cons_append, List.head?_cons, Option.some.injEq] at hhead
      rw [← hhead]

end Peer

/-- Round after round, a peer that waits at one of its candidates tries this one and those behind it,
then, pause by pause, all of them from the first to the last. -/
theorem candidate_fallback (c : Crypto) (material : LocalMaterial) (peer : Peer) (first attempts : Nat)
    (endpoint : SocketAddr) (ticks : List MaintainTick)
    (hdistinct : (peer.candidates.map EndpointCandidate.endpoint).Nodup)
    (hfew : peer.candidates.length ≤ maxHandshakeCandidatesPerCycle)
    (hcandidate : (peer.candidates[first]?).map EndpointCandidate.endpoint = some endpoint)
    (hwaits : peer.Waits endpoint attempts) (hattempts : attempts ≤ first)
    (hsorted : ticks.Pairwise fun earlier later => earlier.now ≤ later.now) :
    ∃ visits, peer.Covers c material first ticks visits := by
  induction ticks using List.reverseRecOn with
  | nil => exact ⟨[], Peer.covers_nil hdistinct hfew hcandidate hwaits hattempts⟩
  | append_singleton ticks tick ih =>
    obtain ⟨hbefore, _, hlater⟩ := List.pairwise_append.mp hsorted
    obtain ⟨visits, hcovers⟩ := ih hbefore
    refine hcovers.round hdistinct hfew ?_
    unfold lastTime
    cases hlast : ticks.getLast? with
    | none => exact Nat.zero_le _
    | some last =>
      exact hlater last (List.mem_of_getLast? hlast) tick List.mem_cons_self

def sampleFallbackEndpoint : SocketAddr := .v4 ⟨.new 192 0 2 9, 41641⟩

/-- Two relays that the sample peer can be reached through. -/
def sampleFallbackPeer : Peer :=
  newPeer samplePeer.nodeId samplePeer.nodeIdBase64 samplePeer.virtualIp
    [⟨.relay, sampleEndpoint, 100, 1000⟩, ⟨.relay, sampleFallbackEndpoint, 99, 1000⟩] 0

/-- Maintenance with what a hello reads. -/
def sampleFallbackTick (now : Nat) : MaintainTick where
  now := now
  counters := ⟨0, 0⟩
  reads :=
    let hello : HelloReads :=
      ⟨some (fill 32 3), some (fill 32 4), some ⟨beBytes 4 5, length_beBytes 4 5⟩, some 1700000100⟩
    ⟨hello, ⟨none, none⟩, hello⟩

/-- Rounds until the first cycle is over, and two more: before the pause is, and after. -/
def sampleFallbackTicks : List MaintainTick :=
  ((List.range 14).map fun number => sampleFallbackTick (durationFromMillis (300 * number))) ++
    [sampleFallbackTick (durationFromMillis 4600)]

theorem candidate_fallback_sample :
    ((sentIn (trace (Peer.tick .transparent sampleMaterial) sampleFallbackPeer sampleFallbackTicks)).map
      fun sent => sent.2.1) = List.replicate 6 sampleEndpoint ++ List.replicate 6 sampleFallbackEndpoint ++
        [sampleEndpoint] ∧
    ∃ visits, sampleFallbackPeer.Covers .transparent sampleMaterial 0 sampleFallbackTicks visits :=
  ⟨by decide +kernel, candidate_fallback .transparent sampleMaterial sampleFallbackPeer 0 0 sampleEndpoint
    sampleFallbackTicks (by decide) (by decide) rfl ⟨rfl, rfl, rfl⟩ (le_refl 0) (by decide +kernel)⟩

/-- A peer whose first relay has failed begins with the second one. -/
theorem candidate_fallback_after_failover :
    let peer := sampleFallbackPeer.failRelayPath sampleEndpoint 0
    peer.state = .idle ∧ (peer.candidates.map EndpointCandidate.endpoint).Nodup ∧
      peer.candidates.length ≤ maxHandshakeCandidatesPerCycle ∧
      ¬∃ visits, peer.Covers .transparent sampleMaterial 0 [sampleFallbackTick 0] visits := by
  refine ⟨rfl, by decide, by decide, fun ⟨visits, hcovers⟩ => ?_⟩
  have hsent : (sentIn (trace (Peer.tick .transparent sampleMaterial)
      (sampleFallbackPeer.failRelayPath sampleEndpoint 0) [sampleFallbackTick 0])).head?.map
        (fun sent => sent.2.1) = some sampleFallbackEndpoint := by
    decide +kernel
  obtain ⟨sent, hhead, hendpoint⟩ := Option.map_eq_some_iff.mp hsent
  have hfirst : sent.2.1 = sampleEndpoint := hcovers.head rfl hhead
  rw [hendpoint] at hfirst
  revert hfirst
  decide

end XsNexus
