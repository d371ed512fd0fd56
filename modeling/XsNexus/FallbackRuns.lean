import XsNexus.FallbackCycles

namespace XsNexus

open ByteCodec MachineWords Runs

namespace Peer

/-- What a round makes of the visits, of the peer and of what has been sent. -/
structure Round (c : Crypto) (material : LocalMaterial) (peer : Peer) (first : Nat)
    (visits visits' : List CandidateVisit) (tick : MaintainTick)
    (outcome : Except AgentError (List Transmission × HandshakeCounters)) (after : Peer) : Prop where
  orderly : Orderly c material peer first visits'
  standing : Standing peer first visits' after tick.now
  log : peer.visitLog first visits' = peer.visitLog first visits ++ sentIn [(tick, outcome)]

variable {c : Crypto} {material : LocalMaterial} {peer reached after : Peer} {first : Nat}
  {visits : List CandidateVisit} {tick : MaintainTick}
  {outcome : Except AgentError (List Transmission × HandshakeCounters)}

theorem sentIn_none (tick : MaintainTick) (counters : HandshakeCounters) :
    sentIn [(tick, .ok ([], counters))] = [] := rfl

theorem sentIn_one (tick : MaintainTick) (transmission : Transmission) (counters : HandshakeCounters) :
    sentIn [(tick, .ok ([transmission], counters))] = [(tick.now, transmission)] := rfl

theorem sentIn_error (tick : MaintainTick) (error : AgentError) :
    sentIn [(tick, .error error)] = [] := rfl

theorem sentIn_append (rounds rounds' :
    List (MaintainTick × Except AgentError (List Transmission × HandshakeCounters))) :
    sentIn (rounds ++ rounds') = sentIn rounds ++ sentIn rounds' := by
  unfold sentIn
  rw [List.flatMap_append]

/-- A new visit sends its hello once. -/
theorem visitLog_visit {number cycle index now : Nat} {endpoint : SocketAddr} (encoded : Bytes)
    (hnumber : first + visits.length = number)
    (position : number = cycle * peer.candidates.length + index)
    (inside : index < peer.candidates.length)
    (candidate : (peer.candidates[index]?).map EndpointCandidate.endpoint = some endpoint) :
    peer.visitLog first (visits ++ [⟨encoded, [now]⟩]) =
      peer.visitLog first visits ++ [(now, endpoint, peer.nodeId, encoded)] := by
  rw [visitLog_append, hnumber, candidateEndpoint_at position inside, candidate]
  rfl

theorem Standing.round_waits {clock : Nat} (ho : Orderly c material peer first visits)
    (hsame : SameDirectory peer reached) {index cycle attempts : Nat} {endpoint : SocketAddr}
    (position : first + visits.length = cycle * peer.candidates.length + index)
    (inside : index < peer.candidates.length)
    (candidate : (peer.candidates[index]?).map EndpointCandidate.endpoint = some endpoint)
    (few : attempts ≤ index)
    (failures : reached.handshakeFailures.toNat = min (peer.handshakeFailures.toNat + cycle) 255)
    (complete : ∀ visit ∈ visits, visit.times.length = handshakeMaxAttempts.toNat)
    (rested : ∀ visit ∈ visits.getLast?, ∀ last ∈ visit.times.getLast?,
      last + handshakeRetryInterval + peer.pauseBefore (first + visits.length) ≤
        max clock reached.nextProactiveHandshakeAt)
    (emptied : index = 0 → visits ≠ [] →
      reached.queuedPackets = [] ∧ reached.queuedBytes = 0 ∧ attempts = 0)
    (hclock : clock ≤ tick.now)
    (h : WaitsOutcome c material reached endpoint attempts tick outcome after) :
    ∃ visits', Round c material peer first visits visits' tick outcome after := by
  have hstays : ∀ {after : Peer}, SameCycle reached after → after.Waits endpoint attempts →
      Standing peer first visits after tick.now := by
    intro after hcycle hwaits
    refine .waits position inside candidate hwaits few (hcycle.failures ▸ failures) complete ?_ ?_
    · intro visit hvisit last hlast
      have hpaused := rested visit hvisit last hlast
      rw [hcycle.next]
      omega
    · rw [hcycle.packets, hcycle.bytes]
      exact emptied
  cases h with
  | quiet early hcycle hwaits =>
    exact ⟨visits, ho, hstays hcycle hwaits, by rw [sentIn_none, List.append_nil]⟩
  | failed nothing hcycle hwaits =>
    exact ⟨visits, ho, hstays hcycle hwaits, by rw [sentIn_error, List.append_nil]⟩
  | @begun machine counters after due hello hcycle htries =>
    rw [hsame.newClientHello] at hello
    refine ⟨visits ++ [⟨machine.encoded, [tick.now]⟩], ?_, ?_, ?_⟩
    · refine ho.visit hello complete ?_
      intro visit hvisit last hlast
      have hpaused := rested visit hvisit last hlast
      have hdue := due.1
      omega
    · exact .tries rfl position inside candidate htries (by omega) rfl rfl rfl rfl rfl
        (hcycle.failures ▸ failures) complete
    · rw [visitLog_visit machine.encoded rfl position inside candidate, sentIn_one, hsame.nodeId]

theorem Standing.round_tries (hdistinct : (peer.candidates.map EndpointCandidate.endpoint).Nodup)
    (hfew : peer.candidates.length ≤ maxHandshakeCandidatesPerCycle)
    {earlier : List CandidateVisit} {visit : CandidateVisit}
    (ho : Orderly c material peer first (earlier ++ [visit])) (hsame : SameDirectory peer reached)
    {index cycle attempts : Nat} {endpoint : SocketAddr} {retry : RetryState}
    (position : first + earlier.length = cycle * peer.candidates.length + index)
    (inside : index < peer.candidates.length)
    (candidate : (peer.candidates[index]?).map EndpointCandidate.endpoint = some endpoint)
    (tries : reached.Tries endpoint attempts retry) (few : attempts ≤ index + 1)
    (encoded : retry.encoded = visit.encoded) (lastSent : visit.times.getLast? = some retry.lastSent)
    (count : retry.attempts.toNat = visit.times.length)
    (interval : retry.interval = handshakeRetryInterval)
    (maximum : retry.maxAttempts = handshakeMaxAttempts)
    (failures : reached.handshakeFailures.toNat = min (peer.handshakeFailures.toNat + cycle) 255)
    (complete : ∀ visit ∈ earlier, visit.times.length = handshakeMaxAttempts.toNat)
    (h : TriesOutcome c material reached endpoint attempts retry tick outcome after) :
    ∃ visits', Round c material peer first (earlier ++ [visit]) visits' tick outcome after := by
  have hnext : reached.nextCandidate = peer.candidates[index + 1]? := by
    rw [← hsame.candidates] at hdistinct hfew inside candidate ⊢
    exact nextCandidate_eq hdistinct hfew inside candidate tries.active tries.attempts few
  have hlength : first + (earlier ++ [visit]).length =
      cycle * peer.candidates.length + (index + 1) := by
    rw [List.length_append, List.length_singleton]
    omega
  -- the visit that ends here has been made to the end
  have hcomplete : retry.maxAttempts ≤ retry.attempts → ∀ visit' ∈ earlier ++ [visit],
      visit'.times.length = handshakeMaxAttempts.toNat := by
    intro hlast visit' hvisit
    rcases List.mem_append.mp hvisit with hold | hnew
    · exact complete visit' hold
    · rw [List.mem_singleton.mp hnew]
      have hmost := (ho.attempts visit (List.mem_append_right _ List.mem_cons_self)).2
      rw [maximum] at hlast
      have hleast := UInt8.le_iff_toNat_le.mp hlast
      omega
  have hend : (earlier ++ [visit]).getLast? = some visit := List.getLast?_concat
  cases h with
  | quiet early hcycle htries =>
    refine ⟨earlier ++ [visit], ho, ?_, by rw [sentIn_none, List.append_nil]⟩
    exact .tries rfl position inside candidate htries few encoded lastSent count interval maximum
      (hcycle.failures ▸ failures) complete
  | sentAgain late more hcycle htries =>
    have hmore : visit.times.length < handshakeMaxAttempts.toNat := by
      rw [maximum] at more
      have hless := UInt8.lt_iff_toNat_lt.mp more
      omega
    have hcount : (u8SaturatingAdd retry.attempts 1).toNat = visit.times.length + 1 := by
      rw [u8SaturatingAdd, UInt8.toNat_ofNat']
      have hsix : handshakeMaxAttempts.toNat = 6 := rfl
      have hone : (1 : UInt8).toNat = 1 := rfl
      omega
    refine ⟨earlier ++ [{ visit with times := visit.times ++ [tick.now] }], ?_, ?_, ?_⟩
    · exact ho.again lastSent (interval ▸ late) hmore
    · refine .tries rfl position inside candidate htries few encoded List.getLast?_concat ?_ interval
        maximum (hcycle.failures ▸ failures) complete
      rw [List.length_append, List.length_singleton]
      exact hcount
    · rw [visitLog_append, visitLog_append, candidateEndpoint_at position inside, candidate, sentIn_one,
        hsame.nodeId, encoded]
      simp
  | @failed error after next late last hcandidate nothing hcycle hwaits =>
    have hinside : index + 1 < peer.candidates.length := by
      rw [hnext] at hcandidate
      exact (List.getElem?_eq_some_iff.mp hcandidate).1
    refine ⟨earlier ++ [visit], ho, ?_, by rw [sentIn_error, List.append_nil]⟩
    refine .waits hlength hinside (by rw [← hnext, hcandidate]; rfl) hwaits (by omega)
      (hcycle.failures ▸ failures) (hcomplete last) ?_ (by omega)
    intro visit' hvisit time htime
    cases hend.symm.trans hvisit
    cases lastSent.symm.trans htime
    rw [pauseBefore_inside hlength hinside (by omega)]
    rw [interval] at late
    omega
  | @advanced machine counters after next late last hcandidate hello hcycle htries =>
    have hinside : index + 1 < peer.candidates.length := by
      rw [hnext] at hcandidate
      exact (List.getElem?_eq_some_iff.mp hcandidate).1
    have hendpoint : (peer.candidates[index + 1]?).map EndpointCandidate.endpoint =
        some next.endpoint := by
      rw [← hnext, hcandidate]
      rfl
    rw [hsame.newClientHello] at hello
    refine ⟨earlier ++ [visit] ++ [⟨machine.encoded, [tick.now]⟩], ?_, ?_, ?_⟩
    · refine ho.visit hello (hcomplete last) ?_
      intro visit' hvisit time htime
      cases hend.symm.trans hvisit
      cases lastSent.symm.trans htime
      rw [pauseBefore_inside hlength hinside (by omega)]
      rw [interval] at late
      omega
    · exact .tries rfl hlength hinside hendpoint htries (by omega) rfl rfl rfl rfl rfl
        (hcycle.failures ▸ failures) (hcomplete last)
    · rw [visitLog_visit machine.encoded rfl hlength hinside hendpoint, sentIn_one, hsame.nodeId]
  | @returned counters after start late last hnone hdirectory hwaits isFirst hfailures pause packets
      bytes =>
    have hlast : index + 1 = peer.candidates.length := by
      rw [hnext] at hnone
      have hbeyond := List.getElem?_eq_none_iff.mp hnone
      omega
    have hcycle : first + (earlier ++ [visit]).length =
        (cycle + 1) * peer.candidates.length + 0 := by
      rw [hlength, hlast, Nat.add_mul, Nat.one_mul, Nat.add_zero]
    have hstart : (peer.candidates[0]?).map EndpointCandidate.endpoint = some start := by
      unfold firstEndpoint at isFirst
      rw [hsame.candidates, List.head?_eq_getElem?] at isFirst
      exact isFirst
    have hcount : after.handshakeFailures.toNat =
        min (peer.handshakeFailures.toNat + (cycle + 1)) 255 := by
      rw [hfailures, u8SaturatingAdd, UInt8.toNat_ofNat', failures]
      have hone : (1 : UInt8).toNat = 1 := rfl
      omega
    refine ⟨earlier ++ [visit], ho, ?_, by rw [sentIn_none, List.append_nil]⟩
    refine .waits hcycle (by omega) hstart hwaits (le_refl 0) hcount (hcomplete last) ?_
      fun _ _ => ⟨packets, bytes, rfl⟩
    intro visit' hvisit time htime
    cases hend.symm.trans hvisit
    cases lastSent.symm.trans htime
    rw [pauseBefore_cycle hcycle (by omega), pause, hcount, handshakeBackoff_min]
    rw [interval] at late
    omega

end Peer

end XsNexus
