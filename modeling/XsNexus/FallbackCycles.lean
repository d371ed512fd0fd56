import XsNexus.HandshakeFallback
import XsNexus.Runs

namespace XsNexus

open ByteCodec MachineWords Runs

/-- A hello to one candidate, with the times it was sent at. -/
structure CandidateVisit where
  encoded : Bytes
  times : List Nat

/-- What a run of maintenance sends, with the times. -/
def sentIn (rounds : List (MaintainTick × Except AgentError (List Transmission × HandshakeCounters))) :
    List (Nat × Transmission) :=
  rounds.flatMap fun (tick, outcome) => match outcome with
    | .ok (transmissions, _) => transmissions.map fun transmission => (tick.now, transmission)
    | .error _ => []

namespace Peer

/-- The endpoint of a candidate; the numbers go round. -/
def candidateEndpoint (peer : Peer) (number : Nat) : Option SocketAddr :=
  (peer.candidates[number % peer.candidates.length]?).map EndpointCandidate.endpoint

/-- The pause before the visit of a number, which there is before the first candidate of a cycle. -/
def pauseBefore (peer : Peer) (number : Nat) : Nat :=
  if number % peer.candidates.length = 0 then
    handshakeBackoff (peer.handshakeFailures.toNat + number / peer.candidates.length - 1)
  else 0

/-- The transmissions of visits that begin with the candidate of the given number. -/
def visitLog (peer : Peer) (first : Nat) (visits : List CandidateVisit) : List (Nat × Transmission) :=
  visits.zipIdx.flatMap fun (visit, index) => match peer.candidateEndpoint (first + index) with
    | none => []
    | some endpoint => visit.times.map fun time => (time, endpoint, peer.nodeId, visit.encoded)

/-- Each visit is one new hello, sent a bounded number of times; the next one begins when it has been
sent to the end, and after the pause. -/
structure Orderly (c : Crypto) (material : LocalMaterial) (peer : Peer) (first : Nat)
    (visits : List CandidateVisit) : Prop where
  hellos : ∀ visit ∈ visits, ∃ reads machine, peer.newClientHello c material reads = some machine ∧
    visit.encoded = machine.encoded
  attempts : ∀ visit ∈ visits, 1 ≤ visit.times.length ∧
    visit.times.length ≤ handshakeMaxAttempts.toNat
  spaced : ∀ visit ∈ visits, visit.times.IsChain fun earlier later =>
    earlier + handshakeRetryInterval ≤ later
  follows : ∀ index visit next, visits[index]? = some visit → visits[index + 1]? = some next →
    visit.times.length = handshakeMaxAttempts.toNat ∧
    ∀ last ∈ visit.times.getLast?, ∀ start ∈ next.times.head?,
      last + handshakeRetryInterval + peer.pauseBefore (first + index + 1) ≤ start

/-- Where a peer stands after some visits. -/
inductive Standing (peer : Peer) (first : Nat) (visits : List CandidateVisit) (reached : Peer)
    (clock : Nat) : Prop
  | waits {index cycle attempts : Nat} {endpoint : SocketAddr}
      (position : first + visits.length = cycle * peer.candidates.length + index)
      (inside : index < peer.candidates.length)
      (candidate : (peer.candidates[index]?).map EndpointCandidate.endpoint = some endpoint)
      (waits : reached.Waits endpoint attempts) (few : attempts ≤ index)
      (failures : reached.handshakeFailures.toNat = min (peer.handshakeFailures.toNat + cycle) 255)
      (complete : ∀ visit ∈ visits, visit.times.length = handshakeMaxAttempts.toNat)
      (rested : ∀ visit ∈ visits.getLast?, ∀ last ∈ visit.times.getLast?,
        last + handshakeRetryInterval + peer.pauseBefore (first + visits.length) ≤
          max clock reached.nextProactiveHandshakeAt)
      (emptied : index = 0 → visits ≠ [] →
        reached.queuedPackets = [] ∧ reached.queuedBytes = 0 ∧ attempts = 0)
  | tries {index cycle attempts : Nat} {endpoint : SocketAddr} {retry : RetryState}
      {earlier : List CandidateVisit} {visit : CandidateVisit} (split : visits = earlier ++ [visit])
      (position : first + earlier.length = cycle * peer.candidates.length + index)
      (inside : index < peer.candidates.length)
      (candidate : (peer.candidates[index]?).map EndpointCandidate.endpoint = some endpoint)
      (tries : reached.Tries endpoint attempts retry) (few : attempts ≤ index + 1)
      (encoded : retry.encoded = visit.encoded) (lastSent : visit.times.getLast? = some retry.lastSent)
      (count : retry.attempts.toNat = visit.times.length)
      (interval : retry.interval = handshakeRetryInterval)
      (maximum : retry.maxAttempts = handshakeMaxAttempts)
      (failures : reached.handshakeFailures.toNat = min (peer.handshakeFailures.toNat + cycle) 255)
      (complete : ∀ visit ∈ earlier, visit.times.length = handshakeMaxAttempts.toNat)

variable {c : Crypto} {material : LocalMaterial} {peer reached : Peer} {first : Nat}
  {visits : List CandidateVisit}

theorem visitLog_append (peer : Peer) (first : Nat) (visits : List CandidateVisit)
    (visit : CandidateVisit) :
    peer.visitLog first (visits ++ [visit]) = peer.visitLog first visits ++
      match peer.candidateEndpoint (first + visits.length) with
      | none => []
      | some endpoint => visit.times.map fun time => (time, endpoint, peer.nodeId, visit.encoded) := by
  unfold visitLog
  rw [List.zipIdx_append, List.flatMap_append]
  simp

theorem orderly_nil : Orderly c material peer first [] where
  hellos := by simp
  attempts := by simp
  spaced := by simp
  follows := by simp

/-- A new visit after those that have been made to the end. -/
theorem Orderly.visit (h : Orderly c material peer first visits) {reads : HelloReads}
    {machine : ClientHelloSent} {start : Nat}
    (hhello : peer.newClientHello c material reads = some machine)
    (hcomplete : ∀ visit ∈ visits, visit.times.length = handshakeMaxAttempts.toNat)
    (hrested : ∀ visit ∈ visits.getLast?, ∀ last ∈ visit.times.getLast?,
      last + handshakeRetryInterval + peer.pauseBefore (first + visits.length) ≤ start) :
    Orderly c material peer first (visits ++ [⟨machine.encoded, [start]⟩]) where
  hellos visit hvisit := by
    rcases List.mem_append.mp hvisit with hold | hnew
    · exact h.hellos visit hold
    · rw [List.mem_singleton.mp hnew]
      exact ⟨reads, machine, hhello, rfl⟩
  attempts visit hvisit := by
    rcases List.mem_append.mp hvisit with hold | hnew
    · exact h.attempts visit hold
    · rw [List.mem_singleton.mp hnew]
      exact ⟨le_refl 1, (by decide : 1 ≤ handshakeMaxAttempts.toNat)⟩
  spaced visit hvisit := by
    rcases List.mem_append.mp hvisit with hold | hnew
    · exact h.spaced visit hold
    · rw [List.mem_singleton.mp hnew]
      exact List.isChain_singleton _
  follows index visit next hvisit hnext := by
    by_cases hold : index + 1 < visits.length
    · rw [List.getElem?_append_left (by omega)] at hvisit
      rw [List.getElem?_append_left hold] at hnext
      exact h.follows index visit next hvisit hnext
    · have hlast : index + 1 = visits.length := by
        have hbound := (List.getElem?_eq_some_iff.mp hnext).1
        rw [List.length_append, List.length_singleton] at hbound
        omega
      rw [List.getElem?_append_left (by omega)] at hvisit
      rw [hlast, List.getElem?_concat_length] at hnext
      cases hnext
      refine ⟨hcomplete visit (List.mem_of_getElem? hvisit), fun last hsent start' hstart => ?_⟩
      cases hstart
      have hend : visits.getLast? = some visit := by
        rw [List.getLast?_eq_getElem?, ← hlast]
        exact hvisit
      rw [Nat.add_assoc first, hlast]
      exact hrested visit hend last hsent

/-- The hello of the last visit is sent once more. -/
theorem Orderly.again {earlier : List CandidateVisit} {visit : CandidateVisit}
    (h : Orderly c material peer first (earlier ++ [visit])) {last now : Nat}
    (hlast : visit.times.getLast? = some last) (hlate : last + handshakeRetryInterval ≤ now)
    (hmore : visit.times.length < handshakeMaxAttempts.toNat) :
    Orderly c material peer first (earlier ++ [{ visit with times := visit.times ++ [now] }]) where
  hellos other hother := by
    rcases List.mem_append.mp hother with hold | hnew
    · exact h.hellos other (List.mem_append_left _ hold)
    · rw [List.mem_singleton.mp hnew]
      exact h.hellos visit (List.mem_append_right _ List.mem_cons_self)
  attempts other hother := by
    rcases List.mem_append.mp hother with hold | hnew
    · exact h.attempts other (List.mem_append_left _ hold)
    · rw [List.mem_singleton.mp hnew]
      simp only [List.length_append, List.length_singleton]
      omega
  spaced other hother := by
    rcases List.mem_append.mp hother with hold | hnew
    · exact h.spaced other (List.mem_append_left _ hold)
    · rw [List.mem_singleton.mp hnew]
      refine List.isChain_append.mpr ⟨h.spaced visit (List.mem_append_right _ List.mem_cons_self),
        List.isChain_singleton _, fun time htime next hnext => ?_⟩
      cases hlast.symm.trans htime
      cases hnext
      exact hlate
  follows index other next hother hnext := by
    have hbound := (List.getElem?_eq_some_iff.mp hnext).1
    rw [List.length_append, List.length_singleton] at hbound
    have hother' : (earlier ++ [visit])[index]? = some other := by
      rw [List.getElem?_append_left (by omega)] at hother ⊢
      exact hother
    by_cases hold : index + 1 < earlier.length
    · rw [List.getElem?_append_left hold] at hnext
      refine h.follows index other next hother' ?_
      rw [List.getElem?_append_left hold]
      exact hnext
    · have hend : index + 1 = earlier.length := by omega
      rw [hend, List.getElem?_concat_length] at hnext
      have hnext' : (earlier ++ [visit])[index + 1]? = some visit := by
        rw [hend, List.getElem?_concat_length]
      obtain ⟨hlength, hstart⟩ := h.follows index other visit hother' hnext'
      refine ⟨hlength, fun time htime start hhead => hstart time htime start ?_⟩
      cases hnext
      cases htimes : visit.times with
      | nil =>
        rw [htimes] at hlast
        simp at hlast
      | cons time' times =>
        dsimp only at hhead
        rw [htimes] at hhead
        exact hhead

/-- What a visit that comes next would be of, where the visits so far end. -/
theorem candidateEndpoint_at {number cycle index : Nat}
    (position : number = cycle * peer.candidates.length + index)
    (inside : index < peer.candidates.length) :
    peer.candidateEndpoint number = (peer.candidates[index]?).map EndpointCandidate.endpoint := by
  unfold candidateEndpoint
  rw [position, Nat.mul_comm, Nat.mul_add_mod, Nat.mod_eq_of_lt inside]

theorem pauseBefore_inside {number cycle index : Nat}
    (position : number = cycle * peer.candidates.length + index)
    (inside : index < peer.candidates.length) (hindex : index ≠ 0) : peer.pauseBefore number = 0 := by
  unfold pauseBefore
  rw [position, Nat.mul_comm, Nat.mul_add_mod, Nat.mod_eq_of_lt inside, if_neg hindex]

theorem pauseBefore_cycle {number cycle : Nat} (position : number = cycle * peer.candidates.length)
    (hsome : 0 < peer.candidates.length) :
    peer.pauseBefore number = handshakeBackoff (peer.handshakeFailures.toNat + cycle - 1) := by
  unfold pauseBefore
  rw [position, Nat.mul_mod_left, if_pos rfl, Nat.mul_div_cancel cycle hsome]

/-- The pause is the longest one before the count of failures is. -/
theorem handshakeBackoff_min (failures : Nat) :
    handshakeBackoff (min failures 255 - 1) = handshakeBackoff (failures - 1) := by
  unfold handshakeBackoff
  rw [show min (min failures 255 - 1) 6 = min (failures - 1) 6 by omega]

/-- With the endpoints all different, the candidate after the active one is the next of the list. -/
theorem nextCandidate_eq {index attempts : Nat} {endpoint : SocketAddr}
    (hdistinct : (reached.candidates.map EndpointCandidate.endpoint).Nodup)
    (hfew : reached.candidates.length ≤ maxHandshakeCandidatesPerCycle)
    (inside : index < reached.candidates.length)
    (candidate : (reached.candidates[index]?).map EndpointCandidate.endpoint = some endpoint)
    (hactive : reached.activeEndpoint = some endpoint)
    (hattempts : reached.handshakeCandidateAttempts = attempts) (few : attempts ≤ index + 1) :
    reached.nextCandidate = reached.candidates[index + 1]? := by
  have hendpoint : reached.candidates[index].endpoint = endpoint := by
    rw [List.getElem?_eq_getElem inside] at candidate
    exact Option.some.inj candidate
  have hfound : (reached.candidates.findIdx? fun candidate => candidate.endpoint = endpoint) =
      some index := by
    refine List.findIdx?_eq_some_iff_getElem.mpr ⟨inside, by simpa using hendpoint, fun j hj => ?_⟩
    have hne := List.pairwise_iff_getElem.mp hdistinct j index
      (by rw [List.length_map]; omega) (by rw [List.length_map]; omega) hj
    simp only [List.getElem_map] at hne
    rw [hendpoint] at hne
    simpa using hne
  unfold nextCandidate
  rw [hactive, hattempts]
  split
  next hmost =>
    rw [List.getElem?_eq_none (by omega)]
  next =>
    simp only [Option.bind_some, hfound, Option.map_some, Option.getD_some]
    have hnext : usizeSaturatingAdd index 1 = index + 1 := by
      unfold maxHandshakeCandidatesPerCycle at hfew
      exact attempts_succ (by unfold maxHandshakeCandidatesPerCycle; omega)
    rw [hnext]

end Peer

end XsNexus
