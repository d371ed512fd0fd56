import Mathlib.Data.List.DropRight
import XsNexus.RelayInvariant

namespace XsNexus

open ByteCodec FifoMap FiniteMap MachineWords Runs

/-- What a call accepts for forwarding: the receiving lease and the datagram. -/
def acceptedDatagram (event : RelayOp × RelayOutput) : Option (Block 16 × Bytes) :=
  match event with
  | (.data _ datagram _, .data (.ok leaseId)) => some (leaseId, datagram)
  | _ => none

def sentForwards (event : RelayOp × RelayOutput) : List Forward :=
  match event.2 with
  | .forwards sent => sent
  | _ => []

def acceptedDatagrams (c : Crypto) (s : RelayServer) (ops : List RelayOp) : List (Block 16 × Bytes) :=
  (trace (RelayServer.apply c) s ops).filterMap acceptedDatagram

def forwards (c : Crypto) (s : RelayServer) (ops : List RelayOp) : List Forward :=
  (trace (RelayServer.apply c) s ops).flatMap sentForwards

def forwardPair (forward : Forward) : Block 16 × Bytes := (forward.leaseId, forward.bytes)

/-- The datagrams of the pairs that go through one lease, in order. -/
def bytesUnder (leaseId : Block 16) (pairs : List (Block 16 × Bytes)) : List Bytes :=
  (pairs.filter fun pair => pair.1 = leaseId).map Prod.snd

def queueOf (s : RelayServer) (leaseId : Block 16) : List Bytes :=
  match s.leases.lookup leaseId with
  | some lease => lease.queue.map QueuedDatagram.bytes
  | none => []

def frameKey (datagram : Bytes) : Option (Block 16 × UInt64) :=
  (parseRelayFrame datagram).map fun frame => (frame.leaseId, frame.sequence)

/-- How many of the datagrams are frames of one lease with one relay sequence. -/
def frameCount (leaseId : Block 16) (sequence : UInt64) (pairs : List (Block 16 × Bytes)) : Nat :=
  pairs.countP fun pair => frameKey pair.2 = some (leaseId, sequence)

/-- Every lease of the later state was there before, at the same node and endpoint and with the same
window; its queue has lost some of its head at most. -/
def Keeps (s s' : RelayServer) : Prop :=
  ∀ leaseId lease', s'.leases.lookup leaseId = some lease' → ∃ lease,
    s.leases.lookup leaseId = some lease ∧ lease'.node = lease.node ∧
    lease'.endpoint = lease.endpoint ∧ lease'.replay = lease.replay ∧
    lease'.queue.IsSuffix lease.queue

theorem Keeps.refl (s : RelayServer) : Keeps s s :=
  fun _ lease h => ⟨lease, h, rfl, rfl, rfl, List.suffix_refl _⟩

theorem Keeps.trans {s t u : RelayServer} (h : Keeps s t) (h' : Keeps t u) : Keeps s u := by
  intro leaseId lease' hl
  obtain ⟨middle, hm, hnode, hendpoint, hreplay, hqueue⟩ := h' leaseId lease' hl
  obtain ⟨lease, hf, hnode', hendpoint', hreplay', hqueue'⟩ := h leaseId middle hm
  exact ⟨lease, hf, hnode.trans hnode', hendpoint.trans hendpoint', hreplay.trans hreplay',
    hqueue.trans hqueue'⟩

theorem keeps_insert {s t : RelayServer} {leaseId : Block 16} {lease lease' : Lease}
    (ht : t.leases = s.leases.insert leaseId lease') (hl : s.leases.lookup leaseId = some lease)
    (hnode : lease'.node = lease.node) (hendpoint : lease'.endpoint = lease.endpoint)
    (hreplay : lease'.replay = lease.replay) (hqueue : lease'.queue.IsSuffix lease.queue) :
    Keeps s t := by
  intro other after h
  rw [ht, lookup_insert_eq] at h
  split at h
  next ho =>
    cases Option.some.inj h
    rw [ho]
    exact ⟨lease, hl, hnode, hendpoint, hreplay, hqueue⟩
  next => exact ⟨after, h, rfl, rfl, rfl, List.suffix_refl _⟩

/-- What one turn of the flush sends was at the head of its lease's queue. -/
theorem flushOne_keeps {s s' : RelayServer} {send : SendOutcome} {forward : Option Forward}
    (h : s.flushOne send = some (forward, s')) :
    Keeps s s' ∧ ∀ sent, forward = some sent → ∃ lease datagram queue,
      s.leases.lookup sent.leaseId = some lease ∧ lease.queue = datagram :: queue ∧
      datagram.bytes = sent.bytes ∧ lease.endpoint = sent.endpoint ∧
      ∀ lease', s'.leases.lookup sent.leaseId = some lease' → lease'.queue = queue := by
  obtain ⟨leaseId, rest, _, hcase⟩ := flushOne_cases h
  rcases hcase with ⟨hf, _, hs⟩ | ⟨lease, hf, hl, _, hs⟩ | ⟨lease, datagram, queue, hl, hqueue, hf, hs⟩
  · subst hs hf
    exact ⟨Keeps.refl s, fun _ h => by simp at h⟩
  · subst hs hf
    exact ⟨keeps_insert rfl hl rfl rfl rfl (List.suffix_refl _), fun _ h => by simp at h⟩
  · have hpop : (RelayServer.popQueue lease).node = lease.node ∧
        (RelayServer.popQueue lease).endpoint = lease.endpoint ∧
        (RelayServer.popQueue lease).replay = lease.replay ∧
        (RelayServer.popQueue lease).queue = queue := by
      simp [RelayServer.popQueue, hqueue]
    obtain ⟨hnode, hendpoint, hreplay, hpopped⟩ := hpop
    have hsuffix : (RelayServer.popQueue lease).queue.IsSuffix lease.queue := by
      rw [hpopped, hqueue]
      exact List.suffix_cons datagram queue
    have hafter : ∀ lease', s'.leases.lookup leaseId = some lease' → lease'.queue = queue := by
      intro lease' hl'
      rw [hs] at hl'
      unfold RelayServer.reschedule at hl'
      split at hl'
      next =>
        simp only [RelayServer.putLease, lookup_insert_eq, if_true] at hl'
        cases Option.some.inj hl'
        exact hpopped
      next =>
        simp only [RelayServer.putLease, lookup_insert_eq, if_true] at hl'
        cases Option.some.inj hl'
        exact hpopped
    refine ⟨?_, ?_⟩
    · subst hs
      unfold RelayServer.reschedule
      split
      next => exact keeps_insert rfl hl hnode hendpoint hreplay hsuffix
      next => exact keeps_insert rfl hl hnode hendpoint hreplay hsuffix
    · intro sent hsent
      rcases hf with hf | hf
      · rw [hf] at hsent
        simp at hsent
      · rw [hf] at hsent
        cases Option.some.inj hsent
        exact ⟨lease, datagram, queue, hl, hqueue, rfl, rfl, hafter⟩

theorem Keeps.queueOf {s s' : RelayServer} (h : Keeps s s') (leaseId : Block 16) :
    (queueOf s' leaseId).Sublist (queueOf s leaseId) := by
  unfold XsNexus.queueOf
  cases hl : s'.leases.lookup leaseId with
  | none => exact List.nil_sublist _
  | some lease' =>
    obtain ⟨lease, hf, _, _, _, hqueue⟩ := h leaseId lease' hl
    rw [hf]
    exact hqueue.sublist.map _

theorem bytesUnder_append (leaseId : Block 16) (pairs more : List (Block 16 × Bytes)) :
    bytesUnder leaseId (pairs ++ more) = bytesUnder leaseId pairs ++ bytesUnder leaseId more := by
  simp [bytesUnder]

theorem flushOne_queueOf {s s' : RelayServer} {send : SendOutcome} {forward : Option Forward}
    (h : s.flushOne send = some (forward, s')) (leaseId : Block 16) :
    (bytesUnder leaseId (forward.toList.map forwardPair) ++ queueOf s' leaseId).Sublist
      (queueOf s leaseId) := by
  obtain ⟨hkeeps, hsent⟩ := flushOne_keeps h
  cases hf : forward with
  | none => exact hkeeps.queueOf leaseId
  | some sent =>
    by_cases hid : sent.leaseId = leaseId
    · obtain ⟨lease, datagram, queue, hl, hqueue, hbytes, _, hafter⟩ := hsent sent hf
      rw [hid] at hl hafter
      have hsingle : bytesUnder leaseId ((some sent).toList.map forwardPair) = [datagram.bytes] := by
        simp [bytesUnder, forwardPair, hid, hbytes]
      have hbefore : queueOf s leaseId = datagram.bytes :: queue.map QueuedDatagram.bytes := by
        simp [queueOf, hl, hqueue]
      have hrest : (queueOf s' leaseId).Sublist (queue.map QueuedDatagram.bytes) := by
        unfold queueOf
        cases hl' : s'.leases.lookup leaseId with
        | none => exact List.nil_sublist _
        | some lease' =>
          have heq := hafter lease' hl'
          simp [heq]
      rw [hsingle, hbefore]
      exact hrest.cons_cons _
    · have hnone : bytesUnder leaseId ((some sent).toList.map forwardPair) = [] := by
        simp [bytesUnder, forwardPair, hid]
      rw [hnone]
      exact hkeeps.queueOf leaseId

theorem flushLoop_keeps (remaining : Nat) (send : Nat → SendOutcome) (s : RelayServer) :
    Keeps s (RelayServer.flushLoop remaining send s).2 := by
  induction remaining generalizing s send with
  | zero => exact Keeps.refl s
  | succ remaining ih =>
    unfold RelayServer.flushLoop
    split
    next => exact Keeps.refl s
    next hone => exact (flushOne_keeps hone).1.trans (ih _ _)

/-- A flush sends the datagrams of a queue from its head and in their order. -/
theorem flushLoop_queueOf (remaining : Nat) (send : Nat → SendOutcome) (s : RelayServer)
    (leaseId : Block 16) :
    (bytesUnder leaseId ((RelayServer.flushLoop remaining send s).1.map forwardPair) ++
      queueOf (RelayServer.flushLoop remaining send s).2 leaseId).Sublist (queueOf s leaseId) := by
  induction remaining generalizing s send with
  | zero => exact List.Sublist.refl _
  | succ remaining ih =>
    unfold RelayServer.flushLoop
    split
    next => exact List.Sublist.refl _
    next forward s' hone =>
      have hfirst := flushOne_queueOf hone leaseId
      have hrest := ih (fun attempt => send (attempt + 1)) s'
      dsimp only
      rw [List.map_append, bytesUnder_append, List.append_assoc]
      exact (hrest.append_left _).trans hfirst

theorem flushLoop_origin (remaining : Nat) (send : Nat → SendOutcome) (s : RelayServer)
    {forward : Forward} (h : forward ∈ (RelayServer.flushLoop remaining send s).1) :
    ∃ lease, s.leases.lookup forward.leaseId = some lease ∧ lease.endpoint = forward.endpoint ∧
      ∃ datagram ∈ lease.queue, datagram.bytes = forward.bytes := by
  induction remaining generalizing s send with
  | zero => simp [RelayServer.flushLoop] at h
  | succ remaining ih =>
    unfold RelayServer.flushLoop at h
    split at h
    next => simp at h
    next first s' hone =>
      obtain ⟨hkeeps, hsent⟩ := flushOne_keeps hone
      rcases List.mem_append.mp h with hm | hm
      · obtain ⟨lease, datagram, queue, hl, hqueue, hbytes, hendpoint, _⟩ :=
          hsent forward (Option.mem_toList.mp hm)
        refine ⟨lease, hl, hendpoint, datagram, ?_, hbytes⟩
        rw [hqueue]
        exact List.mem_cons_self ..
      · obtain ⟨lease', hl', hendpoint', datagram, hd, hbytes⟩ := ih _ _ hm
        obtain ⟨lease, hl, _, hendpoint, _, hqueue⟩ := hkeeps _ _ hl'
        exact ⟨lease, hl, hendpoint.symm.trans hendpoint', datagram, hqueue.subset hd, hbytes⟩

theorem removeAll_keeps (s : RelayServer) (expired : List (Block 16 × NodeKey)) :
    Keeps s (expired.foldl (fun s entry => s.removeExpired entry.1 entry.2) s) := by
  induction expired generalizing s with
  | nil => exact Keeps.refl s
  | cons entry expired ih =>
    have hfirst : Keeps s (s.removeExpired entry.1 entry.2) :=
      fun _ lease h => ⟨lease, removeExpired_lookup h, rfl, rfl, rfl, List.suffix_refl _⟩
    exact hfirst.trans (ih _)

theorem cleanup_keeps (s : RelayServer) (clock : Clock) : Keeps s (s.cleanup clock) :=
  removeAll_keeps s _

/-- The window of one lease takes a sequence, and some queues grow at their ends. -/
def Commits (s s' : RelayServer) (leaseId : Block 16) (sequence : UInt64)
    (extra : Block 16 → List QueuedDatagram) : Prop :=
  ∃ lease replay, s.leases.lookup leaseId = some lease ∧
    lease.replay.commit sequence = (some (), replay) ∧
    ∀ other after, s'.leases.lookup other = some after → ∃ before,
      s.leases.lookup other = some before ∧ after.node = before.node ∧
      after.endpoint = before.endpoint ∧
      after.replay = (if other = leaseId then replay else before.replay) ∧
      after.queue = before.queue ++ extra other

theorem commits_refreshLease {s : RelayServer} {leaseId : Block 16} {lease : Lease}
    (hl : s.leases.lookup leaseId = some lease) {sequence : UInt64} {replay : ReplayWindow}
    (hc : lease.replay.commit sequence = (some (), replay)) (traffic : TrafficBudget) (now : Nat) :
    Commits s (s.putLease leaseId
      { lease with replay := replay, traffic := traffic, lastActivity := now }) leaseId sequence
      fun _ => [] := by
  refine ⟨lease, replay, hl, hc, ?_⟩
  intro other after h
  simp only [RelayServer.putLease, lookup_insert_eq] at h
  split at h
  next ho =>
    cases Option.some.inj h
    rw [ho]
    exact ⟨lease, hl, rfl, rfl, by simp, by simp⟩
  next ho => exact ⟨after, h, rfl, rfl, by simp [ho], by simp⟩

theorem enqueue_lookup {s : RelayServer} {leaseId other : Block 16} {lease after : Lease}
    {datagram : Bytes} {now : Nat} (hl : s.leases.lookup leaseId = some lease)
    (h : (s.enqueue leaseId lease datagram now).leases.lookup other = some after) : ∃ before,
      s.leases.lookup other = some before ∧ after.node = before.node ∧
      after.endpoint = before.endpoint ∧ after.replay = before.replay ∧
      after.queue = before.queue ++ if other = leaseId then [⟨datagram, now⟩] else [] := by
  unfold RelayServer.enqueue at h
  dsimp only at h
  split at h
  next =>
    simp only [RelayServer.putLease, lookup_insert_eq] at h
    split at h
    next ho =>
      cases Option.some.inj h
      rw [ho]
      exact ⟨lease, hl, rfl, rfl, rfl, by simp⟩
    next ho => exact ⟨after, h, rfl, rfl, rfl, by simp [ho]⟩
  next =>
    simp only [RelayServer.putLease, lookup_insert_eq] at h
    split at h
    next ho =>
      cases Option.some.inj h
      rw [ho]
      exact ⟨lease, hl, rfl, rfl, rfl, by simp⟩
    next ho => exact ⟨after, h, rfl, rfl, rfl, by simp [ho]⟩

theorem Queues.commits {s s' : RelayServer} {clock : Clock} {datagram : Bytes} {source : SocketAddr}
    {leaseId : Block 16} (h : Queues s clock datagram source leaseId s') : ∃ frame lease,
      Authorized s clock datagram source frame lease ∧
      s.nodes.lookup ⟨frame.networkId, frame.destinationNodeId⟩ = some leaseId ∧
      Commits s s' frame.leaseId frame.sequence fun other =>
        if other = leaseId then [⟨datagram, clock.instant⟩] else [] := by
  obtain ⟨frame, sourceLease, replay, traffic, destination, hauth, hc, hnode, _, hafter, hs⟩ := h
  refine ⟨frame, sourceLease, hauth, hnode, sourceLease, replay, hauth.2.1, hc, ?_⟩
  intro other after hl
  rw [hs] at hl
  obtain ⟨middle, hm, hnode₁, hendpoint₁, hreplay₁, hqueue₁⟩ := enqueue_lookup hafter hl
  obtain ⟨_, _, hsource, hc', hrest⟩ := commits_refreshLease hauth.2.1 hc traffic clock.instant
  cases hc.symm.trans (by cases hauth.2.1.symm.trans hsource; exact hc')
  obtain ⟨before, hb, hnode₂, hendpoint₂, hreplay₂, hqueue₂⟩ := hrest other middle hm
  rw [List.append_nil] at hqueue₂
  refine ⟨before, hb, hnode₁.trans hnode₂, hendpoint₁.trans hendpoint₂, hreplay₁.trans hreplay₂, ?_⟩
  rw [hqueue₁, hqueue₂]

/-- The calls of the server by what they do to leases, queues and windows. -/
inductive LeaseStep (s : RelayServer) (op : RelayOp) (output : RelayOutput) (s' : RelayServer) : Prop
  | kept (h : Keeps s s') (hg : grantedLease (op, output) = none)
      (ha : acceptedDatagram (op, output) = none) (hf : sentForwards (op, output) = [])
  | granted (leaseId : Block 16) (lease : Lease) (hg : grantedLease (op, output) = some leaseId)
      (ha : acceptedDatagram (op, output) = none) (hf : sentForwards (op, output) = [])
      (hfresh : FreshLease lease) (h : ∀ other after, s'.leases.lookup other = some after →
        (other = leaseId ∧ after = lease) ∨ s.leases.lookup other = some after)
  | refreshed (leaseId : Block 16) (sequence : UInt64) (h : Commits s s' leaseId sequence fun _ => [])
      (hg : grantedLease (op, output) = none) (ha : acceptedDatagram (op, output) = none)
      (hf : sentForwards (op, output) = [])
  | queued (clock : Clock) (datagram : Bytes) (source : SocketAddr) (frame : RelayFrame)
      (lease : Lease) (destination : Block 16) (hop : op = .data clock datagram source)
      (hout : output = .data (.ok destination))
      (hauth : Authorized s clock datagram source frame lease)
      (hnode : s.nodes.lookup ⟨frame.networkId, frame.destinationNodeId⟩ = some destination)
      (h : Commits s s' frame.leaseId frame.sequence fun other =>
        if other = destination then [⟨datagram, clock.instant⟩] else [])
  | flushed (send : Nat → SendOutcome) (hop : op = .flushQueues send) (sent : List Forward)
      (hout : output = .forwards sent) (h : s.flushQueues send = (sent, s'))

theorem RelayServer.apply_leaseStep (c : Crypto) (s : RelayServer) (op : RelayOp) :
    LeaseStep s op (s.apply c op).1 (s.apply c op).2 := by
  cases op with
  | registration clock draws datagram source =>
    obtain ⟨outcome, s', hout⟩ : ∃ outcome s', s.handleRegistration c clock draws datagram source =
      (outcome, s') := ⟨_, _, rfl⟩
    simp only [RelayServer.apply, hout, Prod.map, id]
    obtain ⟨budgets, order, hcase⟩ := handleRegistration_cases hout
    have hkeeps : Keeps s (s.withSources budgets order) := Keeps.refl s
    rcases hcase with ⟨hr, hs⟩ | ⟨_, _, _, _, _, _, hr, hs⟩ | ⟨leaseId, response, hr, hg⟩
    · subst hr hs
      exact LeaseStep.kept hkeeps rfl rfl rfl
    · subst hr hs
      exact LeaseStep.kept hkeeps rfl rfl rfl
    · subst hr
      obtain ⟨verified, lease, _, _, _, _, hfresh, _, _, hs⟩ := hg
      subst hs
      refine LeaseStep.granted leaseId lease rfl rfl rfl hfresh ?_
      intro other after h
      have h' : ((s.withSources budgets order).insertLease leaseId lease).leases.lookup other =
        some after := h
      rw [lookup_insertLease] at h'
      split at h'
      next ho => exact Or.inl ⟨ho, (Option.some.inj h').symm⟩
      next =>
        split at h'
        next => simp at h'
        next => exact Or.inr h'
  | data clock datagram source =>
    obtain ⟨outcome, s', hout⟩ : ∃ outcome s', s.handleData clock datagram source = (outcome, s') :=
      ⟨_, _, rfl⟩
    simp only [RelayServer.apply, hout, Prod.map, id]
    rcases handleData_cases hout with ⟨drop, hr, hs⟩ | ⟨leaseId, hr, hq⟩
    · subst hr hs
      exact LeaseStep.kept (Keeps.refl _) rfl rfl rfl
    · subst hr
      obtain ⟨frame, lease, hauth, hnode, hc⟩ := hq.commits
      exact LeaseStep.queued clock datagram source frame lease leaseId rfl rfl hauth hnode hc
  | keepalive clock datagram source =>
    obtain ⟨outcome, s', hout⟩ : ∃ outcome s', s.handleKeepalive c clock datagram source =
      (outcome, s') := ⟨_, _, rfl⟩
    simp only [RelayServer.apply, hout, Prod.map, id]
    rcases handleKeepalive_cases hout with hs | hr
    · subst hs
      exact LeaseStep.kept (Keeps.refl _) rfl rfl rfl
    · obtain ⟨frame, lease, replay, traffic, hl, _, hc, hs⟩ := hr
      subst hs
      exact LeaseStep.refreshed frame.leaseId frame.sequence
        (commits_refreshLease hl hc traffic clock.instant) rfl rfl rfl
  | flushQueues send => exact LeaseStep.flushed send rfl _ rfl rfl
  | cleanup clock => exact LeaseStep.kept (cleanup_keeps s clock) rfl rfl rfl

def acceptedOf (history : List (RelayOp × RelayOutput)) : List (Block 16 × Bytes) :=
  history.filterMap acceptedDatagram

def forwardsOf (history : List (RelayOp × RelayOutput)) : List Forward := history.flatMap sentForwards

/-- Through every lease, what was sent and then what is queued, in the order it was accepted. -/
def InOrder (s : RelayServer) (history : List (RelayOp × RelayOutput)) : Prop :=
  ∀ leaseId, (bytesUnder leaseId ((forwardsOf history).map forwardPair) ++ queueOf s leaseId).Sublist
    (bytesUnder leaseId (acceptedOf history))

theorem InOrder.quiet {s s' : RelayServer} {history : List (RelayOp × RelayOutput)}
    (hi : InOrder s history) {event : RelayOp × RelayOutput} (ha : acceptedDatagram event = none)
    (hf : sentForwards event = [])
    (h : ∀ leaseId, (queueOf s' leaseId).Sublist (queueOf s leaseId)) : InOrder s' (history ++ [event]) := by
  intro leaseId
  have haccepted : acceptedOf (history ++ [event]) = acceptedOf history := by
    simp [acceptedOf, List.filterMap_append, ha]
  have hsent : forwardsOf (history ++ [event]) = forwardsOf history := by
    simp [forwardsOf, hf]
  rw [haccepted, hsent]
  exact ((h leaseId).append_left _).trans (hi leaseId)

theorem Commits.queueOf {s s' : RelayServer} {leaseId : Block 16} {sequence : UInt64}
    {extra : Block 16 → List QueuedDatagram} (h : Commits s s' leaseId sequence extra)
    (other : Block 16) :
    (queueOf s' other).Sublist (queueOf s other ++ (extra other).map QueuedDatagram.bytes) := by
  obtain ⟨_, _, _, _, hrest⟩ := h
  unfold XsNexus.queueOf
  cases hl : s'.leases.lookup other with
  | none => exact List.nil_sublist _
  | some after =>
    obtain ⟨before, hb, _, _, _, hqueue⟩ := hrest other after hl
    simp only [hb, hqueue, List.map_append]
    exact List.Sublist.refl _

theorem InOrder.step {s s' : RelayServer} {history : List (RelayOp × RelayOutput)}
    (hi : InOrder s history) {op : RelayOp} {output : RelayOutput} (h : LeaseStep s op output s') :
    InOrder s' (history ++ [(op, output)]) := by
  cases h with
  | kept h _ ha hf => exact hi.quiet ha hf h.queueOf
  | granted leaseId lease _ ha hf hfresh h =>
    refine hi.quiet ha hf fun other => ?_
    unfold queueOf
    cases hl : s'.leases.lookup other with
    | none => exact List.nil_sublist _
    | some after =>
      rcases h other after hl with ⟨_, hafter⟩ | hold
      · rw [hafter]
        simp only [hfresh.queue, List.map_nil]
        exact List.nil_sublist _
      · rw [hold]
  | refreshed leaseId sequence h _ ha hf =>
    refine hi.quiet ha hf fun other => ?_
    simpa using h.queueOf other
  | queued clock datagram source frame lease destination hop hout _ _ h =>
    subst hop hout
    intro other
    have haccepted : acceptedOf (history ++
        [(.data clock datagram source, .data (.ok destination))]) =
          acceptedOf history ++ [(destination, datagram)] := by
      simp [acceptedOf, List.filterMap_append, acceptedDatagram]
    have hsent : forwardsOf (history ++
        [(.data clock datagram source, .data (.ok destination))]) = forwardsOf history := by
      simp [forwardsOf, sentForwards]
    have hgrow := h.queueOf other
    have hold := hi other
    rw [haccepted, hsent, bytesUnder_append]
    by_cases ho : other = destination
    · have hone : bytesUnder other [(destination, datagram)] = [datagram] := by
        simp [bytesUnder, ho]
      rw [hone]
      simp only [if_pos ho, List.map_cons, List.map_nil] at hgrow
      have hstep := (hgrow.append_left (bytesUnder other ((forwardsOf history).map forwardPair)))
      rw [← List.append_assoc] at hstep
      exact hstep.trans (hold.append_right [datagram])
    · have hnone : bytesUnder other [(destination, datagram)] = [] := by
        simp [bytesUnder, Ne.symm ho]
      rw [hnone, List.append_nil]
      simp only [if_neg ho, List.map_nil, List.append_nil] at hgrow
      exact (hgrow.append_left _).trans hold
  | flushed send hop sent hout h =>
    subst hop hout
    intro other
    have haccepted : acceptedOf (history ++ [(.flushQueues send, .forwards sent)]) =
        acceptedOf history := by
      simp [acceptedOf, List.filterMap_append, acceptedDatagram]
    have hsent : forwardsOf (history ++ [(.flushQueues send, .forwards sent)]) =
        forwardsOf history ++ sent := by
      simp [forwardsOf, sentForwards]
    have hflush := flushLoop_queueOf maxFlushPerTick send s other
    rw [show RelayServer.flushLoop maxFlushPerTick send s = (sent, s') from h] at hflush
    rw [haccepted, hsent, List.map_append, bytesUnder_append, List.append_assoc]
    exact (hflush.append_left _).trans (hi other)

theorem inOrder_run (c : Crypto) (config : RelayConfig) (ops : List RelayOp) :
    InOrder (final (RelayServer.apply c) (RelayServer.new config) ops)
      (trace (RelayServer.apply c) (RelayServer.new config) ops) := by
  refine run_invariant (P := InOrder) ?_ ops ?_
  · intro s history op h
    exact h.step (s.apply_leaseStep c op)
  · intro leaseId
    simp [forwardsOf, acceptedOf, bytesUnder, queueOf, RelayServer.new]

def grantsOf (history : List (RelayOp × RelayOutput)) : List (Block 16) :=
  history.filterMap grantedLease

/-- The part of a run since a lease id was last granted: the life of the present lease. -/
def sinceGrant (leaseId : Block 16) (history : List (RelayOp × RelayOutput)) :
    List (RelayOp × RelayOutput) :=
  history.rtakeWhile fun event => decide (grantedLease event ≠ some leaseId)

theorem sinceGrant_append (leaseId : Block 16) (history : List (RelayOp × RelayOutput))
    (event : RelayOp × RelayOutput) : sinceGrant leaseId (history ++ [event]) =
      if grantedLease event = some leaseId then [] else sinceGrant leaseId history ++ [event] := by
  unfold sinceGrant
  rw [List.rtakeWhile_concat]
  by_cases h : grantedLease event = some leaseId
  · simp [h]
  · simp [h]

def acceptedSince (leaseId : Block 16) (history : List (RelayOp × RelayOutput)) :
    List (Block 16 × Bytes) := acceptedOf (sinceGrant leaseId history)

theorem acceptedOf_append (history : List (RelayOp × RelayOutput)) (event : RelayOp × RelayOutput) :
    acceptedOf (history ++ [event]) = acceptedOf history ++ (acceptedDatagram event).toList := by
  unfold acceptedOf
  rw [List.filterMap_append]
  cases h : acceptedDatagram event with
  | none => simp [h]
  | some pair => simp [h]

theorem acceptedSince_append (leaseId : Block 16) (history : List (RelayOp × RelayOutput))
    (event : RelayOp × RelayOutput) : acceptedSince leaseId (history ++ [event]) =
      if grantedLease event = some leaseId then []
      else acceptedSince leaseId history ++ (acceptedDatagram event).toList := by
  unfold acceptedSince
  rw [sinceGrant_append]
  split
  next => rfl
  next => exact acceptedOf_append _ _

/-- No sequence is accepted twice under one lease, and one its window has not taken not at all. -/
structure WindowInvariant (s : RelayServer) (history : List (RelayOp × RelayOutput)) : Prop where
  once : ∀ leaseId sequence, frameCount leaseId sequence (acceptedSince leaseId history) ≤ 1
  bounded : ∀ leaseId sequence,
    frameCount leaseId sequence (acceptedOf history) ≤ (grantsOf history).count leaseId
  live : ∀ leaseId lease, s.leases.lookup leaseId = some lease → ∃ seen, lease.replay.Holds seen ∧
    ∀ sequence : UInt64, sequence.toNat ∉ seen →
      frameCount leaseId sequence (acceptedSince leaseId history) = 0 ∧
      frameCount leaseId sequence (acceptedOf history) + 1 ≤ (grantsOf history).count leaseId

theorem WindowInvariant.quiet {s s' : RelayServer} {history : List (RelayOp × RelayOutput)}
    (hi : WindowInvariant s history) {event : RelayOp × RelayOutput} (hg : grantedLease event = none)
    (ha : acceptedDatagram event = none)
    (h : ∀ leaseId lease', s'.leases.lookup leaseId = some lease' → ∃ lease,
      s.leases.lookup leaseId = some lease ∧ ∀ seen, lease.replay.Holds seen →
        ∃ seen', lease'.replay.Holds seen' ∧ seen ⊆ seen') : WindowInvariant s' (history ++ [event]) := by
  have haccepted : acceptedOf (history ++ [event]) = acceptedOf history := by
    simp [acceptedOf_append, ha]
  have hsince : ∀ leaseId, acceptedSince leaseId (history ++ [event]) = acceptedSince leaseId history := by
    simp [acceptedSince_append, hg, ha]
  have hgrants : grantsOf (history ++ [event]) = grantsOf history := by
    simp [grantsOf, List.filterMap_append, hg]
  refine ⟨?_, ?_, ?_⟩
  · intro leaseId
    rw [hsince]
    exact hi.once leaseId
  · rw [haccepted, hgrants]
    exact hi.bounded
  · intro leaseId lease' hl'
    rw [haccepted, hgrants, hsince]
    obtain ⟨lease, hl, hwindow⟩ := h leaseId lease' hl'
    obtain ⟨seen, hholds, hfree⟩ := hi.live leaseId lease hl
    obtain ⟨seen', hholds', hsub⟩ := hwindow seen hholds
    exact ⟨seen', hholds', fun sequence hs => hfree sequence fun hm => hs (hsub hm)⟩

theorem WindowInvariant.granted {s s' : RelayServer} {history : List (RelayOp × RelayOutput)}
    (hi : WindowInvariant s history) {event : RelayOp × RelayOutput} {leaseId : Block 16} {lease : Lease}
    (hg : grantedLease event = some leaseId) (ha : acceptedDatagram event = none)
    (hfresh : FreshLease lease) (h : ∀ other after, s'.leases.lookup other = some after →
      (other = leaseId ∧ after = lease) ∨ s.leases.lookup other = some after) :
    WindowInvariant s' (history ++ [event]) := by
  have haccepted : acceptedOf (history ++ [event]) = acceptedOf history := by
    simp [acceptedOf_append, ha]
  have hsince : ∀ other, acceptedSince other (history ++ [event]) =
      if leaseId = other then [] else acceptedSince other history := by
    simp [acceptedSince_append, hg, ha]
  have hgrants : grantsOf (history ++ [event]) = grantsOf history ++ [leaseId] := by
    simp [grantsOf, List.filterMap_append, hg]
  have hmore : ∀ other, (grantsOf history).count other ≤ (grantsOf history ++ [leaseId]).count other :=
    fun other => (List.sublist_append_left _ _).count_le other
  have hsame : ∀ other sequence, frameCount other sequence (acceptedSince other (history ++ [event])) ≤
      frameCount other sequence (acceptedSince other history) := by
    intro other sequence
    rw [hsince]
    split
    next => exact Nat.zero_le _
    next => exact Nat.le_refl _
  refine ⟨?_, ?_, ?_⟩
  · intro other sequence
    exact Nat.le_trans (hsame other sequence) (hi.once other sequence)
  · rw [haccepted, hgrants]
    intro other sequence
    exact Nat.le_trans (hi.bounded other sequence) (hmore other)
  · rw [haccepted, hgrants]
    intro other after hl
    rcases h other after hl with ⟨ho, hafter⟩ | hold
    · subst hafter ho
      refine ⟨∅, ?_, ?_⟩
      · rw [hfresh.replay]
        exact ReplayWindow.holds_new
      · intro sequence _
        have hb := hi.bounded other sequence
        rw [List.count_append, List.count_singleton_self, hsince, if_pos rfl]
        exact ⟨rfl, Nat.succ_le_succ hb⟩
    · obtain ⟨seen, hholds, hfree⟩ := hi.live other after hold
      refine ⟨seen, hholds, fun sequence hs => ?_⟩
      obtain ⟨hzero, hspare⟩ := hfree sequence hs
      have hle := hsame other sequence
      rw [hzero] at hle
      exact ⟨Nat.le_zero.mp hle, Nat.le_trans hspare (hmore other)⟩

theorem frameCount_append_one (leaseId : Block 16) (sequence : UInt64)
    (pairs : List (Block 16 × Bytes)) (destination : Block 16) {datagram : Bytes} {frame : RelayFrame}
    (h : parseRelayFrame datagram = some frame) :
    frameCount leaseId sequence (pairs ++ [(destination, datagram)]) = frameCount leaseId sequence pairs +
      if frame.leaseId = leaseId ∧ frame.sequence = sequence then 1 else 0 := by
  simp [frameCount, frameKey, h, List.countP_cons]

/-- An accepted frame takes a sequence its lease's window had not seen. -/
theorem WindowInvariant.queued {s s' : RelayServer} {history : List (RelayOp × RelayOutput)}
    (hi : WindowInvariant s history) {event : RelayOp × RelayOutput} {frame : RelayFrame}
    {datagram : Bytes} {destination : Block 16} {extra : Block 16 → List QueuedDatagram}
    (hg : grantedLease event = none) (ha : acceptedDatagram event = some (destination, datagram))
    (hparse : parseRelayFrame datagram = some frame)
    (h : Commits s s' frame.leaseId frame.sequence extra) : WindowInvariant s' (history ++ [event]) := by
  have haccepted : acceptedOf (history ++ [event]) = acceptedOf history ++ [(destination, datagram)] := by
    simp [acceptedOf_append, ha]
  have hsince : ∀ other, acceptedSince other (history ++ [event]) =
      acceptedSince other history ++ [(destination, datagram)] := by
    simp [acceptedSince_append, hg, ha]
  have hgrants : grantsOf (history ++ [event]) = grantsOf history := by
    simp [grantsOf, List.filterMap_append, hg]
  obtain ⟨source, replay, hsource, hc, hrest⟩ := h
  obtain ⟨seen, hholds, hfree⟩ := hi.live _ _ hsource
  obtain ⟨hnew, hholds'⟩ := ReplayWindow.commit_eq_some hholds hc
  obtain ⟨hzero, hspare⟩ := hfree frame.sequence hnew
  refine ⟨?_, ?_, ?_⟩
  · intro leaseId sequence
    rw [hsince, frameCount_append_one _ _ _ _ hparse]
    split
    next hsame =>
      rw [← hsame.1, ← hsame.2, hzero]
    next => exact hi.once leaseId sequence
  · rw [haccepted, hgrants]
    intro leaseId sequence
    rw [frameCount_append_one _ _ _ _ hparse]
    split
    next hsame =>
      rw [← hsame.1, ← hsame.2]
      exact hspare
    next => exact hi.bounded leaseId sequence
  · rw [haccepted, hgrants]
    intro other after hl
    obtain ⟨before, hb, _, _, hreplay, _⟩ := hrest other after hl
    by_cases ho : other = frame.leaseId
    · rw [if_pos ho] at hreplay
      refine ⟨insert frame.sequence.toNat seen, by rw [hreplay]; exact hholds', ?_⟩
      intro sequence hs
      rw [Finset.mem_insert, not_or] at hs
      have hne : ¬ (frame.leaseId = other ∧ frame.sequence = sequence) := fun hsame => by
        rw [hsame.2] at hs
        exact hs.1 rfl
      rw [hsince, frameCount_append_one _ _ _ _ hparse, frameCount_append_one _ _ _ _ hparse, if_neg hne, ho]
      exact hfree sequence hs.2
    · rw [if_neg ho] at hreplay
      obtain ⟨seen₀, hholds₀, hfree₀⟩ := hi.live other before hb
      refine ⟨seen₀, by rw [hreplay]; exact hholds₀, ?_⟩
      intro sequence hs
      have hne : ¬ (frame.leaseId = other ∧ frame.sequence = sequence) := fun hsame =>
        ho hsame.1.symm
      rw [hsince, frameCount_append_one _ _ _ _ hparse, frameCount_append_one _ _ _ _ hparse, if_neg hne]
      exact hfree₀ sequence hs

theorem Keeps.windows {s s' : RelayServer} (h : Keeps s s') :
    ∀ leaseId lease', s'.leases.lookup leaseId = some lease' → ∃ lease,
      s.leases.lookup leaseId = some lease ∧ ∀ seen, lease.replay.Holds seen →
        ∃ seen', lease'.replay.Holds seen' ∧ seen ⊆ seen' := by
  intro leaseId lease' hl'
  obtain ⟨lease, hl, _, _, hreplay, _⟩ := h leaseId lease' hl'
  refine ⟨lease, hl, fun seen hholds => ⟨seen, ?_, fun _ hm => hm⟩⟩
  rw [hreplay]
  exact hholds

theorem WindowInvariant.step {s s' : RelayServer} {history : List (RelayOp × RelayOutput)}
    (hi : WindowInvariant s history) {op : RelayOp} {output : RelayOutput}
    (h : LeaseStep s op output s') : WindowInvariant s' (history ++ [(op, output)]) := by
  cases h with
  | kept h hg ha _ => exact hi.quiet hg ha h.windows
  | granted leaseId lease hg ha _ hfresh h => exact hi.granted hg ha hfresh h
  | refreshed leaseId sequence h hg ha _ =>
    obtain ⟨source, replay, hsource, hc, hrest⟩ := h
    refine hi.quiet hg ha fun other after hl => ?_
    obtain ⟨before, hb, _, _, hreplay, _⟩ := hrest other after hl
    refine ⟨before, hb, fun seen hholds => ?_⟩
    by_cases ho : other = leaseId
    · rw [ho] at hb
      cases hb.symm.trans hsource
      rw [if_pos ho] at hreplay
      obtain ⟨_, hholds'⟩ := ReplayWindow.commit_eq_some hholds hc
      exact ⟨_, by rw [hreplay]; exact hholds', Finset.subset_insert _ _⟩
    · rw [if_neg ho] at hreplay
      exact ⟨seen, by rw [hreplay]; exact hholds, fun _ hm => hm⟩
  | queued clock datagram source frame lease destination hop hout hauth _ h =>
    subst hop hout
    exact hi.queued rfl rfl hauth.1 h
  | flushed send hop sent hout h =>
    subst hop hout
    have hkeeps := flushLoop_keeps maxFlushPerTick send s
    rw [show RelayServer.flushLoop maxFlushPerTick send s = (sent, s') from h] at hkeeps
    exact hi.quiet rfl rfl hkeeps.windows

theorem windowInvariant_run (c : Crypto) (config : RelayConfig) (ops : List RelayOp) :
    WindowInvariant (final (RelayServer.apply c) (RelayServer.new config) ops)
      (trace (RelayServer.apply c) (RelayServer.new config) ops) := by
  refine run_invariant (P := WindowInvariant) ?_ ops ?_
  · intro s history op h
    exact h.step (s.apply_leaseStep c op)
  · refine ⟨?_, ?_, ?_⟩
    · intro leaseId sequence
      exact Nat.zero_le _
    · intro leaseId sequence
      exact Nat.le_refl _
    · intro leaseId lease h
      simp [RelayServer.new] at h

/-- Earlier in the run the datagram came in as a data frame for the given node, under a lease that
was live at that moment and matched the frame's network and source node and the endpoint it came
from. -/
def ReceivedBefore (c : Crypto) (start : RelayServer) (ops : List RelayOp) (bytes : Bytes)
    (node : NodeKey) : Prop :=
  ∃ before clock source after frame lease,
    ops = before ++ .data clock bytes source :: after ∧
    Authorized (final (RelayServer.apply c) start before) clock bytes source frame lease ∧
    node = ⟨frame.networkId, frame.destinationNodeId⟩

theorem ReceivedBefore.later {c : Crypto} {start : RelayServer} {ops : List RelayOp} {bytes : Bytes}
    {node : NodeKey} (h : ReceivedBefore c start ops bytes node) (op : RelayOp) :
    ReceivedBefore c start (ops ++ [op]) bytes node := by
  obtain ⟨before, clock, source, after, frame, lease, hops, hauth, hnode⟩ := h
  refine ⟨before, clock, source, after ++ [op], frame, lease, ?_, hauth, hnode⟩
  rw [hops, List.append_assoc, List.cons_append]

/-- Every queued datagram was received for the node of the lease that holds it. -/
theorem queued_received (c : Crypto) (config : RelayConfig) (ops : List RelayOp) :
    ∀ leaseId lease,
      (final (RelayServer.apply c) (RelayServer.new config) ops).leases.lookup leaseId = some lease →
      ∀ datagram ∈ lease.queue,
        ReceivedBefore c (RelayServer.new config) ops datagram.bytes lease.node := by
  induction ops using List.reverseRecOn with
  | nil =>
    intro leaseId lease h
    simp [final, RelayServer.new] at h
  | append_singleton ops op ih =>
    intro leaseId lease' hl' datagram hd
    have htable := leaseTable_run c config ops
    have hstep := (final (RelayServer.apply c) (RelayServer.new config) ops).apply_leaseStep c op
    rw [final_append] at hl'
    simp only [final] at hl'
    cases hstep with
    | kept h _ _ _ =>
      obtain ⟨lease, hl, hnode, _, _, hqueue⟩ := h leaseId lease' hl'
      rw [hnode]
      exact (ih leaseId lease hl datagram (hqueue.subset hd)).later op
    | granted other lease _ _ _ hfresh h =>
      rcases h leaseId lease' hl' with ⟨_, hafter⟩ | hold
      · rw [hafter, hfresh.queue] at hd
        simp at hd
      · exact (ih leaseId lease' hold datagram hd).later op
    | refreshed other sequence h _ _ _ =>
      obtain ⟨_, _, _, _, hrest⟩ := h
      obtain ⟨lease, hl, hnode, _, _, hqueue⟩ := hrest leaseId lease' hl'
      rw [List.append_nil] at hqueue
      rw [hqueue] at hd
      rw [hnode]
      exact (ih leaseId lease hl datagram hd).later op
    | queued clock bytes source frame lease destination hop _ hauth hnode h =>
      obtain ⟨_, _, _, _, hrest⟩ := h
      obtain ⟨before, hb, hsame, _, _, hqueue⟩ := hrest leaseId lease' hl'
      rw [hqueue] at hd
      rw [hsame]
      rcases List.mem_append.mp hd with hd | hd
      · exact (ih leaseId before hb datagram hd).later op
      · dsimp only at hd
        split at hd
        next ho =>
          cases List.mem_singleton.mp hd
          obtain ⟨registered, hr, hrnode⟩ := (htable.nodes_leases _ _).mp hnode
          rw [ho] at hb
          cases hb.symm.trans hr
          exact ⟨ops, clock, source, [], frame, lease, by rw [hop], hauth, hrnode⟩
        next => simp at hd
    | flushed send hop sent _ h =>
      have hkeeps := flushLoop_keeps maxFlushPerTick send
        (final (RelayServer.apply c) (RelayServer.new config) ops)
      rw [hop] at hl'
      obtain ⟨lease, hl, hnode, _, _, hqueue⟩ := hkeeps leaseId lease' hl'
      rw [hnode]
      exact (ih leaseId lease hl datagram (hqueue.subset hd)).later op

theorem count_bytesUnder (leaseId : Block 16) (bytes : Bytes) (pairs : List (Block 16 × Bytes)) :
    (bytesUnder leaseId pairs).count bytes = pairs.count (leaseId, bytes) := by
  induction pairs with
  | nil => rfl
  | cons pair pairs ih =>
    obtain ⟨other, datagram⟩ := pair
    by_cases ho : other = leaseId
    · subst ho
      have hcons : bytesUnder other ((other, datagram) :: pairs) = datagram :: bytesUnder other pairs := by
        simp [bytesUnder]
      rw [hcons, List.count_cons, List.count_cons, ih]
      simp
    · have hcons : bytesUnder leaseId ((other, datagram) :: pairs) = bytesUnder leaseId pairs := by
        simp [bytesUnder, ho]
      have hne : (other, datagram) ≠ (leaseId, bytes) := fun heq => ho (Prod.mk.inj heq).1
      rw [hcons, List.count_cons_of_ne hne, ih]

/-- Whatever is counted, no more is sent than was accepted. -/
theorem InOrder.frameCount_le {s : RelayServer} {history : List (RelayOp × RelayOutput)}
    (h : InOrder s history) (leaseId : Block 16) (sequence : UInt64) :
    frameCount leaseId sequence ((forwardsOf history).map forwardPair) ≤
      frameCount leaseId sequence (acceptedOf history) := by
  have hsubperm : ((forwardsOf history).map forwardPair).Subperm (acceptedOf history) := by
    refine List.subperm_ext_iff.mpr fun pair _ => ?_
    obtain ⟨other, bytes⟩ := pair
    rw [← count_bytesUnder, ← count_bytesUnder]
    exact ((List.sublist_append_left _ _).trans (h other)).count_le bytes
  exact hsubperm.countP_le _

/-- What leaves a lease's queue is a frame that came in for the lease's node under a live matching
lease; through one lease the frames leave in the order they were accepted; and under one lease a
sequence is accepted, and so sent, at most once. -/
theorem relay_forwards_accepted_frames (c : Crypto) (config : RelayConfig) (ops : List RelayOp) :
    let start := RelayServer.new config
    let s := final (RelayServer.apply c) start ops
    let history := trace (RelayServer.apply c) start ops
    (∀ send, ∀ forward ∈ (s.flushQueues send).1, ∃ lease,
      s.leases.lookup forward.leaseId = some lease ∧ lease.endpoint = forward.endpoint ∧
      ReceivedBefore c start ops forward.bytes lease.node) ∧
    (∀ leaseId, (bytesUnder leaseId ((forwards c start ops).map forwardPair)).Sublist
      (bytesUnder leaseId (acceptedDatagrams c start ops))) ∧
    (∀ leaseId sequence, frameCount leaseId sequence (acceptedSince leaseId history) ≤ 1) ∧
    ∀ leaseId sequence, frameCount leaseId sequence ((forwards c start ops).map forwardPair) ≤
      (grantedLeases c start ops).count leaseId := by
  have horder := inOrder_run c config ops
  have hwindow := windowInvariant_run c config ops
  refine ⟨?_, ?_, hwindow.once, ?_⟩
  · intro send forward hm
    obtain ⟨lease, hl, hendpoint, datagram, hd, hbytes⟩ := flushLoop_origin _ _ _ hm
    refine ⟨lease, hl, hendpoint, ?_⟩
    rw [← hbytes]
    exact queued_received c config ops _ lease hl datagram hd
  · intro leaseId
    exact (List.sublist_append_left _ _).trans (horder leaseId)
  · intro leaseId sequence
    exact Nat.le_trans (horder.frameCount_le leaseId sequence) (hwindow.bounded leaseId sequence)

end XsNexus
