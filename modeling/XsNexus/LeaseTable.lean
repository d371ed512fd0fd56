import XsNexus.RelaySteps

namespace XsNexus

open ByteCodec FifoMap FiniteMap MachineWords Runs

def queueLength (lease : Lease) : Nat := (lease.queue.map fun datagram => datagram.bytes.length).sum

structure QueueWithin (config : RelayConfig) (lease : Lease) : Prop where
  bytes_eq : lease.queuedBytes = queueLength lease
  bytes_le : lease.queuedBytes ≤ config.queueBytesPerNode
  packets_le : lease.queue.length ≤ config.queuePacketsPerNode
  scheduled : lease.queue ≠ [] → lease.queueScheduled = true

/-- Nodes and leases are inverse to each other, every queue stays within its limits, and the order of
the registrations lists their keys. -/
structure LeaseTable (s : RelayServer) : Prop where
  nodes_leases : ∀ node leaseId, s.nodes.lookup node = some leaseId ↔
    ∃ lease, s.leases.lookup leaseId = some lease ∧ lease.node = node
  leases_le : size s.leases ≤ s.config.maxLeases
  queues : ∀ leaseId lease, s.leases.lookup leaseId = some lease → QueueWithin s.config lease
  registrations : Lists s.registrationOrder s.registrations

theorem leaseTable_new (config : RelayConfig) : LeaseTable (RelayServer.new config) := by
  refine ⟨?_, ?_, ?_, lists_empty⟩
  · intro node leaseId
    simp [RelayServer.new]
  · exact Nat.zero_le _
  · intro leaseId lease h
    simp [RelayServer.new] at h

theorem LeaseTable.withSources {s : RelayServer} (hi : LeaseTable s)
    (budgets : Map IpAddr SourceBudget) (order : List IpAddr) :
    LeaseTable (s.withSources budgets order) :=
  ⟨hi.nodes_leases, hi.leases_le, hi.queues, hi.registrations⟩

theorem LeaseTable.withActive {s : RelayServer} (hi : LeaseTable s) (active : List (Block 16)) :
    LeaseTable { s with activeQueues := active } :=
  ⟨hi.nodes_leases, hi.leases_le, hi.queues, hi.registrations⟩

/-- A lease rewritten in place keeps its node. -/
theorem LeaseTable.putLease {s : RelayServer} (hi : LeaseTable s) {leaseId : Block 16}
    {lease lease' : Lease} (hl : s.leases.lookup leaseId = some lease)
    (hq : QueueWithin s.config lease') (hnode : lease'.node = lease.node) :
    LeaseTable (s.putLease leaseId lease') := by
  have hmem : leaseId ∈ s.leases := mem_iff_lookup.mpr ⟨lease, hl⟩
  refine ⟨?_, ?_, ?_, hi.registrations⟩
  · intro node other
    simp only [RelayServer.putLease, lookup_insert_eq]
    rw [hi.nodes_leases]
    by_cases ho : other = leaseId
    · subst ho
      simp only [if_true, hl, Option.some.injEq, exists_eq_left', hnode]
    · simp only [if_neg ho]
  · simp only [RelayServer.putLease]
    rw [size_insert_of_mem hmem]
    exact hi.leases_le
  · intro other after h
    simp only [RelayServer.putLease, lookup_insert_eq] at h
    split at h
    next =>
      cases Option.some.inj h
      exact hq
    next => exact hi.queues other after h

theorem lookup_insertLease (s : RelayServer) (leaseId : Block 16) (lease : Lease) (other : Block 16) :
    (s.insertLease leaseId lease).leases.lookup other =
      if other = leaseId then some lease
      else if s.nodes.lookup lease.node = some other then none else s.leases.lookup other := by
  simp only [RelayServer.insertLease, lookup_insert_eq]
  split
  next => rfl
  next =>
    cases hp : s.nodes.lookup lease.node with
    | none => simp
    | some previous =>
      simp only [lookup_erase_eq, Option.some.injEq]
      by_cases ho : other = previous
      · simp [ho]
      · have ho' : ¬ previous = other := fun heq => ho heq.symm
        simp [ho, ho']

theorem LeaseTable.insertLease {s : RelayServer} (hi : LeaseTable s) {leaseId : Block 16}
    {lease : Lease} (habsent : leaseId ∉ s.leases) (hfresh : FreshLease lease)
    (hroom : size s.leases < s.config.maxLeases ∨ lease.node ∈ s.nodes) :
    LeaseTable (s.insertLease leaseId lease) := by
  have hnone : s.leases.lookup leaseId = none := AList.lookup_eq_none.mpr habsent
  refine ⟨?_, ?_, ?_, hi.registrations⟩
  · intro node other
    rw [lookup_insertLease]
    simp only [RelayServer.insertLease, lookup_insert_eq]
    constructor
    · intro h
      split at h
      next hn =>
        cases Option.some.inj h
        exact ⟨lease, by simp, hn.symm⟩
      next hn =>
        obtain ⟨before, hb, hbn⟩ := (hi.nodes_leases node other).mp h
        have ho : other ≠ leaseId := fun heq => by
          rw [heq, hnone] at hb
          simp at hb
        have hkept : ¬ s.nodes.lookup lease.node = some other := fun hd => by
          obtain ⟨displaced, hdl, hdn⟩ := (hi.nodes_leases _ _).mp hd
          cases hb.symm.trans hdl
          exact hn (hbn.symm.trans hdn)
        exact ⟨before, by simp [ho, hkept, hb], hbn⟩
    · intro h
      obtain ⟨after, ha, hn⟩ := h
      split at ha
      next ho =>
        cases Option.some.inj ha
        simp [hn, ho]
      next ho =>
        split at ha
        next => simp at ha
        next hkept =>
          have hnode := (hi.nodes_leases node other).mpr ⟨after, ha, hn⟩
          have hne : ¬ node = lease.node := fun heq => by
            rw [heq] at hnode
            exact hkept hnode
          rw [if_neg hne]
          exact hnode
  · cases hp : s.nodes.lookup lease.node with
    | none =>
      have hnot : lease.node ∉ s.nodes := AList.lookup_eq_none.mp hp
      have hlt := hroom.resolve_right hnot
      simp only [RelayServer.insertLease, hp]
      rw [size_insert_of_notMem habsent]
      exact hlt
    | some previous =>
      obtain ⟨displaced, hd, _⟩ := (hi.nodes_leases _ _).mp hp
      have hmem : previous ∈ s.leases := mem_iff_lookup.mpr ⟨displaced, hd⟩
      have hstill : leaseId ∉ s.leases.erase previous := fun h => habsent (AList.mem_erase.mp h).2
      simp only [RelayServer.insertLease, hp]
      rw [size_insert_of_notMem hstill, size_erase_of_mem hmem]
      exact hi.leases_le
  · intro other after h
    rw [lookup_insertLease] at h
    split at h
    next =>
      cases Option.some.inj h
      refine ⟨?_, ?_, ?_, ?_⟩
      · rw [queueLength, hfresh.queue, hfresh.queuedBytes]
        rfl
      · rw [hfresh.queuedBytes]
        exact Nat.zero_le _
      · rw [hfresh.queue]
        exact Nat.zero_le _
      · intro hne
        exact absurd hfresh.queue hne
    next =>
      split at h
      next => simp at h
      next => exact hi.queues other after h

theorem LeaseTable.cacheRegistration {s : RelayServer} (hi : LeaseTable s) {request : RequestKey}
    (habsent : s.registrations.lookup request = none) (endpoint : SocketAddr) (response : Block 168)
    (now : Nat) : LeaseTable (s.cacheRegistration request endpoint response now) := by
  refine ⟨hi.nodes_leases, hi.leases_le, hi.queues, ?_⟩
  have hlists := hi.registrations.evictOldest s.maxRegistrations
  have hnot : request ∉ (evictOldest s.maxRegistrations s.registrationOrder s.registrations).2 := by
    intro hmem
    obtain ⟨cached, hc⟩ := mem_iff_lookup.mp hmem
    have hold := lookup_evictOldest_eq_some hc
    rw [habsent] at hold
    simp at hold
  exact hlists.push hnot _

theorem LeaseTable.grants {c : Crypto} {s s' : RelayServer} (hi : LeaseTable s) {clock : Clock}
    {datagram : Bytes} {source : SocketAddr} {leaseId : Block 16} {response : Block 168}
    (h : Grants c s clock datagram source leaseId response s') : LeaseTable s' := by
  obtain ⟨verified, lease, _, hcached, hroom, habsent, hfresh, hnode, _, hs⟩ := h
  subst hs
  rw [← hnode] at hroom
  exact (hi.insertLease habsent hfresh hroom).cacheRegistration hcached source response _

theorem LeaseTable.refreshLease {s : RelayServer} (hi : LeaseTable s) {leaseId : Block 16}
    {lease : Lease} (hl : s.leases.lookup leaseId = some lease) (replay : ReplayWindow)
    (traffic : TrafficBudget) (now : Nat) :
    LeaseTable (s.putLease leaseId
      { lease with replay := replay, traffic := traffic, lastActivity := now }) := by
  obtain ⟨hbytes, hle, hpackets, hscheduled⟩ := hi.queues leaseId lease hl
  have hwithin : QueueWithin s.config
      { lease with replay := replay, traffic := traffic, lastActivity := now } :=
    ⟨hbytes, hle, hpackets, hscheduled⟩
  exact hi.putLease hl hwithin rfl

theorem LeaseTable.refreshes {s s' : RelayServer} (hi : LeaseTable s) {clock : Clock}
    {source : SocketAddr} (h : Refreshes s clock source s') : LeaseTable s' := by
  obtain ⟨frame, lease, replay, traffic, hl, _, _, hs⟩ := h
  subst hs
  exact hi.refreshLease hl replay traffic _

theorem LeaseTable.enqueue {s : RelayServer} (hi : LeaseTable s) {leaseId : Block 16}
    {lease : Lease} (hl : s.leases.lookup leaseId = some lease) {datagram : Bytes}
    (hpackets : lease.queue.length < s.config.queuePacketsPerNode)
    (hbytes : usizeSaturatingAdd lease.queuedBytes datagram.length ≤ s.config.queueBytesPerNode)
    (now : Nat) : LeaseTable (s.enqueue leaseId lease datagram now) := by
  have hq := hi.queues leaseId lease hl
  have hlimit : s.config.queueBytesPerNode < usizeMax := by
    have hbound := s.config.queueBytesPerNode_bounds.2.1
    unfold usizeMax
    omega
  have hsum := usizeSaturatingAdd_of_le hbytes hlimit
  have hwithin : QueueWithin s.config { lease with
      queuedBytes := usizeSaturatingAdd lease.queuedBytes datagram.length
      queue := lease.queue ++ [⟨datagram, now⟩]
      queueScheduled := true } := by
    refine ⟨?_, hbytes, ?_, fun _ => rfl⟩
    · have hold := hq.bytes_eq
      unfold queueLength at hold ⊢
      rw [hsum, hold]
      simp
    · rw [List.length_append, List.length_singleton]
      exact hpackets
  unfold RelayServer.enqueue
  dsimp only
  split
  next => exact (hi.putLease hl hwithin rfl).withActive _
  next hflag =>
    rw [Bool.not_eq_true', Bool.not_eq_false] at hflag
    rw [← hflag] at hwithin
    exact hi.putLease hl hwithin rfl

theorem LeaseTable.queues_datagram {s s' : RelayServer} (hi : LeaseTable s) {clock : Clock}
    {datagram : Bytes} {source : SocketAddr} {leaseId : Block 16}
    (h : Queues s clock datagram source leaseId s') : LeaseTable s' := by
  obtain ⟨frame, sourceLease, replay, traffic, destination, hauth, _, _, hbefore, hafter, hs⟩ := h
  obtain ⟨before, hb, hpackets, hbytes⟩ := hbefore
  obtain ⟨_, hsource, _⟩ := hauth
  have hrefreshed := hi.refreshLease hsource replay traffic clock.instant
  have hsame : destination.queue = before.queue ∧ destination.queuedBytes = before.queuedBytes := by
    simp only [RelayServer.putLease, lookup_insert_eq] at hafter
    split at hafter
    next heq =>
      cases Option.some.inj hafter
      rw [heq, hsource] at hb
      cases Option.some.inj hb
      exact ⟨rfl, rfl⟩
    next =>
      cases hb.symm.trans hafter
      exact ⟨rfl, rfl⟩
  subst hs
  rw [← hsame.1] at hpackets
  rw [← hsame.2] at hbytes
  exact hrefreshed.enqueue hafter hpackets hbytes clock.instant

theorem QueueWithin.pop {config : RelayConfig} {lease : Lease} (h : QueueWithin config lease) :
    QueueWithin config (RelayServer.popQueue lease) := by
  unfold RelayServer.popQueue
  split
  next => exact h
  next datagram queue hqueue =>
    have hbytes := h.bytes_eq
    have hle := h.bytes_le
    have hpackets := h.packets_le
    rw [queueLength, hqueue, List.map_cons, List.sum_cons] at hbytes
    rw [hqueue, List.length_cons] at hpackets
    refine ⟨?_, ?_, ?_, ?_⟩
    · simp only [queueLength]
      omega
    · dsimp only
      omega
    · exact Nat.le_of_succ_le hpackets
    · intro _
      exact h.scheduled (by simp [hqueue])

theorem QueueWithin.reflag {config : RelayConfig} {lease : Lease} (h : QueueWithin config lease)
    (hempty : lease.queue = []) : QueueWithin config { lease with queueScheduled := false } := by
  obtain ⟨hbytes, hle, hpackets, _⟩ := h
  exact ⟨hbytes, hle, hpackets, fun hne => absurd hempty hne⟩

theorem LeaseTable.flushOne {s s' : RelayServer} (hi : LeaseTable s) {send : SendOutcome}
    {forward : Option Forward} (h : s.flushOne send = some (forward, s')) : LeaseTable s' := by
  obtain ⟨leaseId, rest, _, hcase⟩ := flushOne_cases h
  have hrest := hi.withActive rest
  rcases hcase with ⟨_, _, hs⟩ | ⟨lease, _, hl, hqueue, hs⟩ | ⟨lease, datagram, queue, hl, hqueue, _, hs⟩
  · subst hs
    exact hrest
  · subst hs
    exact hrest.putLease hl ((hi.queues leaseId lease hl).reflag hqueue) rfl
  · subst hs
    have hpopped := (hi.queues leaseId lease hl).pop
    have hnode : (RelayServer.popQueue lease).node = lease.node := by
      simp [RelayServer.popQueue, hqueue]
    unfold RelayServer.reschedule
    split
    next hempty => exact hrest.putLease hl (hpopped.reflag (List.isEmpty_iff.mp hempty)) hnode
    next => exact (hrest.putLease hl hpopped hnode).withActive _

theorem LeaseTable.flushLoop {s : RelayServer} (hi : LeaseTable s) (remaining : Nat)
    (send : Nat → SendOutcome) : LeaseTable (RelayServer.flushLoop remaining send s).2 := by
  induction remaining generalizing s send with
  | zero => exact hi
  | succ remaining ih =>
    unfold RelayServer.flushLoop
    split
    next => exact hi
    next hone => exact ih (hi.flushOne hone) _

theorem LeaseTable.removeExpired {s : RelayServer} (hi : LeaseTable s) {leaseId : Block 16}
    {node : NodeKey} (hn : ∀ lease, s.leases.lookup leaseId = some lease → lease.node = node) :
    LeaseTable (s.removeExpired leaseId node) := by
  have hleases : ∀ other lease, (s.removeExpired leaseId node).leases.lookup other = some lease →
      other ≠ leaseId ∧ s.leases.lookup other = some lease := by
    intro other lease h
    simp only [RelayServer.removeExpired, lookup_erase_eq] at h
    split at h
    next => simp at h
    next ho => exact ⟨ho, h⟩
  refine ⟨?_, ?_, ?_, hi.registrations⟩
  · intro key other
    simp only [RelayServer.removeExpired, lookup_erase_eq]
    constructor
    · intro h
      have hold : s.nodes.lookup key = some other ∧ (s.nodes.lookup node = some leaseId → key ≠ node) := by
        split at h
        next howned =>
          rw [lookup_erase_eq] at h
          split at h
          next => simp at h
          next hk => exact ⟨h, fun _ => hk⟩
        next howned => exact ⟨h, fun ho => absurd ho howned⟩
      obtain ⟨lease, hl, hk⟩ := (hi.nodes_leases key other).mp hold.1
      have ho : other ≠ leaseId := fun heq => by
        rw [heq] at hl
        have hsame : key = node := hk.symm.trans (hn lease hl)
        have howned := (hi.nodes_leases node leaseId).mpr ⟨lease, hl, hn lease hl⟩
        exact hold.2 howned hsame
      exact ⟨lease, by rw [if_neg ho]; exact hl, hk⟩
    · intro h
      obtain ⟨lease, hl, hk⟩ := h
      split at hl
      next => simp at hl
      next ho =>
        have hnode := (hi.nodes_leases key other).mpr ⟨lease, hl, hk⟩
        split
        next howned =>
          have hne : key ≠ node := fun heq => by
            rw [heq, howned] at hnode
            exact ho (Option.some.inj hnode).symm
          rw [lookup_erase_eq, if_neg hne]
          exact hnode
        next => exact hnode
  · exact Nat.le_trans (size_erase_le _ _) hi.leases_le
  · intro other lease h
    exact hi.queues other lease (hleases other lease h).2

theorem removeExpired_lookup {s : RelayServer} {leaseId other : Block 16} {node : NodeKey} {lease : Lease}
    (h : (s.removeExpired leaseId node).leases.lookup other = some lease) :
    s.leases.lookup other = some lease := by
  simp only [RelayServer.removeExpired, lookup_erase_eq] at h
  split at h
  next => simp at h
  next => exact h

theorem LeaseTable.removeAll {s : RelayServer} (hi : LeaseTable s)
    (expired : List (Block 16 × NodeKey))
    (hn : ∀ entry ∈ expired, ∀ lease, s.leases.lookup entry.1 = some lease → lease.node = entry.2) :
    LeaseTable (expired.foldl (fun s entry => s.removeExpired entry.1 entry.2) s) := by
  induction expired generalizing s with
  | nil => exact hi
  | cons entry expired ih =>
    refine ih (hi.removeExpired (hn entry (List.mem_cons_self ..))) ?_
    intro later hl lease h
    exact hn later (List.mem_cons_of_mem _ hl) lease (removeExpired_lookup h)

theorem LeaseTable.cleanup {s : RelayServer} (hi : LeaseTable s) (clock : Clock) :
    LeaseTable (s.cleanup clock) := by
  have hremoved := hi.removeAll (s.leases.entries.filterMap fun entry =>
    if s.leaseExpired clock entry.2 then some (entry.1, entry.2.node) else none) (by
      intro entry hentry lease hl
      obtain ⟨stored, hstored, heq⟩ := List.mem_filterMap.mp hentry
      split at heq
      next =>
        cases Option.some.inj heq
        have hlookup : s.leases.lookup stored.1 = some stored.2 := AList.mem_lookup_iff.mpr hstored
        cases hl.symm.trans hlookup
        rfl
      next => simp at heq)
  exact ⟨hremoved.nodes_leases, hremoved.leases_le, hremoved.queues,
    hremoved.registrations.pruneFront _⟩

theorem LeaseTable.apply {c : Crypto} {s : RelayServer} (hi : LeaseTable s) (op : RelayOp) :
    LeaseTable (s.apply c op).2 := by
  cases op with
  | registration clock draws datagram source =>
    obtain ⟨outcome, s', hout⟩ : ∃ outcome s', s.handleRegistration c clock draws datagram source =
      (outcome, s') := ⟨_, _, rfl⟩
    simp only [RelayServer.apply, hout, Prod.map, id]
    obtain ⟨budgets, order, hcase⟩ := handleRegistration_cases hout
    have hi' := hi.withSources budgets order
    rcases hcase with ⟨_, hs⟩ | ⟨_, _, _, _, _, _, _, hs⟩ | ⟨leaseId, response, _, hg⟩
    · rw [hs]
      exact hi'
    · rw [hs]
      exact hi'
    · exact hi'.grants hg
  | data clock datagram source =>
    obtain ⟨outcome, s', hout⟩ : ∃ outcome s', s.handleData clock datagram source = (outcome, s') :=
      ⟨_, _, rfl⟩
    simp only [RelayServer.apply, hout, Prod.map, id]
    rcases handleData_cases hout with ⟨_, _, hs⟩ | ⟨leaseId, _, hq⟩
    · rw [hs]
      exact hi
    · exact hi.queues_datagram hq
  | keepalive clock datagram source =>
    obtain ⟨outcome, s', hout⟩ : ∃ outcome s', s.handleKeepalive c clock datagram source =
      (outcome, s') := ⟨_, _, rfl⟩
    simp only [RelayServer.apply, hout, Prod.map, id]
    rcases handleKeepalive_cases hout with hs | hr
    · rw [hs]
      exact hi
    · exact hi.refreshes hr
  | flushQueues send => exact hi.flushLoop maxFlushPerTick send
  | cleanup clock => exact hi.cleanup clock

/-- The lease table is sound after any calls, whatever lease ids are drawn. -/
theorem leaseTable_run (c : Crypto) (config : RelayConfig) (ops : List RelayOp) :
    LeaseTable (final (RelayServer.apply c) (RelayServer.new config) ops) :=
  run_invariant (P := fun s _ => LeaseTable s) (fun _ _ op h => h.apply op) ops (leaseTable_new config)

end XsNexus
