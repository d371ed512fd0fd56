import XsNexus.CanonicalFrames
import XsNexus.LeaseTable

namespace XsNexus

open ByteCodec FifoMap FiniteMap MachineWords Runs

/-- A live lease stands in the schedule exactly as often as its flag says. -/
def Scheduled (s : RelayServer) : Prop :=
  ∀ leaseId lease, s.leases.lookup leaseId = some lease →
    s.activeQueues.count leaseId = if lease.queueScheduled then 1 else 0

structure RelayInvariant (s : RelayServer) : Prop where
  table : LeaseTable s
  scheduled : Scheduled s

/-- A lease rewritten in place may change the schedule for itself only. -/
theorem Scheduled.putLease {s : RelayServer} (hi : Scheduled s) {leaseId : Block 16} {lease : Lease}
    {active : List (Block 16)} (hown : active.count leaseId = if lease.queueScheduled then 1 else 0)
    (hothers : ∀ other, other ≠ leaseId → active.count other = s.activeQueues.count other) :
    Scheduled { s.putLease leaseId lease with activeQueues := active } := by
  intro other after h
  simp only [RelayServer.putLease, lookup_insert_eq] at h
  split at h
  next ho =>
    cases Option.some.inj h
    rw [ho]
    exact hown
  next ho =>
    have hold := hi other after h
    rw [← hothers other ho] at hold
    exact hold

theorem Scheduled.insertLease {s : RelayServer} (hi : Scheduled s) {leaseId : Block 16} {lease : Lease}
    (hfresh : FreshLease lease) (hidle : s.activeQueues.count leaseId = 0) :
    Scheduled (s.insertLease leaseId lease) := by
  intro other after h
  rw [lookup_insertLease] at h
  split at h
  next ho =>
    cases Option.some.inj h
    rw [ho, hfresh.queueScheduled]
    exact hidle
  next =>
    split at h
    next => simp at h
    next => exact hi other after h

theorem Scheduled.refreshLease {s : RelayServer} (hi : Scheduled s) {leaseId : Block 16}
    {lease : Lease} (hl : s.leases.lookup leaseId = some lease) (replay : ReplayWindow)
    (traffic : TrafficBudget) (now : Nat) :
    Scheduled (s.putLease leaseId
      { lease with replay := replay, traffic := traffic, lastActivity := now }) :=
  hi.putLease (hi leaseId lease hl) fun _ _ => rfl

theorem count_append_other (active : List (Block 16)) {leaseId other : Block 16} (ho : other ≠ leaseId) :
    (active ++ [leaseId]).count other = active.count other := by
  have hzero : [leaseId].count other = 0 :=
    List.count_eq_zero.mpr fun hmem => ho (List.mem_singleton.mp hmem)
  rw [List.count_append, hzero, Nat.add_zero]

theorem Scheduled.enqueue {s : RelayServer} (hi : Scheduled s) {leaseId : Block 16} {lease : Lease}
    (hl : s.leases.lookup leaseId = some lease) (datagram : Bytes) (now : Nat) :
    Scheduled (s.enqueue leaseId lease datagram now) := by
  have hcount := hi leaseId lease hl
  unfold RelayServer.enqueue
  dsimp only
  split
  next hflag =>
    rw [Bool.not_eq_true'] at hflag
    rw [hflag] at hcount
    refine hi.putLease ?_ ?_
    · rw [List.count_append, hcount]
      simp
    · intro other ho
      exact count_append_other _ ho
  next => exact hi.putLease hcount fun _ _ => rfl

theorem Scheduled.queues_datagram {s s' : RelayServer} (hi : Scheduled s) {clock : Clock}
    {datagram : Bytes} {source : SocketAddr} {leaseId : Block 16}
    (h : Queues s clock datagram source leaseId s') : Scheduled s' := by
  obtain ⟨frame, sourceLease, replay, traffic, destination, hauth, _, _, _, hafter, hs⟩ := h
  subst hs
  exact (hi.refreshLease hauth.2.1 replay traffic _).enqueue hafter datagram _

theorem count_tail {rest active : List (Block 16)} {head other : Block 16}
    (h : active = head :: rest) (ho : other ≠ head) : rest.count other = active.count other := by
  rw [h, List.count_cons_of_ne (Ne.symm ho)]

/-- The head of the schedule is scheduled, and only there. -/
theorem Scheduled.head {s : RelayServer} (hi : Scheduled s) {leaseId : Block 16}
    {rest : List (Block 16)} (hactive : s.activeQueues = leaseId :: rest) {lease : Lease}
    (hl : s.leases.lookup leaseId = some lease) :
    lease.queueScheduled = true ∧ rest.count leaseId = 0 := by
  have hcount := hi leaseId lease hl
  rw [hactive, List.count_cons_self] at hcount
  cases hs : lease.queueScheduled with
  | false =>
    rw [hs] at hcount
    simp at hcount
  | true =>
    rw [hs] at hcount
    simp only [if_true] at hcount
    exact ⟨rfl, Nat.succ.inj hcount⟩

theorem Scheduled.flushOne {s s' : RelayServer} (hi : Scheduled s) {send : SendOutcome}
    {forward : Option Forward} (h : s.flushOne send = some (forward, s')) : Scheduled s' := by
  obtain ⟨leaseId, rest, hactive, hcase⟩ := flushOne_cases h
  rcases hcase with ⟨_, hnone, hs⟩ | ⟨lease, _, hl, _, hs⟩ | ⟨lease, datagram, queue, hl, hqueue, _, hs⟩
  · subst hs
    intro other lease hl
    have ho : other ≠ leaseId := fun heq => by
      rw [heq] at hl
      exact absurd (hnone.symm.trans hl) (by simp)
    have hold := hi other lease hl
    rw [← count_tail hactive ho] at hold
    exact hold
  · subst hs
    obtain ⟨_, hzero⟩ := hi.head hactive hl
    exact hi.putLease (by simpa using hzero) fun other ho => count_tail hactive ho
  · subst hs
    obtain ⟨hflag, hzero⟩ := hi.head hactive hl
    have hkept : (RelayServer.popQueue lease).queueScheduled = true := by
      simp [RelayServer.popQueue, hqueue, hflag]
    unfold RelayServer.reschedule
    split
    next => exact hi.putLease (by simpa using hzero) fun other ho => count_tail hactive ho
    next =>
      refine hi.putLease ?_ ?_
      · rw [hkept, List.count_append, hzero]
        simp
      · intro other ho
        rw [count_append_other _ ho]
        exact count_tail hactive ho

theorem Scheduled.flushLoop {s : RelayServer} (hi : Scheduled s) (remaining : Nat)
    (send : Nat → SendOutcome) : Scheduled (RelayServer.flushLoop remaining send s).2 := by
  induction remaining generalizing s send with
  | zero => exact hi
  | succ remaining ih =>
    unfold RelayServer.flushLoop
    split
    next => exact hi
    next hone => exact ih (hi.flushOne hone) _

theorem Scheduled.removeAll {s : RelayServer} (hi : Scheduled s)
    (expired : List (Block 16 × NodeKey)) :
    Scheduled (expired.foldl (fun s entry => s.removeExpired entry.1 entry.2) s) := by
  induction expired generalizing s with
  | nil => exact hi
  | cons entry expired ih => exact ih fun other lease h => hi other lease (removeExpired_lookup h)

/-- Every id the server still knows, as a live lease or in its schedule, is among the given ones. -/
def KnownAmong (s : RelayServer) (ids : List (Block 16)) : Prop :=
  (∀ leaseId ∈ s.leases, leaseId ∈ ids) ∧ ∀ leaseId ∈ s.activeQueues, leaseId ∈ ids

theorem KnownAmong.mono {s s' : RelayServer} {ids : List (Block 16)} (h : KnownAmong s ids)
    (hleases : ∀ leaseId ∈ s'.leases, leaseId ∈ s.leases)
    (hactive : ∀ leaseId ∈ s'.activeQueues, leaseId ∈ s.activeQueues ∨ leaseId ∈ s.leases) :
    KnownAmong s' ids := by
  refine ⟨fun leaseId hm => h.1 leaseId (hleases leaseId hm), fun leaseId hm => ?_⟩
  rcases hactive leaseId hm with ha | hl
  · exact h.2 leaseId ha
  · exact h.1 leaseId hl

theorem mem_putLease {s : RelayServer} {leaseId other : Block 16} {lease lease' : Lease}
    (hl : s.leases.lookup leaseId = some lease) (h : other ∈ (s.putLease leaseId lease').leases) :
    other ∈ s.leases := by
  rcases (AList.mem_insert s.leases).mp h with heq | hm
  · rw [heq]
    exact mem_iff_lookup.mpr ⟨lease, hl⟩
  · exact hm

theorem KnownAmong.insertLease {s : RelayServer} {ids : List (Block 16)} (h : KnownAmong s ids)
    (leaseId : Block 16) (lease : Lease) : KnownAmong (s.insertLease leaseId lease) (ids ++ [leaseId]) := by
  refine ⟨fun other hm => ?_, fun other hm => List.mem_append_left _ (h.2 other hm)⟩
  obtain ⟨after, ha⟩ := mem_iff_lookup.mp hm
  rw [lookup_insertLease] at ha
  split at ha
  next ho => exact List.mem_append_right _ (List.mem_singleton.mpr ho)
  next =>
    split at ha
    next => simp at ha
    next => exact List.mem_append_left _ (h.1 other (mem_iff_lookup.mpr ⟨after, ha⟩))

theorem KnownAmong.queues_datagram {s s' : RelayServer} {ids : List (Block 16)} (h : KnownAmong s ids)
    {clock : Clock} {datagram : Bytes} {source : SocketAddr} {leaseId : Block 16}
    (hq : Queues s clock datagram source leaseId s') : KnownAmong s' ids := by
  obtain ⟨frame, sourceLease, replay, traffic, destination, hauth, _, _, hbefore, hafter, hs⟩ := hq
  obtain ⟨before, hb, _, _⟩ := hbefore
  have hdestination : leaseId ∈ s.leases := mem_iff_lookup.mpr ⟨before, hb⟩
  subst hs
  refine h.mono (fun other hm => ?_) (fun other hm => ?_)
  · unfold RelayServer.enqueue at hm
    dsimp only at hm
    split at hm
    next => exact mem_putLease hauth.2.1 (mem_putLease hafter hm)
    next => exact mem_putLease hauth.2.1 (mem_putLease hafter hm)
  · unfold RelayServer.enqueue at hm
    dsimp only at hm
    split at hm
    next =>
      rcases List.mem_append.mp hm with ha | hd
      · exact Or.inl ha
      · rw [List.mem_singleton.mp hd]
        exact Or.inr hdestination
    next => exact Or.inl hm

theorem KnownAmong.flushOne {s s' : RelayServer} {ids : List (Block 16)} (h : KnownAmong s ids)
    {send : SendOutcome} {forward : Option Forward} (hf : s.flushOne send = some (forward, s')) :
    KnownAmong s' ids := by
  obtain ⟨leaseId, rest, hactive, hcase⟩ := flushOne_cases hf
  have hrest : ∀ other ∈ rest, other ∈ s.activeQueues := fun other hm => by
    rw [hactive]
    exact List.mem_cons_of_mem _ hm
  rcases hcase with ⟨_, _, hs⟩ | ⟨lease, _, hl, _, hs⟩ | ⟨lease, _, _, hl, _, _, hs⟩
  · subst hs
    exact h.mono (fun _ hm => hm) fun other hm => Or.inl (hrest other hm)
  · subst hs
    exact h.mono (fun _ hm => mem_putLease hl hm) fun other hm => Or.inl (hrest other hm)
  · subst hs
    unfold RelayServer.reschedule
    split
    next => exact h.mono (fun _ hm => mem_putLease hl hm) fun other hm => Or.inl (hrest other hm)
    next =>
      refine h.mono (fun _ hm => mem_putLease hl hm) fun other hm => ?_
      rcases List.mem_append.mp hm with ha | hd
      · exact Or.inl (hrest other ha)
      · rw [List.mem_singleton.mp hd]
        exact Or.inr (mem_iff_lookup.mpr ⟨lease, hl⟩)

theorem KnownAmong.flushLoop {s : RelayServer} {ids : List (Block 16)} (h : KnownAmong s ids)
    (remaining : Nat) (send : Nat → SendOutcome) :
    KnownAmong (RelayServer.flushLoop remaining send s).2 ids := by
  induction remaining generalizing s send with
  | zero => exact h
  | succ remaining ih =>
    unfold RelayServer.flushLoop
    split
    next => exact h
    next hone => exact ih (h.flushOne hone) _

theorem KnownAmong.removeAll {s : RelayServer} {ids : List (Block 16)} (h : KnownAmong s ids)
    (expired : List (Block 16 × NodeKey)) :
    KnownAmong (expired.foldl (fun s entry => s.removeExpired entry.1 entry.2) s) ids := by
  induction expired generalizing s with
  | nil => exact h
  | cons entry expired ih =>
    refine ih (h.mono (fun other hm => ?_) fun other hm => Or.inl hm)
    exact (AList.mem_erase.mp hm).2

def grantedLease (event : RelayOp × RelayOutput) : Option (Block 16) :=
  match event.2 with
  | .registration (.accepted leaseId _) => some leaseId
  | _ => none

/-- The lease ids a run of the server granted, in order. -/
def grantedLeases (c : Crypto) (s : RelayServer) (ops : List RelayOp) : List (Block 16) :=
  (trace (RelayServer.apply c) s ops).filterMap grantedLease

/-- Any call of the server, given that a lease id it grants is none of those granted before. -/
theorem Scheduled.apply {c : Crypto} {s : RelayServer} {ids : List (Block 16)} (hi : Scheduled s)
    (hk : KnownAmong s ids) (op : RelayOp)
    (hfresh : ∀ leaseId, grantedLease (op, (s.apply c op).1) = some leaseId → leaseId ∉ ids) :
    Scheduled (s.apply c op).2 ∧
      KnownAmong (s.apply c op).2 (ids ++ (grantedLease (op, (s.apply c op).1)).toList) := by
  cases op with
  | registration clock draws datagram source =>
    obtain ⟨outcome, s', hout⟩ : ∃ outcome s', s.handleRegistration c clock draws datagram source =
      (outcome, s') := ⟨_, _, rfl⟩
    simp only [RelayServer.apply, hout, Prod.map, id] at hfresh ⊢
    obtain ⟨budgets, order, hcase⟩ := handleRegistration_cases hout
    have hi' : Scheduled (s.withSources budgets order) := hi
    have hk' : KnownAmong (s.withSources budgets order) ids := hk
    rcases hcase with ⟨hr, hs⟩ | ⟨_, _, _, _, _, _, hr, hs⟩ | ⟨leaseId, response, hr, hg⟩
    · subst hr hs
      exact ⟨hi', by simpa [grantedLease] using hk'⟩
    · subst hr hs
      exact ⟨hi', by simpa [grantedLease] using hk'⟩
    · subst hr
      have hnew := hfresh leaseId rfl
      have hidle : (s.withSources budgets order).activeQueues.count leaseId = 0 :=
        List.count_eq_zero.mpr fun hm => hnew (hk'.2 leaseId hm)
      obtain ⟨verified, lease, _, _, _, _, hlease, _, _, hs⟩ := hg
      subst hs
      exact ⟨hi'.insertLease hlease hidle, hk'.insertLease leaseId lease⟩
  | data clock datagram source =>
    obtain ⟨outcome, s', hout⟩ : ∃ outcome s', s.handleData clock datagram source = (outcome, s') :=
      ⟨_, _, rfl⟩
    simp only [RelayServer.apply, hout, Prod.map, id, grantedLease, Option.toList_none, List.append_nil]
    rcases handleData_cases hout with ⟨_, _, hs⟩ | ⟨leaseId, _, hq⟩
    · subst hs
      exact ⟨hi, hk⟩
    · exact ⟨hi.queues_datagram hq, hk.queues_datagram hq⟩
  | keepalive clock datagram source =>
    obtain ⟨outcome, s', hout⟩ : ∃ outcome s', s.handleKeepalive c clock datagram source =
      (outcome, s') := ⟨_, _, rfl⟩
    simp only [RelayServer.apply, hout, Prod.map, id, grantedLease, Option.toList_none, List.append_nil]
    rcases handleKeepalive_cases hout with hs | hr
    · subst hs
      exact ⟨hi, hk⟩
    · obtain ⟨frame, lease, replay, traffic, hl, _, _, hs⟩ := hr
      subst hs
      exact ⟨hi.refreshLease hl replay traffic _,
        hk.mono (fun _ hm => mem_putLease hl hm) fun _ hm => Or.inl hm⟩
  | flushQueues send =>
    simp only [RelayServer.apply, Prod.map, id, grantedLease, Option.toList_none, List.append_nil]
    exact ⟨hi.flushLoop _ _, hk.flushLoop _ _⟩
  | cleanup clock =>
    simp only [RelayServer.apply, grantedLease, Option.toList_none, List.append_nil]
    exact ⟨hi.removeAll _, hk.removeAll _⟩

theorem relayInvariant_run (c : Crypto) (config : RelayConfig) (ops : List RelayOp)
    (fresh : (grantedLeases c (RelayServer.new config) ops).Nodup) :
    RelayInvariant (final (RelayServer.apply c) (RelayServer.new config) ops) ∧
      KnownAmong (final (RelayServer.apply c) (RelayServer.new config) ops)
        (grantedLeases c (RelayServer.new config) ops) := by
  refine run_invariant (P := fun s history => (history.filterMap grantedLease).Nodup →
    RelayInvariant s ∧ KnownAmong s (history.filterMap grantedLease)) ?_ ops ?_ fresh
  · intro s history op h hnodup
    have hsplit : (history ++ [(op, (s.apply c op).1)]).filterMap grantedLease =
        history.filterMap grantedLease ++ (grantedLease (op, (s.apply c op).1)).toList := by
      rw [List.filterMap_append]
      cases hg : grantedLease (op, (s.apply c op).1) with
      | none => simp [hg]
      | some leaseId => simp [hg]
    rw [hsplit] at hnodup ⊢
    obtain ⟨hbefore, _, hdisjoint⟩ := List.nodup_append.mp hnodup
    obtain ⟨⟨htable, hscheduled⟩, hk⟩ := h hbefore
    have hstep := hscheduled.apply (c := c) hk op fun leaseId hg hm =>
      hdisjoint leaseId hm leaseId (by simp [hg]) rfl
    exact ⟨⟨htable.apply op, hstep.1⟩, hstep.2⟩
  · intro _
    refine ⟨⟨leaseTable_new config, fun leaseId lease hl => by simp [RelayServer.new] at hl⟩, ?_, ?_⟩
    · intro leaseId hm
      exact absurd hm (AList.notMem_empty leaseId)
    · intro leaseId hm
      simp [RelayServer.new] at hm

/-- As long as no lease id is drawn twice, the collections of the server agree after any calls, and
a live lease with queued datagrams is scheduled exactly once. -/
theorem relay_collections_agree (c : Crypto) (config : RelayConfig) (ops : List RelayOp)
    (fresh : (grantedLeases c (RelayServer.new config) ops).Nodup) :
    let s := final (RelayServer.apply c) (RelayServer.new config) ops
    RelayInvariant s ∧ ∀ leaseId lease, s.leases.lookup leaseId = some lease → lease.queue ≠ [] →
      lease.queueScheduled = true ∧ s.activeQueues.count leaseId = 1 := by
  obtain ⟨hi, _⟩ := relayInvariant_run c config ops fresh
  refine ⟨hi, ?_⟩
  intro leaseId lease hl hqueue
  have hflag := (hi.table.queues leaseId lease hl).scheduled hqueue
  have hcount := hi.scheduled leaseId lease hl
  rw [hflag] at hcount
  exact ⟨hflag, hcount⟩

def sampleRelayConfig : RelayConfig where
  relayId := fill 16 41
  controllerCredentialKey := Crypto.transparent.verifyingKey sampleControllerKey
  identityKey := ⟨fill 32 13⟩
  leaseTtlSeconds := 120
  idleTimeoutSeconds := 60
  maxLeases := 4096
  registrationRequestsPerMinute := 30
  packetsPerLeasePerSecond := 2000
  bytesPerLeasePerSecond := 16 * 1024 * 1024
  queuePacketsPerNode := 64
  queueBytesPerNode := 128 * 1024
  relayId_ne := by decide
  leaseTtlSeconds_bounds := by decide
  idleTimeoutSeconds_bounds := by decide
  maxLeases_bounds := by decide
  registrationRequestsPerMinute_bounds := by decide
  packetsPerLeasePerSecond_bounds := by decide
  bytesPerLeasePerSecond_bounds := by decide
  queuePacketsPerNode_bounds := by decide
  queueBytesPerNode_bounds := by decide

def sampleRegistration (identityKey : SigningKey) (clientTime : UInt64) : Bytes :=
  (signRelayRegisterRequest .transparent {
    networkId := fill 16 21
    nodeId := nodeId .transparent identityKey.seed
    relayId := fill 16 41
    requestId := fill 16 51
    clientTime := clientTime
    credential := sampleCredential identityKey (.new 100 127 0 2) } identityKey).val

def sampleGrant : RelayOp :=
  .registration ⟨0, 1700000100⟩ [some (fill 16 1)] (sampleRegistration sampleIdentityKey 1700000100)
    sampleEndpoint

def samplePeerEndpoint : SocketAddr := .v4 ⟨.new 203 0 113 9, 4000⟩

def samplePeerGrant : RelayOp :=
  .registration ⟨10 ^ 8, 1700000100⟩ [some (fill 16 1), some (fill 16 2)]
    (sampleRegistration ⟨fill 32 41⟩ 1700000100) samplePeerEndpoint

/-- A frame from the first node to the second. -/
def sampleForward (sequence : UInt64) : RelayOp :=
  .data ⟨10 ^ 9, 1700000101⟩ ((encodeRelayFrame {
    networkId := fill 16 21
    relayId := fill 16 41
    sourceNodeId := nodeId .transparent sampleIdentityKey.seed
    destinationNodeId := nodeId .transparent (fill 32 41)
    leaseId := fill 16 1
    sequence := sequence
    payload := finishFrame.payload }).getD []) sampleEndpoint

/-- Two leases; one frame is forwarded, and the next waits while the socket blocks. -/
def sampleRelayRun : List RelayOp :=
  [sampleGrant, samplePeerGrant, sampleForward 1, .flushQueues fun _ => .sent 0, sampleForward 2,
    .flushQueues fun _ => .wouldBlock, .cleanup ⟨2 * 10 ^ 9, 1700000102⟩]

theorem sampleRelayRun_facts :
    grantedLeases .transparent (RelayServer.new sampleRelayConfig) sampleRelayRun =
        [fill 16 1, fill 16 2] ∧
      ((final (RelayServer.apply .transparent) (RelayServer.new sampleRelayConfig)
        sampleRelayRun).leases.lookup (fill 16 2)).map (fun lease => lease.queue.length) = some 1 := by
  refine ⟨?_, ?_⟩ <;> decide +kernel

theorem relay_collections_agree_sampleGrant :
    let s := final (RelayServer.apply .transparent) (RelayServer.new sampleRelayConfig) sampleRelayRun
    RelayInvariant s ∧ ∃ lease, s.leases.lookup (fill 16 2) = some lease ∧ lease.queue.length = 1 ∧
      lease.queueScheduled = true ∧ s.activeQueues.count (fill 16 2) = 1 := by
  obtain ⟨hgranted, hqueue⟩ := sampleRelayRun_facts
  have hfresh : (grantedLeases .transparent (RelayServer.new sampleRelayConfig)
      sampleRelayRun).Nodup := by
    rw [hgranted]
    decide
  obtain ⟨hinvariant, hscheduled⟩ :=
    relay_collections_agree .transparent sampleRelayConfig sampleRelayRun hfresh
  obtain ⟨lease, hlease, hlength⟩ := Option.map_eq_some_iff.mp hqueue
  have hne : lease.queue ≠ [] := List.ne_nil_of_length_pos (by omega)
  obtain ⟨hflag, hcount⟩ := hscheduled _ lease hlease hne
  exact ⟨hinvariant, lease, hlease, hlength, hflag, hcount⟩

end XsNexus
