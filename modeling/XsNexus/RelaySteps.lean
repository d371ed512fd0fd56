import XsNexus.RelayServer

namespace XsNexus

open ByteCodec FifoMap FiniteMap MachineWords

/-- The server with other source budgets. -/
def RelayServer.withSources (s : RelayServer) (budgets : Map IpAddr SourceBudget)
    (order : List IpAddr) : RelayServer :=
  { s with sourceBudgets := budgets, sourceOrder := order }

theorem allowRegistrationSource_state (s : RelayServer) (source : IpAddr) (now : Nat) :
    ∃ budgets order, (s.allowRegistrationSource source now).2 = s.withSources budgets order := by
  unfold RelayServer.allowRegistrationSource
  split
  next =>
    split
    next => exact ⟨_, _, rfl⟩
    next =>
      split
      next => exact ⟨_, _, rfl⟩
      next => exact ⟨_, _, rfl⟩
  next => exact ⟨_, _, rfl⟩

theorem newLeaseId_eq_some {s : RelayServer} {draws : List (Option (Block 16))} {leaseId : Block 16}
    (h : s.newLeaseId draws = some leaseId) : leaseId ≠ zeros 16 ∧ leaseId ∉ s.leases := by
  obtain ⟨draw, _, hdraw⟩ := List.exists_of_findSome?_eq_some h
  obtain ⟨_, hkeep⟩ := Option.filter_eq_some_iff.mp hdraw
  exact of_decide_eq_true hkeep

def requestNode (request : RelayRegisterRequest) : NodeKey := ⟨request.networkId, request.nodeId⟩

def requestKey (request : RelayRegisterRequest) : RequestKey := ⟨requestNode request, request.requestId⟩

/-- A request that verifies for this server. -/
def Verifies (c : Crypto) (s : RelayServer) (clock : Clock) (datagram : Bytes)
    (verified : VerifiedRelayRegisterRequest) : Prop :=
  verifyRelayRegisterRequest c datagram s.config.controllerCredentialKey clock.unixTime =
    some verified ∧ verified.request.relayId = s.config.relayId

/-- The lease a grant starts with. -/
structure FreshLease (lease : Lease) : Prop where
  replay : lease.replay = ReplayWindow.new
  queue : lease.queue = []
  queuedBytes : lease.queuedBytes = 0
  queueScheduled : lease.queueScheduled = false

def Grants (c : Crypto) (s : RelayServer) (clock : Clock) (datagram : Bytes) (source : SocketAddr)
    (leaseId : Block 16) (response : Block 168) (s' : RelayServer) : Prop :=
  ∃ verified lease, Verifies c s clock datagram verified ∧
    s.registrations.lookup (requestKey verified.request) = none ∧
    (size s.leases < s.config.maxLeases ∨ requestNode verified.request ∈ s.nodes) ∧
    leaseId ∉ s.leases ∧ FreshLease lease ∧ lease.node = requestNode verified.request ∧
    lease.endpoint = source ∧
    s' = (s.insertLease leaseId lease).cacheRegistration (requestKey verified.request) source response
      clock.instant

/-- A registration is rejected, answered from the cache, or granted; the budgets of the sources may
change in every case. -/
theorem handleRegistration_cases {c : Crypto} {s s' : RelayServer} {clock : Clock}
    {draws : List (Option (Block 16))} {datagram : Bytes} {source : SocketAddr}
    {outcome : RegistrationOutcome}
    (h : s.handleRegistration c clock draws datagram source = (outcome, s')) :
    ∃ budgets order, (outcome = .rejected ∧ s' = s.withSources budgets order) ∨
      (∃ verified cached, Verifies c s clock datagram verified ∧
        s.registrations.lookup (requestKey verified.request) = some cached ∧
        cached.endpoint = source ∧ clock.instant < cached.expires ∧
        outcome = .retry cached.response ∧ s' = s.withSources budgets order) ∨
      ∃ leaseId response, outcome = .accepted leaseId response ∧
        Grants c (s.withSources budgets order) clock datagram source leaseId response s' := by
  unfold RelayServer.handleRegistration at h
  split at h
  next =>
    cases h
    exact ⟨s.sourceBudgets, s.sourceOrder, Or.inl ⟨rfl, rfl⟩⟩
  next =>
    obtain ⟨budgets, order, hstate⟩ := allowRegistrationSource_state s source.ip clock.instant
    refine ⟨budgets, order, ?_⟩
    split at h
    next q hallow =>
      rw [hallow] at hstate
      cases hstate
      cases h
      exact Or.inl ⟨rfl, rfl⟩
    next q hallow =>
      rw [hallow] at hstate
      cases hstate
      dsimp only at h
      split at h
      next =>
        cases h
        exact Or.inl ⟨rfl, rfl⟩
      next verified hverified =>
        split at h
        next =>
          cases h
          exact Or.inl ⟨rfl, rfl⟩
        next hrelay =>
          have hverifies : Verifies c s clock datagram verified := ⟨hverified, not_not.mp hrelay⟩
          split at h
          next cached hcached =>
            split at h
            next hlive =>
              cases h
              exact Or.inr (Or.inl ⟨verified, cached, hverifies, hcached, hlive.1, hlive.2, rfl, rfl⟩)
            next =>
              cases h
              exact Or.inl ⟨rfl, rfl⟩
          next hcached =>
            split at h
            next =>
              cases h
              exact Or.inl ⟨rfl, rfl⟩
            next hroom =>
              split at h
              next =>
                cases h
                exact Or.inl ⟨rfl, rfl⟩
              next leaseId hlease =>
                split at h
                next =>
                  cases h
                  exact Or.inl ⟨rfl, rfl⟩
                next =>
                  cases h
                  have hroom' : size s.leases < s.config.maxLeases ∨
                      requestNode verified.request ∈ s.nodes := by
                    rcases Nat.lt_or_ge (size s.leases) s.config.maxLeases with hlt | hge
                    · exact Or.inl hlt
                    · exact Or.inr (not_not.mp fun hn => hroom ⟨hge, hn⟩)
                  exact Or.inr (Or.inr ⟨leaseId, _, rfl, ⟨verified, _, hverifies, hcached, hroom',
                    (newLeaseId_eq_some hlease).2, ⟨rfl, rfl, rfl, rfl⟩, rfl, rfl, rfl⟩⟩)

/-- The datagram parses as a data frame whose lease is live and registered to the frame's network
and source node and to the endpoint it came from. -/
def Authorized (s : RelayServer) (clock : Clock) (datagram : Bytes) (source : SocketAddr)
    (frame : RelayFrame) (lease : Lease) : Prop :=
  parseRelayFrame datagram = some frame ∧ s.leases.lookup frame.leaseId = some lease ∧
    leaseMatches lease frame.networkId frame.sourceNodeId source clock.unixTime = true

def Queues (s : RelayServer) (clock : Clock) (datagram : Bytes) (source : SocketAddr)
    (leaseId : Block 16) (s' : RelayServer) : Prop :=
  ∃ frame sourceLease replay traffic destination,
    Authorized s clock datagram source frame sourceLease ∧
    sourceLease.replay.commit frame.sequence = (some (), replay) ∧
    s.nodes.lookup ⟨frame.networkId, frame.destinationNodeId⟩ = some leaseId ∧
    (∃ before, s.leases.lookup leaseId = some before ∧
      before.queue.length < s.config.queuePacketsPerNode ∧
      usizeSaturatingAdd before.queuedBytes datagram.length ≤ s.config.queueBytesPerNode) ∧
    let refreshed := s.putLease frame.leaseId
      { sourceLease with replay := replay, traffic := traffic, lastActivity := clock.instant }
    refreshed.leases.lookup leaseId = some destination ∧
    s' = refreshed.enqueue leaseId destination datagram clock.instant

theorem handleData_cases {s s' : RelayServer} {clock : Clock} {datagram : Bytes} {source : SocketAddr}
    {outcome : Except RelayDrop (Block 16)}
    (h : s.handleData clock datagram source = (outcome, s')) :
    (∃ drop, outcome = .error drop ∧ s' = s) ∨
      ∃ leaseId, outcome = .ok leaseId ∧ Queues s clock datagram source leaseId s' := by
  have dropped : ∀ {drop : RelayDrop} {outcome : Except RelayDrop (Block 16)} {s' : RelayServer},
      (.error drop, s) = (outcome, s') → (∃ drop, outcome = .error drop ∧ s' = s) ∨
        ∃ leaseId, outcome = .ok leaseId ∧ Queues s clock datagram source leaseId s' := by
    intro drop outcome s' h
    cases h
    exact Or.inl ⟨drop, rfl, rfl⟩
  unfold RelayServer.handleData at h
  split at h
  next => exact dropped h
  next frame hframe =>
    split at h
    next => exact dropped h
    next =>
      split at h
      next => exact dropped h
      next sourceLease hsource =>
        split at h
        next => exact dropped h
        next hmatches =>
          split at h
          next => exact dropped h
          next hprecheck =>
            split at h
            next => exact dropped h
            next =>
              split at h
              next => exact dropped h
              next leaseId hnode =>
                split at h
                next => exact dropped h
                next destination hdestination =>
                  split at h
                  next => exact dropped h
                  next hroom =>
                    have hpre : sourceLease.replay.precheck frame.sequence = some () := by
                      cases hp : sourceLease.replay.precheck frame.sequence with
                      | none => simp [hp] at hprecheck
                      | some u => rfl
                    obtain ⟨replay, hcommit⟩ := ReplayWindow.commit_succeeds hpre
                    rw [hcommit] at h
                    dsimp only at h
                    have hmatches' : leaseMatches sourceLease frame.networkId frame.sourceNodeId source
                        clock.unixTime = true := by simpa using hmatches
                    split at h
                    next habsent =>
                      simp only [RelayServer.putLease, lookup_insert_eq] at habsent
                      split at habsent
                      next => simp at habsent
                      next => simp [hdestination] at habsent
                    next after hafter =>
                      cases h
                      simp only [not_or, not_le, ge_iff_le, gt_iff_lt, not_lt] at hroom
                      exact Or.inr ⟨leaseId, rfl, frame, sourceLease, replay, _, after,
                        ⟨hframe, hsource, hmatches'⟩, hcommit, hnode,
                        ⟨destination, hdestination, hroom.2.1, hroom.2.2⟩, hafter, rfl⟩

def Refreshes (s : RelayServer) (clock : Clock) (source : SocketAddr) (s' : RelayServer) : Prop :=
  ∃ (frame : RelayFrame) (lease : Lease) (replay : ReplayWindow) (traffic : TrafficBudget),
    s.leases.lookup frame.leaseId = some lease ∧
    leaseMatches lease frame.networkId frame.sourceNodeId source clock.unixTime = true ∧
    lease.replay.commit frame.sequence = (some (), replay) ∧
    s' = s.putLease frame.leaseId
      { lease with replay := replay, traffic := traffic, lastActivity := clock.instant }

theorem handleKeepalive_outcome {c : Crypto} {s s' : RelayServer} {clock : Clock} {datagram : Bytes}
    {source : SocketAddr} {outcome : Except RelayDrop (Block 152)}
    (h : s.handleKeepalive c clock datagram source = (outcome, s')) :
    (∃ drop, outcome = .error drop ∧ s' = s) ∨
      ∃ response frame lease replay traffic, outcome = .ok response ∧
        parseRelayKeepalive datagram = some frame ∧ s.leases.lookup frame.leaseId = some lease ∧
        leaseMatches lease frame.networkId frame.sourceNodeId source clock.unixTime = true ∧
        lease.replay.commit frame.sequence = (some (), replay) ∧
        s' = s.putLease frame.leaseId
          { lease with replay := replay, traffic := traffic, lastActivity := clock.instant } := by
  have dropped : ∀ {drop : RelayDrop} {p : Prop}, (.error drop, s) = (outcome, s') →
      (∃ drop, outcome = .error drop ∧ s' = s) ∨ p := by
    intro drop p h
    cases h
    exact Or.inl ⟨drop, rfl, rfl⟩
  unfold RelayServer.handleKeepalive at h
  split at h
  next => exact dropped h
  next frame hframe =>
    split at h
    next => exact dropped h
    next =>
      split at h
      next => exact dropped h
      next lease hlease =>
        split at h
        next => exact dropped h
        next hmatches =>
          split at h
          next => exact dropped h
          next hprecheck =>
            split at h
            next => exact dropped h
            next =>
              have hpre : lease.replay.precheck frame.sequence = some () := by
                cases hp : lease.replay.precheck frame.sequence with
                | none => simp [hp] at hprecheck
                | some u => rfl
              obtain ⟨replay, hcommit⟩ := ReplayWindow.commit_succeeds hpre
              rw [hcommit] at h
              cases h
              exact Or.inr ⟨_, frame, lease, replay, _, rfl, hframe, hlease, by simpa using hmatches,
                hcommit, rfl⟩

theorem handleKeepalive_cases {c : Crypto} {s s' : RelayServer} {clock : Clock} {datagram : Bytes}
    {source : SocketAddr} {outcome : Except RelayDrop (Block 152)}
    (h : s.handleKeepalive c clock datagram source = (outcome, s')) :
    s' = s ∨ Refreshes s clock source s' := by
  rcases handleKeepalive_outcome h with ⟨_, _, hs⟩ |
    ⟨_, frame, lease, replay, traffic, _, _, hl, hmatches, hcommit, hs⟩
  · exact Or.inl hs
  · exact Or.inr ⟨frame, lease, replay, traffic, hl, hmatches, hcommit, hs⟩

theorem flushOne_cases {s s' : RelayServer} {send : SendOutcome} {forward : Option Forward}
    (h : s.flushOne send = some (forward, s')) :
    ∃ leaseId rest, s.activeQueues = leaseId :: rest ∧
      ((forward = none ∧ s.leases.lookup leaseId = none ∧ s' = { s with activeQueues := rest }) ∨
        (∃ lease, forward = none ∧ s.leases.lookup leaseId = some lease ∧ lease.queue = [] ∧
          s' = { s with activeQueues := rest }.putLease leaseId { lease with queueScheduled := false }) ∨
        ∃ lease datagram queue, s.leases.lookup leaseId = some lease ∧ lease.queue = datagram :: queue ∧
          (forward = none ∨ forward = some ⟨leaseId, lease.endpoint, datagram.bytes⟩) ∧
          s' = { s with activeQueues := rest }.reschedule leaseId (RelayServer.popQueue lease)) := by
  unfold RelayServer.flushOne at h
  split at h
  next => simp at h
  next leaseId rest hactive =>
    refine ⟨leaseId, rest, hactive, ?_⟩
    dsimp only at h
    split at h
    next hnone =>
      cases h
      exact Or.inl ⟨rfl, hnone, rfl⟩
    next lease hlease =>
      split at h
      next hqueue =>
        cases h
        exact Or.inr (Or.inl ⟨lease, rfl, hlease, hqueue, rfl⟩)
      next datagram queue hqueue =>
        split at h
        next => simp at h
        next =>
          cases h
          exact Or.inr (Or.inr ⟨lease, datagram, queue, hlease, hqueue, Or.inr rfl, rfl⟩)
        next =>
          cases h
          exact Or.inr (Or.inr ⟨lease, datagram, queue, hlease, hqueue, Or.inl rfl, rfl⟩)

/-- Settings and registration cache are those of the other state. -/
structure SameRegistrations (s s' : RelayServer) : Prop where
  config : s'.config = s.config
  registrations : s'.registrations = s.registrations
  order : s'.registrationOrder = s.registrationOrder

theorem SameRegistrations.refl (s : RelayServer) : SameRegistrations s s := ⟨rfl, rfl, rfl⟩

theorem SameRegistrations.trans {s t u : RelayServer} (h : SameRegistrations s t)
    (h' : SameRegistrations t u) : SameRegistrations s u :=
  ⟨h'.config.trans h.config, h'.registrations.trans h.registrations, h'.order.trans h.order⟩

theorem handleData_registrations {s s' : RelayServer} {clock : Clock} {datagram : Bytes}
    {source : SocketAddr} {outcome : Except RelayDrop (Block 16)}
    (h : s.handleData clock datagram source = (outcome, s')) : SameRegistrations s s' := by
  rcases handleData_cases h with ⟨_, _, hs⟩ | ⟨leaseId, _, hq⟩
  · subst hs
    exact SameRegistrations.refl _
  · obtain ⟨frame, sourceLease, replay, traffic, destination, _, _, _, _, _, hs⟩ := hq
    subst hs
    unfold RelayServer.enqueue
    dsimp only
    split
    next => exact ⟨rfl, rfl, rfl⟩
    next => exact ⟨rfl, rfl, rfl⟩

theorem handleKeepalive_registrations {c : Crypto} {s s' : RelayServer} {clock : Clock}
    {datagram : Bytes} {source : SocketAddr} {outcome : Except RelayDrop (Block 152)}
    (h : s.handleKeepalive c clock datagram source = (outcome, s')) : SameRegistrations s s' := by
  rcases handleKeepalive_cases h with hs | hr
  · subst hs
    exact SameRegistrations.refl _
  · obtain ⟨frame, lease, replay, traffic, _, _, _, hs⟩ := hr
    subst hs
    exact ⟨rfl, rfl, rfl⟩

theorem flushOne_registrations {s s' : RelayServer} {send : SendOutcome} {forward : Option Forward}
    (h : s.flushOne send = some (forward, s')) : SameRegistrations s s' := by
  obtain ⟨leaseId, rest, _, hcase⟩ := flushOne_cases h
  rcases hcase with ⟨_, _, hs⟩ | ⟨lease, _, _, _, hs⟩ | ⟨lease, _, _, _, _, _, hs⟩
  · subst hs
    exact ⟨rfl, rfl, rfl⟩
  · subst hs
    exact ⟨rfl, rfl, rfl⟩
  · subst hs
    unfold RelayServer.reschedule
    split
    next => exact ⟨rfl, rfl, rfl⟩
    next => exact ⟨rfl, rfl, rfl⟩

theorem flushLoop_registrations (remaining : Nat) (send : Nat → SendOutcome) (s : RelayServer) :
    SameRegistrations s (RelayServer.flushLoop remaining send s).2 := by
  induction remaining generalizing s send with
  | zero => exact SameRegistrations.refl s
  | succ remaining ih =>
    unfold RelayServer.flushLoop
    split
    next => exact SameRegistrations.refl s
    next hone => exact (flushOne_registrations hone).trans (ih _ _)

theorem removeAll_registrations (s : RelayServer) (expired : List (Block 16 × NodeKey)) :
    SameRegistrations s (expired.foldl (fun s entry => s.removeExpired entry.1 entry.2) s) := by
  induction expired generalizing s with
  | nil => exact SameRegistrations.refl s
  | cons entry expired ih =>
    have hfirst : SameRegistrations s (s.removeExpired entry.1 entry.2) := ⟨rfl, rfl, rfl⟩
    exact hfirst.trans (ih _)

/-- Cleanup touches the registration cache only by pruning it. -/
theorem cleanup_registrations (s : RelayServer) (clock : Clock) :
    (s.cleanup clock).config = s.config ∧
      ((s.cleanup clock).registrationOrder, (s.cleanup clock).registrations) =
        pruneFront (fun cached => decide (cached.expires > clock.instant)) s.registrationOrder
          s.registrations := by
  have hsame := removeAll_registrations s (s.leases.entries.filterMap fun entry =>
    if s.leaseExpired clock entry.2 then some (entry.1, entry.2.node) else none)
  refine ⟨hsame.config, ?_⟩
  simp only [RelayServer.cleanup]
  rw [hsame.order, hsame.registrations]

theorem handleRegistration_config {c : Crypto} {s s' : RelayServer} {clock : Clock}
    {draws : List (Option (Block 16))} {datagram : Bytes} {source : SocketAddr}
    {outcome : RegistrationOutcome}
    (h : s.handleRegistration c clock draws datagram source = (outcome, s')) : s'.config = s.config := by
  obtain ⟨budgets, order, hcase⟩ := handleRegistration_cases h
  rcases hcase with ⟨_, hs⟩ | ⟨_, _, _, _, _, _, _, hs⟩ | ⟨leaseId, response, _, hg⟩
  · rw [hs]
    rfl
  · rw [hs]
    rfl
  · obtain ⟨verified, lease, _, _, _, _, _, _, _, hs⟩ := hg
    rw [hs]
    rfl

theorem apply_config (c : Crypto) (s : RelayServer) (op : RelayOp) :
    (s.apply c op).2.config = s.config := by
  cases op with
  | registration clock draws datagram source => exact handleRegistration_config rfl
  | data clock datagram source => exact (handleData_registrations rfl).config
  | keepalive clock datagram source => exact (handleKeepalive_registrations rfl).config
  | flushQueues send => exact (flushLoop_registrations maxFlushPerTick send s).config
  | cleanup clock => exact (cleanup_registrations s clock).1

end XsNexus
