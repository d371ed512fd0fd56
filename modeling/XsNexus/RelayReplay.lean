import XsNexus.RelayInvariant

namespace XsNexus

open ByteCodec FifoMap FiniteMap MachineWords Runs

def clockOf : RelayOp → Option Clock
  | .registration clock _ _ _ => some clock
  | .data clock _ _ => some clock
  | .keepalive clock _ _ => some clock
  | .flushQueues _ => none
  | .cleanup clock => some clock

/-- The clocks the calls read never go back and belong to one time line. -/
structure ClocksAdvance (offset : Nat) (ops : List RelayOp) : Prop where
  synchronous : ∀ clock ∈ ops.filterMap clockOf, clock.Synchronous offset
  monotone : (ops.filterMap clockOf).Pairwise fun earlier later => earlier.instant ≤ later.instant

/-- A request that was granted a lease is afterwards rejected, or answered with the cached response
to the endpoint it came from. -/
def SettlesOnce (earlier later : RelayOp × RelayOutput) : Prop :=
  ∀ clock draws datagram source leaseId response,
    earlier = (.registration clock draws datagram source,
      .registration (.accepted leaseId response)) →
    ∀ clock' draws' source' outcome,
      later = (.registration clock' draws' datagram source', .registration outcome) →
      outcome = .rejected ∨ (outcome = .retry response ∧ source' = source)

/-- The request goes stale before its cache entry does. -/
def StaleWithCache (clock : Clock) (verified : VerifiedRelayRegisterRequest) : Prop :=
  verified.request.clientTime < clock.unixTime ∨
    verified.credential.notAfter.toNat ≤ clock.unixTime.toNat + 300

/-- A new request is not ahead of the server's clock and displaces no unexpired registration. -/
def ReplayCovered (c : Crypto) (s : RelayServer) : RelayOp → Prop
  | .registration clock _ datagram _ =>
    ∀ verified, Verifies c s clock datagram verified →
      s.registrations.lookup (requestKey verified.request) = none →
      StaleWithCache clock verified ∧
      ∀ key ∈ s.registrationOrder.take (size s.registrations + 1 - s.maxRegistrations),
        ∀ cached, s.registrations.lookup key = some cached → cached.expires ≤ clock.instant
  | _ => True

theorem StaleWithCache.rejects {c : Crypto} {offset : Nat} {granted later : Clock} {datagram : Bytes}
    {controllerKey : VerifyingKey} {verified : VerifiedRelayRegisterRequest}
    (h : StaleWithCache granted verified)
    (hverified : verifyRelayRegisterRequest c datagram controllerKey granted.unixTime = some verified)
    (hg : granted.Synchronous offset) (hl : later.Synchronous offset)
    (hexpired : granted.instant + requestReplayTtl ≤ later.instant) :
    verifyRelayRegisterRequest c datagram controllerKey later.unixTime = none := by
  have hadvance := hg.advance hl hexpired
  cases hv : verifyRelayRegisterRequest c datagram controllerKey later.unixTime with
  | none => rfl
  | some other =>
    exfalso
    obtain ⟨_, _, hunique⟩ := verifyRelayRegisterRequest_cases hverified
    cases hunique hv
    obtain ⟨hfresh, hafter, _⟩ := verifyRelayRegisterRequest_cases hv
    obtain ⟨_, hclient⟩ := timeIsFresh_eq_true hfresh
    have hvalid := UInt64.lt_iff_toNat_lt.mp hafter
    rcases h with hclock | hcredential
    · have hlt := UInt64.lt_iff_toNat_lt.mp hclock
      omega
    · omega

/-- Every granted request is still cached, or so old that it cannot verify again. -/
structure ReplayInvariant (c : Crypto) (config : RelayConfig) (s : RelayServer)
    (history : List (RelayOp × RelayOutput)) : Prop where
  config_eq : s.config = config
  registrations : Lists s.registrationOrder s.registrations
  settled : history.Pairwise SettlesOnce
  granted : ∀ clock draws datagram source leaseId response,
    (.registration clock draws datagram source, .registration (.accepted leaseId response)) ∈ history →
    ∃ verified, Verifies c s clock datagram verified ∧ StaleWithCache clock verified ∧
      (s.registrations.lookup (requestKey verified.request) =
          some ⟨source, clock.instant + requestReplayTtl, response⟩ ∨
        ∃ later ∈ (history.map Prod.fst).filterMap clockOf,
          clock.instant + requestReplayTtl ≤ later.instant)

theorem replayInvariant_new (c : Crypto) (config : RelayConfig) :
    ReplayInvariant c config (RelayServer.new config) [] := by
  refine ⟨rfl, lists_empty, List.Pairwise.nil, ?_⟩
  intro clock draws datagram source leaseId response h
  exact absurd h (by simp)

/-- A granted request that is delivered again verifies only while its registration is cached. -/
theorem ReplayInvariant.cached_of_verifies {c : Crypto} {config : RelayConfig} {s : RelayServer}
    {history : List (RelayOp × RelayOutput)} (hi : ReplayInvariant c config s history) {offset : Nat}
    {clock now : Clock} {draws : List (Option (Block 16))} {datagram : Bytes} {source : SocketAddr}
    {leaseId : Block 16} {response : Block 168}
    (hgrant : (.registration clock draws datagram source, .registration (.accepted leaseId response)) ∈
      history)
    (hsync : ∀ earlier ∈ (history.map Prod.fst).filterMap clockOf, earlier.Synchronous offset)
    (hnow : now.Synchronous offset)
    (hlast : ∀ earlier ∈ (history.map Prod.fst).filterMap clockOf, earlier.instant ≤ now.instant)
    {verified : VerifiedRelayRegisterRequest} (hv : Verifies c s now datagram verified) :
    s.registrations.lookup (requestKey verified.request) =
      some ⟨source, clock.instant + requestReplayTtl, response⟩ := by
  obtain ⟨first, hfirst, hstale, hkept⟩ := hi.granted _ _ _ _ _ _ hgrant
  obtain ⟨_, _, hunique⟩ := verifyRelayRegisterRequest_cases hfirst.1
  have hsame := hunique hv.1
  rw [hsame]
  rcases hkept with hcached | ⟨later, hmem, hexpired⟩
  · exact hcached
  · exfalso
    have hclock : clock ∈ (history.map Prod.fst).filterMap clockOf :=
      List.mem_filterMap.mpr ⟨_, List.mem_map.mpr ⟨_, hgrant, rfl⟩, rfl⟩
    have hpast := Nat.le_trans hexpired (hlast later hmem)
    have hnone := hstale.rejects hfirst.1 (hsync clock hclock) hnow hpast
    rw [hv.1] at hnone
    simp at hnone

theorem ReplayInvariant.settlesOnce {c : Crypto} {config : RelayConfig} {s s' : RelayServer}
    {history : List (RelayOp × RelayOutput)} (hi : ReplayInvariant c config s history) {offset : Nat}
    {now : Clock} {draws : List (Option (Block 16))} {datagram : Bytes} {source : SocketAddr}
    {outcome : RegistrationOutcome}
    (h : s.handleRegistration c now draws datagram source = (outcome, s'))
    (hsync : ∀ earlier ∈ (history.map Prod.fst).filterMap clockOf, earlier.Synchronous offset)
    (hnow : now.Synchronous offset)
    (hlast : ∀ earlier ∈ (history.map Prod.fst).filterMap clockOf, earlier.instant ≤ now.instant) :
    ∀ earlier ∈ history,
      SettlesOnce earlier (.registration now draws datagram source, .registration outcome) := by
  intro earlier hm clock₀ draws₀ datagram₀ source₀ leaseId₀ response₀ hearlier clock' draws' source' outcome' hl
  cases hl
  rw [hearlier] at hm
  obtain ⟨budgets, order, hcase⟩ := handleRegistration_cases h
  rcases hcase with ⟨hr, _⟩ | ⟨verified, cached, hv, hc, hsource, _, hr, _⟩ | ⟨leaseId, response, _, hg⟩
  · exact Or.inl hr
  · have hstored := hi.cached_of_verifies hm hsync hnow hlast hv
    cases hc.symm.trans hstored
    exact Or.inr ⟨hr, hsource.symm⟩
  · exfalso
    obtain ⟨verified, lease, hv, hnone, _⟩ := hg
    have hstored := hi.cached_of_verifies hm hsync hnow hlast hv
    have hnone' : s.registrations.lookup (requestKey verified.request) = none := hnone
    rw [hnone'] at hstored
    simp at hstored

/-- A call that grants nothing and leaves the cache alone. -/
theorem ReplayInvariant.quiet {c : Crypto} {config : RelayConfig} {s s' : RelayServer}
    {history : List (RelayOp × RelayOutput)} (hi : ReplayInvariant c config s history)
    {event : RelayOp × RelayOutput} (hsame : SameRegistrations s s')
    (hsettles : ∀ earlier ∈ history, SettlesOnce earlier event)
    (hgrant : grantedLease event = none) : ReplayInvariant c config s' (history ++ [event]) := by
  obtain ⟨hconfig, hregistrations, horder⟩ := hsame
  refine ⟨hconfig.trans hi.config_eq, ?_, ?_, ?_⟩
  · rw [hregistrations, horder]
    exact hi.registrations
  · refine List.pairwise_append.mpr ⟨hi.settled, List.pairwise_singleton _ _, ?_⟩
    intro earlier hm later hl
    cases List.mem_singleton.mp hl
    exact hsettles earlier hm
  · intro clock draws datagram source leaseId response hm
    rcases List.mem_append.mp hm with hm | hm
    · obtain ⟨verified, hv, hstale, hkept⟩ := hi.granted _ _ _ _ _ _ hm
      refine ⟨verified, ?_, hstale, ?_⟩
      · unfold Verifies
        rw [hconfig]
        exact hv
      · rw [hregistrations]
        refine hkept.imp id ?_
        intro hexpired
        obtain ⟨later, hl, hle⟩ := hexpired
        refine ⟨later, ?_, hle⟩
        rw [List.map_append, List.filterMap_append]
        exact List.mem_append_left _ hl
    · rw [← List.mem_singleton.mp hm] at hgrant
      simp [grantedLease] at hgrant

/-- A call that is no registration has nothing to settle. -/
theorem settlesOnce_of_not_registration {earlier : RelayOp × RelayOutput} {op : RelayOp}
    {output : RelayOutput}
    (h : ∀ outcome, output ≠ .registration outcome) : SettlesOnce earlier (op, output) := by
  intro clock draws datagram source leaseId response _ clock' draws' source' outcome hl
  exact absurd (Prod.mk.inj hl).2 (h outcome)

theorem ReplayInvariant.grants {c : Crypto} {config : RelayConfig} {s s' : RelayServer}
    {history : List (RelayOp × RelayOutput)} (hi : ReplayInvariant c config s history)
    {clock : Clock} {draws : List (Option (Block 16))} {datagram : Bytes} {source : SocketAddr}
    {leaseId : Block 16} {response : Block 168}
    (hg : Grants c s clock datagram source leaseId response s')
    (hcovered : ReplayCovered c s (.registration clock draws datagram source))
    (hsettles : ∀ earlier ∈ history, SettlesOnce earlier
      (.registration clock draws datagram source, .registration (.accepted leaseId response))) :
    ReplayInvariant c config s' (history ++
      [(.registration clock draws datagram source, .registration (.accepted leaseId response))]) := by
  obtain ⟨verified, lease, hv, hnone, _, _, _, _, _, hs⟩ := hg
  obtain ⟨hstale, hevicted⟩ := hcovered verified hv hnone
  subst hs
  have hnot : requestKey verified.request ∉
      (evictOldest s.maxRegistrations s.registrationOrder s.registrations).2 := by
    intro hmem
    obtain ⟨cached, hc⟩ := mem_iff_lookup.mp hmem
    have hold := lookup_evictOldest_eq_some hc
    rw [hnone] at hold
    simp at hold
  refine ⟨hi.config_eq, ?_, ?_, ?_⟩
  · exact (hi.registrations.evictOldest s.maxRegistrations).push hnot _
  · refine List.pairwise_append.mpr ⟨hi.settled, List.pairwise_singleton _ _, ?_⟩
    intro earlier hm later hl
    cases List.mem_singleton.mp hl
    exact hsettles earlier hm
  · intro clock₀ draws₀ datagram₀ source₀ leaseId₀ response₀ hm
    rcases List.mem_append.mp hm with hm | hm
    · obtain ⟨first, hfirst, hfirstStale, hkept⟩ := hi.granted _ _ _ _ _ _ hm
      refine ⟨first, hfirst, hfirstStale, ?_⟩
      have hlater : ∀ {later}, later ∈ (history.map Prod.fst).filterMap clockOf →
          later ∈ ((history ++ [(RelayOp.registration clock draws datagram source,
            RelayOutput.registration (.accepted leaseId response))]).map Prod.fst).filterMap clockOf := by
        intro later hl
        rw [List.map_append, List.filterMap_append]
        exact List.mem_append_left _ hl
      rcases hkept with hcached | ⟨later, hl, hle⟩
      · by_cases hdrop : requestKey first.request ∈
            s.registrationOrder.take (size s.registrations + 1 - s.maxRegistrations)
        · refine Or.inr ⟨clock, ?_, hevicted _ hdrop _ hcached⟩
          rw [List.map_append, List.filterMap_append]
          exact List.mem_append_right _ (by simp [clockOf])
        · refine Or.inl ?_
          have hkeep := lookup_evictOldest_of_kept hi.registrations hdrop
          have hne : requestKey first.request ≠ requestKey verified.request := fun heq => by
            rw [heq, hnone] at hcached
            simp at hcached
          simp only [RelayServer.cacheRegistration, lookup_insert_eq, if_neg hne]
          exact hkeep.trans hcached
      · exact Or.inr ⟨later, hlater hl, hle⟩
    · cases List.mem_singleton.mp hm
      refine ⟨verified, hv, hstale, Or.inl ?_⟩
      simp only [RelayServer.cacheRegistration, lookup_insert_eq, if_true]

theorem ReplayInvariant.cleanup {c : Crypto} {config : RelayConfig} {s : RelayServer}
    {history : List (RelayOp × RelayOutput)} (hi : ReplayInvariant c config s history) (clock : Clock) :
    ReplayInvariant c config (s.cleanup clock) (history ++ [(.cleanup clock, .cleaned)]) := by
  obtain ⟨hconfig, hpruned⟩ := cleanup_registrations s clock
  obtain ⟨horder, hregistrations⟩ := Prod.mk.inj hpruned
  refine ⟨hconfig.trans hi.config_eq, ?_, ?_, ?_⟩
  · rw [horder, hregistrations]
    exact hi.registrations.pruneFront _
  · refine List.pairwise_append.mpr ⟨hi.settled, List.pairwise_singleton _ _, ?_⟩
    intro earlier _ later hl
    cases List.mem_singleton.mp hl
    exact settlesOnce_of_not_registration fun outcome heq => by simp at heq
  · intro clock₀ draws₀ datagram₀ source₀ leaseId₀ response₀ hm
    rcases List.mem_append.mp hm with hm | hm
    · obtain ⟨first, hfirst, hstale, hkept⟩ := hi.granted _ _ _ _ _ _ hm
      refine ⟨first, ?_, hstale, ?_⟩
      · unfold Verifies
        rw [hconfig]
        exact hfirst
      · rw [hregistrations, List.map_append, List.filterMap_append]
        rcases hkept with hcached | ⟨later, hl, hle⟩
        · by_cases hlive : clock₀.instant + requestReplayTtl > clock.instant
          · exact Or.inl (lookup_pruneFront_of_keep hcached (decide_eq_true hlive))
          · exact Or.inr ⟨clock, List.mem_append_right _ (by simp [clockOf]), Nat.not_lt.mp hlive⟩
        · exact Or.inr ⟨later, List.mem_append_left _ hl, hle⟩
    · exact absurd (Prod.mk.inj (List.mem_singleton.mp hm)).1 (by simp)

theorem ReplayInvariant.apply {c : Crypto} {config : RelayConfig} {s : RelayServer}
    {history : List (RelayOp × RelayOutput)} (hi : ReplayInvariant c config s history) (op : RelayOp)
    {offset : Nat} (hclocks : ClocksAdvance offset (history.map Prod.fst ++ [op]))
    (hcovered : ReplayCovered c s op) :
    ReplayInvariant c config (s.apply c op).2 (history ++ [(op, (s.apply c op).1)]) := by
  obtain ⟨hsync, hmono⟩ := hclocks
  rw [List.filterMap_append] at hsync hmono
  obtain ⟨_, _, hlast⟩ := List.pairwise_append.mp hmono
  cases op with
  | registration clock draws datagram source =>
    obtain ⟨outcome, s', hout⟩ : ∃ outcome s', s.handleRegistration c clock draws datagram source =
      (outcome, s') := ⟨_, _, rfl⟩
    simp only [RelayServer.apply, hout, Prod.map, id]
    have hnow : clock.Synchronous offset :=
      hsync clock (List.mem_append_right _ (by simp [clockOf]))
    have hsettles := hi.settlesOnce hout (fun earlier hm => hsync earlier (List.mem_append_left _ hm))
      hnow (fun earlier hm => hlast earlier hm clock (by simp [clockOf]))
    obtain ⟨budgets, order, hcase⟩ := handleRegistration_cases hout
    rcases hcase with ⟨hr, hs⟩ | ⟨_, _, _, _, _, _, hr, hs⟩ | ⟨leaseId, response, hr, hg⟩
    · subst hr hs
      exact hi.quiet ⟨rfl, rfl, rfl⟩ hsettles rfl
    · subst hr hs
      exact hi.quiet ⟨rfl, rfl, rfl⟩ hsettles rfl
    · subst hr
      have hsources : ReplayInvariant c config (s.withSources budgets order) history :=
        ⟨hi.config_eq, hi.registrations, hi.settled, hi.granted⟩
      exact hsources.grants hg hcovered hsettles
  | data clock datagram source =>
    obtain ⟨outcome, s', hout⟩ : ∃ outcome s', s.handleData clock datagram source = (outcome, s') :=
      ⟨_, _, rfl⟩
    simp only [RelayServer.apply, hout, Prod.map, id]
    exact hi.quiet (handleData_registrations hout)
      (fun _ _ => settlesOnce_of_not_registration fun outcome heq => by simp at heq) rfl
  | keepalive clock datagram source =>
    obtain ⟨outcome, s', hout⟩ : ∃ outcome s', s.handleKeepalive c clock datagram source =
      (outcome, s') := ⟨_, _, rfl⟩
    simp only [RelayServer.apply, hout, Prod.map, id]
    exact hi.quiet (handleKeepalive_registrations hout)
      (fun _ _ => settlesOnce_of_not_registration fun outcome heq => by simp at heq) rfl
  | flushQueues send =>
    simp only [RelayServer.apply, Prod.map, id]
    exact hi.quiet (flushLoop_registrations _ _ s)
      (fun _ _ => settlesOnce_of_not_registration fun outcome heq => by simp at heq) rfl
  | cleanup clock => exact hi.cleanup clock

theorem ClocksAdvance.prefix {offset : Nat} {ops later : List RelayOp}
    (h : ClocksAdvance offset (ops ++ later)) : ClocksAdvance offset ops := by
  obtain ⟨hsync, hmono⟩ := h
  rw [List.filterMap_append] at hsync hmono
  exact ⟨fun clock hm => hsync clock (List.mem_append_left _ hm), (List.pairwise_append.mp hmono).1⟩

/-- While every new request is behind the clock and displaces nothing unexpired, no request is
granted a second lease, and a repeated one gets its cached response at its own endpoint at most. -/
theorem registrations_settle_once (c : Crypto) (config : RelayConfig) (ops : List RelayOp) (offset : Nat)
    (clocks : ClocksAdvance offset ops)
    (covered : Along (RelayServer.apply c) (ReplayCovered c) (RelayServer.new config) ops) :
    (trace (RelayServer.apply c) (RelayServer.new config) ops).Pairwise SettlesOnce := by
  have hrun := run_preserves (P := fun s history =>
    ClocksAdvance offset (history.map Prod.fst) → ReplayInvariant c config s history)
    (by
      intro s history op h hcovered hclocks
      rw [List.map_append] at hclocks
      exact (h hclocks.prefix).apply op hclocks hcovered)
    ops (fun _ => replayInvariant_new c config) covered
  rw [List.nil_append, trace_inputs] at hrun
  exact (hrun clocks).settled

/-- A request stamped 50 seconds before it arrives, and again when its cache entry has gone. -/
def agedRegistration : List RelayOp :=
  [.registration ⟨0, 1700000100⟩ [some (fill 16 1)]
      (sampleRegistration sampleIdentityKey 1700000050) sampleEndpoint,
    .cleanup ⟨300 * 10 ^ 9, 1700000400⟩,
    .registration ⟨300 * 10 ^ 9, 1700000400⟩ [some (fill 16 2)]
      (sampleRegistration sampleIdentityKey 1700000050) sampleEndpoint]

theorem agedRegistration_clocks : ClocksAdvance (1700000100 * 10 ^ 9) agedRegistration := by
  have hclocks : agedRegistration.filterMap clockOf = [⟨0, 1700000100⟩, ⟨300 * 10 ^ 9, 1700000400⟩,
    ⟨300 * 10 ^ 9, 1700000400⟩] := rfl
  refine ⟨?_, ?_⟩
  · rw [hclocks]
    decide
  · rw [hclocks]
    decide

theorem agedRegistration_covered :
    Along (RelayServer.apply .transparent) (ReplayCovered .transparent)
      (RelayServer.new sampleRelayConfig) agedRegistration := by
  refine ⟨?_, trivial, ?_, trivial⟩
  · intro verified hv _
    have hclock : (verifyRelayRegisterRequest .transparent
        (sampleRegistration sampleIdentityKey 1700000050) sampleRelayConfig.controllerCredentialKey
          1700000100).all (fun verified => decide (verified.request.clientTime < 1700000100)) = true := by
      decide +kernel
    have hverified : verifyRelayRegisterRequest .transparent
        (sampleRegistration sampleIdentityKey 1700000050) sampleRelayConfig.controllerCredentialKey
          1700000100 = some verified := hv.1
    rw [hverified] at hclock
    refine ⟨Or.inl (of_decide_eq_true hclock), ?_⟩
    intro key hm
    simp [RelayServer.new] at hm
  · intro verified hv
    have hnone : verifyRelayRegisterRequest .transparent
        (sampleRegistration sampleIdentityKey 1700000050) sampleRelayConfig.controllerCredentialKey
          1700000400 = none := by
      decide +kernel
    have hverified := hv.1
    rw [apply_config, apply_config] at hverified
    exact absurd (hnone.symm.trans hverified) (by simp)

theorem registrations_settle_once_agedRegistration :
    (trace (RelayServer.apply .transparent) (RelayServer.new sampleRelayConfig)
      agedRegistration).Pairwise SettlesOnce :=
  registrations_settle_once .transparent sampleRelayConfig agedRegistration _ agedRegistration_clocks
    agedRegistration_covered

def replayOp : RelayOp :=
  .registration ⟨300 * 10 ^ 9, 1700000400⟩ [some (fill 16 2)]
    (sampleRegistration sampleIdentityKey 1700000100) (.v4 ⟨.new 203 0 113 9, 9⟩)

theorem grantedLease_eq_some {op : RelayOp} {output : RelayOutput} {leaseId : Block 16}
    (h : grantedLease (op, output) = some leaseId) :
    ∃ response, output = .registration (.accepted leaseId response) := by
  unfold grantedLease at h
  split at h
  next other response heq =>
    cases Option.some.inj h
    exact ⟨response, heq⟩
  next => simp at h

theorem settlesOnce_third {c : Crypto} {s : RelayServer} {first second third : RelayOp}
    (h : (trace (RelayServer.apply c) s [first, second, third]).Pairwise SettlesOnce) :
    SettlesOnce (first, (s.apply c first).1)
      (third, ((final (RelayServer.apply c) s [first, second]).apply c third).1) := by
  obtain ⟨hfirst, _⟩ := List.pairwise_cons.mp h
  exact hfirst _ (List.mem_cons_of_mem _ (List.mem_cons_self ..))

/-- A request stamped with the very second it arrives in verifies once more when its cache entry has
gone, and takes the lease to another endpoint. -/
theorem registration_granted_twice : ¬ ∀ (c : Crypto) (config : RelayConfig) (ops : List RelayOp)
    (offset : Nat), ClocksAdvance offset ops →
      (trace (RelayServer.apply c) (RelayServer.new config) ops).Pairwise SettlesOnce := by
  intro h
  have hclocks : ClocksAdvance (1700000100 * 10 ^ 9)
      [sampleGrant, .cleanup ⟨300 * 10 ^ 9, 1700000400⟩, replayOp] :=
    ⟨agedRegistration_clocks.synchronous, agedRegistration_clocks.monotone⟩
  have hpair := h .transparent sampleRelayConfig _ _ hclocks
  have hsettles := settlesOnce_third hpair
  have hgranted : grantedLease (sampleGrant,
      (RelayServer.apply .transparent (RelayServer.new sampleRelayConfig) sampleGrant).1) =
        some (fill 16 1) := by
    decide +kernel
  have hagain : grantedLease (replayOp, (RelayServer.apply .transparent
      (final (RelayServer.apply .transparent) (RelayServer.new sampleRelayConfig)
        [sampleGrant, .cleanup ⟨300 * 10 ^ 9, 1700000400⟩]) replayOp).1) = some (fill 16 2) := by
    decide +kernel
  obtain ⟨response, hr⟩ := grantedLease_eq_some hgranted
  obtain ⟨response', hr'⟩ := grantedLease_eq_some hagain
  rw [hr, hr'] at hsettles
  have hcase := hsettles _ _ _ _ _ _ rfl _ _ _ _ rfl
  rcases hcase with hrejected | ⟨hretry, _⟩
  · simp at hrejected
  · simp at hretry

end XsNexus
