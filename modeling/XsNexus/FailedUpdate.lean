import XsNexus.ConfigurationUpdate

namespace XsNexus

open ByteCodec Checks FiniteMap

/-- Two data planes that differ in no lookup and in nothing else. -/
structure SameDataPlane (dp dp' : UdpDataPlane) : Prop where
  material : dp'.material = dp.material
  peers : ∀ ip, dp'.peersByVirtualIp.lookup ip = dp.peersByVirtualIp.lookup ip
  endpoints : ∀ endpoint, dp'.peerByEndpoint.lookup endpoint = dp.peerByEndpoint.lookup endpoint
  nodeIds : ∀ nodeId, dp'.peerByNodeId.lookup nodeId = dp.peerByNodeId.lookup nodeId
  relays : ∀ endpoint,
    dp'.relayManager.clients.lookup endpoint = dp.relayManager.clients.lookup endpoint
  relayIdentity : { dp'.relayManager with clients := ∅ } = { dp.relayManager with clients := ∅ }
  aclPolicy : dp'.aclPolicy = dp.aclPolicy
  subnetRoutes : dp'.subnetRoutes = dp.subnetRoutes
  localNodeIdBase64 : dp'.localNodeIdBase64 = dp.localNodeIdBase64
  retiredTelemetry : dp'.retiredTelemetry = dp.retiredTelemetry
  configurationVersion : dp'.configurationVersion = dp.configurationVersion
  policyVersion : dp'.policyVersion = dp.policyVersion

structure SameRelay (existing client : RelayClient) : Prop where
  relayId : existing.relayId = client.relayId
  endpoint : existing.endpoint = client.endpoint
  verifyingKey : existing.verifyingKey = client.verifyingKey
  priority : existing.priority = client.priority
  configExpiresAt : existing.configExpiresAt = client.configExpiresAt

/-- The new configuration lists the relays in use, and no others. -/
def SameRelays (clients desired : Map SocketAddr RelayClient) : Prop :=
  ∀ endpoint, Option.Rel SameRelay (clients.lookup endpoint) (desired.lookup endpoint)

/-- A peer the new directory has nothing new for. -/
structure Unaffected (existing replacement : Peer) : Prop where
  node : existing.nodeId = replacement.nodeId
  candidates : existing.candidates = replacement.candidates
  path : existing.state.isEstablished = true ∨ existing.activeEndpoint.any existing.hasEndpoint = true ∨
    (existing.candidates = [] ∧ existing.activeEndpoint = none ∧
      existing.pathReason = some .configurationUpdate)

def SamePeers (peers desired : Map Ipv4Addr Peer) : Prop :=
  ∀ ip, Option.Rel Unaffected (peers.lookup ip) (desired.lookup ip)

/-- A session that goes on under the new configuration, on a path that is neither a relay of it nor a
relay it drops. -/
structure KeepsPath (dp : UdpDataPlane) (desired : Map SocketAddr RelayClient)
    (directory : PeerDirectory) (ip : Ipv4Addr) (endpoint : SocketAddr) : Prop where
  session : ∃ existing replacement, dp.peersByVirtualIp.lookup ip = some existing ∧
    directory.peers.lookup ip = some replacement ∧ existing.nodeId = replacement.nodeId ∧
    existing.state.isEstablished = true ∧ existing.activeEndpoint = some endpoint
  direct : normalizeEndpoint endpoint ∉ desired
  held : ∀ key client, dp.relayManager.clients.lookup key = some client → key ∉ desired →
    client.lease.isSome = true → client.endpoint ≠ endpoint

/-- A session goes on over a path that another peer has as well: as a direct candidate of the new
directory, or as the path its own session goes on over. -/
def Contested (dp : UdpDataPlane) (state : NodeState) (desired : Map SocketAddr RelayClient)
    (directory : PeerDirectory) : Prop :=
  state.configurationPayload.policyVersion = dp.policyVersion ∧
    ∃ ip ip' endpoint, ip ≠ ip' ∧ KeepsPath dp desired directory ip endpoint ∧
      (KeepsPath dp desired directory ip' endpoint ∨
        ∃ replacement, directory.peers.lookup ip' = some replacement ∧
          endpoint ∈ directPaths replacement.candidates)

/-- The stages that may still fail once the relays are replaced have nothing to undo. -/
def FailsWhole (c : Crypto) (f : Formats) (dp : UdpDataPlane) (state : NodeState)
    (reads : ConfigurationReads) : Prop :=
  ∀ aclPolicy subnetRoutes desired, compileAcl f state = .ok aclPolicy →
    compileSubnetRoutes f state = .ok subnetRoutes →
    relayClients c f state.configurationPayload.relays reads.relayInstant reads.relayUtc =
      .ok desired →
    ((∃ e, dp.newDirectory f state desired reads = .error e) →
      SameRelays dp.relayManager.clients desired) ∧
    ∀ directory, dp.newDirectory f state desired reads = .ok directory →
      Contested dp state desired directory →
        SameRelays dp.relayManager.clients desired ∧
          SamePeers dp.peersByVirtualIp directory.peers

theorem rel_map_iff {α : Type*} {x y : Option α} {g : Option α → α → α} {R : α → α → Prop}
    (h : ∀ a b, g (some a) b = a ↔ R a b) : (y.map (g x) = x) ↔ Option.Rel R x y := by
  cases x with
  | none =>
    cases y with
    | none => simp
    | some b => simp
  | some a =>
    cases y with
    | none => simp
    | some b => simp [h]

theorem keepLease_same {existing client : RelayClient} :
    RelayManager.keepLease client (some existing) = existing ↔ SameRelay existing client := by
  unfold RelayManager.keepLease
  dsimp only
  constructor
  · intro h
    split at h
    next => exact ⟨by rw [← h], by rw [← h], by rw [← h], by rw [← h], by rw [← h]⟩
    next hnot =>
      subst h
      simp [RelayManager.sameRelay] at hnot
  · intro h
    have hsame : RelayManager.sameRelay existing client = true :=
      decide_eq_true ⟨h.relayId, h.verifyingKey⟩
    rw [if_pos hsame, ← h.relayId, ← h.endpoint, ← h.verifyingKey, ← h.priority,
      ← h.configExpiresAt]

theorem sameRelays_iff {manager : RelayManager} {desired : Map SocketAddr RelayClient} :
    (∀ endpoint, (manager.replaceClients desired).clients.lookup endpoint =
      manager.clients.lookup endpoint) ↔ SameRelays manager.clients desired := by
  refine forall_congr' fun endpoint => ?_
  unfold RelayManager.replaceClients
  dsimp only
  rw [lookup_mapWithKey]
  exact rel_map_iff (g := fun existing client => RelayManager.keepLease client existing)
    fun _ _ => keepLease_same

theorem mem_iff_of_rel {K V : Type*} [DecidableEq K] {R : V → V → Prop} {m m' : Map K V}
    (h : ∀ k, Option.Rel R (m.lookup k) (m'.lookup k)) (k : K) : k ∈ m ↔ k ∈ m' := by
  rw [← AList.lookup_isSome, ← AList.lookup_isSome]
  have hrel := h k
  cases hl : m.lookup k with
  | none =>
    rw [hl] at hrel
    generalize m'.lookup k = w at hrel
    cases hrel
    rfl
  | some v =>
    rw [hl] at hrel
    generalize m'.lookup k = w at hrel
    cases hrel
    rfl

theorem failedEndpoints_of_sameRelays {clients desired : Map SocketAddr RelayClient}
    (h : SameRelays clients desired) : RelayManager.failedEndpoints clients desired = [] := by
  have hkept : ∀ entry ∈ desired.entries, (do
      let existing ← clients.lookup entry.1
      if !RelayManager.sameRelay existing entry.2 ∧ existing.lease.isSome then some entry.1
      else none) = none := by
    intro entry hentry
    have hrel := h entry.1
    rw [lookup_eq_some.mpr hentry] at hrel
    cases hl : clients.lookup entry.1 with
    | none => rfl
    | some existing =>
      rw [hl] at hrel
      cases hrel with
      | some hsame =>
        have hrelay : RelayManager.sameRelay existing entry.2 = true :=
          decide_eq_true ⟨hsame.relayId, hsame.verifyingKey⟩
        simp [hrelay]
  have hdropped := entries_eraseAll_eq_nil fun endpoint hmem =>
    AList.mem_keys.mp ((mem_iff_of_rel h endpoint).mp hmem)
  unfold RelayManager.failedEndpoints
  dsimp only
  rw [hdropped, List.filterMap_eq_nil_iff.mpr hkept]
  rfl

theorem candidateRoutesChanged_self (candidates : List EndpointCandidate) :
    Peer.candidateRoutesChanged candidates candidates = false := by
  unfold Peer.candidateRoutesChanged
  have hzip : candidates.zip candidates = candidates.map fun candidate => (candidate, candidate) := by
    rw [List.zip_eq_zipWith, List.zipWith_self]
  rw [hzip]
  simp

theorem applyConfiguration_own (peer : Peer) (now : Nat) :
    peer.applyConfiguration peer.candidates false now =
      if !peer.state.isEstablished ∧ peer.activeEndpoint.all fun endpoint =>
          !peer.hasEndpoint endpoint then
        { peer with
          activeEndpoint := peer.firstEndpoint
          pathReason := some .configurationUpdate }
      else peer := by
  have hplain : peer.replaceCandidates peer.candidates now = peer := by
    unfold Peer.replaceCandidates
    rw [candidateRoutesChanged_self]
    rfl
  unfold Peer.applyConfiguration
  simp only [Bool.false_eq_true, if_false, hplain]

/-- Under the same policy, an update leaves a peer as it is exactly if it has nothing new for it. -/
theorem applyConfiguration_same {peer : Peer} {candidates : List EndpointCandidate} {now : Nat} :
    peer.applyConfiguration candidates false now = peer ↔
      peer.candidates = candidates ∧ (peer.state.isEstablished = true ∨
        peer.activeEndpoint.any peer.hasEndpoint = true ∨ (peer.candidates = [] ∧
          peer.activeEndpoint = none ∧ peer.pathReason = some .configurationUpdate)) := by
  have hcandidates := (peer.applyConfiguration_keeps candidates false now).2.1
  constructor
  · intro h
    rw [h] at hcandidates
    refine ⟨hcandidates, ?_⟩
    subst hcandidates
    rw [applyConfiguration_own] at h
    split at h
    next hoff =>
      have hactive : peer.firstEndpoint = peer.activeEndpoint := congrArg Peer.activeEndpoint h
      have hreason : some .configurationUpdate = peer.pathReason := congrArg Peer.pathReason h
      refine Or.inr (Or.inr ?_)
      cases hlist : peer.candidates with
      | nil =>
        have hnone : peer.firstEndpoint = none := by
          unfold Peer.firstEndpoint
          rw [hlist]
          rfl
        exact ⟨rfl, by rw [← hactive, hnone], hreason.symm⟩
      | cons candidate rest =>
        have hfirst : peer.firstEndpoint = some candidate.endpoint := by
          unfold Peer.firstEndpoint
          rw [hlist]
          rfl
        have hhas : peer.hasEndpoint candidate.endpoint = true := by
          unfold Peer.hasEndpoint
          rw [hlist]
          simp
        rw [← hactive, hfirst] at hoff
        simp [hhas] at hoff
    next hon =>
      rw [not_and_or, Bool.not_eq_true, Bool.not_eq_false'] at hon
      rcases hon with hestablished | hactive
      · exact Or.inl hestablished
      · refine Or.inr (Or.inl ?_)
        cases hpath : peer.activeEndpoint with
        | none => simp [hpath] at hactive
        | some endpoint =>
          rw [hpath] at hactive
          simpa using hactive
  · rintro ⟨rfl, hpath⟩
    rw [applyConfiguration_own]
    split
    next hoff =>
      rw [Bool.not_eq_true'] at hoff
      rcases hpath with hestablished | hactive | ⟨hnil, hnone, hreason⟩
      · rw [hestablished] at hoff
        exact absurd hoff.1 (by decide)
      · obtain ⟨endpoint, hsome, hhas⟩ := (Option.any_eq_true _ _).mp hactive
        rw [hsome] at hoff
        simp [hhas] at hoff
      · have hfirst : peer.firstEndpoint = none := by
          unfold Peer.firstEndpoint
          rw [hnil]
          rfl
        rw [hfirst, ← hnone, ← hreason]
    next => rfl

theorem adoptPeer_same {existing replacement : Peer} {now : Nat} :
    UdpDataPlane.adoptPeer (some existing) replacement false now = existing ↔
      Unaffected existing replacement := by
  unfold UdpDataPlane.adoptPeer
  dsimp only
  constructor
  · intro h
    split at h
    next hid =>
      obtain ⟨hcandidates, hpath⟩ := applyConfiguration_same.mp h
      exact ⟨hid, hcandidates, hpath⟩
    next hid => exact absurd (by rw [h]) hid
  · intro h
    rw [if_pos h.node]
    exact applyConfiguration_same.mpr ⟨h.candidates, h.path⟩

/-- An update that leaves every peer where it is retires no counters. -/
theorem retireTelemetry_of_samePeers {dp : UdpDataPlane} {peers : Map Ipv4Addr Peer}
    (h : SamePeers dp.peersByVirtualIp peers) : dp.retireTelemetry peers = dp.retiredTelemetry := by
  have hreplaced : ∀ entry ∈ peers.entries,
      ((dp.peersByVirtualIp.lookup entry.1).filter fun existing =>
        existing.nodeId ≠ entry.2.nodeId) = none := by
    intro entry hentry
    have hrel := h entry.1
    rw [lookup_eq_some.mpr hentry] at hrel
    cases hl : dp.peersByVirtualIp.lookup entry.1 with
    | none => rfl
    | some existing =>
      rw [hl] at hrel
      cases hrel with
      | some hsame => simp [hsame.node]
  have hdropped := entries_eraseAll_eq_nil fun ip hmem =>
    AList.mem_keys.mp ((mem_iff_of_rel h ip).mp hmem)
  unfold UdpDataPlane.retireTelemetry
  dsimp only
  rw [hdropped, List.filterMap_eq_nil_iff.mpr hreplaced]
  rfl

section Replacing

variable {dp : UdpDataPlane} {desired : Map SocketAddr RelayClient} {peers : Map Ipv4Addr Peer}
  {reads : ConfigurationReads}

theorem sameDataPlane_replaceClients :
    SameDataPlane dp { dp with relayManager := dp.relayManager.replaceClients desired } ↔
      SameRelays dp.relayManager.clients desired := by
  rw [← sameRelays_iff]
  constructor
  · exact fun h => h.relays
  · exact fun h => ⟨rfl, fun _ => rfl, fun _ => rfl, fun _ => rfl, h, rfl, rfl, rfl, rfl, rfl, rfl, rfl⟩

theorem samePeers_iff (hrelays : SameRelays dp.relayManager.clients desired) :
    (∀ ip, (dp.replacePeers desired peers false reads).peersByVirtualIp.lookup ip =
      dp.peersByVirtualIp.lookup ip) ↔ SamePeers dp.peersByVirtualIp peers := by
  refine forall_congr' fun ip => ?_
  rw [lookup_replacePeers, failedEndpoints_of_sameRelays hrelays]
  exact rel_map_iff (g := fun existing replacement =>
    UdpDataPlane.adoptPeer existing replacement false reads.instant) fun _ _ => adoptPeer_same

theorem sameDataPlane_replacePeers :
    SameDataPlane dp (dp.replacePeers desired peers false reads) ↔
      SameRelays dp.relayManager.clients desired ∧ SamePeers dp.peersByVirtualIp peers := by
  constructor
  · intro h
    have hrelays := sameRelays_iff.mp h.relays
    exact ⟨hrelays, (samePeers_iff hrelays).mp h.peers⟩
  · rintro ⟨hrelays, hpeers⟩
    exact ⟨rfl, (samePeers_iff hrelays).mpr hpeers, fun _ => rfl, fun _ => rfl,
      sameRelays_iff.mpr hrelays, rfl, rfl, rfl, rfl, retireTelemetry_of_samePeers hpeers, rfl, rfl⟩

end Replacing

section Clashes

variable {c : Crypto} {f : Formats} {dp : UdpDataPlane} {state : NodeState} {reads : ConfigurationReads}
  {desired : Map SocketAddr RelayClient} {directory : PeerDirectory}

theorem notMem_failedEndpoints
    (hdesired : relayClients c f state.configurationPayload.relays reads.relayInstant reads.relayUtc =
      .ok desired) {clients : Map SocketAddr RelayClient} {endpoint : SocketAddr}
    (hdirect : normalizeEndpoint endpoint ∉ desired) :
    endpoint ∉ RelayManager.failedEndpoints clients desired ↔
      ∀ key client, clients.lookup key = some client → key ∉ desired →
        client.lease.isSome = true → client.endpoint ≠ endpoint := by
  have hreplaced : endpoint ∉ desired := fun hmem => hdirect (by
    rw [normalized_relayClients hdesired hmem]
    exact hmem)
  unfold RelayManager.failedEndpoints
  rw [List.mem_append, not_or]
  constructor
  · rintro ⟨_, hnot⟩ key client hl hkey hlease rfl
    refine hnot (List.mem_filterMap.mpr ⟨⟨key, client⟩, lookup_eq_some.mp ?_, by simp [hlease]⟩)
    rw [lookup_eraseAll, if_neg fun hm => hkey (AList.mem_keys.mpr hm), hl]
  · intro hheld
    refine ⟨fun hmem => ?_, fun hmem => ?_⟩
    · obtain ⟨entry, hentry, hsome⟩ := List.mem_filterMap.mp hmem
      have hkey : entry.1 = endpoint := by
        cases hl : clients.lookup entry.1 with
        | none => simp [hl] at hsome
        | some existing =>
          simp only [hl, Option.bind_eq_bind, Option.bind_some] at hsome
          split at hsome
          next => exact Option.some.inj hsome
          next => simp at hsome
      exact hreplaced (mem_iff_lookup.mpr ⟨entry.2, lookup_eq_some.mpr (hkey ▸ hentry)⟩)
    · obtain ⟨entry, hentry, hsome⟩ := List.mem_filterMap.mp hmem
      have hl := lookup_eq_some.mpr hentry
      rw [lookup_eraseAll] at hl
      split at hl
      next => simp at hl
      next hnot =>
        split at hsome
        next hlease =>
          exact hheld entry.1 entry.2 hl (fun hm => hnot (AList.mem_keys.mp hm)) hlease
            (Option.some.inj hsome)
        next => simp at hsome

/-- The endpoints by which a peer is known after the update: its direct candidates, and the path its
session goes on over. -/
theorem mem_indexedEndpoints_replacePeers
    (hdesired : relayClients c f state.configurationPayload.relays reads.relayInstant reads.relayUtc =
      .ok desired)
    (hdirectory : dp.newDirectory f state desired reads = .ok directory) {ip : Ipv4Addr}
    {replacement peer : Peer} (hl : directory.peers.lookup ip = some replacement)
    (hpeer : (dp.replacePeers desired directory.peers (policyChanged dp state) reads
      ).peersByVirtualIp.lookup ip = some peer) (endpoint : SocketAddr) :
    peer.nodeId = replacement.nodeId ∧
      (endpoint ∈ indexedEndpoints (dp.relayManager.replaceClients desired) peer ↔
        endpoint ∈ directPaths replacement.candidates ∨
          (state.configurationPayload.policyVersion = dp.policyVersion ∧
            KeepsPath dp desired directory ip endpoint)) := by
  have hfresh := fresh_of_newDirectory hdesired hdirectory hl
  rw [lookup_replacePeers, hl, Option.map_some] at hpeer
  obtain ⟨adopted, ha⟩ : ∃ adopted, adopted = UdpDataPlane.adoptPeer
    (dp.peersByVirtualIp.lookup ip) replacement (policyChanged dp state) reads.instant := ⟨_, rfl⟩
  obtain ⟨hid, hcandidates, hsession⟩ := adoptPeer_keeps hfresh (dp.peersByVirtualIp.lookup ip)
    (policyChanged dp state) reads.instant
  rw [← ha] at hpeer hid hcandidates hsession
  obtain ⟨hid', hcandidates', _, _⟩ := adopted.failRelayPaths_keeps
    (RelayManager.failedEndpoints dp.relayManager.clients desired) reads.failoverInstant
  have hafter := Option.some.inj hpeer
  rw [hafter] at hid' hcandidates'
  have hunchanged : policyChanged dp state = false ↔
      state.configurationPayload.policyVersion = dp.policyVersion := by
    unfold policyChanged
    rw [decide_eq_false_iff_not, not_not]
  refine ⟨hid'.trans hid, ?_⟩
  rw [mem_indexedEndpoints, hcandidates', hcandidates, ← Bool.not_eq_true,
    isRelay_replaceClients, ← hunchanged]
  have hlisted : endpoint ∈ replacement.candidates.map EndpointCandidate.endpoint →
      normalizeEndpoint endpoint ∉ desired → endpoint ∈ directPaths replacement.candidates := by
    intro hmem hnot
    obtain ⟨candidate, hc, rfl⟩ := List.mem_map.mp hmem
    refine List.mem_map_of_mem (List.mem_filter.mpr ⟨hc, decide_eq_true fun hkind => ?_⟩)
    exact hnot (hfresh.relays candidate hc hkind)
  apply or_congr_right'
  intro hother
  constructor
  · rintro ⟨hactive, hnot⟩
    rw [← hafter] at hactive
    rcases Peer.failRelayPaths_active hactive with hmem | ⟨hactive, hheld⟩
    · rw [hcandidates] at hmem
      exact absurd (hlisted hmem hnot) hother
    · rcases hsession with ⟨existing, he, hnode, hestablished, hpolicy, _, hpath⟩ | ⟨_, _, hpath⟩
      · rw [hpath] at hactive
        exact ⟨hpolicy, ⟨existing, replacement, he, hl, hnode, hestablished, hactive⟩, hnot,
          (notMem_failedEndpoints hdesired hnot).mp hheld⟩
      · exact absurd (hlisted (hpath endpoint hactive) hnot) hother
  · rintro ⟨hpolicy, hkeeps⟩
    obtain ⟨existing, replacement', he, hl', hnode, hestablished, hactive⟩ := hkeeps.session
    cases Option.some.inj (hl.symm.trans hl')
    rcases hsession with ⟨existing', he', _, _, _, _, hpath⟩ | ⟨hnone, _, _⟩
    · cases Option.some.inj (he.symm.trans he')
      rw [hactive] at hpath
      have hheld := (notMem_failedEndpoints hdesired hkeeps.direct).mpr hkeeps.held
      have hoff : ∀ failed ∈ RelayManager.failedEndpoints dp.relayManager.clients desired,
          adopted.activeEndpoint ≠ some failed := by
        intro failed hmem heq
        rw [hpath] at heq
        cases heq
        exact hheld hmem
      have hsame := Peer.failRelayPaths_of_notMem hoff reads.failoverInstant
      rw [← hafter, hsame]
      exact ⟨hpath, hkeeps.direct⟩
    · rw [hnone existing he hnode hestablished] at hpolicy
      exact absurd hpolicy (by decide)

theorem exists_replacePeers (reads : ConfigurationReads) {ip : Ipv4Addr} :
    (∃ peer, (dp.replacePeers desired directory.peers (policyChanged dp state) reads
      ).peersByVirtualIp.lookup ip = some peer) ↔
      ∃ replacement, directory.peers.lookup ip = some replacement := by
  rw [lookup_replacePeers, ← Option.isSome_iff_exists, Option.isSome_map, Option.isSome_iff_exists]

/-- The indexes can follow the update exactly if no path is contested. -/
theorem contested_iff
    (hdesired : relayClients c f state.configurationPayload.relays reads.relayInstant reads.relayUtc =
      .ok desired)
    (hdirectory : dp.newDirectory f state desired reads = .ok directory) :
    (dp.replacePeers desired directory.peers (policyChanged dp state) reads
      ).rebuildEndpointIndex.1 = .ok () ↔ ¬Contested dp state desired directory := by
  obtain ⟨hindexes, _⟩ := buildPeerDirectory_contents hdirectory
  rw [rebuildEndpointIndex_ok]
  constructor
  · rintro hapart ⟨hpolicy, ip, ip', endpoint, hne, hkeeps, hother⟩
    obtain ⟨_, replacement, _, hl, _⟩ := hkeeps.session
    have hplace : ∃ replacement', directory.peers.lookup ip' = some replacement' := by
      rcases hother with hkeeps' | ⟨replacement', hl', _⟩
      · obtain ⟨_, replacement', _, hl', _⟩ := hkeeps'.session
        exact ⟨replacement', hl'⟩
      · exact ⟨replacement', hl'⟩
    obtain ⟨replacement', hl'⟩ := hplace
    obtain ⟨peer, hpeer⟩ := (exists_replacePeers reads).mpr ⟨replacement, hl⟩
    obtain ⟨peer', hpeer'⟩ := (exists_replacePeers reads).mpr ⟨replacement', hl'⟩
    have hmem := (mem_indexedEndpoints_replacePeers hdesired hdirectory hl hpeer endpoint).2
    have hmem' := (mem_indexedEndpoints_replacePeers hdesired hdirectory hl' hpeer' endpoint).2
    refine hapart ip ip' peer peer' hpeer hpeer' hne (Or.inr ⟨endpoint, ?_, hmem'.mpr ?_⟩)
    · exact hmem.mpr (Or.inr ⟨hpolicy, hkeeps⟩)
    · rcases hother with hkeeps' | ⟨other, hlo, hdirect⟩
      · exact Or.inr ⟨hpolicy, hkeeps'⟩
      · cases Option.some.inj (hl'.symm.trans hlo)
        exact Or.inl hdirect
  · intro hfree ip ip' peer peer' hpeer hpeer' hne hclash
    obtain ⟨replacement, hl⟩ := (exists_replacePeers reads).mp ⟨peer, hpeer⟩
    obtain ⟨replacement', hl'⟩ := (exists_replacePeers reads).mp ⟨peer', hpeer'⟩
    have hmem := mem_indexedEndpoints_replacePeers hdesired hdirectory hl hpeer
    have hmem' := mem_indexedEndpoints_replacePeers hdesired hdirectory hl' hpeer'
    rcases hclash with hid | ⟨endpoint, he, he'⟩
    · rw [(hmem (.v4 ⟨ip, 0⟩)).1, (hmem' (.v4 ⟨ip, 0⟩)).1] at hid
      have hplace := (hindexes.nodeIds replacement.nodeId ip).mpr ⟨replacement, hl, rfl⟩
      have hplace' := (hindexes.nodeIds replacement.nodeId ip').mpr ⟨replacement', hl', hid.symm⟩
      exact hne (Option.some.inj (hplace.symm.trans hplace'))
    · rcases (hmem endpoint).2.mp he with hdirect | ⟨hpolicy, hkeeps⟩
      · rcases (hmem' endpoint).2.mp he' with hdirect' | ⟨hpolicy, hkeeps'⟩
        · have hplace := (hindexes.endpoints endpoint ip).mpr ⟨replacement, hl, hdirect⟩
          have hplace' := (hindexes.endpoints endpoint ip').mpr ⟨replacement', hl', hdirect'⟩
          exact hne (Option.some.inj (hplace.symm.trans hplace'))
        · exact hfree ⟨hpolicy, ip', ip, endpoint, hne.symm, hkeeps',
            Or.inr ⟨replacement, hl, hdirect⟩⟩
      · rcases (hmem' endpoint).2.mp he' with hdirect' | ⟨_, hkeeps'⟩
        · exact hfree ⟨hpolicy, ip, ip', endpoint, hne, hkeeps,
            Or.inr ⟨replacement', hl', hdirect'⟩⟩
        · exact hfree ⟨hpolicy, ip, ip', endpoint, hne, hkeeps, Or.inl hkeeps'⟩

end Clashes

/-- An update that fails leaves everything as it was exactly if the stages that may fail last have
nothing to undo: the directory cannot be built or a path is contested only where the relays, and for
the path the peers as well, are those in use already. -/
theorem failed_update_changes_nothing_iff (c : Crypto) (f : Formats) (dp : UdpDataPlane)
    (state : NodeState) (reads : ConfigurationReads) :
    ((∃ e, (dp.applyConfiguration c f state reads).1 = .error e) →
      SameDataPlane dp (dp.applyConfiguration c f state reads).2) ↔
      FailsWhole c f dp state reads := by
  constructor
  · intro hwhole aclPolicy subnetRoutes desired hacl hroutes hdesired
    rcases applyConfiguration_cases dp hacl hroutes hdesired with
      ⟨e, hfails, hresult⟩ | ⟨directory, hbuilt, hrest⟩
    · rw [hresult] at hwhole
      have hsame := sameDataPlane_replaceClients.mp (hwhole ⟨e, rfl⟩)
      refine ⟨fun _ => hsame, fun directory hdirectory => ?_⟩
      rw [hfails] at hdirectory
      simp at hdirectory
    · refine ⟨fun ⟨e, hfails⟩ => ?_, fun directory' hdirectory hcontested => ?_⟩
      · rw [hbuilt] at hfails
        simp at hfails
      · cases Except.ok.inj (hbuilt.symm.trans hdirectory)
        have hindexes := mt (contested_iff hdesired hbuilt).mp (not_not.mpr hcontested)
        rcases hrest with ⟨e, hfails, hresult⟩ | ⟨hok, _⟩
        · rw [hresult] at hwhole
          have hsame := hwhole ⟨e, rfl⟩
          rw [policyChanged, decide_eq_false (not_not.mpr hcontested.1)] at hsame
          exact sameDataPlane_replacePeers.mp hsame
        · exact absurd hok hindexes
  · rintro hwhole ⟨e, herror⟩
    by_cases hcompiles : ∃ aclPolicy subnetRoutes desired, compileAcl f state = .ok aclPolicy ∧
        compileSubnetRoutes f state = .ok subnetRoutes ∧
        relayClients c f state.configurationPayload.relays reads.relayInstant reads.relayUtc =
          .ok desired
    · obtain ⟨aclPolicy, subnetRoutes, desired, hacl, hroutes, hdesired⟩ := hcompiles
      obtain ⟨hdirectory, hindexes⟩ := hwhole aclPolicy subnetRoutes desired hacl hroutes hdesired
      rcases applyConfiguration_cases dp hacl hroutes hdesired with
        ⟨e', hfails, hresult⟩ | ⟨directory, hbuilt, ⟨e', hfails, hresult⟩ | ⟨_, hresult⟩⟩
      · rw [hresult]
        exact sameDataPlane_replaceClients.mpr (hdirectory ⟨e', hfails⟩)
      · have hcontested : Contested dp state desired directory := by
          by_contra hfree
          rw [(contested_iff hdesired hbuilt).mpr hfree] at hfails
          simp at hfails
        rw [hresult, policyChanged, decide_eq_false (not_not.mpr hcontested.1)]
        exact sameDataPlane_replacePeers.mpr (hindexes directory hbuilt hcontested)
      · rw [hresult] at herror
        simp at herror
    · rw [(applyConfiguration_refused dp hcompiles).2]
      exact ⟨rfl, fun _ => rfl, fun _ => rfl, fun _ => rfl, fun _ => rfl, rfl, rfl, rfl, rfl, rfl,
        rfl, rfl⟩

/-- Another node that offers the endpoint of the peer, as an IPv4-mapped address. -/
def sampleRivalNode : ConfigurationNode :=
  { samplePeerNode with
    nodeIdBase64 := "FQad3XgbJcHsp3ricE0GVg"
    identityPublicKeyBase64 := "KysrKysrKysrKysrKysrKysrKysrKysrKysrKysrKys"
    virtualIp := "100.88.0.12"
    candidates := [⟨.localAddress, .v6 ⟨⟨0xffffc0000201⟩, 4000, 0, 0⟩, 10000, 1700003700 * 10 ^ 9⟩]
    credentialSerial := 9 }

/-- The next configuration: the relay is gone, and a second peer has joined. -/
def sampleNextState : NodeState :=
  { sampleNodeState with
    configuration := { sampleNodeState.configuration with version := 2 }
    configurationPayload := { samplePayload with
      version := 2
      nodes := samplePayload.nodes ++ [sampleRivalNode]
      relays := [] } }

def sampleConfigurationReads : ConfigurationReads where
  relayInstant := durationFromSecs 100
  relayUtc := 1700000300 * 10 ^ 9
  directoryInstant := durationFromSecs 100
  directoryUtc := 1700000300 * 10 ^ 9
  instant := durationFromSecs 100
  failoverInstant := durationFromSecs 100

/-- The relay is dropped although the update fails over the endpoint of the second peer. -/
theorem failed_update_drops_relay :
    ∃ dp, UdpDataPlane.bind .transparent sampleFormats sampleNodeState sampleIdentityKey 0
        (1700000200 * 10 ^ 9) = .ok dp ∧
      (dp.applyConfiguration .transparent sampleFormats sampleNextState
        sampleConfigurationReads).1 = .error .dataPlane ∧
      ¬SameDataPlane dp (dp.applyConfiguration .transparent sampleFormats sampleNextState
        sampleConfigurationReads).2 := by
  have hrun : (match UdpDataPlane.bind .transparent sampleFormats sampleNodeState sampleIdentityKey 0
      (1700000200 * 10 ^ 9) with
    | .error _ => false
    | .ok dp =>
      let applied := dp.applyConfiguration .transparent sampleFormats sampleNextState
        sampleConfigurationReads
      decide (applied.1 = .error .dataPlane) &&
        (dp.relayManager.clients.lookup sampleRelayEndpoint).isSome &&
        (applied.2.relayManager.clients.lookup sampleRelayEndpoint).isNone) = true := by
    decide +kernel
  split at hrun
  next => simp at hrun
  next dp hbind =>
    simp only [Bool.and_eq_true, decide_eq_true_eq] at hrun
    obtain ⟨⟨herror, hbefore⟩, hafter⟩ := hrun
    refine ⟨dp, hbind, herror, fun hsame => ?_⟩
    rw [hsame.relays] at hafter
    rw [Option.isNone_iff_eq_none.mp hafter] at hbefore
    simp at hbefore

end XsNexus
