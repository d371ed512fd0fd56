import XsNexus.RouteDiscovery

namespace XsNexus

open ByteCodec Checks FiniteMap

section Order

theorem orderKey_injective {a b : SocketAddr} (h : a.orderKey = b.orderKey) : a = b := by
  cases a with
  | v4 a =>
    cases b with
    | v4 b =>
      simp only [SocketAddr.orderKey, List.cons.injEq, and_true, true_and] at h
      obtain ⟨hip, hport⟩ := h
      have hips : a.ip = b.ip := congrArg Ipv4Addr.mk (BitVec.eq_of_toNat_eq hip)
      have hports : a.port = b.port := UInt16.toNat_inj.mp hport
      exact congrArg SocketAddr.v4 (by cases a; cases b; simp_all)
    | v6 b => simp [SocketAddr.orderKey] at h
  | v6 a =>
    cases b with
    | v4 b => simp [SocketAddr.orderKey] at h
    | v6 b =>
      simp only [SocketAddr.orderKey, List.cons.injEq, and_true, true_and] at h
      obtain ⟨hip, hport, hflow, hscope⟩ := h
      have hips : a.ip = b.ip := congrArg Ipv6Addr.mk (BitVec.eq_of_toNat_eq hip)
      have hports : a.port = b.port := UInt16.toNat_inj.mp hport
      have hflows : a.flowinfo = b.flowinfo := UInt32.toNat_inj.mp hflow
      have hscopes : a.scopeId = b.scopeId := UInt32.toNat_inj.mp hscope
      exact congrArg SocketAddr.v6 (by cases a; cases b; simp_all)

theorem candidateRank_injective {a b : EndpointCandidateKind} (h : candidateRank a = candidateRank b) :
    a = b := by
  cases a <;> cases b <;> first | rfl | simp [candidateRank] at h

theorem candidateKey_injective {a b : EndpointCandidateKind × SocketAddr}
    (h : candidateKey a = candidateKey b) : a = b := by
  obtain ⟨hrank, hendpoint⟩ := List.cons.inj h
  exact Prod.ext (candidateRank_injective hrank) (orderKey_injective hendpoint)

theorem pairwise_sortCandidates (l : List (EndpointCandidateKind × SocketAddr)) :
    (sortCandidates l).Pairwise fun left right => candidateKey left ≤ candidateKey right := by
  have : Std.Total fun left right : EndpointCandidateKind × SocketAddr =>
      candidateKey left ≤ candidateKey right := ⟨fun left right => le_total _ _⟩
  have : IsTrans (EndpointCandidateKind × SocketAddr) fun left right =>
      candidateKey left ≤ candidateKey right := ⟨fun _ _ _ => le_trans⟩
  exact List.pairwise_insertionSort _ l

theorem perm_sortCandidates (l : List (EndpointCandidateKind × SocketAddr)) :
    (sortCandidates l).Perm l := List.perm_insertionSort _ l

/-- What ranks before the mapped endpoints stays in front of them. -/
theorem sortCandidates_append {front back : List (EndpointCandidateKind × SocketAddr)}
    (hsorted : front.Pairwise fun left right => candidateKey left ≤ candidateKey right)
    (hfront : ∀ a ∈ front, candidateRank a.1 < 2) (hback : ∀ a ∈ back, candidateRank a.1 = 2) :
    sortCandidates (front ++ back) = front ++ sortCandidates back := by
  have hperm : (sortCandidates (front ++ back)).Perm (front ++ sortCandidates back) :=
    (perm_sortCandidates _).trans ((perm_sortCandidates back).symm.append_left front)
  have hordered : (front ++ sortCandidates back).Pairwise fun left right =>
      candidateKey left ≤ candidateKey right := by
    refine List.pairwise_append.mpr ⟨hsorted, pairwise_sortCandidates back, fun a ha b hb => ?_⟩
    have hrank := hback b ((perm_sortCandidates back).mem_iff.mp hb)
    have hlt : candidateRank a.1 < candidateRank b.1 := by
      have ha := hfront a ha
      omega
    exact le_of_lt (List.Lex.rel hlt)
  refine hperm.eq_of_pairwise ?_ (pairwise_sortCandidates _) hordered
  intro a b _ _ hab hba
  exact candidateKey_injective (le_antisymm hab hba)

end Order

/-- Whether the controller takes the endpoint as a candidate: it has a port, and its address is not one
that only the host itself, a link or a group can reach. -/
def advertisable (endpoint : SocketAddr) : Bool :=
  decide (endpoint.port ≠ 0) && match endpoint with
  | .v4 e => !e.ip.isUnspecified && !e.ip.isLoopback && !e.ip.isMulticast &&
      decide (e.ip ≠ Ipv4Addr.BROADCAST)
  | .v6 e => !e.ip.isLoopback && !(e.ip.isUnicastLinkLocal && decide (e.scopeId = 0))

/-- A candidate of an interface. -/
def LocalSound (candidate : EndpointCandidateKind × SocketAddr) : Prop :=
  ∃ address index port virtualIp, localCandidate address index port virtualIp = some candidate

/-- An endpoint that a discovery response has named. -/
def MappedSound (endpoint : SocketAddr) : Prop :=
  ∃ encoded observed, decodeObservedEndpoint encoded = some observed ∧
    validObservedEndpoint observed = true ∧ endpoint = normalizeEndpoint observed

theorem validCandidateEndpoint_local {kind : EndpointCandidateKind} {endpoint : SocketAddr}
    (h : LocalSound (kind, endpoint)) (priority : UInt32) (expiresAt : Int) :
    (kind = .localAddress ∨ kind = .publicIpv6) ∧
      validCandidateEndpoint ⟨kind, endpoint, priority, expiresAt⟩ = advertisable endpoint := by
  obtain ⟨address, index, port, virtualIp, h⟩ := h
  cases address with
  | v4 address =>
    obtain ⟨hguard, h⟩ := Option.ite_none_right_eq_some.mp h
    cases h
    obtain ⟨hunspecified, hloopback, hmulticast, hbroadcast, _⟩ := hguard
    refine ⟨Or.inl rfl, ?_⟩
    by_cases hport : port = 0
    · simp [validCandidateEndpoint, advertisable, SocketAddr.port, hport]
    · simp_all [validCandidateEndpoint, advertisable, SocketAddr.port]
  | v6 address =>
    obtain ⟨hguard, h⟩ := Option.ite_none_right_eq_some.mp h
    cases h
    obtain ⟨hunspecified, hloopback, hmulticast⟩ := hguard
    by_cases hlink : address.isUnicastLinkLocal = true
    · refine ⟨Or.inl (by simp [hlink]), ?_⟩
      by_cases hport : port = 0
      · simp [validCandidateEndpoint, advertisable, SocketAddr.port, hport]
      · by_cases hscope : index = 0 <;>
          simp_all [validCandidateEndpoint, advertisable, SocketAddr.port]
    · by_cases hunique : address.isUniqueLocal = true
      · refine ⟨Or.inl (by simp [hunique]), ?_⟩
        by_cases hport : port = 0 <;>
          simp_all [validCandidateEndpoint, advertisable, SocketAddr.port]
      · refine ⟨Or.inr (by simp [hunique, hlink]), ?_⟩
        by_cases hport : port = 0 <;>
          simp_all [validCandidateEndpoint, advertisable, SocketAddr.port, publicIpv6]

theorem decodeObservedEndpoint_plain {encoded : Block 24} {e : SocketAddrV6}
    (h : decodeObservedEndpoint encoded = some (.v6 e)) : e.flowinfo = 0 ∧ e.scopeId = 0 := by
  unfold decodeObservedEndpoint at h
  split at h
  next => simp at h
  next =>
    obtain ⟨port, _, h⟩ := Option.bind_eq_some_iff.mp h
    split at h
    next =>
      obtain ⟨octets, _, h⟩ := Option.bind_eq_some_iff.mp h
      simp at h
    next =>
      split at h
      next =>
        cases h
        exact ⟨rfl, rfl⟩
      next => simp at h

theorem validCandidateEndpoint_v4 (e : SocketAddrV4) (priority : UInt32) (expiresAt : Int) :
    validCandidateEndpoint ⟨.mapped, .v4 e, priority, expiresAt⟩ = advertisable (.v4 e) := by
  by_cases hport : e.port = 0
  · simp [validCandidateEndpoint, advertisable, SocketAddr.port, hport]
  · by_cases hunspecified : e.ip.isUnspecified = true
    · simp [validCandidateEndpoint, advertisable, SocketAddr.port, hunspecified]
    · by_cases hloopback : e.ip.isLoopback = true
      · simp [validCandidateEndpoint, advertisable, SocketAddr.port, hloopback]
      · by_cases hmulticast : e.ip.isMulticast = true
        · simp [validCandidateEndpoint, advertisable, SocketAddr.port, hmulticast]
        · by_cases hbroadcast : e.ip = Ipv4Addr.BROADCAST <;>
            simp_all [validCandidateEndpoint, advertisable, SocketAddr.port]

theorem validCandidateEndpoint_mapped {endpoint : SocketAddr} (h : MappedSound endpoint)
    (priority : UInt32) (expiresAt : Int) :
    validCandidateEndpoint ⟨.mapped, endpoint, priority, expiresAt⟩ = advertisable endpoint := by
  obtain ⟨encoded, observed, hdecoded, hvalid, rfl⟩ := h
  unfold validObservedEndpoint at hvalid
  split at hvalid
  next => simp at hvalid
  next hport =>
    cases observed with
    | v4 e => exact validCandidateEndpoint_v4 e priority expiresAt
    | v6 e =>
      have hports : e.port ≠ 0 := hport
      obtain ⟨hflow, hscope⟩ := decodeObservedEndpoint_plain hdecoded
      cases hmapped : e.ip.toIpv4Mapped with
      | some address =>
        have hnormal : normalizeEndpoint (.v6 e) = .v4 ⟨address, e.port⟩ := by
          simp only [normalizeEndpoint, hmapped]
        rw [hnormal]
        exact validCandidateEndpoint_v4 _ priority expiresAt
      | none =>
        simp only [SocketAddr.ip, Bool.and_eq_true, Bool.not_eq_true'] at hvalid
        obtain ⟨hunspecified, hmulticast⟩ := hvalid
        by_cases hloopback : e.ip.isLoopback = true
        · simp_all [validCandidateEndpoint, advertisable, SocketAddr.port, normalizeEndpoint]
        · by_cases hlink : e.ip.isUnicastLinkLocal = true <;>
            simp_all [validCandidateEndpoint, advertisable, SocketAddr.port, normalizeEndpoint]

/-- The kind that an endpoint of an interface has. -/
def localKind : SocketAddr → EndpointCandidateKind
  | .v4 _ => .localAddress
  | .v6 e =>
    if e.ip.isUniqueLocal ∨ e.ip.isUnicastLinkLocal then .localAddress else .publicIpv6

theorem localCandidate_kind {candidate : EndpointCandidateKind × SocketAddr}
    (h : LocalSound candidate) : candidate.1 = localKind candidate.2 := by
  obtain ⟨address, index, port, virtualIp, h⟩ := h
  cases address with
  | v4 address =>
    obtain ⟨_, h⟩ := Option.ite_none_right_eq_some.mp h
    cases h
    rfl
  | v6 address =>
    obtain ⟨_, h⟩ := Option.ite_none_right_eq_some.mp h
    cases h
    rfl

structure CandidatesSound (state : NodeState) (manager : CandidateManager) : Prop where
  network : manager.networkId = state.networkId
  node : manager.nodeIdBase64 = state.nodeIdBase64
  interfaces : ∀ candidate ∈ manager.localEndpoints, LocalSound candidate
  sorted : manager.localEndpoints.Pairwise fun left right => candidateKey left ≤ candidateKey right
  nodup : manager.localEndpoints.Nodup
  few : manager.localEndpoints.length ≤ maxLocalCandidates
  mapped : ∀ endpoint ∈ manager.mapped, MappedSound endpoint

theorem mem_retainMapped {mapped : Map SocketAddr Int} {now : Int} {endpoint : SocketAddr}
    (h : endpoint ∈ retainMapped mapped now) : endpoint ∈ mapped := by
  obtain ⟨expiresAt, hlookup⟩ := mem_iff_lookup.mp h
  unfold retainMapped at hlookup
  rw [lookup_eraseAll] at hlookup
  split at hlookup
  next => simp at hlookup
  next => exact mem_iff_lookup.mpr ⟨expiresAt, hlookup⟩

theorem collectLocalEndpoints_sound (messages : List AddressMessage) (port : UInt16)
    (virtualIp : Ipv4Addr) :
    (∀ candidate ∈ collectLocalEndpoints messages port virtualIp, LocalSound candidate) ∧
      (collectLocalEndpoints messages port virtualIp).Nodup := by
  obtain ⟨endpoints, hendpoints⟩ : ∃ endpoints, endpoints = messages.filterMap fun message =>
      message.address?.bind fun address => localCandidate address message.index port virtualIp :=
    ⟨_, rfl⟩
  unfold collectLocalEndpoints
  dsimp only
  rw [← hendpoints]
  refine ⟨fun candidate hmem => ?_, ?_⟩
  · have hsorted := (perm_sortCandidates endpoints.dedup).mem_iff.mp (List.mem_of_mem_take hmem)
    rw [List.mem_dedup, hendpoints, List.mem_filterMap] at hsorted
    obtain ⟨message, _, h⟩ := hsorted
    obtain ⟨address, _, h⟩ := Option.bind_eq_some_iff.mp h
    exact ⟨address, message.index, port, virtualIp, h⟩
  · have hnodup := (perm_sortCandidates endpoints.dedup).nodup_iff.mpr (List.nodup_dedup endpoints)
    exact hnodup.sublist (List.take_sublist _ _)

theorem sendRequests_pending (c : Crypto) (manager : CandidateManager)
    (targets : List (SocketAddr × DiscoveryReads)) :
    ∃ pending, (manager.sendRequests c targets).2 = { manager with pending := pending } := by
  induction targets generalizing manager with
  | nil => exact ⟨manager.pending, rfl⟩
  | cons target rest ih =>
    obtain ⟨endpoint, reads⟩ := target
    unfold CandidateManager.sendRequests
    split
    next =>
      split
      next => exact ⟨manager.pending, rfl⟩
      next request _ =>
        obtain ⟨pending, h⟩ := ih (if reads.sent then
          { manager with pending := manager.pending.insert (normalizeEndpoint endpoint) request }
          else manager)
        refine ⟨pending, h.trans ?_⟩
        split <;> rfl
    next => exact ⟨manager.pending, rfl⟩

theorem sendRequests_after {c : Crypto} {manager after : CandidateManager}
    {targets : List (SocketAddr × DiscoveryReads)} {result : Except AgentError Unit}
    (h : manager.sendRequests c targets = (result, after)) :
    ∃ pending, after = { manager with pending := pending } := by
  have hpending := sendRequests_pending c manager targets
  rw [h] at hpending
  exact hpending

theorem refresh_sound {state current : NodeState} {manager : CandidateManager} (c : Crypto)
    (hi : CandidatesSound state manager) (port : Option UInt16)
    (messages : Option (List AddressMessage)) (utcNow : Int) (reads : Nat → DiscoveryReads)
    (instantNow : Int) :
    CandidatesSound state (manager.refresh c port messages current utcNow reads instantNow).2 := by
  unfold CandidateManager.refresh
  split
  next port messages =>
    obtain ⟨hsound, hnodup⟩ := collectLocalEndpoints_sound messages port current.virtualIp
    have hcollected : CandidatesSound state { manager with
        localEndpoints := collectLocalEndpoints messages port current.virtualIp
        mapped := retainMapped manager.mapped utcNow
        pending := ∅ } := {
      network := hi.network
      node := hi.node
      interfaces := hsound
      sorted := (pairwise_sortCandidates _).sublist (List.take_sublist _ _)
      nodup := hnodup
      few := List.length_take_le _ _
      mapped := fun endpoint hmem => hi.mapped endpoint (mem_retainMapped hmem) }
    dsimp only
    split
    next heq =>
      obtain ⟨pending, hpending⟩ := sendRequests_after heq
      dsimp only
      rw [hpending]
      exact ⟨hcollected.1, hcollected.2, hcollected.3, hcollected.4, hcollected.5, hcollected.6,
        hcollected.7⟩
    next heq =>
      obtain ⟨pending, hpending⟩ := sendRequests_after heq
      dsimp only
      rw [hpending]
      exact ⟨hcollected.1, hcollected.2, hcollected.3, hcollected.4, hcollected.5, hcollected.6,
        hcollected.7⟩
  next => exact hi

theorem verifyDiscoveryResponse_observed {c : Crypto} {encoded : Bytes} {request : DiscoveryRequest}
    {key : VerifyingKey} {now : UInt64} {response : VerifiedDiscoveryResponse}
    (h : verifyDiscoveryResponse c encoded request key now = some response) :
    MappedSound (normalizeEndpoint response.observedEndpoint) := by
  unfold verifyDiscoveryResponse at h
  split at h
  next => simp at h
  next =>
    obtain ⟨networkId, _, h⟩ := Option.bind_eq_some_iff.mp h
    obtain ⟨encodedNodeId, _, h⟩ := Option.bind_eq_some_iff.mp h
    obtain ⟨requestId, _, h⟩ := Option.bind_eq_some_iff.mp h
    obtain ⟨serverTime, _, h⟩ := Option.bind_eq_some_iff.mp h
    obtain ⟨block, _, h⟩ := Option.bind_eq_some_iff.mp h
    obtain ⟨observed, hobserved, h⟩ := Option.bind_eq_some_iff.mp h
    obtain ⟨requestHash, _, h⟩ := Option.bind_eq_some_iff.mp h
    split at h
    next => simp at h
    next hguard =>
      obtain ⟨signature, _, h⟩ := Option.bind_eq_some_iff.mp h
      split at h
      next => simp at h
      next =>
        cases h
        simp only [not_or, Bool.not_eq_true', Bool.not_eq_false] at hguard
        exact ⟨block, observed, hobserved, hguard.2.2.2.2.2, rfl⟩

theorem candidatesSound {c : Crypto} {f : Formats} {state : NodeState} {manager : CandidateManager}
    (h : ReachableCandidates c f state manager) : CandidatesSound state manager := by
  induction h with
  | new hs =>
    obtain ⟨keyBytes, _, hs⟩ := bind_ok.mp hs
    split at hs
    next => simp at hs
    next =>
      obtain ⟨nodeId, _, hs⟩ := bind_ok.mp hs
      obtain ⟨credential, _, hs⟩ := bind_ok.mp hs
      cases hs
      exact ⟨rfl, rfl, fun _ hmem => absurd hmem List.not_mem_nil, List.Pairwise.nil, List.nodup_nil,
        Nat.zero_le _, fun _ hmem => absurd hmem (AList.notMem_empty _)⟩
  | forceRefresh _ instantNow ih => exact ⟨ih.1, ih.2, ih.3, ih.4, ih.5, ih.6, ih.7⟩
  | refresh _ port messages current utcNow reads instantNow ih =>
    exact refresh_sound c ih port messages utcNow reads instantNow
  | handleDiscoveryResponse _ source datagram utcNow ih =>
    unfold CandidateManager.handleDiscoveryResponse
    dsimp only
    split
    next => exact ih
    next request _ =>
      split
      next => exact ih
      next response hresponse =>
        obtain ⟨now, _, hverified⟩ := Option.bind_eq_some_iff.mp hresponse
        refine ⟨ih.1, ih.2, ih.3, ih.4, ih.5, ih.6, fun endpoint hmem => ?_⟩
        rcases AList.mem_insert _ |>.mp hmem with rfl | hold
        · exact verifyDiscoveryResponse_observed hverified
        · exact ih.mapped endpoint hold
  | takeAdvertisement _ now ih =>
    unfold CandidateManager.takeAdvertisement
    split
    next => exact ih
    next =>
      exact ⟨ih.1, ih.2, ih.3, ih.4, ih.5, ih.6,
        fun endpoint hmem => ih.mapped endpoint (mem_retainMapped hmem)⟩

theorem nodup_localEndpoints {state : NodeState} {manager : CandidateManager}
    (hi : CandidatesSound state manager) : (manager.localEndpoints.map Prod.snd).Nodup := by
  refine (List.nodup_map_iff_inj_on hi.nodup).mpr fun a ha b hb heq => ?_
  refine Prod.ext ?_ heq
  rw [localCandidate_kind (hi.interfaces a ha), localCandidate_kind (hi.interfaces b hb), heq]

/-- The mapped endpoints there is room for behind the interfaces, in their order. -/
def advertisedMappings (manager : CandidateManager) (now : Int) : List SocketAddr :=
  let mapped := (retainMapped manager.mapped now).keys.map fun endpoint =>
    (EndpointCandidateKind.mapped, endpoint)
  (((sortCandidates mapped).map Prod.snd).filter fun endpoint =>
    endpoint ∉ manager.localEndpoints.map Prod.snd).take
      (maxAdvertisedCandidates - manager.localEndpoints.length)

theorem prioritized_eq {state : NodeState} {manager : CandidateManager}
    (hi : CandidatesSound state manager) (now expiresAt : Int) :
    prioritizeCandidates manager.localEndpoints (retainMapped manager.mapped now).keys expiresAt =
      numberCandidates expiresAt (manager.localEndpoints ++
        (advertisedMappings manager now).map fun endpoint => (EndpointCandidateKind.mapped, endpoint)) := by
  obtain ⟨keys, hkeys⟩ : ∃ keys, keys = (retainMapped manager.mapped now).keys := ⟨_, rfl⟩
  have hnodup : keys.Nodup := hkeys ▸ AList.keys_nodup _
  obtain ⟨back, hback⟩ : ∃ back : List (EndpointCandidateKind × SocketAddr),
      back = keys.map fun endpoint => (.mapped, endpoint) := ⟨_, rfl⟩
  have hmapped : ∀ a ∈ back, a.1 = .mapped := by
    intro a ha
    rw [hback] at ha
    obtain ⟨endpoint, _, rfl⟩ := List.mem_map.mp ha
    rfl
  have hfront : ∀ a ∈ manager.localEndpoints, candidateRank a.1 < 2 := by
    intro a ha
    obtain ⟨hkind, _⟩ := validCandidateEndpoint_local (hi.interfaces a ha) 0 0
    rcases hkind with hkind | hkind <;> rw [hkind] <;> decide
  have hsorted := sortCandidates_append hi.sorted hfront fun a ha => by rw [hmapped a ha]; rfl
  have hsndBack : (back.map Prod.snd).Nodup := by
    rw [hback, List.map_map]
    exact (List.map_id keys).symm ▸ hnodup
  have hsnd : ((sortCandidates back).map Prod.snd).Nodup :=
    ((perm_sortCandidates back).map Prod.snd).nodup_iff.mpr hsndBack
  have hdistinct : distinctBy Prod.snd [] (manager.localEndpoints ++ sortCandidates back) =
      manager.localEndpoints ++ (sortCandidates back).filter fun a =>
        a.2 ∉ manager.localEndpoints.map Prod.snd := by
    rw [distinctBy_append Prod.snd (nodup_localEndpoints hi) (fun _ _ => List.not_mem_nil),
      distinctBy_of_nodup Prod.snd hsnd]
    refine congrArg (manager.localEndpoints ++ ·) (List.filter_congr fun a _ => ?_)
    simp
  have hroom : manager.localEndpoints.length ≤ maxAdvertisedCandidates :=
    hi.few.trans (by decide)
  have hadvertised : (advertisedMappings manager now).map (fun endpoint =>
      (EndpointCandidateKind.mapped, endpoint)) =
        ((sortCandidates back).filter fun a => a.2 ∉ manager.localEndpoints.map Prod.snd).take
          (maxAdvertisedCandidates - manager.localEndpoints.length) := by
    unfold advertisedMappings
    dsimp only
    rw [← hkeys, ← hback, List.map_take, List.filter_map, List.map_map]
    refine congrArg (List.take _) ?_
    refine (List.map_congr_left fun a ha => ?_).trans (List.map_id _)
    have hmem : a ∈ back := (perm_sortCandidates back).mem_iff.mp (List.mem_of_mem_filter ha)
    exact Prod.ext (hmapped a hmem).symm rfl
  unfold prioritizeCandidates
  dsimp only
  rw [← hkeys, ← hback, hsorted, hdistinct, hadvertised, List.take_append,
    List.take_of_length_le hroom]

def TakenCandidate (now advertisementExpiresAt : Int) (candidate : EndpointCandidate) : Prop :=
  candidate.priority ≠ 0 ∧ now < candidate.expiresAt ∧ candidate.expiresAt ≤ advertisementExpiresAt ∧
    candidate.kind ≠ .relay ∧ validCandidateEndpoint candidate = true

theorem loop_checkAdvertisedCandidate (now advertisementExpiresAt : Int) :
    Loop (checkAdvertisedCandidate now advertisementExpiresAt)
      (TakenCandidate now advertisementExpiresAt)
      (fun a b => (b.kind, b.endpoint) = (a.kind, a.endpoint) ∨ b.priority = a.priority)
      (fun seen candidate => (candidate.kind, candidate.endpoint) ∈ seen.1 ∨ candidate.priority ∈ seen.2)
      (fun _ => 0) (fun _ => 0) where
  passes seen candidate := by
    unfold checkAdvertisedCandidate TakenCandidate
    constructor
    · rintro ⟨seen', h⟩
      obtain ⟨hguard, _⟩ := guard_ok.mp h
      simp only [not_or, not_le, Bool.not_eq_true', Bool.not_eq_false] at hguard
      obtain ⟨hpriority, hlive, hexpires, hkind, hvalid, hendpoint, hnumber⟩ := hguard
      exact ⟨⟨hpriority, hlive, by omega, hkind, hvalid⟩, not_or.mpr ⟨hendpoint, hnumber⟩, Nat.le_refl 0⟩
    · rintro ⟨⟨hpriority, hlive, hexpires, hkind, hvalid⟩, hfree, _⟩
      obtain ⟨hendpoint, hnumber⟩ := not_or.mp hfree
      refine ⟨_, guard_ok.mpr ⟨?_, rfl⟩⟩
      simp only [not_or, not_le, Bool.not_eq_true', Bool.not_eq_false]
      exact ⟨hpriority, hlive, by omega, hkind, hvalid, hendpoint, hnumber⟩
  blocked_after := by
    intro seen candidate seen' h b
    obtain ⟨_, h⟩ := guard_ok.mp h
    cases h
    simp only [List.mem_cons]
    tauto
  room_after := by
    intro seen candidate seen' _
    rfl

theorem validateCandidateAdvertisement_iff {authenticated : AuthenticatedNode}
    {advertisement : CandidateAdvertisement} {now : Int}
    (hheader : advertisement.schemaVersion = 1 ∧ advertisement.networkId = authenticated.networkId ∧
      advertisement.nodeIdBase64 = authenticated.nodeIdBase64 ∧ advertisement.generation ≠ 0)
    (hcount : advertisement.candidates.length ≤ maxCandidatesPerAdvertisement)
    (htimes : now - minutes 5 ≤ advertisement.generatedAt ∧
      advertisement.generatedAt ≤ now + minutes 5 ∧ now + seconds 30 < advertisement.expiresAt ∧
      advertisement.expiresAt ≤ now + minutes 15)
    (hordered : advertisement.candidates.Pairwise fun left right => right.priority < left.priority)
    (hdistinct : (advertisement.candidates.map EndpointCandidate.endpoint).Nodup) :
    validateCandidateAdvertisement authenticated advertisement now = .ok () ↔
      ∀ candidate ∈ advertisement.candidates,
        TakenCandidate now advertisement.expiresAt candidate := by
  have hloop := (loop_checkAdvertisedCandidate now advertisement.expiresAt).foldlM_ok
    advertisement.candidates ([], [])
  constructor
  · intro h
    obtain ⟨_, h⟩ := guard_ok.mp h
    obtain ⟨seen, hseen, _⟩ := bind_ok.mp h
    exact (hloop.mp ⟨seen, hseen⟩).1.1
  · intro hgood
    have hpair : advertisement.candidates.Pairwise fun a b =>
        ¬((b.kind, b.endpoint) = (a.kind, a.endpoint) ∨ b.priority = a.priority) := by
      refine (hordered.and (List.pairwise_map.mp hdistinct)).imp ?_
      rintro a b ⟨hlt, hne⟩ (hsame | hsame)
      · exact hne (congrArg Prod.snd hsame).symm
      · exact UInt32.lt_irrefl _ (hsame ▸ hlt)
    obtain ⟨seen, hseen⟩ := hloop.mpr ⟨⟨hgood, hpair, by simp⟩, by simp⟩
    have hprioritized : prioritiesDecrease advertisement.candidates = true := by
      unfold prioritiesDecrease
      rw [Bool.not_eq_true', List.any_eq_false]
      intro pair hpair
      have hlt := zip_tail_of_pairwise hordered pair hpair
      simpa using UInt32.not_le.mpr hlt
    refine guard_ok.mpr ⟨?_, bind_ok.mpr ⟨seen, hseen, rfl⟩⟩
    obtain ⟨hschema, hnetwork, hnode, hgeneration⟩ := hheader
    obtain ⟨hold, hfuture, hexpired, hlong⟩ := htimes
    rw [hprioritized]
    rintro (h | h | h | h | h | h | h | h | h | h)
    · exact h hschema
    · exact h hnetwork
    · exact h hnode
    · exact hgeneration h
    · omega
    · omega
    · omega
    · omega
    · omega
    · exact absurd h (by decide)

theorem pairwise_numberCandidates (expiresAt : Int)
    {candidates : List (EndpointCandidateKind × SocketAddr)} (h : candidates.length ≤ 16) :
    (numberCandidates expiresAt candidates).Pairwise fun left right => right.priority < left.priority := by
  unfold numberCandidates
  rw [List.pairwise_iff_getElem]
  intro i j hi hj hij
  simp only [List.length_map, List.length_zipIdx] at hi hj
  rw [List.getElem_map, List.getElem_map, List.getElem_zipIdx, List.getElem_zipIdx]
  dsimp only
  rw [UInt32.lt_iff_toNat_lt, UInt32.toNat_ofNat', UInt32.toNat_ofNat']
  omega

theorem endpoints_numberCandidates (expiresAt : Int)
    (candidates : List (EndpointCandidateKind × SocketAddr)) :
    (numberCandidates expiresAt candidates).map EndpointCandidate.endpoint =
      candidates.map Prod.snd := by
  unfold numberCandidates
  rw [List.map_map]
  have hzip : candidates.zipIdx.map (Prod.snd ∘ Prod.fst) = candidates.map Prod.snd := by
    rw [← List.map_map, List.zipIdx_map_fst]
  exact hzip

theorem mem_numberCandidates {expiresAt : Int}
    {candidates : List (EndpointCandidateKind × SocketAddr)} (h : candidates.length ≤ 16)
    {candidate : EndpointCandidate} (hmem : candidate ∈ numberCandidates expiresAt candidates) :
    (candidate.kind, candidate.endpoint) ∈ candidates ∧ candidate.priority ≠ 0 ∧
      candidate.expiresAt = expiresAt := by
  obtain ⟨⟨⟨kind, endpoint⟩, index⟩, hindex, rfl⟩ := List.mem_map.mp hmem
  obtain ⟨_, hlt, heq⟩ := List.mem_zipIdx hindex
  refine ⟨?_, ?_, rfl⟩
  · show (kind, endpoint) ∈ candidates
    rw [heq]
    exact List.getElem_mem _
  · intro hzero
    have hword := congrArg UInt32.toNat hzero
    rw [UInt32.toNat_ofNat'] at hword
    simp at hword
    omega

theorem clockGeneration_ne_zero (generation : UInt64) (now : Int) :
    max (MachineWords.u64SaturatingAdd generation 1) (CandidateManager.clockGeneration now) ≠ 0 := by
  intro hzero
  have hpositive : 0 < (MachineWords.u64SaturatingAdd generation 1).toNat := by
    rw [MachineWords.toNat_u64SaturatingAdd]
    have hone : (1 : UInt64).toNat = 1 := rfl
    omega
  have hmax : max (MachineWords.u64SaturatingAdd generation 1) (CandidateManager.clockGeneration now) =
      if MachineWords.u64SaturatingAdd generation 1 ≤ CandidateManager.clockGeneration now then
        CandidateManager.clockGeneration now
      else MachineWords.u64SaturatingAdd generation 1 := rfl
  have hnone : (0 : UInt64).toNat = 0 := rfl
  rw [hmax] at hzero
  split at hzero
  next hle =>
    rw [hzero] at hle
    have hnat := UInt64.le_iff_toNat_le.mp hle
    omega
  next =>
    rw [hzero] at hpositive
    omega

theorem candidateAdvertisement_accepted_iff {state : NodeState}
    {manager manager' : CandidateManager} (hi : CandidatesSound state manager)
    {advertisement : CandidateAdvertisement} {generated now : Int}
    (ht : manager.takeAdvertisement generated = (some advertisement, manager'))
    {authenticated : AuthenticatedNode}
    (hnetwork : authenticated.networkId = state.networkId)
    (hnode : authenticated.nodeIdBase64 = state.nodeIdBase64)
    (hnow : generated ≤ now ∧ now ≤ generated + minutes 1) :
    validateCandidateAdvertisement authenticated advertisement now = .ok () ↔
      (∀ candidate ∈ manager.localEndpoints, advertisable candidate.2 = true) ∧
        ∀ endpoint ∈ advertisedMappings manager generated, advertisable endpoint = true := by
  unfold CandidateManager.takeAdvertisement at ht
  split at ht
  next => simp at ht
  next =>
    obtain ⟨hadvertisement, _⟩ := Prod.mk.inj ht
    cases hadvertisement
    obtain ⟨listed, hlisted⟩ : ∃ listed, listed = manager.localEndpoints ++
        (advertisedMappings manager generated).map fun endpoint =>
          (EndpointCandidateKind.mapped, endpoint) := ⟨_, rfl⟩
    have hcandidates := prioritized_eq hi generated (generated + candidateLifetime)
    rw [← hlisted] at hcandidates
    have hfew := hi.few
    have hmany : (advertisedMappings manager generated).length ≤
        maxAdvertisedCandidates - manager.localEndpoints.length := List.length_take_le _ _
    have hlength : listed.length ≤ 16 := by
      rw [hlisted, List.length_append, List.length_map]
      unfold maxLocalCandidates at hfew
      unfold maxAdvertisedCandidates at hmany
      omega
    have hmapped : ∀ endpoint ∈ advertisedMappings manager generated, MappedSound endpoint ∧
        endpoint ∉ manager.localEndpoints.map Prod.snd := by
      intro endpoint hmem
      obtain ⟨hsorted, hfree⟩ := List.mem_filter.mp (List.mem_of_mem_take hmem)
      obtain ⟨entry, hentry, rfl⟩ := List.mem_map.mp hsorted
      have hback := (perm_sortCandidates _).mem_iff.mp hentry
      obtain ⟨key, hkey, rfl⟩ := List.mem_map.mp hback
      exact ⟨hi.mapped key (mem_retainMapped (AList.mem_keys.mpr hkey)), by simpa using hfree⟩
    have hdistinct : (listed.map Prod.snd).Nodup := by
      have hplain : ((advertisedMappings manager generated).map fun endpoint =>
          (EndpointCandidateKind.mapped, endpoint)).map Prod.snd =
            advertisedMappings manager generated := by
        rw [List.map_map]
        exact List.map_id _
      rw [hlisted, List.map_append, hplain]
      refine List.nodup_append.mpr ⟨nodup_localEndpoints hi, ?_, ?_⟩
      · have hkeys : ((retainMapped manager.mapped generated).keys.map fun endpoint =>
            (EndpointCandidateKind.mapped, endpoint)).map Prod.snd =
              (retainMapped manager.mapped generated).keys := by
          rw [List.map_map]
          exact List.map_id _
        have hsorted := (perm_sortCandidates ((retainMapped manager.mapped generated).keys.map
          fun endpoint => (EndpointCandidateKind.mapped, endpoint))).map Prod.snd
        rw [hkeys] at hsorted
        have hnodup := hsorted.nodup_iff.mpr (AList.keys_nodup _)
        exact (hnodup.sublist List.filter_sublist).sublist (List.take_sublist _ _)
      · intro a ha b hb heq
        exact (hmapped b hb).2 (heq ▸ ha)
    have hexpires : now + seconds 30 < generated + candidateLifetime ∧
        generated + candidateLifetime ≤ now + minutes 15 ∧ now < generated + candidateLifetime ∧
        now - minutes 5 ≤ generated ∧ generated ≤ now + minutes 5 := by
      unfold candidateLifetime
      unfold minutes seconds at *
      omega
    obtain ⟨hlong, hshort, hlive, hold, hfuture⟩ := hexpires
    rw [validateCandidateAdvertisement_iff ⟨rfl, hi.network.trans hnetwork.symm,
      hi.node.trans hnode.symm, clockGeneration_ne_zero _ _⟩ ?_ ⟨hold, hfuture, hlong, hshort⟩ ?_ ?_]
    · dsimp only
      rw [hcandidates]
      constructor
      · intro hall
        have hvalid : ∀ entry ∈ listed, ∃ priority expiresAt,
            validCandidateEndpoint ⟨entry.1, entry.2, priority, expiresAt⟩ = true := by
          intro entry hentry
          have hendpoint : entry.2 ∈ listed.map Prod.snd := List.mem_map.mpr ⟨entry, hentry, rfl⟩
          rw [← endpoints_numberCandidates (generated + candidateLifetime)] at hendpoint
          obtain ⟨candidate, hcandidate, hsame⟩ := List.mem_map.mp hendpoint
          obtain ⟨hmember, _, _⟩ := mem_numberCandidates hlength hcandidate
          have hentries : (candidate.kind, candidate.endpoint) = entry :=
            List.inj_on_of_nodup_map hdistinct hmember hentry hsame
          obtain ⟨_, _, _, _, hok⟩ := hall candidate hcandidate
          refine ⟨candidate.priority, candidate.expiresAt, ?_⟩
          rw [← hentries]
          exact hok
        refine ⟨fun candidate hcandidate => ?_, fun endpoint hendpoint => ?_⟩
        · obtain ⟨priority, expiresAt, hok⟩ :=
            hvalid candidate (hlisted ▸ List.mem_append_left _ hcandidate)
          rw [(validCandidateEndpoint_local (hi.interfaces candidate hcandidate) _ _).2] at hok
          exact hok
        · obtain ⟨priority, expiresAt, hok⟩ := hvalid (.mapped, endpoint)
            (hlisted ▸ List.mem_append_right _ (List.mem_map.mpr ⟨endpoint, hendpoint, rfl⟩))
          rw [validCandidateEndpoint_mapped (hmapped endpoint hendpoint).1] at hok
          exact hok
      · rintro ⟨hlocals, hmappings⟩ candidate hcandidate
        obtain ⟨hmember, hpriority, hexpiry⟩ := mem_numberCandidates hlength hcandidate
        rw [hlisted] at hmember
        unfold TakenCandidate
        rw [hexpiry]
        rcases List.mem_append.mp hmember with hlocal | hback
        · obtain ⟨hkind, hvalid⟩ := validCandidateEndpoint_local (hi.interfaces _ hlocal)
            candidate.priority candidate.expiresAt
          refine ⟨hpriority, hlive, le_refl _, ?_, hvalid.trans (hlocals _ hlocal)⟩
          rcases hkind with hkind | hkind <;> rw [hkind] <;> decide
        · obtain ⟨endpoint, hendpoint, hsame⟩ := List.mem_map.mp hback
          obtain ⟨hkind, hendpoints⟩ := Prod.mk.inj hsame
          have hvalid := validCandidateEndpoint_mapped (hmapped endpoint hendpoint).1
            candidate.priority candidate.expiresAt
          rw [hmappings endpoint hendpoint, hkind, hendpoints] at hvalid
          refine ⟨hpriority, hlive, le_refl _, ?_, hvalid⟩
          rw [← hkind]
          decide
    · dsimp only
      rw [hcandidates]
      unfold numberCandidates maxCandidatesPerAdvertisement
      rw [List.length_map, List.length_zipIdx]
      exact hlength
    · dsimp only
      rw [hcandidates]
      exact pairwise_numberCandidates _ hlength
    · dsimp only
      rw [hcandidates, endpoints_numberCandidates]
      exact hdistinct

end XsNexus
