import XsNexus.AcceptedConfiguration
import XsNexus.PeerDirectory

namespace XsNexus

open ByteCodec Checks FiniteMap MachineWords

variable {c : Crypto} {f : Formats} {now : Nat} {utcNow : Int}

theorem insertRelayClient_loop (c : Crypto) (f : Formats) (now : Nat) (utcNow : Int) :
    Loop (insertRelayClient c f now utcNow)
      (fun relay => UsableRelay c f relay ∧ utcNow < relay.expiresAt)
      (fun a b => SameRelayId f a b ∨ normalizeEndpoint a.endpoint = normalizeEndpoint b.endpoint)
      (fun progress relay =>
        (∃ id ∈ progress.2, decodeFixed f 16 relay.relayIdBase64 = .ok id) ∨
          normalizeEndpoint relay.endpoint ∈ progress.1)
      (fun _ => 0) (fun _ => 0) where
  passes progress relay := by
    constructor
    · rintro ⟨progress', h⟩
      obtain ⟨id, hid, h⟩ := bind_ok.mp h
      obtain ⟨key, hkey, h⟩ := bind_ok.mp h
      obtain ⟨hguard, _⟩ := guard_ok.mp h
      simp only [not_or, not_le] at hguard
      obtain ⟨hzero, hpriority, hcurrent, hnew, hfree⟩ := hguard
      refine ⟨⟨⟨id, key, hid, hkey, hzero, hpriority⟩, hcurrent⟩, ?_, Nat.le_refl 0⟩
      rintro (⟨other, hmem, hother⟩ | hmem)
      · rw [hid] at hother
        cases hother
        exact hnew hmem
      · exact hfree hmem
    · rintro ⟨⟨⟨id, key, hid, hkey, hzero, hpriority⟩, hcurrent⟩, hfree, _⟩
      simp only [not_or, not_exists, not_and] at hfree
      refine ⟨_, bind_ok.mpr ⟨id, hid, bind_ok.mpr ⟨key, hkey, guard_ok.mpr ⟨?_, rfl⟩⟩⟩⟩
      simp only [not_or, not_le]
      exact ⟨hzero, hpriority, hcurrent, fun hmem => hfree.1 id hmem hid, hfree.2⟩
  blocked_after h b := by
    obtain ⟨id, hid, h⟩ := bind_ok.mp h
    obtain ⟨key, _, h⟩ := bind_ok.mp h
    obtain ⟨_, h⟩ := guard_ok.mp h
    cases h
    simp only [List.mem_cons, AList.mem_insert, exists_eq_or_imp, SameRelayId, hid,
      Except.ok.injEq, exists_eq_left']
    rw [eq_comm (a := normalizeEndpoint b.endpoint)]
    exact or_or_or_comm
  room_after _ := rfl

theorem size_insertRelayClient {progress progress' : Map SocketAddr RelayClient × List (Block 16)}
    {relay : ConfigurationRelay}
    (h : insertRelayClient c f now utcNow progress relay = .ok progress') :
    size progress'.1 = size progress.1 + 1 := by
  obtain ⟨id, _, h⟩ := bind_ok.mp h
  obtain ⟨key, _, h⟩ := bind_ok.mp h
  obtain ⟨hguard, h⟩ := guard_ok.mp h
  cases h
  simp only [not_or] at hguard
  exact size_insert_of_notMem hguard.2.2.2.2 _

/-- The relays of a payload can be used at a time: none has expired, no two have one endpoint. -/
structure RelaysReady (relays : List ConfigurationRelay) (utcNow : Int) : Prop where
  current : ∀ relay ∈ relays, utcNow < relay.expiresAt
  apart : relays.Pairwise fun a b => normalizeEndpoint a.endpoint ≠ normalizeEndpoint b.endpoint

theorem relayClients_ok (now : Nat) {payload : ConfigurationPayload}
    (h : ValidPayload c f payload) :
    (∃ clients, relayClients c f payload.relays now utcNow = .ok clients) ↔
      RelaysReady payload.relays utcNow := by
  have hloop := (insertRelayClient_loop c f now utcNow).foldlM_ok payload.relays (∅, [])
  constructor
  · rintro ⟨clients, hclients⟩
    obtain ⟨_, hclients⟩ := guard_ok.mp hclients
    obtain ⟨progress, hprogress, _⟩ := bind_ok.mp hclients
    obtain ⟨⟨hgood, hpair, _⟩, _⟩ := hloop.mp ⟨progress, hprogress⟩
    exact ⟨fun relay hmem => (hgood relay hmem).2, hpair.imp fun hclash heq => hclash (Or.inr heq)⟩
  · intro hready
    have hpair := List.pairwise_and_iff.mpr ⟨h.relaysDistinct, hready.apart⟩
    obtain ⟨progress, hprogress⟩ := hloop.mpr ⟨⟨
      fun relay hmem => ⟨h.relaysUsable relay hmem, hready.current relay hmem⟩,
      hpair.imp fun hapart hclash => hclash.elim hapart.1 hapart.2,
      fun relay _ => by simp⟩, by simp⟩
    refine ⟨progress.1, guard_ok.mpr ⟨not_lt.mpr h.relaysBounded, bind_ok.mpr ⟨progress, hprogress, rfl⟩⟩⟩

theorem size_relayClients {relays : List ConfigurationRelay} {clients : Map SocketAddr RelayClient}
    (h : relayClients c f relays now utcNow = .ok clients) : size clients = relays.length := by
  obtain ⟨_, h⟩ := guard_ok.mp h
  obtain ⟨progress, hprogress, h⟩ := bind_ok.mp h
  cases h
  have hsize := length_foldlM (fun p => size p.1) size_insertRelayClient hprogress
  rw [hsize]
  exact Nat.zero_add _

theorem kind_of_mem_candidates {manager : RelayManager} {candidate : EndpointCandidate}
    (h : candidate ∈ manager.candidates) : candidate.kind = .relay := by
  obtain ⟨entry, _, rfl⟩ := List.mem_map.mp h
  rfl

theorem length_candidates (manager : RelayManager) :
    manager.candidates.length = min maxRelays (size manager.clients) := by
  simp [RelayManager.candidates, List.length_insertionSort, size_eq_length_entries]

def offeredBy (node : ConfigurationNode) (utcNow : Int) : List SocketAddr :=
  let usable := (node.candidates.filter fun candidate =>
    candidate.expiresAt > utcNow ∧ candidate.kind ≠ .relay).map EndpointCandidate.endpoint
  if usable = [] then
    node.directEndpoints.filterMap fun encoded => (parseSocketAddrV4 encoded).map .v4
  else usable

/-- The first `limit` endpoints a node offers at a time, without the repetitions among them. -/
def offeredEndpoints (limit : Nat) (utcNow : Int) (node : ConfigurationNode) : List SocketAddr :=
  (distinctBy id [] ((offeredBy node utcNow).map normalizeEndpoint)).take limit

theorem ordered_of_prioritiesDecrease {candidates : List EndpointCandidate}
    (h : prioritiesDecrease candidates) :
    candidates.Pairwise fun left right => left.priority > right.priority := by
  have hchain : candidates.IsChain fun left right => left.priority > right.priority := by
    induction candidates with
    | nil => exact List.IsChain.nil
    | cons first rest ih =>
      cases rest with
      | nil => exact List.IsChain.singleton first
      | cons second rest =>
        simp only [prioritiesDecrease, List.tail_cons, List.zip_cons_cons, List.any_cons,
          Bool.not_or, Bool.and_eq_true, Bool.not_eq_true', decide_eq_false_iff_not,
          UInt32.not_le] at h
        exact List.IsChain.cons_cons h.1 (ih (by simpa [prioritiesDecrease] using h.2))
  exact List.isChain_iff_pairwise.mp hchain

theorem signedCandidates_endpoints (node : ConfigurationNode) (utcNow : Int) :
    (signedCandidates node utcNow).map EndpointCandidate.endpoint =
      distinctBy id [] (((node.candidates.filter fun candidate =>
        candidate.expiresAt > utcNow ∧ candidate.kind ≠ .relay).map
          EndpointCandidate.endpoint).map normalizeEndpoint) := by
  rw [signedCandidates, map_distinctBy, List.map_map, List.map_map]
  rfl

theorem staticCandidates_endpoints (node : ConfigurationNode) (directEndpoints : List SocketAddr) :
    (staticCandidates node directEndpoints).map EndpointCandidate.endpoint =
      distinctBy id [] (directEndpoints.map normalizeEndpoint) := by
  rw [staticCandidates, List.map_map]
  exact List.zipIdx_map_fst 0 _

theorem renumber_endpoints (candidates : List EndpointCandidate) :
    (candidates.zipIdx.map fun (candidate, index) =>
      { candidate with priority := indexedPriority 20000 index }).map EndpointCandidate.endpoint =
        candidates.map EndpointCandidate.endpoint := by
  rw [List.map_map]
  have hfst := congrArg (List.map EndpointCandidate.endpoint) (List.zipIdx_map_fst 0 candidates)
  rw [List.map_map] at hfst
  exact hfst

variable {node : ConfigurationNode} {directEndpoints : List SocketAddr}

theorem selectedCandidates_kind {candidate : EndpointCandidate}
    (h : candidate ∈ selectedCandidates node directEndpoints utcNow) : candidate.kind ≠ .relay := by
  unfold selectedCandidates at h
  dsimp only at h
  split at h
  next =>
    obtain ⟨entry, _, rfl⟩ := List.mem_map.mp h
    simp
  next =>
    have hmem := (distinctBy_sublist _ _ _).subset h
    obtain ⟨usable, husable, rfl⟩ := List.mem_map.mp hmem
    have hkind := (List.mem_filter.mp husable).2
    simp only [ne_eq, decide_eq_true_eq] at hkind
    exact hkind.2

theorem selectedCandidates_endpoints :
    (selectedCandidates node directEndpoints utcNow).map EndpointCandidate.endpoint =
      if signedCandidates node utcNow = [] then distinctBy id [] (directEndpoints.map normalizeEndpoint)
      else (signedCandidates node utcNow).map EndpointCandidate.endpoint := by
  unfold selectedCandidates
  dsimp only
  split
  next => exact staticCandidates_endpoints node directEndpoints
  next => rfl

theorem selectedCandidates_nodup :
    ((selectedCandidates node directEndpoints utcNow).map EndpointCandidate.endpoint).Nodup := by
  rw [selectedCandidates_endpoints]
  split
  next =>
    have hnodup := nodup_map_distinctBy id [] (directEndpoints.map normalizeEndpoint)
    rwa [List.map_id] at hnodup
  next => exact nodup_map_distinctBy _ _ _

theorem indexedPriority_antitone (base : UInt32) {i j : Nat} (h : i ≤ j) :
    indexedPriority base i ≥ indexedPriority base j := by
  have hmono : ∀ {a b : UInt32}, a ≤ b → u32SaturatingSub base b ≤ u32SaturatingSub base a := by
    intro a b hab
    unfold u32SaturatingSub
    rw [UInt32.le_iff_toNat_le] at hab
    split
    next hb =>
      rw [UInt32.le_iff_toNat_le] at hb
      have ha : a ≤ base := UInt32.le_iff_toNat_le.mpr (by omega)
      rw [if_pos ha, UInt32.le_iff_toNat_le, UInt32.toNat_sub_of_le _ _ ha,
        UInt32.toNat_sub_of_le _ _ (UInt32.le_iff_toNat_le.mpr hb)]
      omega
    next => exact UInt32.le_iff_toNat_le.mpr (Nat.zero_le _)
  apply hmono
  rw [UInt32.le_iff_toNat_le]
  have hmax : u32Max.toNat = 2 ^ 32 - 1 := rfl
  split
  next hi =>
    split
    next hj =>
      rw [UInt32.toNat_ofNat', UInt32.toNat_ofNat', Nat.mod_eq_of_lt hi, Nat.mod_eq_of_lt hj]
      exact h
    next =>
      rw [UInt32.toNat_ofNat', Nat.mod_eq_of_lt hi, hmax]
      omega
  next hi =>
    rw [if_neg (by omega)]

theorem selectedCandidates_sorted (h : prioritiesDecrease node.candidates) :
    (selectedCandidates node directEndpoints utcNow).Pairwise fun left right =>
      left.priority ≥ right.priority := by
  unfold selectedCandidates
  dsimp only
  split
  next =>
    unfold staticCandidates
    rw [List.pairwise_map, List.pairwise_iff_getElem]
    intro i j hi hj hij
    simp only [List.getElem_zipIdx, Nat.zero_add]
    exact indexedPriority_antitone 10000 (Nat.le_of_lt hij)
  next =>
    refine List.Pairwise.sublist (distinctBy_sublist _ _ _) ?_
    rw [List.pairwise_map]
    refine List.Pairwise.sublist List.filter_sublist ?_
    exact (ordered_of_prioritiesDecrease h).imp fun hlt => UInt32.le_of_lt hlt

theorem directCandidates_kind {limit : Nat} {candidate : EndpointCandidate}
    (h : candidate ∈ directCandidates node directEndpoints limit utcNow) :
    candidate.kind ≠ .relay := by
  obtain ⟨⟨original, index⟩, hmem, rfl⟩ := List.mem_map.mp h
  have hsorted := List.mem_of_mem_take (List.fst_mem_of_mem_zipIdx hmem)
  have horiginal : original.kind ≠ .relay :=
    selectedCandidates_kind ((List.mem_insertionSort _).mp hsorted)
  exact horiginal

theorem directCandidates_nodup (node : ConfigurationNode) (directEndpoints : List SocketAddr)
    (limit : Nat) (utcNow : Int) :
    ((directCandidates node directEndpoints limit utcNow).map EndpointCandidate.endpoint).Nodup := by
  unfold directCandidates
  dsimp only
  rw [renumber_endpoints]
  refine List.Nodup.sublist ((List.take_sublist _ _).map _) ?_
  have hperm := List.perm_insertionSort (fun left right : EndpointCandidate =>
    left.priority ≥ right.priority) (selectedCandidates node directEndpoints utcNow)
  exact (hperm.map _).nodup_iff.mpr selectedCandidates_nodup

theorem directCandidates_endpoints (limit : Nat) (h : prioritiesDecrease node.candidates)
    (hdirect : directEndpoints = node.directEndpoints.filterMap fun encoded =>
      (parseSocketAddrV4 encoded).map .v4) :
    (directCandidates node directEndpoints limit utcNow).map EndpointCandidate.endpoint =
      offeredEndpoints limit utcNow node := by
  unfold directCandidates
  dsimp only
  rw [renumber_endpoints, (selectedCandidates_sorted h).insertionSort_eq, List.map_take,
    selectedCandidates_endpoints, offeredEndpoints, offeredBy, hdirect, signedCandidates_endpoints]
  congr 1
  simp only [signedCandidates, distinctBy_eq_nil, List.map_eq_nil_iff]
  split
  next => rfl
  next => rfl

theorem claimEndpoint_loop (virtualIp : Ipv4Addr) :
    Loop (claimEndpoint virtualIp) (fun _ => True)
      (fun a b => a.kind ≠ .relay ∧ b.kind ≠ .relay ∧ a.endpoint = b.endpoint)
      (fun endpoints candidate => candidate.kind ≠ .relay ∧ candidate.endpoint ∈ endpoints)
      (fun _ => 0) (fun _ => 0) where
  passes endpoints candidate := by
    unfold claimEndpoint
    by_cases hkind : candidate.kind = .relay
    · simp [hkind]
    · by_cases hmem : candidate.endpoint ∈ endpoints
      · simp [hkind, hmem]
      · simp [hkind, hmem]
  blocked_after := by
    intro endpoints candidate endpoints' h b
    unfold claimEndpoint at h
    split at h
    next hkind =>
      cases h
      simp [hkind]
    next hkind =>
      obtain ⟨_, h⟩ := guard_ok.mp h
      cases h
      simp only [AList.mem_insert, hkind, ne_eq, not_false_eq_true, true_and]
      rw [eq_comm (a := candidate.endpoint)]
      exact and_or_left
  room_after _ := rfl

/-- The endpoints under which the directory enters a node. -/
def claimedEndpoints (relayCount : Nat) (utcNow : Int) (node : ConfigurationNode) : List SocketAddr :=
  let directEndpoints := node.directEndpoints.filterMap fun encoded =>
    (parseSocketAddrV4 encoded).map SocketAddr.v4
  let directLimit := maxHandshakeCandidatesPerCycle - min relayCount maxRelayCandidatesPerPeer
  (directCandidates node directEndpoints directLimit utcNow).map EndpointCandidate.endpoint

theorem mapM_parseDirectEndpoint {encodeds : List String} :
    (∃ endpoints, encodeds.mapM parseDirectEndpoint = .ok endpoints) ↔
      ∀ encoded ∈ encodeds, ∃ endpoint, parseSocketAddrV4 encoded = some endpoint := by
  induction encodeds with
  | nil => simp [pure, Except.pure]
  | cons encoded encodeds ih =>
    rw [List.forall_mem_cons, ← ih]
    simp only [List.mapM_cons, bind_ok, parseDirectEndpoint]
    cases parseSocketAddrV4 encoded with
    | none => simp
    | some endpoint => simp [pure, Except.pure]

theorem parsed_of_mapM {encodeds : List String} {endpoints : List SocketAddr}
    (h : encodeds.mapM parseDirectEndpoint = .ok endpoints) :
    endpoints = encodeds.filterMap fun encoded => (parseSocketAddrV4 encoded).map SocketAddr.v4 := by
  induction encodeds generalizing endpoints with
  | nil =>
    cases h
    rfl
  | cons encoded encodeds ih =>
    rw [List.mapM_cons] at h
    obtain ⟨endpoint, hparse, h⟩ := bind_ok.mp h
    obtain ⟨rest, hrest, h⟩ := bind_ok.mp h
    cases h
    unfold parseDirectEndpoint at hparse
    split at hparse
    next => simp at hparse
    next parsed hparsed =>
      cases hparse
      rw [List.filterMap_cons, hparsed, ← ih hrest]
      rfl

theorem claimEndpoints_ok {relayCandidates : List EndpointCandidate} (virtualIp : Ipv4Addr)
    (endpoints : Map SocketAddr Ipv4Addr)
    (hrelay : ∀ candidate ∈ relayCandidates, candidate.kind = .relay)
    (hdirect : node.directEndpoints.mapM parseDirectEndpoint = .ok directEndpoints) :
    (∃ endpoints', (configuredCandidates node directEndpoints relayCandidates utcNow).foldlM
        (claimEndpoint virtualIp) endpoints = .ok endpoints') ↔
      ∀ endpoint ∈ claimedEndpoints relayCandidates.length utcNow node, endpoint ∉ endpoints := by
  rw [(claimEndpoint_loop virtualIp).foldlM_ok, claimedEndpoints, ← parsed_of_mapM hdirect]
  unfold configuredCandidates
  dsimp only
  generalize maxHandshakeCandidatesPerCycle - min relayCandidates.length maxRelayCandidatesPerPeer =
    limit
  have hnodup := directCandidates_nodup node directEndpoints limit utcNow
  have hkind : ∀ candidate ∈ relayCandidates.take (min relayCandidates.length maxRelayCandidatesPerPeer),
      candidate.kind = .relay := fun candidate h => hrelay candidate (List.mem_of_mem_take h)
  constructor
  · rintro ⟨⟨_, _, hfree⟩, _⟩ endpoint hmem hin
    obtain ⟨candidate, hc, rfl⟩ := List.mem_map.mp hmem
    exact hfree candidate (List.mem_append_left _ hc) ⟨directCandidates_kind hc, hin⟩
  · intro hfree
    refine ⟨⟨fun _ _ => trivial, List.pairwise_append.mpr ⟨?_, ?_, ?_⟩, ?_⟩, by simp⟩
    · exact (List.pairwise_map.mp hnodup).imp fun hne hclash => hne hclash.2.2
    · exact List.pairwise_of_forall_mem_list fun a ha b _ hclash => hclash.1 (hkind a ha)
    · exact fun a _ b hb hclash => hclash.2.1 (hkind b hb)
    · intro candidate hc hblocked
      rcases List.mem_append.mp hc with hd | hr
      · exact hfree _ (List.mem_map_of_mem hd) hblocked.2
      · exact hblocked.1 (hkind _ hr)

theorem mem_claimEndpoints {relayCandidates : List EndpointCandidate} {virtualIp : Ipv4Addr}
    {endpoints endpoints' : Map SocketAddr Ipv4Addr}
    (hrelay : ∀ candidate ∈ relayCandidates, candidate.kind = .relay)
    (hdirect : node.directEndpoints.mapM parseDirectEndpoint = .ok directEndpoints)
    (h : (configuredCandidates node directEndpoints relayCandidates utcNow).foldlM
      (claimEndpoint virtualIp) endpoints = .ok endpoints') (endpoint : SocketAddr) :
    endpoint ∈ endpoints' ↔
      endpoint ∈ claimedEndpoints relayCandidates.length utcNow node ∨ endpoint ∈ endpoints := by
  have hblocked := (claimEndpoint_loop virtualIp).blocked_foldlM h ⟨.static, endpoint, 0, 0⟩
  simp only [ne_eq, reduceCtorEq, not_false_eq_true, true_and] at hblocked
  rw [hblocked, claimedEndpoints, ← parsed_of_mapM hdirect]
  apply or_congr_left
  rw [List.mem_map]
  unfold configuredCandidates
  dsimp only
  constructor
  · rintro ⟨candidate, hc, hkind, heq⟩
    rcases List.mem_append.mp hc with hd | hr
    · exact ⟨candidate, hd, heq⟩
    · exact absurd (hrelay candidate (List.mem_of_mem_take hr)) hkind
  · rintro ⟨candidate, hc, heq⟩
    exact ⟨candidate, List.mem_append_left _ hc, directCandidates_kind hc, heq⟩

def isPeer (f : Formats) (localNodeId : Block 16) (node : ConfigurationNode) : Bool :=
  match decodeFixed f 16 node.nodeIdBase64 with
  | .ok id => decide (id ≠ localNodeId)
  | .error _ => true

theorem isPeer_of_decodes {id localNodeId : Block 16}
    (h : decodeFixed f 16 node.nodeIdBase64 = .ok id) :
    isPeer f localNodeId node ↔ id ≠ localNodeId := by
  simp [isPeer, h]

structure ReadableNode (f : Formats) (node : ConfigurationNode) : Prop where
  decodes : ∃ id, decodeFixed f 16 node.nodeIdBase64 = .ok id
  addressed : ∃ ip, parseIpv4Addr node.virtualIp = some ip
  direct : ∀ encoded ∈ node.directEndpoints, ∃ endpoint, parseSocketAddrV4 encoded = some endpoint

/-- Two peers the directory cannot hold together. -/
def PeersClash (f : Formats) (localNodeId : Block 16) (relayCount : Nat) (utcNow : Int)
    (a b : ConfigurationNode) : Prop :=
  isPeer f localNodeId a ∧ isPeer f localNodeId b ∧ (SameNode f a b ∨
    ∃ endpoint ∈ claimedEndpoints relayCount utcNow a, endpoint ∈ claimedEndpoints relayCount utcNow b)

def PeerTaken (f : Formats) (localNodeId : Block 16) (relayCount : Nat) (utcNow : Int)
    (directory : PeerDirectory) (b : ConfigurationNode) : Prop :=
  isPeer f localNodeId b ∧ ((∃ id ∈ directory.nodeIds, decodeFixed f 16 b.nodeIdBase64 = .ok id) ∨
    (∃ ip ∈ directory.peers, parseIpv4Addr b.virtualIp = some ip) ∨
    ∃ endpoint ∈ claimedEndpoints relayCount utcNow b, endpoint ∈ directory.endpoints)

theorem addNode_eq {localNodeId : Block 16} {relayCandidates : List EndpointCandidate}
    {directory : PeerDirectory} {id : Block 16} {ip : Ipv4Addr}
    (hid : decodeFixed f 16 node.nodeIdBase64 = .ok id) (hip : parseIpv4Addr node.virtualIp = some ip)
    (hdirect : node.directEndpoints.mapM parseDirectEndpoint = .ok directEndpoints) :
    addNode f localNodeId relayCandidates now utcNow directory node =
      if id = localNodeId then
        .ok { directory with
          localEndpoint :=
            (localBindEndpoint node directEndpoints utcNow).getD directory.localEndpoint }
      else
        enterPeer directory node id ip
          (configuredCandidates node directEndpoints relayCandidates utcNow) now := by
  unfold addNode
  rw [hid]
  simp only [bind, Except.bind, hip, hdirect]

theorem readable_of_addNode {localNodeId : Block 16} {relayCandidates : List EndpointCandidate}
    {directory directory' : PeerDirectory}
    (h : addNode f localNodeId relayCandidates now utcNow directory node = .ok directory') :
    ReadableNode f node := by
  obtain ⟨id, hid, h⟩ := bind_ok.mp h
  split at h
  next => simp at h
  next ip hip =>
    obtain ⟨directEndpoints, hdirect, _⟩ := bind_ok.mp h
    exact ⟨⟨id, hid⟩, ⟨ip, hip⟩, mapM_parseDirectEndpoint.mp ⟨_, hdirect⟩⟩

theorem enterPeer_ok {relayCandidates : List EndpointCandidate} {directory : PeerDirectory}
    {id : Block 16} {ip : Ipv4Addr}
    (hrelay : ∀ candidate ∈ relayCandidates, candidate.kind = .relay)
    (hdirect : node.directEndpoints.mapM parseDirectEndpoint = .ok directEndpoints) :
    (∃ directory', enterPeer directory node id ip
        (configuredCandidates node directEndpoints relayCandidates utcNow) now = .ok directory') ↔
      size directory.peers < maxConfiguredPeers ∧ ip ∉ directory.peers ∧ id ∉ directory.nodeIds ∧
        ∀ endpoint ∈ claimedEndpoints relayCandidates.length utcNow node,
          endpoint ∉ directory.endpoints := by
  rw [← claimEndpoints_ok ip directory.endpoints hrelay hdirect]
  constructor
  · rintro ⟨directory', h⟩
    obtain ⟨hroom, h⟩ := guard_ok.mp h
    obtain ⟨hnew, h⟩ := guard_ok.mp h
    obtain ⟨endpoints, hendpoints, _⟩ := bind_ok.mp h
    simp only [not_or, not_le] at hroom
    exact ⟨hroom.1, hroom.2, hnew, endpoints, hendpoints⟩
  · rintro ⟨hroom, hfree, hnew, endpoints, hendpoints⟩
    refine ⟨_, guard_ok.mpr ⟨?_, guard_ok.mpr ⟨hnew, bind_ok.mpr ⟨endpoints, hendpoints, rfl⟩⟩⟩⟩
    simp only [not_or, not_le]
    exact ⟨hroom, hfree⟩

/-- What entering a peer adds to the directory. -/
theorem enterPeer_after {relayCandidates : List EndpointCandidate} {directory directory' : PeerDirectory}
    {id : Block 16} {ip : Ipv4Addr}
    (hrelay : ∀ candidate ∈ relayCandidates, candidate.kind = .relay)
    (hdirect : node.directEndpoints.mapM parseDirectEndpoint = .ok directEndpoints)
    (h : enterPeer directory node id ip
      (configuredCandidates node directEndpoints relayCandidates utcNow) now = .ok directory') :
    size directory'.peers = size directory.peers + 1 ∧
      (∀ other, other ∈ directory'.peers ↔ other = ip ∨ other ∈ directory.peers) ∧
      (∀ other, other ∈ directory'.nodeIds ↔ other = id ∨ other ∈ directory.nodeIds) ∧
      ∀ endpoint, endpoint ∈ directory'.endpoints ↔
        endpoint ∈ claimedEndpoints relayCandidates.length utcNow node ∨
          endpoint ∈ directory.endpoints := by
  obtain ⟨hroom, h⟩ := guard_ok.mp h
  obtain ⟨_, h⟩ := guard_ok.mp h
  obtain ⟨endpoints, hendpoints, h⟩ := bind_ok.mp h
  cases h
  simp only [not_or, not_le] at hroom
  exact ⟨size_insert_of_notMem hroom.2 _, fun _ => AList.mem_insert _, fun _ => AList.mem_insert _,
    mem_claimEndpoints hrelay hdirect hendpoints⟩

theorem addNode_loop {localNodeId : Block 16} {relayCandidates : List EndpointCandidate}
    (hrelay : ∀ candidate ∈ relayCandidates, candidate.kind = .relay) :
    Loop (addNode f localNodeId relayCandidates now utcNow) (ReadableNode f)
      (PeersClash f localNodeId relayCandidates.length utcNow)
      (PeerTaken f localNodeId relayCandidates.length utcNow)
      (fun node => if isPeer f localNodeId node then 1 else 0)
      (fun directory => maxConfiguredPeers - size directory.peers) where
  passes directory node := by
    by_cases hreadable : ReadableNode f node
    · obtain ⟨⟨id, hid⟩, ⟨ip, hip⟩, hparse⟩ := hreadable
      obtain ⟨directEndpoints, hdirect⟩ := mapM_parseDirectEndpoint.mpr hparse
      rw [addNode_eq hid hip hdirect]
      have hreadable : ReadableNode f node := ⟨⟨id, hid⟩, ⟨ip, hip⟩, hparse⟩
      by_cases hlocal : id = localNodeId
      · have hpeer : ¬isPeer f localNodeId node := by
          rw [isPeer_of_decodes hid]
          exact not_not.mpr hlocal
        simp [hlocal, hpeer, hreadable, PeerTaken]
      · have hpeer := (isPeer_of_decodes hid).mpr hlocal
        rw [if_neg hlocal, enterPeer_ok hrelay hdirect, if_pos hpeer]
        simp only [hreadable, PeerTaken, hpeer, hid, hip, true_and, not_or, not_exists, not_and,
          Except.ok.injEq, Option.some.injEq]
        constructor
        · rintro ⟨hroom, hfreeIp, hfreeId, hfree⟩
          refine ⟨⟨?_, ?_, hfree⟩, by omega⟩
          · rintro other hmem rfl
            exact hfreeId hmem
          · rintro other hmem rfl
            exact hfreeIp hmem
        · rintro ⟨⟨hfreeId, hfreeIp, hfree⟩, hroom⟩
          exact ⟨by omega, fun hmem => hfreeIp ip hmem rfl, fun hmem => hfreeId id hmem rfl, hfree⟩
    · refine iff_of_false ?_ fun h => hreadable h.1
      rintro ⟨directory', h⟩
      exact hreadable (readable_of_addNode h)
  blocked_after := by
    intro directory node directory' h b
    obtain ⟨⟨id, hid⟩, ⟨ip, hip⟩, hparse⟩ := readable_of_addNode h
    obtain ⟨directEndpoints, hdirect⟩ := mapM_parseDirectEndpoint.mpr hparse
    rw [addNode_eq hid hip hdirect] at h
    split at h
    next hlocal =>
      cases h
      have hpeer : ¬isPeer f localNodeId node := by
        rw [isPeer_of_decodes hid]
        exact not_not.mpr hlocal
      simp [PeersClash, PeerTaken, hpeer]
    next hlocal =>
      have hpeer := (isPeer_of_decodes hid).mpr hlocal
      obtain ⟨_, hips, hids, hendpoints⟩ := enterPeer_after hrelay hdirect h
      constructor
      · rintro ⟨hb, ⟨other, hmem, hother⟩ | ⟨other, hmem, hother⟩ | ⟨endpoint, hclaim, hmem⟩⟩
        · rcases (hids other).mp hmem with rfl | hold
          · exact Or.inl ⟨hpeer, hb, Or.inl (Or.inl ⟨other, hid, hother⟩)⟩
          · exact Or.inr ⟨hb, Or.inl ⟨other, hold, hother⟩⟩
        · rcases (hips other).mp hmem with rfl | hold
          · exact Or.inl ⟨hpeer, hb, Or.inl (Or.inr ⟨other, hip, hother⟩)⟩
          · exact Or.inr ⟨hb, Or.inr (Or.inl ⟨other, hold, hother⟩)⟩
        · rcases (hendpoints endpoint).mp hmem with hnew | hold
          · exact Or.inl ⟨hpeer, hb, Or.inr ⟨endpoint, hnew, hclaim⟩⟩
          · exact Or.inr ⟨hb, Or.inr (Or.inr ⟨endpoint, hclaim, hold⟩)⟩
      · rintro (⟨_, hb, (⟨other, ha, hother⟩ | ⟨other, ha, hother⟩) | ⟨endpoint, hnew, hclaim⟩⟩ |
          ⟨hb, ⟨other, hold, hother⟩ | ⟨other, hold, hother⟩ | ⟨endpoint, hclaim, hold⟩⟩)
        · rw [hid] at ha
          cases ha
          exact ⟨hb, Or.inl ⟨id, (hids id).mpr (Or.inl rfl), hother⟩⟩
        · rw [hip] at ha
          cases ha
          exact ⟨hb, Or.inr (Or.inl ⟨ip, (hips ip).mpr (Or.inl rfl), hother⟩)⟩
        · exact ⟨hb, Or.inr (Or.inr ⟨endpoint, hclaim, (hendpoints endpoint).mpr (Or.inl hnew)⟩)⟩
        · exact ⟨hb, Or.inl ⟨other, (hids other).mpr (Or.inr hold), hother⟩⟩
        · exact ⟨hb, Or.inr (Or.inl ⟨other, (hips other).mpr (Or.inr hold), hother⟩)⟩
        · exact ⟨hb, Or.inr (Or.inr ⟨endpoint, hclaim, (hendpoints endpoint).mpr (Or.inr hold)⟩)⟩
  room_after := by
    intro directory node directory' h
    obtain ⟨⟨id, hid⟩, ⟨ip, hip⟩, hparse⟩ := readable_of_addNode h
    obtain ⟨directEndpoints, hdirect⟩ := mapM_parseDirectEndpoint.mpr hparse
    rw [addNode_eq hid hip hdirect] at h
    split at h
    next hlocal =>
      cases h
      have hpeer : ¬isPeer f localNodeId node := by
        rw [isPeer_of_decodes hid]
        exact not_not.mpr hlocal
      simp [hpeer]
    next hlocal =>
      have hpeer := (isPeer_of_decodes hid).mpr hlocal
      obtain ⟨hsize, _⟩ := enterPeer_after hrelay hdirect h
      rw [hsize, if_pos hpeer]
      omega

theorem sum_isPeer (localNodeId : Block 16) (nodes : List ConfigurationNode) :
    (nodes.map fun node => if isPeer f localNodeId node then 1 else 0).sum =
      (nodes.filter (isPeer f localNodeId)).length := by
  induction nodes with
  | nil => rfl
  | cons node nodes ih =>
    rw [List.map_cons, List.sum_cons, ih, List.filter_cons]
    split
    next => rw [List.length_cons, Nat.add_comm]
    next => exact Nat.zero_add _

/-- The nodes other than the local one fit into a directory: there are not too many of them, and no
two offer one endpoint. -/
structure PeersReady (f : Formats) (nodes : List ConfigurationNode) (localNodeId : Block 16)
    (directLimit : Nat) (utcNow : Int) : Prop where
  bounded : (nodes.filter (isPeer f localNodeId)).length ≤ maxConfiguredPeers
  apart : (nodes.filter (isPeer f localNodeId)).Pairwise fun a b =>
    List.Disjoint (offeredEndpoints directLimit utcNow a) (offeredEndpoints directLimit utcNow b)

theorem buildPeerDirectory_ok {state : NodeState} {localNodeId : Block 16}
    {relayCandidates : List EndpointCandidate} (h : ValidPayload c f state.configurationPayload)
    (hrelay : ∀ candidate ∈ relayCandidates, candidate.kind = .relay) :
    (∃ directory, buildPeerDirectory f state localNodeId relayCandidates now utcNow = .ok directory) ↔
      PeersReady f state.configurationPayload.nodes localNodeId
        (maxHandshakeCandidatesPerCycle - min relayCandidates.length maxRelayCandidatesPerPeer)
        utcNow := by
  have hclaimed : ∀ node ∈ state.configurationPayload.nodes,
      claimedEndpoints relayCandidates.length utcNow node = offeredEndpoints
        (maxHandshakeCandidatesPerCycle - min relayCandidates.length maxRelayCandidatesPerPeer)
        utcNow node := by
    intro node hmem
    exact directCandidates_endpoints _ (h.nodesUsable node hmem).ordered rfl
  rw [buildPeerDirectory, (addNode_loop hrelay).foldlM_ok, sum_isPeer]
  constructor
  · rintro ⟨⟨_, hpair, _⟩, hsum⟩
    refine ⟨hsum, List.pairwise_filter.mpr ?_⟩
    refine hpair.imp_of_mem fun {a b} ha hb hclash hpeerA hpeerB endpoint hoffA hoffB => hclash ?_
    rw [← hclaimed a ha] at hoffA
    rw [← hclaimed b hb] at hoffB
    exact ⟨hpeerA, hpeerB, Or.inr ⟨endpoint, hoffA, hoffB⟩⟩
  · intro hready
    refine ⟨⟨?_, ?_, ?_⟩, hready.bounded⟩
    · intro node hmem
      have husable := h.nodesUsable node hmem
      exact ⟨husable.decodes, husable.addressed, husable.direct⟩
    · have hpair := List.pairwise_and_iff.mpr ⟨h.nodesDistinct, List.pairwise_filter.mp hready.apart⟩
      refine hpair.imp_of_mem fun {a b} ha hb hapart hclash => ?_
      obtain ⟨hpeerA, hpeerB, hsame | ⟨endpoint, hclaimA, hclaimB⟩⟩ := hclash
      · exact hapart.1 hsame
      · rw [hclaimed a ha] at hclaimA
        rw [hclaimed b hb] at hclaimB
        exact hapart.2 hpeerA hpeerB hclaimA hclaimB
    · rintro node _ ⟨_, ⟨_, hmem, _⟩ | ⟨_, hmem, _⟩ | ⟨_, _, hmem⟩⟩
      · exact AList.notMem_empty _ hmem
      · exact AList.notMem_empty _ hmem
      · exact AList.notMem_empty _ hmem

end XsNexus
