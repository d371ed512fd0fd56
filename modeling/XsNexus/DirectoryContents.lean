import XsNexus.DirectoryChecks

namespace XsNexus

open ByteCodec Checks FiniteMap

/-- The endpoints of the candidates that are no relays. -/
def directPaths (candidates : List EndpointCandidate) : List SocketAddr :=
  (candidates.filter fun candidate => candidate.kind ≠ .relay).map EndpointCandidate.endpoint

/-- The peer as which a node of the configuration enters the directory of another node. -/
structure EntersAs (f : Formats) (localNodeId : Block 16) (relayCandidates : List EndpointCandidate)
    (now : Nat) (utcNow : Int) (node : ConfigurationNode) (ip : Ipv4Addr) (peer : Peer) : Prop where
  decodes : decodeFixed f 16 node.nodeIdBase64 = .ok peer.nodeId
  remote : peer.nodeId ≠ localNodeId
  addressed : parseIpv4Addr node.virtualIp = some ip
  entered : ∃ directEndpoints, node.directEndpoints.mapM parseDirectEndpoint = .ok directEndpoints ∧
    peer = newPeer peer.nodeId node.nodeIdBase64 ip
      (configuredCandidates node directEndpoints relayCandidates utcNow) now

/-- Both indexes of the directory say of every peer where it is, and nothing else. -/
structure Indexes (directory : PeerDirectory) : Prop where
  nodeIds : ∀ nodeId ip, directory.nodeIds.lookup nodeId = some ip ↔
    ∃ peer, directory.peers.lookup ip = some peer ∧ peer.nodeId = nodeId
  endpoints : ∀ endpoint ip, directory.endpoints.lookup endpoint = some ip ↔
    ∃ peer, directory.peers.lookup ip = some peer ∧ endpoint ∈ directPaths peer.candidates

theorem mem_directPaths_cons {candidate : EndpointCandidate} {candidates : List EndpointCandidate}
    {endpoint : SocketAddr} :
    endpoint ∈ directPaths (candidate :: candidates) ↔
      (candidate.kind ≠ .relay ∧ endpoint = candidate.endpoint) ∨ endpoint ∈ directPaths candidates := by
  unfold directPaths
  rw [List.filter_cons]
  by_cases hkind : candidate.kind = .relay
  · simp [hkind]
  · simp [hkind]

theorem lookup_claimEndpoints {virtualIp : Ipv4Addr} {candidates : List EndpointCandidate}
    {endpoints endpoints' : Map SocketAddr Ipv4Addr}
    (h : candidates.foldlM (claimEndpoint virtualIp) endpoints = .ok endpoints')
    (endpoint : SocketAddr) (ip : Ipv4Addr) :
    endpoints'.lookup endpoint = some ip ↔
      (ip = virtualIp ∧ endpoint ∈ directPaths candidates) ∨ endpoints.lookup endpoint = some ip := by
  induction candidates generalizing endpoints with
  | nil =>
    cases h
    simp [directPaths]
  | cons candidate candidates ih =>
    rw [List.foldlM_cons] at h
    obtain ⟨middle, hstep, hrest⟩ := bind_ok.mp h
    rw [ih hrest, mem_directPaths_cons]
    unfold claimEndpoint at hstep
    split at hstep
    next hkind =>
      cases hstep
      simp [hkind]
    next hkind =>
      obtain ⟨hfree, hstep⟩ := guard_ok.mp hstep
      cases hstep
      rw [lookup_insert_eq]
      by_cases heq : endpoint = candidate.endpoint
      · subst heq
        have hnone : endpoints.lookup candidate.endpoint = none := AList.lookup_eq_none.mpr hfree
        simp [hkind, hnone, eq_comm]
        tauto
      · simp [heq]

section Contents

variable {f : Formats} {localNodeId : Block 16} {relayCandidates : List EndpointCandidate} {now : Nat}
  {utcNow : Int}

theorem not_entersAs_local {node : ConfigurationNode}
    (hid : decodeFixed f 16 node.nodeIdBase64 = .ok localNodeId) (ip : Ipv4Addr) (peer : Peer) :
    ¬EntersAs f localNodeId relayCandidates now utcNow node ip peer := by
  intro h
  have hsame := h.decodes
  rw [hid] at hsame
  cases hsame
  exact h.remote rfl

theorem entersAs_iff {node : ConfigurationNode} {nodeId : Block 16} {virtualIp : Ipv4Addr}
    {directEndpoints : List SocketAddr} (hid : decodeFixed f 16 node.nodeIdBase64 = .ok nodeId)
    (hlocal : nodeId ≠ localNodeId) (hip : parseIpv4Addr node.virtualIp = some virtualIp)
    (hdirect : node.directEndpoints.mapM parseDirectEndpoint = .ok directEndpoints) (ip : Ipv4Addr)
    (peer : Peer) :
    EntersAs f localNodeId relayCandidates now utcNow node ip peer ↔
      ip = virtualIp ∧ peer = newPeer nodeId node.nodeIdBase64 virtualIp
        (configuredCandidates node directEndpoints relayCandidates utcNow) now := by
  constructor
  · intro h
    have hsame := h.decodes
    rw [hid] at hsame
    have haddress := h.addressed
    rw [hip] at haddress
    cases haddress
    obtain ⟨endpoints, hparse, hpeer⟩ := h.entered
    rw [hdirect] at hparse
    cases hparse
    refine ⟨rfl, ?_⟩
    rw [hpeer, Except.ok.inj hsame]
  · rintro ⟨rfl, rfl⟩
    exact ⟨hid, hlocal, hip, directEndpoints, hdirect, rfl⟩

/-- What one node of the configuration adds to the directory. -/
theorem addNode_contents {directory directory' : PeerDirectory} {node : ConfigurationNode}
    (h : addNode f localNodeId relayCandidates now utcNow directory node = .ok directory')
    (hindexes : Indexes directory) :
    Indexes directory' ∧ ∀ ip peer, directory'.peers.lookup ip = some peer ↔
      directory.peers.lookup ip = some peer ∨
        EntersAs f localNodeId relayCandidates now utcNow node ip peer := by
  obtain ⟨⟨nodeId, hid⟩, ⟨virtualIp, hip⟩, hparse⟩ := readable_of_addNode h
  obtain ⟨directEndpoints, hdirect⟩ := mapM_parseDirectEndpoint.mpr hparse
  rw [addNode_eq hid hip hdirect] at h
  split at h
  next hlocal =>
    cases h
    rw [hlocal] at hid
    refine ⟨⟨hindexes.nodeIds, hindexes.endpoints⟩, fun ip peer => ?_⟩
    have hnot : ¬EntersAs f localNodeId relayCandidates now utcNow node ip peer :=
      not_entersAs_local hid ip peer
    exact (or_iff_left hnot).symm
  next hlocal =>
    obtain ⟨hroom, h⟩ := guard_ok.mp h
    obtain ⟨hnew, h⟩ := guard_ok.mp h
    obtain ⟨endpoints, hendpoints, h⟩ := bind_ok.mp h
    cases h
    simp only [not_or] at hroom
    have hfree : directory.peers.lookup virtualIp = none := AList.lookup_eq_none.mpr hroom.2
    have hfreeId : directory.nodeIds.lookup nodeId = none := AList.lookup_eq_none.mpr hnew
    refine ⟨⟨fun other ip => ?_, fun endpoint ip => ?_⟩, fun ip peer => ?_⟩
    · dsimp only
      rw [lookup_insert_eq]
      simp only [lookup_insert_eq]
      by_cases hip : ip = virtualIp
      · subst hip
        have hold := hindexes.nodeIds other ip
        rw [hfree] at hold
        by_cases heq : other = nodeId
        · simp [heq, newPeer]
        · have hne : ¬nodeId = other := fun he => heq he.symm
          simp only [heq, if_false, if_true, Option.some.injEq, exists_eq_left', newPeer, hne,
            iff_false]
          rw [hold]
          simp
      · by_cases heq : other = nodeId
        · subst heq
          have hold := hindexes.nodeIds other ip
          rw [hfreeId] at hold
          simp only [if_true, hip, if_false, Option.some.injEq]
          constructor
          · intro he
            exact absurd he.symm hip
          · intro he
            exact absurd (hold.mpr he) (by simp)
        · simp only [heq, hip, if_false]
          exact hindexes.nodeIds other ip
    · dsimp only
      rw [lookup_claimEndpoints hendpoints, lookup_insert_eq, hindexes.endpoints]
      by_cases hip : ip = virtualIp
      · subst hip
        simp [hfree, newPeer]
      · simp [hip]
    · dsimp only
      rw [lookup_insert_eq, entersAs_iff hid hlocal hip hdirect]
      by_cases hip : ip = virtualIp
      · subst hip
        simp [hfree, eq_comm]
      · simp [hip]

theorem foldlM_contents {nodes : List ConfigurationNode} {directory directory' : PeerDirectory}
    (h : nodes.foldlM (addNode f localNodeId relayCandidates now utcNow) directory = .ok directory')
    (hindexes : Indexes directory) :
    Indexes directory' ∧ ∀ ip peer, directory'.peers.lookup ip = some peer ↔
      directory.peers.lookup ip = some peer ∨
        ∃ node ∈ nodes, EntersAs f localNodeId relayCandidates now utcNow node ip peer := by
  induction nodes generalizing directory with
  | nil =>
    cases h
    exact ⟨hindexes, fun ip peer => by simp⟩
  | cons node nodes ih =>
    rw [List.foldlM_cons] at h
    obtain ⟨middle, hstep, hrest⟩ := bind_ok.mp h
    obtain ⟨hmiddle, hadded⟩ := addNode_contents hstep hindexes
    obtain ⟨hfinal, hpeers⟩ := ih hrest hmiddle
    refine ⟨hfinal, fun ip peer => ?_⟩
    rw [hpeers, hadded]
    simp only [List.mem_cons, exists_eq_or_imp, or_assoc]

theorem readable_of_foldlM {nodes : List ConfigurationNode} {directory directory' : PeerDirectory}
    (h : nodes.foldlM (addNode f localNodeId relayCandidates now utcNow) directory = .ok directory')
    {node : ConfigurationNode} (hmem : node ∈ nodes) : ReadableNode f node := by
  induction nodes generalizing directory with
  | nil => simp at hmem
  | cons first nodes ih =>
    rw [List.foldlM_cons] at h
    obtain ⟨middle, hstep, hrest⟩ := bind_ok.mp h
    rcases List.mem_cons.mp hmem with rfl | hmem
    · exact readable_of_addNode hstep
    · exact ih hrest hmem

/-- The directory holds the nodes of the configuration apart from the local one, each as a new peer
under its own address. -/
theorem buildPeerDirectory_contents {state : NodeState} {directory : PeerDirectory}
    (h : buildPeerDirectory f state localNodeId relayCandidates now utcNow = .ok directory) :
    Indexes directory ∧ ∀ ip peer, directory.peers.lookup ip = some peer ↔
      ∃ node ∈ state.configurationPayload.nodes,
        EntersAs f localNodeId relayCandidates now utcNow node ip peer := by
  obtain ⟨hindexes, hpeers⟩ := foldlM_contents h
    ⟨fun nodeId ip => by simp, fun endpoint ip => by simp⟩
  refine ⟨hindexes, fun ip peer => ?_⟩
  rw [hpeers]
  simp

/-- A remote node of the configuration is in the directory, under its address. -/
theorem lookup_buildPeerDirectory {state : NodeState} {directory : PeerDirectory}
    (h : buildPeerDirectory f state localNodeId relayCandidates now utcNow = .ok directory)
    {node : ConfigurationNode} (hmem : node ∈ state.configurationPayload.nodes) {nodeId : Block 16}
    (hid : decodeFixed f 16 node.nodeIdBase64 = .ok nodeId) (hremote : nodeId ≠ localNodeId)
    {ip : Ipv4Addr} (hip : parseIpv4Addr node.virtualIp = some ip) :
    ∃ peer, directory.peers.lookup ip = some peer ∧ peer.nodeId = nodeId := by
  obtain ⟨directEndpoints, hdirect⟩ :=
    mapM_parseDirectEndpoint.mpr (readable_of_foldlM h hmem).direct
  refine ⟨newPeer nodeId node.nodeIdBase64 ip
    (configuredCandidates node directEndpoints relayCandidates utcNow) now, ?_, rfl⟩
  refine ((buildPeerDirectory_contents h).2 ip _).mpr ⟨node, hmem, ?_⟩
  exact (entersAs_iff hid hremote hip hdirect ip _).mpr ⟨rfl, rfl⟩

end Contents

end XsNexus
