import XsNexus.FailedUpdate

namespace XsNexus

open ByteCodec Checks FiniteMap

/-- A peer with a session whose node keeps its address in the new configuration. -/
structure Kept (f : Formats) (dp : UdpDataPlane) (state : NodeState) (ip : Ipv4Addr) (peer : Peer)
    (established : EstablishedPeer) : Prop where
  present : dp.peersByVirtualIp.lookup ip = some peer
  session : peer.state = .established established
  listed : ∃ node ∈ state.configurationPayload.nodes,
    decodeFixed f 16 node.nodeIdBase64 = .ok peer.nodeId ∧ parseIpv4Addr node.virtualIp = some ip
  remote : peer.nodeId ≠ dp.material.nodeId

/-- The session goes on as it was. -/
def GoesOn (dp : UdpDataPlane) (ip : Ipv4Addr) (nodeId : Block 16) (established : EstablishedPeer) :
    Prop :=
  ∃ peer, dp.peersByVirtualIp.lookup ip = some peer ∧ peer.nodeId = nodeId ∧
    peer.state = .established established

section Update

variable {c : Crypto} {f : Formats} {dp : UdpDataPlane} {state : NodeState} {reads : ConfigurationReads}

/-- What a successful update has installed. -/
theorem installed_of_applyConfiguration
    (hok : (dp.applyConfiguration c f state reads).1 = .ok ()) :
    ∃ desired directory,
      relayClients c f state.configurationPayload.relays reads.relayInstant reads.relayUtc =
        .ok desired ∧
      dp.newDirectory f state desired reads = .ok directory ∧
      (dp.applyConfiguration c f state reads).2.peersByVirtualIp =
        (dp.replacePeers desired directory.peers (policyChanged dp state) reads).peersByVirtualIp := by
  by_cases hcompiles : ∃ aclPolicy subnetRoutes desired, compileAcl f state = .ok aclPolicy ∧
      compileSubnetRoutes f state = .ok subnetRoutes ∧
      relayClients c f state.configurationPayload.relays reads.relayInstant reads.relayUtc =
        .ok desired
  · obtain ⟨aclPolicy, subnetRoutes, desired, hacl, hroutes, hdesired⟩ := hcompiles
    rcases applyConfiguration_cases dp hacl hroutes hdesired with
      ⟨e, _, hresult⟩ | ⟨directory, hbuilt, ⟨e, _, hresult⟩ | ⟨_, hresult⟩⟩
    · rw [hresult] at hok
      simp at hok
    · rw [hresult] at hok
      simp at hok
    · refine ⟨desired, directory, hdesired, hbuilt, ?_⟩
      rw [hresult]
      unfold UdpDataPlane.rebuildEndpointIndex
      split <;> rfl
  · obtain ⟨e, herror⟩ := (applyConfiguration_refused dp hcompiles).1
    rw [hok] at herror
    simp at herror

theorem goesOn_iff (hok : (dp.applyConfiguration c f state reads).1 = .ok ()) {ip : Ipv4Addr}
    {peer : Peer} {established : EstablishedPeer} (hkept : Kept f dp state ip peer established) :
    GoesOn (dp.applyConfiguration c f state reads).2 ip peer.nodeId established ↔
      state.configurationPayload.policyVersion = dp.policyVersion := by
  obtain ⟨desired, directory, hdesired, hbuilt, hpeers⟩ := installed_of_applyConfiguration hok
  obtain ⟨node, hmem, hid, hip⟩ := hkept.listed
  obtain ⟨replacement, hl, hnode⟩ := lookup_buildPeerDirectory hbuilt hmem hid hkept.remote hip
  have hestablished : peer.state.isEstablished = true := by
    rw [hkept.session]
    rfl
  have hunchanged : policyChanged dp state = false ↔
      state.configurationPayload.policyVersion = dp.policyVersion := by
    unfold policyChanged
    rw [decide_eq_false_iff_not, not_not]
  obtain ⟨adopted, ha⟩ : ∃ adopted, adopted = UdpDataPlane.adoptPeer (some peer) replacement
    (policyChanged dp state) reads.instant := ⟨_, rfl⟩
  obtain ⟨hsame, _, hsession⟩ := adoptPeer_keeps (fresh_of_newDirectory hdesired hbuilt hl)
    (some peer) (policyChanged dp state) reads.instant
  rw [← ha] at hsame hsession
  obtain ⟨hsame', _, hstays, hleaves⟩ := adopted.failRelayPaths_keeps
    (RelayManager.failedEndpoints dp.relayManager.clients desired) reads.failoverInstant
  have hlookup : (dp.applyConfiguration c f state reads).2.peersByVirtualIp.lookup ip =
      some (adopted.failRelayPaths
        (RelayManager.failedEndpoints dp.relayManager.clients desired) reads.failoverInstant) := by
    rw [hpeers, lookup_replacePeers, hl, hkept.present, ha]
    rfl
  rw [← hunchanged]
  constructor
  · rintro ⟨after, hafter, _, hstate⟩
    cases Option.some.inj (hlookup.symm.trans hafter)
    rcases hsession with ⟨_, _, _, _, hpolicy, _⟩ | ⟨_, hnot, _⟩
    · exact hpolicy
    · have hgone := hleaves hnot
      rw [hstate] at hgone
      exact absurd hgone (by simp [PeerState.isEstablished])
  · intro hpolicy
    rcases hsession with ⟨other, heq, _, _, _, hstate, _⟩ | ⟨hchanged, _, _⟩
    · cases Option.some.inj heq
      refine ⟨_, hlookup, hsame'.trans (hsame.trans hnode), ?_⟩
      rw [hstays (by rw [hstate]; exact hestablished), hstate, hkept.session]
    · rw [hchanged peer rfl hnode.symm hestablished] at hpolicy
      exact absurd hpolicy (by decide)

/-- A configuration update leaves the sessions of the nodes that keep their address alone exactly if
the policy version stays, or there are none. -/
theorem update_keeps_sessions_iff (hok : (dp.applyConfiguration c f state reads).1 = .ok ()) :
    (∀ ip peer established, Kept f dp state ip peer established →
        GoesOn (dp.applyConfiguration c f state reads).2 ip peer.nodeId established) ↔
      (state.configurationPayload.policyVersion = dp.policyVersion ∨
        ∀ ip peer established, ¬Kept f dp state ip peer established) := by
  constructor
  · intro hgo
    by_cases hpolicy : state.configurationPayload.policyVersion = dp.policyVersion
    · exact Or.inl hpolicy
    · exact Or.inr fun ip peer established hkept =>
        hpolicy ((goesOn_iff hok hkept).mp (hgo ip peer established hkept))
  · rintro (hpolicy | hnone) ip peer established hkept
    · exact (goesOn_iff hok hkept).mpr hpolicy
    · exact absurd hkept (hnone ip peer established)

end Update

def sampleEstablished : EstablishedPeer where
  sessionId := fill 16 9
  sender := {
    directionSecret := fill 32 71
    epoch := ⟨0, fill 32 72, fill 4 73, ReplayWindow.new⟩
    nextSequence := 5
    networkId := fill 16 21
    sourceNodeId := nodeId .transparent sampleIdentityKey.seed
    destinationNodeId := nodeId .transparent (fill 32 41)
    sessionId := fill 16 9
    sourceVirtualIp := .new 100 88 0 10
    destinationVirtualIp := .new 100 88 0 11 }
  receiver := {
    directionSecret := fill 32 74
    current := ⟨0, fill 32 75, fill 4 76, ReplayWindow.new⟩
    previous := none
    networkId := fill 16 21
    sourceNodeId := nodeId .transparent (fill 32 41)
    destinationNodeId := nodeId .transparent sampleIdentityKey.seed
    sessionId := fill 16 9
    sourceVirtualIp := .new 100 88 0 11
    destinationVirtualIp := .new 100 88 0 10 }
  sentPacketsInEpoch := 5
  epochStartedAt := 0
  outboundKeyUpdate := none
  previousEpochInstalledAt := none
  lastKeepaliveAt := 0

/-- The sample data plane with a session with its peer. -/
def sampleDataPlane : Except AgentError UdpDataPlane :=
  (UdpDataPlane.bind .transparent sampleFormats sampleNodeState sampleIdentityKey 0
    (1700000200 * 10 ^ 9)).map fun dp =>
      { dp with
        peersByVirtualIp := mapWithKey (fun _ peer =>
          { peer with state := .established sampleEstablished }) dp.peersByVirtualIp }

/-- The next configuration lists what this one does. -/
def samplePolicyState (policyVersion : UInt64) : NodeState :=
  { sampleNodeState with
    configuration := { sampleNodeState.configuration with version := 2 }
    configurationPayload := { samplePayload with version := 2, policyVersion := policyVersion } }

theorem sampleDataPlane_updates (policyVersion : UInt64) (h : policyVersion = 1 ∨ policyVersion = 2) :
    ∃ dp, sampleDataPlane = .ok dp ∧ dp.policyVersion = 1 ∧
      (dp.applyConfiguration .transparent sampleFormats (samplePolicyState policyVersion)
        sampleConfigurationReads).1 = .ok () ∧
      ∃ peer, Kept sampleFormats dp (samplePolicyState policyVersion) (.new 100 88 0 11) peer
        sampleEstablished := by
  have hrun : (match sampleDataPlane with
    | .error _ => false
    | .ok dp =>
      decide (dp.policyVersion = 1) &&
      decide ((dp.applyConfiguration .transparent sampleFormats (samplePolicyState policyVersion)
        sampleConfigurationReads).1 = .ok ()) &&
      decide (dp.material.nodeId = nodeId .transparent sampleIdentityKey.seed) &&
      (dp.peersByVirtualIp.lookup (.new 100 88 0 11)).any fun peer =>
        decide (peer.nodeId = nodeId .transparent (fill 32 41) ∧
          peer.state = .established sampleEstablished)) = true := by
    rcases h with rfl | rfl
    · decide +kernel
    · decide +kernel
  split at hrun
  next => simp at hrun
  next dp hdp =>
    simp only [Bool.and_eq_true, decide_eq_true_eq] at hrun
    obtain ⟨⟨⟨hpolicy, hok⟩, hlocal⟩, hpeer⟩ := hrun
    obtain ⟨peer, hl, hp⟩ := (Option.any_eq_true _ _).mp hpeer
    obtain ⟨hid, hsession⟩ := of_decide_eq_true hp
    refine ⟨dp, hdp, hpolicy, hok, peer, hl, hsession, ⟨samplePeerNode, ?_, ?_, ?_⟩, ?_⟩
    · show samplePeerNode ∈ samplePayload.nodes
      simp [samplePayload]
    · rw [hid]
      decide +kernel
    · decide +kernel
    · rw [hid, hlocal]
      decide +kernel

/-- The session goes on under a configuration of the same policy version. -/
theorem update_keeps_sessions_sample : ∃ dp, sampleDataPlane = .ok dp ∧
    ∃ peer, Kept sampleFormats dp (samplePolicyState 1) (.new 100 88 0 11) peer sampleEstablished ∧
      GoesOn (dp.applyConfiguration .transparent sampleFormats (samplePolicyState 1)
        sampleConfigurationReads).2 (.new 100 88 0 11) peer.nodeId sampleEstablished := by
  obtain ⟨dp, hdp, hpolicy, hok, peer, hkept⟩ := sampleDataPlane_updates 1 (Or.inl rfl)
  exact ⟨dp, hdp, peer, hkept,
    (update_keeps_sessions_iff hok).mpr (Or.inl hpolicy.symm) _ peer _ hkept⟩

/-- A new policy version ends the session, although nothing else has changed. -/
theorem policy_version_ends_session : ∃ dp, sampleDataPlane = .ok dp ∧
    (dp.applyConfiguration .transparent sampleFormats (samplePolicyState 2)
      sampleConfigurationReads).1 = .ok () ∧
    ∃ peer, Kept sampleFormats dp (samplePolicyState 2) (.new 100 88 0 11) peer sampleEstablished ∧
      ¬GoesOn (dp.applyConfiguration .transparent sampleFormats (samplePolicyState 2)
        sampleConfigurationReads).2 (.new 100 88 0 11) peer.nodeId sampleEstablished := by
  obtain ⟨dp, hdp, hpolicy, hok, peer, hkept⟩ := sampleDataPlane_updates 2 (Or.inr rfl)
  refine ⟨dp, hdp, hok, peer, hkept, fun hgo => ?_⟩
  have hsame := (goesOn_iff hok hkept).mp hgo
  rw [hpolicy] at hsame
  exact absurd hsame (by decide)

end XsNexus
