import XsNexus.ApplicableConfiguration
import XsNexus.PublishedCandidates
import XsNexus.SuggestedRoutes

namespace XsNexus

open ByteCodec Checks FiniteMap

/-- The controller takes both advertisements of a node just where no interface or mapping is among them
that only the host itself or a link can reach, and the routes are not too many. -/
theorem honest_advertisements_accepted_iff {p : Platform} {state : NodeState}
    {manager manager' : CandidateManager} (hm : ReachableCandidates p.crypto p.formats state manager)
    {advertisement : CandidateAdvertisement} {generated now : Int}
    (ht : manager.takeAdvertisement generated = (some advertisement, manager'))
    (hnow : generated ≤ now ∧ now ≤ generated + minutes 1)
    {discovery discovery' : SubnetRouteDiscovery} (hd : ReachableRoutes p.formats state discovery)
    {links : List LinkMessage} {routes : List RouteMessage}
    {routeAdvertisement : SubnetRouteAdvertisement} {refreshed instantNow routesNow : Int}
    (hr : discovery.refresh p.formats (some links) (some routes) refreshed instantNow =
      .ok (routeAdvertisement, discovery'))
    (hroutesNow : refreshed ≤ routesNow ∧ routesNow ≤ refreshed + minutes 1)
    {authenticated : AuthenticatedNode} (hnetwork : authenticated.networkId = state.networkId)
    (hnode : authenticated.nodeIdBase64 = state.nodeIdBase64) :
    (validateCandidateAdvertisement authenticated advertisement now = .ok () ∧
        validateSubnetRouteAdvertisement p authenticated routeAdvertisement
          state.configurationPayload.addressPool routesNow = .ok ()) ↔
      (∀ candidate ∈ manager.localEndpoints, advertisable candidate.2 = true) ∧
        (∀ endpoint ∈ advertisedMappings manager generated, advertisable endpoint = true) ∧
        (suggestedRoutes p.formats discovery links routes).dedup.length ≤ maxSubnetSuggestionsPerNode := by
  obtain ⟨hdiscoveryNetwork, hdiscoveryNode, hpool⟩ := routesSound hd
  rw [candidateAdvertisement_accepted_iff (candidatesSound hm) ht hnetwork hnode hnow, ← hpool,
    subnetRouteAdvertisement_accepted_iff hr (hnetwork.trans hdiscoveryNetwork.symm)
      (hnode.trans hdiscoveryNode.symm) hroutesNow, and_assoc]

def sampleDiscoveryState : NodeState := { sampleNodeState with
  configurationPayload := { samplePayload with discoveryEndpoints := [sampleEndpoint] } }

/-- What the controller answers to the request of the sample node. -/
def sampleDiscoveryAnswer (observed : SocketAddr) : Option (Block 188) := do
  let request ← DiscoveryRequest.new .transparent (fill 16 21) sampleNodeId (fill 16 5) 1700000201
    (sampleCredential sampleIdentityKey (.new 100 88 0 10)) sampleIdentityKey
  let verified ← verifyDiscoveryRequest .transparent request.encoded.val ⟨sampleControllerKey.seed⟩
    1700000201
  discoveryResponse .transparent verified observed 1700000201 sampleConfigurationKey

def sampleDiscovered (observed : SocketAddr) : Except AgentError CandidateManager := do
  let manager ← CandidateManager.new .transparent samplePlatform.formats sampleDiscoveryState
    sampleIdentityKey 0
  let manager := (manager.refresh .transparent (some 4000)
    (some [⟨2, [.localAddress (.v4 (.new 192 168 1 5))]⟩]) sampleDiscoveryState (seconds 1700000201)
    (fun _ => ⟨some (fill 16 5), seconds 1700000201, true⟩) 0).2
  match sampleDiscoveryAnswer observed with
  | none => .error .dataPlane
  | some datagram =>
    .ok (manager.handleDiscoveryResponse .transparent sampleEndpoint datagram.val
      (seconds 1700000202)).2

theorem sampleDiscovered_reachable {observed : SocketAddr} {manager : CandidateManager}
    (h : sampleDiscovered observed = .ok manager) :
    ReachableCandidates samplePlatform.crypto samplePlatform.formats sampleDiscoveryState manager := by
  obtain ⟨first, hfirst, h⟩ := bind_ok.mp h
  split at h
  next => simp at h
  next =>
    cases h
    exact .handleDiscoveryResponse (.refresh (.new hfirst) _ _ _ _ _ _) _ _ _

def sampleNode : AuthenticatedNode where
  networkId := fill 16 21
  nodeIdBase64 := sampleNodeState.nodeIdBase64
  nodeId := sampleNodeId
  identityPublicKey := sampleIdentityKey.seed

/-- Whether the sample node, once seen at the address, has its candidates taken. -/
def sampleCandidatesTaken (observed : SocketAddr) : Option Bool :=
  match sampleDiscovered observed with
  | .error _ => none
  | .ok manager =>
    match manager.takeAdvertisement (seconds 1700000203) with
    | (none, _) => none
    | (some advertisement, _) =>
      some (validateCandidateAdvertisement sampleNode advertisement (seconds 1700000204)).toBool

def sampleRouteDiscovery : Except AgentError (SubnetRouteAdvertisement × SubnetRouteDiscovery) := do
  let discovery ← SubnetRouteDiscovery.new samplePlatform.formats sampleDiscoveryState "xsn0" 0
  discovery.refresh samplePlatform.formats (some [⟨2, ["eth0"]⟩])
    (some [⟨24, .kernel, .link, 254, [.destination (.new 192 168 50 0), .oif 2]⟩]) (seconds 1700000203) 0

theorem sampleCandidates : sampleCandidatesTaken (.v4 ⟨.new 198 51 100 2, 52000⟩) = some true ∧
    sampleCandidatesTaken (.v4 ⟨.new 127 0 0 1, 4000⟩) = some false ∧
    (match sampleRouteDiscovery with
      | .error _ => false
      | .ok (advertisement, _) =>
        (validateSubnetRouteAdvertisement samplePlatform sampleNode advertisement
          sampleDiscoveryState.configurationPayload.addressPool (seconds 1700000204)).toBool) = true := by
  decide +kernel

theorem ok_of_toBool {ε : Type} {x : Except ε Unit} (h : x.toBool = true) : x = .ok () := by
  cases x with
  | error e => simp [Except.toBool] at h
  | ok _ => rfl

theorem sampleCandidates_run {observed : SocketAddr} {taken : Bool}
    (h : sampleCandidatesTaken observed = some taken) :
    ∃ manager manager' advertisement, ReachableCandidates samplePlatform.crypto samplePlatform.formats
        sampleDiscoveryState manager ∧
      manager.takeAdvertisement (seconds 1700000203) = (some advertisement, manager') ∧
      (validateCandidateAdvertisement sampleNode advertisement (seconds 1700000204)).toBool = taken := by
  unfold sampleCandidatesTaken at h
  split at h
  next => simp at h
  next manager hmanager =>
    split at h
    next => simp at h
    next advertisement manager' htaken =>
      exact ⟨manager, manager', advertisement, sampleDiscovered_reachable hmanager, htaken,
        Option.some.inj h⟩

theorem sampleRoutes_run : ∃ discovery discovery' advertisement,
    ReachableRoutes samplePlatform.formats sampleDiscoveryState discovery ∧
      discovery.refresh samplePlatform.formats (some [⟨2, ["eth0"]⟩])
        (some [⟨24, .kernel, .link, 254, [.destination (.new 192 168 50 0), .oif 2]⟩])
        (seconds 1700000203) 0 = .ok (advertisement, discovery') ∧
      validateSubnetRouteAdvertisement samplePlatform sampleNode advertisement
        sampleDiscoveryState.configurationPayload.addressPool (seconds 1700000204) = .ok () := by
  obtain ⟨_, _, hroutes⟩ := sampleCandidates
  split at hroutes
  next => simp at hroutes
  next advertisement discovery' hrefreshed =>
    obtain ⟨discovery, hdiscovery, hrefresh⟩ := bind_ok.mp hrefreshed
    exact ⟨discovery, discovery', advertisement, .new hdiscovery, hrefresh, ok_of_toBool hroutes⟩

theorem honest_advertisements_accepted_sample :
    ∃ manager discovery, ReachableCandidates samplePlatform.crypto samplePlatform.formats
        sampleDiscoveryState manager ∧
      ReachableRoutes samplePlatform.formats sampleDiscoveryState discovery ∧
      (∀ candidate ∈ manager.localEndpoints, advertisable candidate.2 = true) ∧
      (∀ endpoint ∈ advertisedMappings manager (seconds 1700000203), advertisable endpoint = true) ∧
      (suggestedRoutes samplePlatform.formats discovery [⟨2, ["eth0"]⟩]
        [⟨24, .kernel, .link, 254, [.destination (.new 192 168 50 0), .oif 2]⟩]).dedup.length ≤
          maxSubnetSuggestionsPerNode := by
  obtain ⟨manager, manager', advertisement, hreachable, htaken, hok⟩ :=
    sampleCandidates_run sampleCandidates.1
  obtain ⟨discovery, discovery', routeAdvertisement, hroutes, hrefresh, hroutesOk⟩ := sampleRoutes_run
  have hnow : seconds 1700000203 ≤ seconds 1700000204 ∧
      seconds 1700000204 ≤ seconds 1700000203 + minutes 1 := by decide
  have hnetwork : sampleNode.networkId = sampleDiscoveryState.networkId := rfl
  have hnode : sampleNode.nodeIdBase64 = sampleDiscoveryState.nodeIdBase64 := rfl
  have hiff := honest_advertisements_accepted_iff hreachable htaken hnow hroutes hrefresh hnow hnetwork
    hnode
  exact ⟨manager, discovery, hreachable, hroutes, hiff.mp ⟨ok_of_toBool hok, hroutesOk⟩⟩

/-- A node that the controller sees at a loopback address, as one on the same host is, has its whole
advertisement refused. -/
theorem loopback_mapping_refused :
    ¬∀ manager manager' advertisement, ReachableCandidates samplePlatform.crypto samplePlatform.formats
        sampleDiscoveryState manager →
      manager.takeAdvertisement (seconds 1700000203) = (some advertisement, manager') →
      validateCandidateAdvertisement sampleNode advertisement (seconds 1700000204) = .ok () := by
  intro hclaim
  obtain ⟨manager, manager', advertisement, hreachable, htaken, hrefused⟩ :=
    sampleCandidates_run sampleCandidates.2.1
  rw [hclaim manager manager' advertisement hreachable htaken] at hrefused
  simp [Except.toBool] at hrefused

end XsNexus
