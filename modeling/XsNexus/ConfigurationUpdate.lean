import XsNexus.DataPlane
import XsNexus.DirectoryContents
import XsNexus.LostLeases

namespace XsNexus

open ByteCodec Checks FiniteMap

/-- The clients of a new configuration with what is kept of the present ones. -/
def RelayManager.replaceClients (manager : RelayManager) (desired : Map SocketAddr RelayClient) :
    RelayManager :=
  { manager with
    clients := mapWithKey (fun endpoint client =>
      keepLease client (manager.clients.lookup endpoint)) desired }

/-- The peers of a new directory with what is kept of the present ones, before the indexes follow. -/
def UdpDataPlane.replacePeers (dp : UdpDataPlane) (desired : Map SocketAddr RelayClient)
    (peers : Map Ipv4Addr Peer) (policyChanged : Bool) (reads : ConfigurationReads) : UdpDataPlane :=
  { dp with
    relayManager := dp.relayManager.replaceClients desired
    retiredTelemetry := dp.retireTelemetry peers
    peersByVirtualIp := failRelayPaths
      (mapWithKey (fun virtualIp replacement =>
        UdpDataPlane.adoptPeer (dp.peersByVirtualIp.lookup virtualIp) replacement policyChanged reads.instant) peers)
      (RelayManager.failedEndpoints dp.relayManager.clients desired) reads.failoverInstant }

/-- The directory of a new configuration, whose relay candidates are those of its relays. -/
def UdpDataPlane.newDirectory (f : Formats) (dp : UdpDataPlane) (state : NodeState)
    (desired : Map SocketAddr RelayClient) (reads : ConfigurationReads) :
    Except AgentError PeerDirectory :=
  buildPeerDirectory f state dp.material.nodeId
    { dp.relayManager with clients := desired }.candidates reads.directoryInstant reads.directoryUtc

def policyChanged (dp : UdpDataPlane) (state : NodeState) : Bool :=
  decide (state.configurationPayload.policyVersion ≠ dp.policyVersion)

theorem keepLease_configured (client : RelayClient) (existing : Option RelayClient) :
    (RelayManager.keepLease client existing).relayId = client.relayId ∧
      (RelayManager.keepLease client existing).endpoint = client.endpoint ∧
      (RelayManager.keepLease client existing).priority = client.priority ∧
      (RelayManager.keepLease client existing).configExpiresAt = client.configExpiresAt := by
  unfold RelayManager.keepLease
  split
  next => exact ⟨rfl, rfl, rfl, rfl⟩
  next => split <;> exact ⟨rfl, rfl, rfl, rfl⟩

/-- The candidates depend on nothing that is kept of a client. -/
theorem candidates_replaceClients (manager : RelayManager) (desired : Map SocketAddr RelayClient) :
    (manager.replaceClients desired).candidates = { manager with clients := desired }.candidates := by
  let kept (entry : Sigma fun _ : SocketAddr => RelayClient) : RelayClient :=
    RelayManager.keepLease entry.2 (manager.clients.lookup entry.1)
  have hclients : (manager.replaceClients desired).clients.entries.map Sigma.snd =
      desired.entries.map kept := by
    unfold RelayManager.replaceClients mapWithKey
    dsimp only
    rw [List.map_map]
    rfl
  have hsorted : (desired.entries.map kept).insertionSort RelayClient.precedes =
      (desired.entries.insertionSort fun left right => left.2.precedes right.2).map kept := by
    refine (List.map_insertionSort _ RelayClient.precedes kept _ ?_).symm
    intro left _ right _
    obtain ⟨hli, _, hlp, _⟩ := keepLease_configured left.2 (manager.clients.lookup left.1)
    obtain ⟨hri, _, hrp, _⟩ := keepLease_configured right.2 (manager.clients.lookup right.1)
    show left.2.precedes right.2 ↔ (kept left).precedes (kept right)
    unfold RelayClient.precedes
    rw [hli, hri, hlp, hrp]
  have hplain : (desired.entries.map Sigma.snd).insertionSort RelayClient.precedes =
      (desired.entries.insertionSort fun left right => left.2.precedes right.2).map Sigma.snd :=
    (List.map_insertionSort (fun left right => left.2.precedes right.2) RelayClient.precedes
      (fun entry : Sigma fun _ : SocketAddr => RelayClient => entry.2) desired.entries
      fun _ _ _ _ => Iff.rfl).symm
  unfold RelayManager.candidates
  dsimp only
  rw [hclients, hsorted, hplain]
  simp only [← List.map_take, List.zipIdx_map, List.map_map]
  refine List.map_congr_left fun ⟨entry, index⟩ _ => ?_
  obtain ⟨_, hendpoint, _, hexpires⟩ :=
    keepLease_configured entry.2 (manager.clients.lookup entry.1)
  simp only [Function.comp_apply, Prod.map_apply, kept, hendpoint, hexpires, id_eq]

theorem isRelay_replaceClients (manager : RelayManager) (desired : Map SocketAddr RelayClient)
    (endpoint : SocketAddr) :
    (manager.replaceClients desired).isRelay endpoint = true ↔ normalizeEndpoint endpoint ∈ desired := by
  unfold RelayManager.isRelay RelayManager.replaceClients
  dsimp only
  rw [lookup_mapWithKey, Option.isSome_map, AList.lookup_isSome]

section Outcomes

variable {c : Crypto} {f : Formats} {state : NodeState} {reads : ConfigurationReads}
  {aclPolicy : AclPolicy} {subnetRoutes : SubnetRoutePolicy} {desired : Map SocketAddr RelayClient}

/-- Without its policies and its relays, an update fails before it changes anything. -/
theorem applyConfiguration_refused (dp : UdpDataPlane)
    (h : ¬∃ aclPolicy subnetRoutes desired, compileAcl f state = .ok aclPolicy ∧
      compileSubnetRoutes f state = .ok subnetRoutes ∧
      relayClients c f state.configurationPayload.relays reads.relayInstant reads.relayUtc =
        .ok desired) :
    (∃ e, (dp.applyConfiguration c f state reads).1 = .error e) ∧
      (dp.applyConfiguration c f state reads).2 = dp := by
  unfold UdpDataPlane.applyConfiguration
  cases hacl : compileAcl f state with
  | error e => exact ⟨⟨e, rfl⟩, rfl⟩
  | ok aclPolicy =>
    cases hroutes : compileSubnetRoutes f state with
    | error e => exact ⟨⟨e, rfl⟩, rfl⟩
    | ok subnetRoutes =>
      unfold RelayManager.applyConfiguration
      cases hdesired : relayClients c f state.configurationPayload.relays reads.relayInstant
          reads.relayUtc with
      | error e => exact ⟨⟨e, rfl⟩, rfl⟩
      | ok desired => exact absurd ⟨aclPolicy, subnetRoutes, desired, hacl, hroutes, hdesired⟩ h

/-- With its policies and its relays, an update fails over the directory, or over the indexes, or it
succeeds. -/
theorem applyConfiguration_cases (dp : UdpDataPlane) (hacl : compileAcl f state = .ok aclPolicy)
    (hroutes : compileSubnetRoutes f state = .ok subnetRoutes)
    (hdesired : relayClients c f state.configurationPayload.relays reads.relayInstant reads.relayUtc =
      .ok desired) :
    (∃ e, dp.newDirectory f state desired reads = .error e ∧
      dp.applyConfiguration c f state reads =
        (.error e, { dp with relayManager := dp.relayManager.replaceClients desired })) ∨
    ∃ directory, dp.newDirectory f state desired reads = .ok directory ∧
      ((∃ e, (dp.replacePeers desired directory.peers (policyChanged dp state) reads
            ).rebuildEndpointIndex.1 = .error e ∧
          dp.applyConfiguration c f state reads =
            (.error e, dp.replacePeers desired directory.peers (policyChanged dp state) reads)) ∨
        ((dp.replacePeers desired directory.peers (policyChanged dp state) reads
            ).rebuildEndpointIndex.1 = .ok () ∧
          dp.applyConfiguration c f state reads = (.ok (), {
            (dp.replacePeers desired directory.peers (policyChanged dp state) reads
              ).rebuildEndpointIndex.2 with
            aclPolicy := aclPolicy
            subnetRoutes := subnetRoutes
            configurationVersion := state.configuration.version
            policyVersion := state.configurationPayload.policyVersion }))) := by
  unfold UdpDataPlane.applyConfiguration RelayManager.applyConfiguration
  rw [hacl, hroutes, hdesired]
  dsimp only
  have hmanager : dp.relayManager.replaceClients desired = { dp.relayManager with
    clients := mapWithKey (fun endpoint client =>
      RelayManager.keepLease client (dp.relayManager.clients.lookup endpoint)) desired } := rfl
  have hnew : buildPeerDirectory f state dp.material.nodeId
      { dp.relayManager with clients := desired }.candidates reads.directoryInstant
        reads.directoryUtc = dp.newDirectory f state desired reads := rfl
  rw [← hmanager, candidates_replaceClients, hnew]
  cases hdirectory : dp.newDirectory f state desired reads with
  | error e => exact Or.inl ⟨e, rfl, rfl⟩
  | ok directory =>
    refine Or.inr ⟨directory, rfl, ?_⟩
    dsimp only
    have hreplaced : dp.replacePeers desired directory.peers (policyChanged dp state) reads =
      { dp with
        relayManager := dp.relayManager.replaceClients desired
        retiredTelemetry := UdpDataPlane.retireTelemetry
          { dp with relayManager := dp.relayManager.replaceClients desired } directory.peers
        peersByVirtualIp := failRelayPaths
          (mapWithKey (fun virtualIp replacement =>
            UdpDataPlane.adoptPeer (dp.peersByVirtualIp.lookup virtualIp) replacement
              (policyChanged dp state) reads.instant) directory.peers)
          (RelayManager.failedEndpoints dp.relayManager.clients desired)
          reads.failoverInstant } := rfl
    unfold policyChanged at hreplaced ⊢
    rw [← hreplaced]
    generalize dp.replacePeers desired directory.peers
      (decide (state.configurationPayload.policyVersion ≠ dp.policyVersion)) reads = replaced
    unfold UdpDataPlane.rebuildEndpointIndex
    cases replaced.peersByVirtualIp.entries.foldlM (indexPeer replaced.relayManager) (∅, ∅) with
    | error e => exact Or.inl ⟨e, rfl, rfl⟩
    | ok index => exact Or.inr ⟨rfl, rfl⟩

end Outcomes

theorem indexEndpoint_loop (virtualIp : Ipv4Addr) :
    Loop (indexEndpoint virtualIp) (fun _ => True) (fun a b => a = b)
      (fun endpoints endpoint => endpoint ∈ endpoints) (fun _ => 0) (fun _ => 0) where
  passes endpoints endpoint := by
    unfold indexEndpoint
    by_cases hmem : endpoint ∈ endpoints
    · simp [hmem]
    · simp [hmem]
  blocked_after h b := by
    obtain ⟨_, h⟩ := guard_ok.mp h
    cases h
    rw [AList.mem_insert, eq_comm]
  room_after _ := rfl

/-- Two peers the indexes cannot hold together. -/
def IndexClash (manager : RelayManager) (a b : Peer) : Prop :=
  a.nodeId = b.nodeId ∨ ∃ endpoint ∈ indexedEndpoints manager a, endpoint ∈ indexedEndpoints manager b

theorem indexedEndpoints_nodup (manager : RelayManager) (peer : Peer) :
    (indexedEndpoints manager peer).Nodup := by
  have hnodup := nodup_map_distinctBy id [] (directPaths peer.candidates ++
    (peer.activeEndpoint.filter fun endpoint => !manager.isRelay endpoint).toList)
  rw [List.map_id] at hnodup
  exact hnodup

theorem mem_indexedEndpoints {manager : RelayManager} {peer : Peer} {endpoint : SocketAddr} :
    endpoint ∈ indexedEndpoints manager peer ↔ endpoint ∈ directPaths peer.candidates ∨
      (peer.activeEndpoint = some endpoint ∧ manager.isRelay endpoint = false) := by
  unfold indexedEndpoints
  rw [mem_distinctBy_id, List.mem_append, Option.mem_toList, Option.filter_eq_some_iff]
  simp only [List.not_mem_nil, not_false_eq_true, true_and, Bool.not_eq_true']
  rfl

theorem indexPeer_loop (manager : RelayManager) :
    Loop (indexPeer manager) (fun _ => True) (fun a b => IndexClash manager a.2 b.2)
      (fun index entry => entry.2.nodeId ∈ index.2 ∨
        ∃ endpoint ∈ indexedEndpoints manager entry.2, endpoint ∈ index.1)
      (fun _ => 0) (fun _ => 0) where
  passes index entry := by
    have hloop := (indexEndpoint_loop entry.1).foldlM_ok (indexedEndpoints manager entry.2) index.1
    have hnodup := indexedEndpoints_nodup manager entry.2
    constructor
    · rintro ⟨index', h⟩
      obtain ⟨hnew, h⟩ := guard_ok.mp h
      obtain ⟨endpoints, hendpoints, _⟩ := bind_ok.mp h
      obtain ⟨⟨_, _, hfree⟩, _⟩ := hloop.mp ⟨endpoints, hendpoints⟩
      refine ⟨trivial, ?_, Nat.le_refl 0⟩
      rintro (hmem | ⟨endpoint, hmem, hin⟩)
      · exact hnew hmem
      · exact hfree endpoint hmem hin
    · rintro ⟨_, hfree, _⟩
      simp only [not_or, not_exists, not_and] at hfree
      obtain ⟨endpoints, hendpoints⟩ := hloop.mpr ⟨⟨fun _ _ => trivial, hnodup, hfree.2⟩, by simp⟩
      exact ⟨_, guard_ok.mpr ⟨hfree.1, bind_ok.mpr ⟨endpoints, hendpoints, rfl⟩⟩⟩
  blocked_after h b := by
    obtain ⟨_, h⟩ := guard_ok.mp h
    obtain ⟨endpoints, hendpoints, h⟩ := bind_ok.mp h
    cases h
    have hblocked := (indexEndpoint_loop _).blocked_foldlM hendpoints
    dsimp only
    simp only [hblocked, AList.mem_insert, IndexClash, exists_eq_right, and_or_left, exists_or]
    rw [eq_comm (a := b.2.nodeId)]
    simp only [and_comm]
    exact or_or_or_comm
  room_after _ := rfl

/-- The indexes can be built exactly if no two peers clash. -/
theorem rebuildEndpointIndex_ok (dp : UdpDataPlane) :
    dp.rebuildEndpointIndex.1 = .ok () ↔
      ∀ ip ip' peer peer', dp.peersByVirtualIp.lookup ip = some peer →
        dp.peersByVirtualIp.lookup ip' = some peer' → ip ≠ ip' →
          ¬IndexClash dp.relayManager peer peer' := by
  have hloop := (indexPeer_loop dp.relayManager).foldlM_ok dp.peersByVirtualIp.entries (∅, ∅)
  have hresult : dp.rebuildEndpointIndex.1 = .ok () ↔ ∃ index,
      dp.peersByVirtualIp.entries.foldlM (indexPeer dp.relayManager) (∅, ∅) = .ok index := by
    unfold UdpDataPlane.rebuildEndpointIndex
    cases dp.peersByVirtualIp.entries.foldlM (indexPeer dp.relayManager) (∅, ∅) with
    | error e => simp
    | ok index => simp
  rw [hresult, hloop]
  have hsymm : Std.Symm fun a b : Sigma fun _ : Ipv4Addr => Peer =>
      ¬IndexClash dp.relayManager a.2 b.2 := by
    refine ⟨fun a b hnot hclash => ?_⟩
    rcases hclash with hid | ⟨endpoint, ha, hb⟩
    · exact hnot (Or.inl hid.symm)
    · exact hnot (Or.inr ⟨endpoint, hb, ha⟩)
  constructor
  · rintro ⟨⟨_, hpair, _⟩, _⟩ ip ip' peer peer' hl hl' hne
    exact hpair.forall (lookup_eq_some.mp hl) (lookup_eq_some.mp hl') fun heq =>
      hne (congrArg Sigma.fst heq)
  · intro hapart
    refine ⟨⟨fun _ _ => trivial, ?_, fun _ _ => by simp⟩, by simp⟩
    refine dp.peersByVirtualIp.nodupKeys.nodup.pairwise_of_forall_ne fun a ha b hb hne => ?_
    exact hapart a.1 b.1 a.2 b.2 (lookup_eq_some.mpr ha) (lookup_eq_some.mpr hb) fun heq =>
      hne (dp.peersByVirtualIp.nodupKeys.eq_of_fst_eq ha hb heq)

namespace Peer

def failRelayPaths (peer : Peer) (failedEndpoints : List SocketAddr) (now : Nat) : Peer :=
  failedEndpoints.foldl (fun peer endpoint => peer.failRelayPath endpoint now) peer

theorem failRelayPath_of_ne {peer : Peer} {endpoint : SocketAddr}
    (h : peer.activeEndpoint ≠ some endpoint) (now : Nat) : peer.failRelayPath endpoint now = peer :=
  if_pos h

/-- A failed relay takes a peer to one of its candidates, and a session with it. -/
theorem failRelayPath_keeps (peer : Peer) (endpoint : SocketAddr) (now : Nat) :
    (peer.failRelayPath endpoint now).nodeId = peer.nodeId ∧
      (peer.failRelayPath endpoint now).candidates = peer.candidates ∧
      (peer.state.isEstablished = true → (peer.failRelayPath endpoint now).state = peer.state) ∧
      (peer.state.isEstablished = false →
        (peer.failRelayPath endpoint now).state.isEstablished = false) := by
  unfold failRelayPath
  split
  next => exact ⟨rfl, rfl, fun _ => rfl, id⟩
  next =>
    dsimp only
    cases hstate : peer.state.isEstablished with
    | true => exact ⟨rfl, rfl, fun _ => rfl, fun h => absurd h (by decide)⟩
    | false => exact ⟨rfl, rfl, fun h => absurd h (by decide), fun _ => rfl⟩

theorem failRelayPath_active {peer : Peer} {endpoint : SocketAddr}
    (h : peer.activeEndpoint = some endpoint) (now : Nat) {active : SocketAddr}
    (hactive : (peer.failRelayPath endpoint now).activeEndpoint = some active) :
    active ∈ peer.candidates.map EndpointCandidate.endpoint := by
  obtain ⟨next, hafter, hmem, _⟩ := failRelayPath_chooses h now
  rw [hafter] at hactive
  obtain ⟨candidate, hc, rfl⟩ := Option.map_eq_some_iff.mp hactive
  exact List.mem_map_of_mem (hmem candidate hc).1

theorem failRelayPaths_keeps (peer : Peer) (failedEndpoints : List SocketAddr) (now : Nat) :
    (peer.failRelayPaths failedEndpoints now).nodeId = peer.nodeId ∧
      (peer.failRelayPaths failedEndpoints now).candidates = peer.candidates ∧
      (peer.state.isEstablished = true →
        (peer.failRelayPaths failedEndpoints now).state = peer.state) ∧
      (peer.state.isEstablished = false →
        (peer.failRelayPaths failedEndpoints now).state.isEstablished = false) := by
  induction failedEndpoints generalizing peer with
  | nil => exact ⟨rfl, rfl, fun _ => rfl, id⟩
  | cons endpoint failedEndpoints ih =>
    obtain ⟨hid, hcandidates, hkept, hnot⟩ := peer.failRelayPath_keeps endpoint now
    obtain ⟨hids, hcandidatess, hkepts, hnots⟩ := ih (peer.failRelayPath endpoint now)
    refine ⟨hids.trans hid, hcandidatess.trans hcandidates, fun h => ?_, fun h => hnots (hnot h)⟩
    have hstate := hkept h
    exact (hkepts (by rw [hstate]; exact h)).trans hstate

/-- Whoever is on a failed path, or on the path of a candidate, ends on the path of a candidate. -/
theorem failRelayPaths_active {peer : Peer} {failedEndpoints : List SocketAddr} {now : Nat}
    {active : SocketAddr}
    (hactive : (peer.failRelayPaths failedEndpoints now).activeEndpoint = some active) :
    active ∈ peer.candidates.map EndpointCandidate.endpoint ∨
      (peer.activeEndpoint = some active ∧ active ∉ failedEndpoints) := by
  induction failedEndpoints generalizing peer with
  | nil => exact Or.inr ⟨hactive, List.not_mem_nil⟩
  | cons endpoint failedEndpoints ih =>
    have hcandidates := (peer.failRelayPath_keeps endpoint now).2.1
    by_cases hne : peer.activeEndpoint = some endpoint
    · rcases @ih (peer.failRelayPath endpoint now) hactive with hmem | ⟨hlast, _⟩
      · rw [hcandidates] at hmem
        exact Or.inl hmem
      · exact Or.inl (failRelayPath_active hne now hlast)
    · have hsame := failRelayPath_of_ne hne now
      rcases @ih (peer.failRelayPath endpoint now) hactive with hmem | ⟨hlast, hnot⟩
      · rw [hcandidates] at hmem
        exact Or.inl hmem
      · rw [hsame] at hlast
        refine Or.inr ⟨hlast, fun hmem => ?_⟩
        rcases List.mem_cons.mp hmem with rfl | hmem
        · exact hne hlast
        · exact hnot hmem

theorem failRelayPaths_of_notMem {peer : Peer} {failedEndpoints : List SocketAddr}
    (h : ∀ endpoint ∈ failedEndpoints, peer.activeEndpoint ≠ some endpoint) (now : Nat) :
    peer.failRelayPaths failedEndpoints now = peer := by
  induction failedEndpoints with
  | nil => rfl
  | cons endpoint failedEndpoints ih =>
    obtain ⟨hfirst, hrest⟩ := List.forall_mem_cons.mp h
    show (peer.failRelayPath endpoint now).failRelayPaths failedEndpoints now = peer
    rw [failRelayPath_of_ne hfirst]
    exact ih hrest

theorem replaceCandidates_keeps (peer : Peer) (candidates : List EndpointCandidate) (now : Nat) :
    (peer.replaceCandidates candidates now).nodeId = peer.nodeId ∧
      (peer.replaceCandidates candidates now).candidates = candidates ∧
      (peer.state.isEstablished = true →
        (peer.replaceCandidates candidates now).state = peer.state ∧
          (peer.replaceCandidates candidates now).activeEndpoint = peer.activeEndpoint) ∧
      (peer.state.isEstablished = false →
        (peer.replaceCandidates candidates now).state.isEstablished = false) := by
  unfold replaceCandidates
  dsimp only
  split
  next =>
    cases hstate : peer.state.isEstablished with
    | true => exact ⟨rfl, rfl, fun _ => ⟨rfl, rfl⟩, fun h => absurd h (by decide)⟩
    | false => exact ⟨rfl, rfl, fun h => absurd h (by decide), fun _ => rfl⟩
  next => exact ⟨rfl, rfl, fun _ => ⟨rfl, rfl⟩, id⟩

theorem mem_of_hasEndpoint {peer : Peer} {endpoint : SocketAddr}
    (h : peer.hasEndpoint endpoint = true) :
    endpoint ∈ peer.candidates.map EndpointCandidate.endpoint := by
  obtain ⟨candidate, hmem, heq⟩ := List.any_eq_true.mp h
  exact List.mem_map.mpr ⟨candidate, hmem, of_decide_eq_true heq⟩

/-- A session survives the update of its peer while the policy stays; a peer without one is on the
path of a candidate afterwards. -/
theorem applyConfiguration_keeps (peer : Peer) (candidates : List EndpointCandidate)
    (policyChanged : Bool) (now : Nat) :
    (peer.applyConfiguration candidates policyChanged now).nodeId = peer.nodeId ∧
      (peer.applyConfiguration candidates policyChanged now).candidates = candidates ∧
      (peer.state.isEstablished = true → policyChanged = false →
        (peer.applyConfiguration candidates policyChanged now).state = peer.state ∧
          (peer.applyConfiguration candidates policyChanged now).activeEndpoint =
            peer.activeEndpoint) ∧
      (peer.state.isEstablished = false ∨ policyChanged = true →
        (peer.applyConfiguration candidates policyChanged now).state.isEstablished = false ∧
          ∀ active, (peer.applyConfiguration candidates policyChanged now).activeEndpoint =
            some active → active ∈ candidates.map EndpointCandidate.endpoint) := by
  obtain ⟨cleared, hc⟩ : ∃ cleared : Peer,
    cleared = (if policyChanged then peer.clearQueue else peer) := ⟨_, rfl⟩
  obtain ⟨replaced, hr⟩ : ∃ replaced, replaced = cleared.replaceCandidates candidates now := ⟨_, rfl⟩
  have hclearedId : cleared.nodeId = peer.nodeId := by
    rw [hc]
    split <;> rfl
  obtain ⟨hid, hcandidates, hkept, hnot⟩ := cleared.replaceCandidates_keeps candidates now
  rw [← hr] at hid hcandidates hkept hnot
  have hstays : peer.state.isEstablished = true → policyChanged = false → cleared = peer := by
    intro _ hpolicy
    rw [hc, hpolicy]
    rfl
  have hleaves : peer.state.isEstablished = false ∨ policyChanged = true →
      replaced.state.isEstablished = false := by
    intro hcond
    refine hnot ?_
    rw [hc]
    split
    next => rfl
    next hpolicy => exact hcond.resolve_right hpolicy
  unfold applyConfiguration
  dsimp only
  rw [← hc, ← hr]
  split
  next hoff =>
    rw [Bool.not_eq_true'] at hoff
    refine ⟨hid.trans hclearedId, hcandidates, fun he hp => ?_, fun _ => ⟨hoff.1, fun active h => ?_⟩⟩
    · have hsame := hstays he hp
      subst hsame
      rw [(hkept he).1, he] at hoff
      exact absurd hoff.1 (by decide)
    · obtain ⟨candidate, hfirst, rfl⟩ := Option.map_eq_some_iff.mp h
      rw [hcandidates] at hfirst
      exact List.mem_map_of_mem (List.mem_of_mem_head? hfirst)
  next hon =>
    refine ⟨hid.trans hclearedId, hcandidates, fun he hp => ?_, fun hcond => ⟨hleaves hcond, ?_⟩⟩
    · have hsame := hstays he hp
      subst hsame
      exact hkept he
    · intro active hactive
      rw [hleaves hcond, hactive] at hon
      simp only [Bool.not_false, Option.all_some, true_and, Bool.not_eq_true', Bool.not_eq_false]
        at hon
      rw [← hcandidates]
      exact mem_of_hasEndpoint hon

end Peer

theorem lookup_failRelayPaths (peers : Map Ipv4Addr Peer) (failedEndpoints : List SocketAddr)
    (now : Nat) (ip : Ipv4Addr) :
    (failRelayPaths peers failedEndpoints now).lookup ip =
      (peers.lookup ip).map fun peer => peer.failRelayPaths failedEndpoints now := by
  induction failedEndpoints generalizing peers with
  | nil =>
    show peers.lookup ip = (peers.lookup ip).map fun peer => peer
    simp
  | cons endpoint failedEndpoints ih =>
    show (failRelayPaths (failRelayPath peers endpoint now) failedEndpoints now).lookup ip = _
    rw [ih, failRelayPath, lookup_mapWithKey, Option.map_map]
    rfl

theorem lookup_replacePeers (dp : UdpDataPlane) (desired : Map SocketAddr RelayClient)
    (peers : Map Ipv4Addr Peer) (changed : Bool) (reads : ConfigurationReads) (ip : Ipv4Addr) :
    (dp.replacePeers desired peers changed reads).peersByVirtualIp.lookup ip =
      (peers.lookup ip).map fun replacement =>
        (UdpDataPlane.adoptPeer (dp.peersByVirtualIp.lookup ip) replacement changed
          reads.instant).failRelayPaths
            (RelayManager.failedEndpoints dp.relayManager.clients desired) reads.failoverInstant := by
  unfold UdpDataPlane.replacePeers
  dsimp only
  rw [lookup_failRelayPaths, lookup_mapWithKey, Option.map_map]
  rfl

/-- A peer as a new directory holds it: without a session, on the path of its first candidate. -/
structure Fresh (desired : Map SocketAddr RelayClient) (peer : Peer) : Prop where
  idle : peer.state = .idle
  active : peer.activeEndpoint = peer.firstEndpoint
  relays : ∀ candidate ∈ peer.candidates, candidate.kind = .relay →
    normalizeEndpoint candidate.endpoint ∈ desired

theorem normalizeEndpoint_idem (endpoint : SocketAddr) :
    normalizeEndpoint (normalizeEndpoint endpoint) = normalizeEndpoint endpoint := by
  cases endpoint with
  | v4 e => rfl
  | v6 e =>
    unfold normalizeEndpoint
    dsimp only
    cases hmapped : e.ip.toIpv4Mapped with
    | none => simp only [hmapped]
    | some address => rfl

theorem normalized_relayClients {c : Crypto} {f : Formats} {relays : List ConfigurationRelay}
    {now : Nat} {utcNow : Int} {desired : Map SocketAddr RelayClient}
    (h : relayClients c f relays now utcNow = .ok desired) {endpoint : SocketAddr}
    (hmem : endpoint ∈ desired) : normalizeEndpoint endpoint = endpoint := by
  obtain ⟨client, hl⟩ := mem_iff_lookup.mp hmem
  obtain ⟨relay, _, rfl, _⟩ := RelayManager.mem_relayClients h hl
  exact normalizeEndpoint_idem relay.endpoint

section Directory

variable {c : Crypto} {f : Formats} {dp : UdpDataPlane} {state : NodeState} {reads : ConfigurationReads}
  {desired : Map SocketAddr RelayClient} {directory : PeerDirectory}

theorem mem_candidates_endpoint {manager : RelayManager} {candidate : EndpointCandidate}
    (h : candidate ∈ manager.candidates) :
    ∃ key client, manager.clients.lookup key = some client ∧ candidate.endpoint = client.endpoint := by
  obtain ⟨⟨client, index⟩, hmem, rfl⟩ := List.mem_map.mp h
  have hsorted := List.mem_of_mem_take (List.fst_mem_of_mem_zipIdx hmem)
  obtain ⟨entry, hentry, rfl⟩ := List.mem_map.mp ((List.mem_insertionSort _).mp hsorted)
  exact ⟨entry.1, entry.2, lookup_eq_some.mpr hentry, rfl⟩

theorem fresh_of_newDirectory
    (hdesired : relayClients c f state.configurationPayload.relays reads.relayInstant reads.relayUtc =
      .ok desired)
    (h : dp.newDirectory f state desired reads = .ok directory) {ip : Ipv4Addr} {peer : Peer}
    (hl : directory.peers.lookup ip = some peer) : Fresh desired peer := by
  obtain ⟨node, _, henters⟩ := ((buildPeerDirectory_contents h).2 ip peer).mp hl
  obtain ⟨directEndpoints, _, hpeer⟩ := henters.entered
  rw [hpeer]
  refine ⟨rfl, rfl, fun candidate hmem hkind => ?_⟩
  rcases List.mem_append.mp hmem with hdirect | hrelay
  · exact absurd hkind (directCandidates_kind hdirect)
  · obtain ⟨key, client, hclient, heq⟩ := mem_candidates_endpoint (List.mem_of_mem_take hrelay)
    have hkey := RelayManager.keyed_relayClients hdesired hclient
    have hin : key ∈ desired := mem_iff_lookup.mpr ⟨client, hclient⟩
    rw [heq, hkey, normalized_relayClients hdesired hin]
    exact hin

end Directory

/-- What becomes of a place of the directory: the session there goes on if its node stays and the
policy does, and otherwise the peer starts anew on one of its candidates. -/
theorem adoptPeer_keeps {desired : Map SocketAddr RelayClient} {replacement : Peer}
    (hfresh : Fresh desired replacement) (existing : Option Peer) (policyChanged : Bool) (now : Nat) :
    (UdpDataPlane.adoptPeer existing replacement policyChanged now).nodeId = replacement.nodeId ∧
      (UdpDataPlane.adoptPeer existing replacement policyChanged now).candidates =
        replacement.candidates ∧
      ((∃ peer, existing = some peer ∧ peer.nodeId = replacement.nodeId ∧
          peer.state.isEstablished = true ∧ policyChanged = false ∧
          (UdpDataPlane.adoptPeer existing replacement policyChanged now).state = peer.state ∧
          (UdpDataPlane.adoptPeer existing replacement policyChanged now).activeEndpoint =
            peer.activeEndpoint) ∨
        ((∀ peer, existing = some peer → peer.nodeId = replacement.nodeId →
            peer.state.isEstablished = true → policyChanged = true) ∧
          (UdpDataPlane.adoptPeer existing replacement policyChanged now).state.isEstablished =
            false ∧
          ∀ active, (UdpDataPlane.adoptPeer existing replacement policyChanged now).activeEndpoint =
            some active → active ∈ replacement.candidates.map EndpointCandidate.endpoint)) := by
  have hnew : replacement.state.isEstablished = false ∧
      ∀ active, replacement.activeEndpoint = some active →
        active ∈ replacement.candidates.map EndpointCandidate.endpoint := by
    rw [hfresh.idle, hfresh.active]
    refine ⟨rfl, fun active h => ?_⟩
    obtain ⟨candidate, hfirst, rfl⟩ := Option.map_eq_some_iff.mp h
    exact List.mem_map_of_mem (List.mem_of_mem_head? hfirst)
  unfold UdpDataPlane.adoptPeer
  cases existing with
  | none => exact ⟨rfl, rfl, Or.inr ⟨fun peer h => by simp at h, hnew⟩⟩
  | some peer =>
    dsimp only
    split
    next hid =>
      obtain ⟨hsame, hcandidates, hkept, hstarts⟩ :=
        peer.applyConfiguration_keeps replacement.candidates policyChanged now
      refine ⟨hsame.trans hid, hcandidates, ?_⟩
      by_cases hstays : peer.state.isEstablished = true ∧ policyChanged = false
      · exact Or.inl ⟨peer, rfl, hid, hstays.1, hstays.2, hkept hstays.1 hstays.2⟩
      · have hcond : peer.state.isEstablished = false ∨ policyChanged = true := by
          rw [not_and_or, Bool.not_eq_true, Bool.not_eq_false] at hstays
          exact hstays
        refine Or.inr ⟨fun other heq _ he => ?_, hstarts hcond⟩
        cases heq
        exact hcond.resolve_left (by simp [he])
    next hid =>
      refine ⟨rfl, rfl, Or.inr ⟨fun other heq hsame => ?_, hnew⟩⟩
      cases heq
      exact absurd hsame hid

end XsNexus
