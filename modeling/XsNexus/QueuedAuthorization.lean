import XsNexus.CompiledRoutes
import XsNexus.FailedUpdate
import XsNexus.QueuedPackets
import XsNexus.RouteConflicts

namespace XsNexus

open ByteCodec Checks FiniteMap Runs

/-- The flow of a packet that is on its way to the peer at `ip`. -/
structure LeadsTo (dp : UdpDataPlane) (flow : Ipv4Flow) (now : Int) (ip : Ipv4Addr) : Prop where
  allowed : dp.flowAllowed flow = true
  present : ip ∈ dp.peersByVirtualIp
  path : (flow.destination = ip ∧ (flow.source = dp.material.virtualIp ∨
      (dp.subnetRoutes.localGatewayRoute dp.localNodeIdBase64 flow.source).isSome = true)) ∨
    (flow.destination ∉ dp.peersByVirtualIp ∧ flow.source = dp.material.virtualIp ∧
      ∃ route, dp.subnetRoutes.resolveDestination flow.destination now = some route ∧
        route.gatewayVirtualIp = ip)

def RouteLasts (policy : SubnetRoutePolicy) (destination : Ipv4Addr) (before now : Int) : Prop :=
  ∀ route ∈ policy.resolveDestination destination before,
    policy.gatewayAvailable route.gatewayNodeIdBase64 now = true ∧
      ∀ other ∈ policy.routes, other.subnetPrefix.contains destination = true →
        route.priority < other.priority →
          policy.gatewayAvailable other.gatewayNodeIdBase64 now = false

instance (policy : SubnetRoutePolicy) (destination : Ipv4Addr) (before now : Int) :
    Decidable (RouteLasts policy destination before now) := by
  unfold RouteLasts
  infer_instance

theorem RouteLasts.resolves {policy : SubnetRoutePolicy} {destination : Ipv4Addr}
    {before now : Int} (h : RouteLasts policy destination before now) (hordered : RoutesOrdered policy.routes)
    {route : CompiledSubnetRoute}
    (hroute : policy.resolveDestination destination before = some route) :
    policy.resolveDestination destination now = some route := by
  obtain ⟨havailable, hover⟩ := h route hroute
  obtain ⟨hmem, hcontains, _, _⟩ :=
    (SubnetRoutePolicy.resolveDestination_eq_some_iff hordered).mp hroute
  refine (SubnetRoutePolicy.resolveDestination_eq_some_iff hordered).mpr
    ⟨hmem, hcontains, havailable, fun other hother hin hup => ?_⟩
  by_contra hnot
  obtain ⟨hne, hpriority⟩ := not_or.mp hnot
  have hsame := hordered.prefix_eq hother hmem hin hcontains
  have hapart := hordered.apart.forall hother hmem hne
  have hpriorities := hapart.priority hsame
  have hless : route.priority < other.priority := by
    rcases UInt32.lt_or_lt_of_ne hpriorities with hlt | hlt
    · exact absurd hlt hpriority
    · exact hlt
  rw [hover other hother hin hless] at hup
  cases hup

theorem LeadsTo.lasts {dp : UdpDataPlane} {flow : Ipv4Flow} {before now : Int} {ip : Ipv4Addr}
    (h : LeadsTo dp flow before ip)
    (hordered : RoutesOrdered dp.subnetRoutes.routes)
    (hlast : flow.destination ∉ dp.peersByVirtualIp →
      RouteLasts dp.subnetRoutes flow.destination before now) : LeadsTo dp flow now ip := by
  refine ⟨h.allowed, h.present, ?_⟩
  rcases h.path with hpath | ⟨hmem, hsource, route, hroute, hip⟩
  · exact Or.inl hpath
  · exact Or.inr ⟨hmem, hsource, route, (hlast hmem).resolves hordered hroute, hip⟩

def DataPlaneOp.readAt (utcNow : Int) : DataPlaneOp → DataPlaneOp
  | .forwardTun packet reads => .forwardTun packet { reads with routeUtc := utcNow }
  | op => op

namespace UdpDataPlane

/-- The peer `forward_tun` sends a packet to, or queues it for. -/
def authorizedPeer (dp : UdpDataPlane) (packet : Bytes) (utcNow : Int) : Option Ipv4Addr :=
  if packet.length > maxEncryptedPayloadLength then none
  else do
    let flow ← ipv4Flow packet
    if !dp.flowAllowed flow then none
    else
      let destination ← dp.tunDestination flow utcNow
      if destination.1 ∈ dp.peersByVirtualIp then some destination.1 else none

/-- The peer to which `receive` gives a datagram, with the packet it finds in it. -/
def inboundPacket (c : Crypto) (dp : UdpDataPlane) (source : SocketAddr) (datagram : Bytes)
    (reads : ReceiveReads) : Option (Ipv4Addr × Peer × Bytes) :=
  if CandidateManager.handlesDiscoveryResponse datagram then none
  else do
    let unixNow ← reads.unixTime
    let inbound ←
      (dp.resolveInboundPeer c (normalizeEndpoint source) datagram reads.instant unixNow).1
    let peer ← dp.peersByVirtualIp.lookup inbound.virtualIp
    some (inbound.virtualIp, peer, inbound.relayPayload.getD datagram)

/-- The packets of the queue of a peer that `install_session` takes up in one call. -/
def sealedPackets (c : Crypto) (dp : UdpDataPlane) : DataPlaneOp → List (Ipv4Addr × QueuedPacket)
  | .receive source datagram reads =>
    match dp.inboundPacket c source datagram reads with
    | none => []
    | some (ip, peer, packet) => (peer.sealedPackets c packet).map fun queued => (ip, queued)
  | _ => []

def applyAt (c : Crypto) (f : Formats) (s : UdpDataPlane × Int) (call : Int × DataPlaneOp) :
    DataPlaneOutput × UdpDataPlane × Int :=
  let outcome := s.1.apply c f (call.2.readAt call.1)
  (outcome.1, outcome.2, call.1)

/-- The routes of the queued packets that leave through a gateway last. -/
def RoutesLast (dp : UdpDataPlane) (before now : Int) : Prop :=
  ∀ p ∈ dp.queued, ∀ flow ∈ ipv4Flow p.2.encoded, flow.destination ∉ dp.peersByVirtualIp →
    RouteLasts dp.subnetRoutes flow.destination before now

instance (dp : UdpDataPlane) (before now : Int) : Decidable (dp.RoutesLast before now) := by
  unfold RoutesLast
  infer_instance

structure Reconfigures (c : Crypto) (f : Formats) (dp : UdpDataPlane) (state : NodeState)
    (reads : ConfigurationReads) (aclPolicy : AclPolicy) (subnetRoutes : SubnetRoutePolicy)
    (desired : Map SocketAddr RelayClient) (directory : PeerDirectory) : Prop where
  acl : compileAcl f state = .ok aclPolicy
  routes : compileSubnetRoutes f state = .ok subnetRoutes
  relays : relayClients c f state.configurationPayload.relays reads.relayInstant reads.relayUtc =
    .ok desired
  peers : dp.newDirectory f state desired reads = .ok directory

def StaysQueued (dp : UdpDataPlane) (directory : PeerDirectory) (ip : Ipv4Addr)
    (packet : QueuedPacket) : Prop :=
  ∃ peer replacement, dp.peersByVirtualIp.lookup ip = some peer ∧
    directory.peers.lookup ip = some replacement ∧ peer.nodeId = replacement.nodeId ∧
    packet ∈ peer.queuedPackets

structure StillLeads (dp : UdpDataPlane) (aclPolicy : AclPolicy) (subnetRoutes : SubnetRoutePolicy)
    (flow : Ipv4Flow) (now : Int) (ip : Ipv4Addr) : Prop where
  allowed : (aclPolicy.evaluate flow.source flow.destination flow.protocol
    flow.destinationPort).allowed = true
  gateway : flow.destination = ip → flow.source ≠ dp.material.virtualIp →
    (subnetRoutes.localGatewayRoute dp.localNodeIdBase64 flow.source).isSome = true
  route : flow.destination ≠ ip →
    ∃ route, subnetRoutes.resolveDestination flow.destination now = some route ∧
      route.gatewayVirtualIp = ip

/-- A configuration of the same policy version does not turn a packet it leaves in a queue away from
its peer. -/
structure UpdateKeeps (c : Crypto) (f : Formats) (dp : UdpDataPlane) (before now : Int)
    (state : NodeState) (reads : ConfigurationReads) : Prop where
  destination : ∀ aclPolicy subnetRoutes desired directory,
    Reconfigures c f dp state reads aclPolicy subnetRoutes desired directory →
    state.configurationPayload.policyVersion = dp.policyVersion →
    ∀ ip packet flow, dp.StaysQueued directory ip packet → ipv4Flow packet.encoded = some flow →
      flow.destination = ip ∨ flow.destination ∉ directory.peers
  policies : ∀ aclPolicy subnetRoutes desired directory,
    Reconfigures c f dp state reads aclPolicy subnetRoutes desired directory →
    ¬Contested dp state desired directory →
    state.configurationPayload.policyVersion = dp.policyVersion →
    ∀ ip packet flow, dp.StaysQueued directory ip packet → ipv4Flow packet.encoded = some flow →
      dp.StillLeads aclPolicy subnetRoutes flow now ip
  routes : (¬∃ aclPolicy subnetRoutes desired directory,
      Reconfigures c f dp state reads aclPolicy subnetRoutes desired directory ∧
        ¬Contested dp state desired directory) →
    dp.RoutesLast before now

/-- No packet stays in a queue that would not be taken up again. -/
def StaysAuthorized (c : Crypto) (f : Formats) (s : UdpDataPlane × Int) (call : Int × DataPlaneOp) :
    Prop :=
  match call.2 with
  | .applyConfiguration state reads => s.1.UpdateKeeps c f s.2 call.1 state reads
  | _ => s.1.RoutesLast s.2 call.1

section Decision

variable {dp : UdpDataPlane} {packet : Bytes} {now : Int} {ip : Ipv4Addr}

theorem tunDestination_eq_some {flow : Ipv4Flow} {routed : Bool}
    (h : dp.tunDestination flow now = some (ip, routed)) :
    (flow.destination ∈ dp.peersByVirtualIp ∧ flow.destination = ip ∧
      (flow.source = dp.material.virtualIp ∨
        (dp.subnetRoutes.localGatewayRoute dp.localNodeIdBase64 flow.source).isSome = true)) ∨
    (flow.destination ∉ dp.peersByVirtualIp ∧ flow.source = dp.material.virtualIp ∧
      ∃ route, dp.subnetRoutes.resolveDestination flow.destination now = some route ∧
        route.gatewayVirtualIp = ip) := by
  unfold tunDestination at h
  split at h
  next hmem =>
    split at h
    next => simp at h
    next hsource =>
      have hip : flow.destination = ip := congrArg Prod.fst (Option.some.inj h)
      refine Or.inl ⟨hmem, hip, ?_⟩
      by_cases hlocal : flow.source = dp.material.virtualIp
      · exact Or.inl hlocal
      · rw [← Option.ne_none_iff_isSome]
        exact Or.inr fun hnone => hsource ⟨hlocal, hnone⟩
  next hmem =>
    split at h
    next => simp at h
    next hsource =>
      obtain ⟨route, hroute, heq⟩ := Option.map_eq_some_iff.mp h
      have hip : route.gatewayVirtualIp = ip := congrArg Prod.fst heq
      exact Or.inr ⟨hmem, not_not.mp hsource, route, hroute, hip⟩

theorem tunDestination_of_leadsTo {flow : Ipv4Flow} (h : LeadsTo dp flow now ip) :
    ∃ routed, dp.tunDestination flow now = some (ip, routed) := by
  unfold tunDestination
  rcases h.path with ⟨hip, hsource⟩ | ⟨hmem, hsource, route, hroute, hip⟩
  · have hpresent := h.present
    rw [← hip] at hpresent
    have hpass : ¬(flow.source ≠ dp.material.virtualIp ∧
        dp.subnetRoutes.localGatewayRoute dp.localNodeIdBase64 flow.source = none) := by
      rintro ⟨hforeign, hnone⟩
      rcases hsource with hlocal | hsome
      · exact hforeign hlocal
      · rw [hnone] at hsome
        cases hsome
    rw [if_pos hpresent, if_neg hpass, hip]
    exact ⟨_, rfl⟩
  · rw [if_neg hmem, if_neg (not_not.mpr hsource), hroute]
    exact ⟨true, by rw [Option.map_some, hip]⟩

theorem authorizedPeer_eq_some_iff : dp.authorizedPeer packet now = some ip ↔
    packet.length ≤ maxEncryptedPayloadLength ∧
      ∃ flow, ipv4Flow packet = some flow ∧ LeadsTo dp flow now ip := by
  unfold authorizedPeer
  constructor
  · intro h
    split at h
    next => simp at h
    next hlength =>
      obtain ⟨flow, hflow, h⟩ := Option.bind_eq_some_iff.mp h
      refine ⟨by omega, flow, hflow, ?_⟩
      split at h
      next => simp at h
      next hallowed =>
        obtain ⟨⟨destination, routed⟩, hdestination, h⟩ := Option.bind_eq_some_iff.mp h
        dsimp only at h
        split at h
        next hpresent =>
          cases h
          refine ⟨by simpa using hallowed, hpresent, ?_⟩
          rcases tunDestination_eq_some hdestination with ⟨_, hpath⟩ | hpath
          · exact Or.inl hpath
          · exact Or.inr hpath
        next => simp at h
  · rintro ⟨hlength, flow, hflow, hleads⟩
    obtain ⟨routed, hdestination⟩ := tunDestination_of_leadsTo hleads
    have hallowed : ¬(!dp.flowAllowed flow) = true := by
      rw [hleads.allowed]
      decide
    rw [if_neg (by omega)]
    refine Option.bind_eq_some_iff.mpr ⟨flow, hflow, ?_⟩
    rw [if_neg hallowed]
    refine Option.bind_eq_some_iff.mpr ⟨_, hdestination, ?_⟩
    exact if_pos hleads.present

/-- The decision is the one of `forward_tun`: another packet is dropped. -/
theorem forwardPrepared_unauthorized {c : Crypto} {reads : ForwardReads}
    (h : dp.authorizedPeer packet reads.routeUtc = none) :
    dp.forwardPrepared c packet reads = (.ok .dropped, dp) := by
  unfold authorizedPeer at h
  unfold forwardPrepared
  split at h
  next hlength => rw [if_pos hlength]
  next hlength =>
    rw [if_neg hlength]
    cases hflow : ipv4Flow packet with
    | none => rfl
    | some flow =>
      rw [hflow] at h
      dsimp only [Option.bind_eq_bind, Option.bind_some] at h ⊢
      split at h
      next hdenied => rw [if_pos hdenied]
      next hallowed =>
        rw [if_neg hallowed]
        cases hdestination : dp.tunDestination flow reads.routeUtc with
        | none => rfl
        | some destination =>
          rw [hdestination] at h
          dsimp only [Option.bind_some] at h ⊢
          split at h
          next => simp at h
          next habsent =>
            rw [AList.lookup_eq_none.mpr habsent]

theorem forwardPrepared_authorized {c : Crypto} {reads : ForwardReads}
    (h : dp.authorizedPeer packet reads.routeUtc = some ip) :
    ∃ peer routed, dp.peersByVirtualIp.lookup ip = some peer ∧
      dp.forwardPrepared c packet reads =
        ((peer.forwardTun c dp.material packet routed reads.instant reads.hello).1,
          dp.putPeer ip
            (peer.forwardTun c dp.material packet routed reads.instant reads.hello).2) := by
  obtain ⟨hlength, flow, hflow, hleads⟩ := authorizedPeer_eq_some_iff.mp h
  obtain ⟨routed, hdestination⟩ := tunDestination_of_leadsTo hleads
  obtain ⟨peer, hl⟩ := mem_iff_lookup.mp hleads.present
  have hallowed : ¬(!dp.flowAllowed flow) = true := by
    rw [hleads.allowed]
    decide
  refine ⟨peer, routed, hl, ?_⟩
  unfold forwardPrepared
  rw [if_neg (by omega), hflow]
  dsimp only
  rw [if_neg hallowed, hdestination]
  dsimp only
  rw [hl]

end Decision

section Keeping

variable {c : Crypto} {f : Formats} {dp dp' : UdpDataPlane} {before now : Int} {ip : Ipv4Addr}

theorem authorizedPeer_lasts (hordered : RoutesOrdered dp.subnetRoutes.routes)
    (hlast : dp.RoutesLast before now) {packet : QueuedPacket} (hqueued : (ip, packet) ∈ dp.queued)
    (h : dp.authorizedPeer packet.encoded before = some ip) :
    dp.authorizedPeer packet.encoded now = some ip := by
  obtain ⟨hlength, flow, hflow, hleads⟩ := authorizedPeer_eq_some_iff.mp h
  refine authorizedPeer_eq_some_iff.mpr ⟨hlength, flow, hflow, hleads.lasts hordered ?_⟩
  exact hlast (ip, packet) hqueued flow hflow

theorem KeepsQueues.authorizedPeer {fresh : Ipv4Addr → QueuedPacket → Prop} (h : KeepsQueues fresh dp dp')
    (packet : Bytes) : dp'.authorizedPeer packet now = dp.authorizedPeer packet now := by
  have hleads : ∀ flow ip, LeadsTo dp' flow now ip ↔ LeadsTo dp flow now ip := by
    intro flow ip
    have hallowed : dp'.flowAllowed flow = dp.flowAllowed flow := by
      unfold flowAllowed
      rw [h.aclPolicy]
    constructor
    · rintro ⟨hflow, hpresent, hpath⟩
      rw [h.peers, h.material, h.subnetRoutes, h.localNodeIdBase64] at hpath
      exact ⟨hallowed ▸ hflow, (h.peers ip).mp hpresent, hpath⟩
    · rintro ⟨hflow, hpresent, hpath⟩
      rw [← h.peers, ← h.material, ← h.subnetRoutes, ← h.localNodeIdBase64] at hpath
      exact ⟨hallowed ▸ hflow, (h.peers ip).mpr hpresent, hpath⟩
  refine Option.ext fun ip => ?_
  rw [authorizedPeer_eq_some_iff, authorizedPeer_eq_some_iff]
  simp only [hleads]

theorem forwardPrepared_keepsQueues (dp : UdpDataPlane) (packet : Bytes) (reads : ForwardReads) :
    KeepsQueues (fun ip queuedPacket => dp.authorizedPeer queuedPacket.encoded reads.routeUtc = some ip) dp
      (dp.forwardPrepared c packet reads).2 := by
  cases hpeer : dp.authorizedPeer packet reads.routeUtc with
  | none =>
    rw [forwardPrepared_unauthorized hpeer]
    exact .refl dp
  | some ip =>
    obtain ⟨peer, routed, hl, heq⟩ := forwardPrepared_authorized (c := c) hpeer
    rw [heq]
    refine .putPeer hl fun queuedPacket hmem => ?_
    have hmem' := (peer.forwardTun_remembers c dp.material packet routed reads.instant
      reads.hello).queuedPackets hmem
    rcases List.mem_append.mp hmem' with hold | hnew
    · exact Or.inl hold
    · rw [List.mem_singleton.mp hnew]
      exact Or.inr hpeer

theorem forwardTun_keepsQueues (dp : UdpDataPlane) (packet : Bytes) (reads : ForwardReads) :
    KeepsQueues (fun ip queuedPacket => dp.authorizedPeer queuedPacket.encoded reads.routeUtc = some ip) dp
      (dp.forwardTun c packet reads).dataPlane := by
  have hprepared := forwardPrepared_keepsQueues (c := c) dp packet reads
  rw [forwardTun_eq]
  rcases hcall : dp.forwardPrepared c packet reads with ⟨outcome, prepared⟩
  rw [hcall] at hprepared
  cases outcome with
  | error e => exact hprepared
  | ok outcome =>
    cases outcome with
    | dropped => exact hprepared
    | queued => exact hprepared
    | sent established transmission => exact hprepared.trans (sendXsp_keepsQueues prepared transmission _)

/-- Every queued packet is one `forward_tun` would hand to the same peer at the time of the last
call. -/
structure QueuesAuthorized (s : UdpDataPlane × Int) : Prop where
  ordered : RoutesOrdered s.1.subnetRoutes.routes
  authorized : ∀ ip packet, (ip, packet) ∈ s.1.queued →
    s.1.authorizedPeer packet.encoded s.2 = some ip

/-- A call that takes the policies as they are keeps the queues authorised while the routes last. -/
theorem QueuesAuthorized.carries {s : UdpDataPlane × Int} (h : QueuesAuthorized s)
    (hlast : s.1.RoutesLast s.2 now)
    (hcarries : KeepsQueues (fun ip packet => s.1.authorizedPeer packet.encoded now = some ip) s.1 dp') :
    QueuesAuthorized (dp', now) := by
  refine ⟨?_, fun ip packet hmem => ?_⟩
  · rw [hcarries.subnetRoutes]
    exact h.ordered
  · rw [hcarries.authorizedPeer]
    rcases hcarries.queues hmem with hold | hfresh
    · exact authorizedPeer_lasts h.ordered hlast hold (h.authorized ip packet hold)
    · exact hfresh

end Keeping


end UdpDataPlane

theorem LeadsTo.still {dp : UdpDataPlane} {flow : Ipv4Flow} {now : Int} {ip : Ipv4Addr}
    (h : LeadsTo dp flow now ip) : dp.StillLeads dp.aclPolicy dp.subnetRoutes flow now ip := by
  refine ⟨h.allowed, fun heq hforeign => ?_, fun hne => ?_⟩
  · rcases h.path with ⟨_, hlocal | hgateway⟩ | ⟨_, hlocal, _⟩
    · exact absurd hlocal hforeign
    · exact hgateway
    · exact absurd hlocal hforeign
  · rcases h.path with ⟨heq, _⟩ | ⟨_, _, hroute⟩
    · exact absurd heq hne
    · exact hroute

namespace UdpDataPlane

section Updating

variable {c : Crypto} {f : Formats} {dp dp' : UdpDataPlane} {before now : Int} {ip : Ipv4Addr}
  {state : NodeState} {reads : ConfigurationReads} {aclPolicy aclPolicy' : AclPolicy}
  {subnetRoutes subnetRoutes' : SubnetRoutePolicy} {desired desired' : Map SocketAddr RelayClient}
  {directory directory' : PeerDirectory}

theorem Reconfigures.unique
    (h : Reconfigures c f dp state reads aclPolicy subnetRoutes desired directory)
    (h' : Reconfigures c f dp state reads aclPolicy' subnetRoutes' desired' directory') :
    desired = desired' ∧ directory = directory' := by
  have hdesired : desired = desired' := Except.ok.inj (h.relays.symm.trans h'.relays)
  subst hdesired
  exact ⟨rfl, Except.ok.inj (h.peers.symm.trans h'.peers)⟩

theorem Reconfigures.ordered
    (h : Reconfigures c f dp state reads aclPolicy subnetRoutes desired directory) :
    RoutesOrdered subnetRoutes.routes := by
  obtain ⟨pool, hcompiled⟩ := SubnetRoutePolicy.compiled_of_compile (mapError_ok.mp h.routes)
  exact hcompiled.ordered

/-- What an update leaves in the queues, of peers that stay under the same policy version. -/
theorem queued_replacePeers {changed : Bool}
    (hdirectory : dp.newDirectory f state desired reads = .ok directory) {packet : QueuedPacket}
    (h : (ip, packet) ∈ (dp.replacePeers desired directory.peers changed reads).queued) :
    changed = false ∧ dp.StaysQueued directory ip packet := by
  obtain ⟨after, hafter, hpacket⟩ := mem_queued.mp h
  rw [lookup_replacePeers] at hafter
  obtain ⟨replacement, hl, heq⟩ := Option.map_eq_some_iff.mp hafter
  have hnew : replacement.queuedPackets = [] := by
    obtain ⟨node, _, henters⟩ := ((buildPeerDirectory_contents hdirectory).2 ip replacement).mp hl
    obtain ⟨directEndpoints, _, hpeer⟩ := henters.entered
    rw [hpeer]
    rfl
  rw [← heq] at hpacket
  have hadopted := Peer.failRelayPaths_queue _ _ _ hpacket
  unfold adoptPeer at hadopted
  split at hadopted
  next =>
    rw [hnew] at hadopted
    simp at hadopted
  next existing hexisting =>
    split at hadopted
    next hid =>
      obtain ⟨hkeeps, hcleared⟩ :=
        existing.applyConfiguration_keepsQueue replacement.candidates changed reads.instant
      refine ⟨?_, existing, replacement, hexisting, hl, hid, hkeeps.remembers.queuedPackets hadopted⟩
      cases hchanged : changed with
      | false => rfl
      | true =>
        rw [hcleared hchanged] at hadopted
        simp at hadopted
    next =>
      rw [hnew] at hadopted
      simp at hadopted

theorem mem_replacePeers {changed : Bool} :
    ip ∈ (dp.replacePeers desired directory.peers changed reads).peersByVirtualIp ↔
      ip ∈ directory.peers := by
  rw [← AList.lookup_isSome, ← AList.lookup_isSome, lookup_replacePeers, Option.isSome_map]

theorem StaysQueued.queued {packet : QueuedPacket} (h : dp.StaysQueued directory ip packet) :
    (ip, packet) ∈ dp.queued ∧ ip ∈ directory.peers := by
  obtain ⟨peer, replacement, hl, hl', _, hpacket⟩ := h
  exact ⟨mem_queued.mpr ⟨peer, hl, hpacket⟩, mem_iff_lookup.mpr ⟨replacement, hl'⟩⟩

structure Replaced (dp : UdpDataPlane) (directory : PeerDirectory) (aclPolicy : AclPolicy)
    (subnetRoutes : SubnetRoutePolicy) (dp' : UdpDataPlane) : Prop where
  material : dp'.material = dp.material
  localNodeIdBase64 : dp'.localNodeIdBase64 = dp.localNodeIdBase64
  aclPolicy : dp'.aclPolicy = aclPolicy
  subnetRoutes : dp'.subnetRoutes = subnetRoutes
  peers : ∀ ip, ip ∈ dp'.peersByVirtualIp ↔ ip ∈ directory.peers

theorem StillLeads.leadsTo {flow : Ipv4Flow}
    (h : dp.StillLeads aclPolicy subnetRoutes flow now ip) (hbefore : LeadsTo dp flow before ip)
    (hreplaced : Replaced dp directory aclPolicy subnetRoutes dp') (hpresent : ip ∈ directory.peers)
    (hdestination : flow.destination = ip ∨ flow.destination ∉ directory.peers) :
    LeadsTo dp' flow now ip := by
  have hallowed : dp'.flowAllowed flow = true := by
    unfold flowAllowed
    rw [hreplaced.aclPolicy]
    exact h.allowed
  refine ⟨hallowed, (hreplaced.peers ip).mpr hpresent, ?_⟩
  rw [hreplaced.material, hreplaced.localNodeIdBase64, hreplaced.subnetRoutes]
  by_cases heq : flow.destination = ip
  · refine Or.inl ⟨heq, ?_⟩
    by_cases hlocal : flow.source = dp.material.virtualIp
    · exact Or.inl hlocal
    · exact Or.inr (h.gateway heq hlocal)
  · have habsent : flow.destination ∉ directory.peers := hdestination.resolve_left heq
    rcases hbefore.path with ⟨hsame, _⟩ | ⟨_, hlocal, _⟩
    · exact absurd hsame heq
    · exact Or.inr ⟨fun hmem => habsent ((hreplaced.peers _).mp hmem), hlocal, h.route heq⟩

theorem QueuesAuthorized.replaced {s : UdpDataPlane × Int} (h : QueuesAuthorized s)
    (hordered : RoutesOrdered subnetRoutes.routes)
    (hreplaced : Replaced s.1 directory aclPolicy subnetRoutes dp')
    (hqueued : ∀ ip packet, (ip, packet) ∈ dp'.queued → s.1.StaysQueued directory ip packet ∧
      ∀ flow, ipv4Flow packet.encoded = some flow → LeadsTo s.1 flow s.2 ip →
        s.1.StillLeads aclPolicy subnetRoutes flow now ip ∧
          (flow.destination = ip ∨ flow.destination ∉ directory.peers)) :
    QueuesAuthorized (dp', now) := by
  refine ⟨?_, fun ip packet hmem => ?_⟩
  · rw [hreplaced.subnetRoutes]
    exact hordered
  · obtain ⟨hstays, hpolicies⟩ := hqueued ip packet hmem
    obtain ⟨hbefore, hpresent⟩ := hstays.queued
    obtain ⟨hlength, flow, hflow, hleads⟩ :=
      authorizedPeer_eq_some_iff.mp (h.authorized ip packet hbefore)
    obtain ⟨hstill, hdestination⟩ := hpolicies flow hflow hleads
    exact authorizedPeer_eq_some_iff.mpr
      ⟨hlength, flow, hflow, hstill.leadsTo hleads hreplaced hpresent hdestination⟩

theorem policyChanged_eq_false :
    policyChanged dp state = false ↔ state.configurationPayload.policyVersion = dp.policyVersion := by
  unfold policyChanged
  rw [decide_eq_false_iff_not, not_not]

/-- An update keeps the queues authorised if it turns no packet away that it leaves in a queue. -/
theorem QueuesAuthorized.updated {s : UdpDataPlane × Int} (h : QueuesAuthorized s)
    (hkeeps : s.1.UpdateKeeps c f s.2 now state reads) :
    QueuesAuthorized ((s.1.applyConfiguration c f state reads).2, now) := by
  by_cases hparts : ∃ aclPolicy subnetRoutes desired, compileAcl f state = .ok aclPolicy ∧
    compileSubnetRoutes f state = .ok subnetRoutes ∧
    relayClients c f state.configurationPayload.relays reads.relayInstant reads.relayUtc = .ok desired
  case neg =>
    rw [(applyConfiguration_refused s.1 hparts).2]
    refine h.carries (hkeeps.routes ?_) (.refl s.1)
    rintro ⟨aclPolicy, subnetRoutes, desired, directory, hnew, _⟩
    exact hparts ⟨aclPolicy, subnetRoutes, desired, hnew.acl, hnew.routes, hnew.relays⟩
  obtain ⟨aclPolicy, subnetRoutes, desired, hacl, hroutes, hdesired⟩ := hparts
  rcases applyConfiguration_cases s.1 hacl hroutes hdesired with
    ⟨e, herror, hresult⟩ | ⟨directory, hdirectory, ⟨e, herror, hresult⟩ | ⟨hindexed, hresult⟩⟩
  · rw [hresult]
    refine h.carries (hkeeps.routes ?_) (.relayManager s.1 _)
    rintro ⟨_, _, desired', directory, hnew, _⟩
    have hsame : desired = desired' := Except.ok.inj (hdesired.symm.trans hnew.relays)
    subst hsame
    rw [hnew.peers] at herror
    cases herror
  · -- the peers are replaced, but the policies in force stay
    have hnew : Reconfigures c f s.1 state reads aclPolicy subnetRoutes desired directory :=
      ⟨hacl, hroutes, hdesired, hdirectory⟩
    have hcontested : Contested s.1 state desired directory := by
      by_contra hfree
      rw [(contested_iff hdesired hdirectory).mpr hfree] at herror
      cases herror
    have hlast : s.1.RoutesLast s.2 now := by
      refine hkeeps.routes ?_
      rintro ⟨_, _, desired', directory', hnew', hfree⟩
      obtain ⟨rfl, rfl⟩ := hnew.unique hnew'
      exact hfree hcontested
    rw [hresult]
    refine h.replaced h.ordered ⟨rfl, rfl, rfl, rfl, fun ip => mem_replacePeers⟩ ?_
    intro ip packet hmem
    obtain ⟨hpolicy, hstays⟩ := queued_replacePeers hdirectory hmem
    refine ⟨hstays, fun flow hflow hleads => ⟨?_, ?_⟩⟩
    · have hnow : LeadsTo s.1 flow now ip :=
        hleads.lasts h.ordered (hlast (ip, packet) hstays.queued.1 flow hflow)
      exact hnow.still
    · exact hkeeps.destination _ _ _ _ hnew (policyChanged_eq_false.mp hpolicy) ip packet flow hstays
        hflow
  · have hnew : Reconfigures c f s.1 state reads aclPolicy subnetRoutes desired directory :=
      ⟨hacl, hroutes, hdesired, hdirectory⟩
    have hfree : ¬Contested s.1 state desired directory :=
      (contested_iff hdesired hdirectory).mp hindexed
    have hindex : KeepsQueues (fun _ _ => False) _ _ := rebuildEndpointIndex_keepsQueues
      (s.1.replacePeers desired directory.peers (policyChanged s.1 state) reads)
    rw [hresult]
    refine h.replaced hnew.ordered ⟨hindex.material, hindex.localNodeIdBase64, rfl, rfl, fun ip =>
      (hindex.peers ip).trans mem_replacePeers⟩ ?_
    intro ip packet hmem
    have hmem' := (hindex.queues hmem).resolve_right id
    obtain ⟨hpolicy, hstays⟩ := queued_replacePeers hdirectory hmem'
    have hversion := policyChanged_eq_false.mp hpolicy
    refine ⟨hstays, fun flow hflow _ => ⟨?_, ?_⟩⟩
    · exact hkeeps.policies _ _ _ _ hnew hfree hversion ip packet flow hstays hflow
    · exact hkeeps.destination _ _ _ _ hnew hversion ip packet flow hstays hflow

theorem QueuesAuthorized.applied {s : UdpDataPlane × Int} (h : QueuesAuthorized s)
    {call : Int × DataPlaneOp} (hstays : StaysAuthorized c f s call) :
    QueuesAuthorized (applyAt c f s call).2 := by
  obtain ⟨now, op⟩ := call
  cases op with
  | forwardTun packet reads =>
    exact h.carries hstays (forwardTun_keepsQueues s.1 packet { reads with routeUtc := now })
  | receive source datagram reads =>
    exact h.carries hstays (receive_keepsQueues s.1 source datagram reads)
  | maintain reads => exact h.carries hstays (maintain_keepsQueues s.1 reads)
  | startManualPathProbe virtualIp instant reads send =>
    exact h.carries hstays (startManualPathProbe_keepsQueues s.1 virtualIp instant reads send)
  | applyConfiguration state reads => exact h.updated hstays

theorem queuesAuthorized_of_bind {identity : SigningKey} {start : Nat} {utcNow : Int}
    (h : UdpDataPlane.bind c f state identity start utcNow = .ok dp) :
    QueuesAuthorized (dp, utcNow) := by
  refine ⟨?_, fun ip packet hmem => ?_⟩
  · obtain ⟨parts, hparts, h⟩ := bind_ok.mp h
    cases h
    obtain ⟨material, _, hparts⟩ := bind_ok.mp hparts
    obtain ⟨relayManager, _, hparts⟩ := bind_ok.mp hparts
    obtain ⟨directory, _, hparts⟩ := bind_ok.mp hparts
    obtain ⟨aclPolicy, _, hparts⟩ := bind_ok.mp hparts
    obtain ⟨subnetRoutes, hroutes, hparts⟩ := bind_ok.mp hparts
    cases hparts
    obtain ⟨pool, hcompiled⟩ := SubnetRoutePolicy.compiled_of_compile (mapError_ok.mp hroutes)
    exact hcompiled.ordered
  · obtain ⟨peer, hl, hpacket⟩ := mem_queued.mp hmem
    obtain ⟨_, _, _, _, hnew⟩ := (bind_starts h).1 ip peer hl
    rw [hnew] at hpacket
    simp [newPeer] at hpacket

theorem inboundPacket_peer {source : SocketAddr} {datagram packet : Bytes} {reads : ReceiveReads}
    {peer : Peer} (h : dp.inboundPacket c source datagram reads = some (ip, peer, packet)) :
    dp.peersByVirtualIp.lookup ip = some peer := by
  unfold inboundPacket at h
  split at h
  next => simp at h
  next =>
    obtain ⟨unixNow, _, h⟩ := Option.bind_eq_some_iff.mp h
    obtain ⟨inbound, _, h⟩ := Option.bind_eq_some_iff.mp h
    obtain ⟨found, hl, h⟩ := Option.bind_eq_some_iff.mp h
    cases h
    exact hl

/-- The peer that finishes a handshake answers with what is sealed. -/
theorem receivePrepared_sealed {source : SocketAddr} {datagram packet : Bytes} {reads : ReceiveReads}
    {peer : Peer} {session : EstablishedSession}
    (h : dp.inboundPacket c source datagram reads = some (ip, peer, packet))
    (hfinished : peer.finishedSession c packet = some session) :
    ∃ received control, (dp.receivePrepared c source datagram reads).1 = .ok received ∧
      received.transmissions.map (fun transmission => transmission.2.2) = control ++
        ({ peer with state := .idle }.installSession c session reads.datagram.instant).1 := by
  unfold inboundPacket at h
  split at h
  next => simp at h
  next hdiscovery =>
    obtain ⟨unixNow, hclock, h⟩ := Option.bind_eq_some_iff.mp h
    obtain ⟨inbound, hinbound, h⟩ := Option.bind_eq_some_iff.mp h
    obtain ⟨found, hl, h⟩ := Option.bind_eq_some_iff.mp h
    cases h
    have hsnd := dp.resolveInboundPeer_snd (c := c) (normalizeEndpoint source) datagram reads.instant
      unixNow
    rcases hresolve : dp.resolveInboundPeer c (normalizeEndpoint source) datagram reads.instant
      unixNow with ⟨result, resolved⟩
    rw [hresolve] at hinbound hsnd
    dsimp only at hinbound hsnd
    subst hinbound
    have hl' : resolved.peersByVirtualIp.lookup inbound.virtualIp = some peer := by
      rw [hsnd]
      exact hl
    obtain ⟨control, houtbound, _⟩ := Peer.processDatagram_finished resolved.material
      hfinished (normalizeEndpoint source) reads.instant (resolved.subnetRoutes.permitsRoutedSession
        resolved.localNodeIdBase64 peer.nodeIdBase64) reads.datagram
    unfold receivePrepared
    dsimp only
    rw [if_neg hdiscovery, hclock]
    dsimp only
    rw [hresolve]
    dsimp only
    rw [hl']
    refine ⟨_, control, rfl, ?_⟩
    dsimp only
    rw [List.map_map, ← houtbound, ← Peer.receive_result c resolved.material peer
      (normalizeEndpoint source) _ reads.instant _ inbound.throughRelay reads.datagram]
    exact List.map_id' _

/-- What is sealed was queued, for the peer it is sealed for. -/
theorem sealedPackets_queued {op : DataPlaneOp} {packet : QueuedPacket}
    (h : (ip, packet) ∈ dp.sealedPackets c op) :
    (ip, packet) ∈ dp.queued ∧ ∃ source datagram reads, op = .receive source datagram reads := by
  cases op with
  | receive source datagram reads =>
    refine ⟨?_, source, datagram, reads, rfl⟩
    unfold sealedPackets at h
    dsimp only at h
    split at h
    next => simp at h
    next ip' peer inner hinbound =>
      obtain ⟨queuedPacket, hqueued, heq⟩ := List.mem_map.mp h
      cases heq
      refine mem_queued.mpr ⟨peer, inboundPacket_peer hinbound, ?_⟩
      unfold Peer.sealedPackets at hqueued
      split at hqueued
      next => exact hqueued
      next => simp at hqueued
  | forwardTun packet reads => simp [sealedPackets] at h
  | maintain reads => simp [sealedPackets] at h
  | startManualPathProbe virtualIp now reads send => simp [sealedPackets] at h
  | applyConfiguration state reads => simp [sealedPackets] at h

/-- Whatever the Agent does with its data plane, as long as no call leaves a packet in a queue that
`forward_tun` would not hand to the same peer again, what it seals out of a queue is what
`forward_tun` would hand to that peer now. -/
theorem sealed_packets_authorized {identity : SigningKey} {start : Nat} {utcNow : Int}
    (hbind : UdpDataPlane.bind c f state identity start utcNow = .ok dp)
    {calls : List (Int × DataPlaneOp)} {call : Int × DataPlaneOp}
    (along : Along (applyAt c f) (StaysAuthorized c f) (dp, utcNow) (calls ++ [call]))
    {packet : QueuedPacket}
    (hsealed : (ip, packet) ∈ (final (applyAt c f) (dp, utcNow) calls).1.sealedPackets c call.2) :
    (final (applyAt c f) (dp, utcNow) calls).1.authorizedPeer packet.encoded call.1 = some ip := by
  obtain ⟨hcalls, hcall, _⟩ := along_append.mp along
  have hauthorized : QueuesAuthorized (final (applyAt c f) (dp, utcNow) calls) :=
    run_keeps (fun s call h hstays => h.applied hstays) calls (queuesAuthorized_of_bind hbind) hcalls
  obtain ⟨hqueued, source, datagram, reads, hop⟩ := sealedPackets_queued hsealed
  unfold StaysAuthorized at hcall
  rw [hop] at hcall
  exact authorizedPeer_lasts hauthorized.ordered hcall hqueued (hauthorized.authorized ip packet hqueued)

end Updating

end UdpDataPlane

open UdpDataPlane

/-- The configuration with the office behind its peer, everything allowed, in another version and
with other routes. -/
def officeState (version : UInt64) (subnetRoutes : List ConfigurationSubnetRoute) : NodeState :=
  { sampleNodeState with
    configuration := { sampleNodeState.configuration with version := version }
    configurationPayload := { routedPayload with
      version := version
      policies := [⟨"any", 10, .allow, [.any], [.any], .any, []⟩]
      subnetRoutes := subnetRoutes } }

def officeTime : Int := 1700000200 * 10 ^ 9

def officeDataPlane : Except AgentError UdpDataPlane :=
  UdpDataPlane.bind .transparent sampleFormats (officeState 1 routedPayload.subnetRoutes)
    sampleIdentityKey 0 officeTime

def officeRequest : Bytes :=
  [0x45, 0, 0, 20, 0, 0, 0, 0, 64, 1, 0, 0, 100, 88, 0, 10, 192, 168, 50, 7]

def officeForward : Int × DataPlaneOp :=
  (officeTime, .forwardTun officeRequest {
    routeUtc := officeTime
    instant := 0
    hello := ⟨some (fill 32 3), some (fill 32 4), some (fill 4 5), some 1700000200⟩
    send := ⟨some 1700000200, officeTime, true⟩ })

def officeReceive (datagram : Bytes) : Int × DataPlaneOp :=
  (1700000300 * 10 ^ 9, .receive sampleEndpoint datagram {
    instant := durationFromSecs 100
    unixTime := some 1700000300
    datagram := ⟨none, none, none, none, some 1700000300, durationFromSecs 100⟩
    sends := fun _ => ⟨some 1700000300, 1700000300 * 10 ^ 9, true⟩ })

def officeUpdate : Int × DataPlaneOp :=
  (1700000300 * 10 ^ 9, .applyConfiguration (officeState 2 []) sampleConfigurationReads)

/-- The `ServerHello` and the `ServerFinish` of the peer, for the handshake the request begins. -/
def officeAnswers (dp : UdpDataPlane) : Option (Bytes × Bytes) := do
  let peer ← dp.peersByVirtualIp.lookup (.new 100 88 0 11)
  let hello ← ClientHelloSent.start .transparent {
    context := context dp.material peer
    credential := dp.material.credential
    ephemeralPrivateKey := ⟨fill 32 3⟩
    clientNonce := fill 32 4
    messageId := u32FromBe (fill 4 5)
    clientTime := 1700000200 } dp.material.identity
  let answer ← ServerHelloSent.accept .transparent hello.encoded {
    context := ⟨fill 16 21, peer.nodeId, peer.virtualIp, dp.material.nodeId, dp.material.virtualIp⟩
    credential := sampleCredential ⟨fill 32 41⟩ peer.virtualIp
    ephemeralPrivateKey := ⟨fill 32 7⟩
    serverNonce := fill 32 8
    sessionId := fill 16 9
    serverTime := 1700000200 } ⟨fill 32 41⟩ dp.material.controllerVerifyingKey 1700000200
  let finishing ← hello.acceptServerHello .transparent answer.encoded
    dp.material.controllerVerifyingKey 1700000300
  let (_, serverFinish) ← answer.acceptClientFinish .transparent finishing.encoded
  some (answer.encoded, serverFinish)

def officeSteps : Bool :=
  match officeDataPlane with
  | .error _ => false
  | .ok dp => (officeAnswers dp).any fun (answer, serverFinish) =>
    let first := (applyAt .transparent sampleFormats (dp, officeTime) officeForward).2
    let second := (applyAt .transparent sampleFormats first (officeReceive answer)).2
    let updated := (applyAt .transparent sampleFormats first officeUpdate).2
    let last := (applyAt .transparent sampleFormats updated (officeReceive answer)).2
    decide (dp.RoutesLast officeTime officeForward.1 ∧
      first.1.RoutesLast first.2 (officeReceive answer).1 ∧
      second.1.RoutesLast second.2 (officeReceive serverFinish).1 ∧
      (.new 100 88 0 11, ⟨officeRequest, true⟩) ∈
        second.1.sealedPackets .transparent (officeReceive serverFinish).2 ∧
      (.new 100 88 0 11, ⟨officeRequest, true⟩) ∈
        last.1.sealedPackets .transparent (officeReceive serverFinish).2 ∧
      last.1.authorizedPeer officeRequest (officeReceive serverFinish).1 = none)

theorem office_runs : ∃ dp answer serverFinish,
    officeDataPlane = .ok dp ∧ officeAnswers dp = some (answer, serverFinish) ∧
      dp.RoutesLast officeTime officeForward.1 ∧
      (let first := (applyAt .transparent sampleFormats (dp, officeTime) officeForward).2
      let second := (applyAt .transparent sampleFormats first (officeReceive answer)).2
      let updated := (applyAt .transparent sampleFormats first officeUpdate).2
      let last := (applyAt .transparent sampleFormats updated (officeReceive answer)).2
      first.1.RoutesLast first.2 (officeReceive answer).1 ∧
        second.1.RoutesLast second.2 (officeReceive serverFinish).1 ∧
        (.new 100 88 0 11, ⟨officeRequest, true⟩) ∈
          second.1.sealedPackets .transparent (officeReceive serverFinish).2 ∧
        (.new 100 88 0 11, ⟨officeRequest, true⟩) ∈
          last.1.sealedPackets .transparent (officeReceive serverFinish).2 ∧
        last.1.authorizedPeer officeRequest (officeReceive serverFinish).1 = none) := by
  have hrun : officeSteps = true := by
    decide +kernel
  unfold officeSteps at hrun
  split at hrun
  next => simp at hrun
  next dp hdp =>
    obtain ⟨⟨answer, serverFinish⟩, hanswers, hsteps⟩ := (Option.any_eq_true _ _).mp hrun
    exact ⟨dp, answer, serverFinish, hdp, hanswers, of_decide_eq_true hsteps⟩

/-- The request waits in the queue for the handshake and goes to the gateway after it. -/
theorem sealed_packets_authorized_office : ∃ dp answer serverFinish,
    officeDataPlane = .ok dp ∧ officeAnswers dp = some (answer, serverFinish) ∧
      (.new 100 88 0 11, ⟨officeRequest, true⟩) ∈
        (final (applyAt .transparent sampleFormats) (dp, officeTime)
          [officeForward, officeReceive answer]).1.sealedPackets .transparent
            (officeReceive serverFinish).2 ∧
      (final (applyAt .transparent sampleFormats) (dp, officeTime)
        [officeForward, officeReceive answer]).1.authorizedPeer officeRequest
          (officeReceive serverFinish).1 = some (.new 100 88 0 11) := by
  obtain ⟨dp, answer, serverFinish, hdp, hanswers, hforward, hanswer, hfinish, hsealed, _⟩ :=
    office_runs
  have along : Along (applyAt .transparent sampleFormats) (StaysAuthorized .transparent sampleFormats)
      (dp, officeTime) ([officeForward, officeReceive answer] ++ [officeReceive serverFinish]) :=
    ⟨hforward, hanswer, hfinish, trivial⟩
  exact ⟨dp, answer, serverFinish, hdp, hanswers, hsealed, sealed_packets_authorized hdp along hsealed⟩

/-- The route to the office is gone, under the same policy version, and the request still goes to the
gateway. -/
theorem stale_packet_sealed : ∃ dp answer serverFinish,
    officeDataPlane = .ok dp ∧ officeAnswers dp = some (answer, serverFinish) ∧
      (.new 100 88 0 11, ⟨officeRequest, true⟩) ∈
        (final (applyAt .transparent sampleFormats) (dp, officeTime)
          [officeForward, officeUpdate, officeReceive answer]).1.sealedPackets .transparent
            (officeReceive serverFinish).2 ∧
      (final (applyAt .transparent sampleFormats) (dp, officeTime)
        [officeForward, officeUpdate, officeReceive answer]).1.authorizedPeer officeRequest
          (officeReceive serverFinish).1 = none := by
  obtain ⟨dp, answer, serverFinish, hdp, hanswers, _, _, _, _, hsealed, hnone⟩ := office_runs
  exact ⟨dp, answer, serverFinish, hdp, hanswers, hsealed, hnone⟩

end XsNexus
