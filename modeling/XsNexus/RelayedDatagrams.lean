import XsNexus.FramedPeers

namespace XsNexus

open ByteCodec Checks FiniteMap MachineWords Relation Runs

/-- The relay and its lease have identifiers. -/
def RelayClient.Named (client : RelayClient) : Prop :=
  client.relayId ≠ zeros 16 ∧ ∀ lease, client.lease = some lease → lease.leaseId ≠ zeros 16

namespace RelayClient.Named

variable {c : Crypto} {client : RelayClient}

theorem maintain (h : client.Named) (manager : RelayManager) (now : Nat) (unixNow : UInt64)
    (reads : RelayReads) (progress : RelayMaintenance) :
    (client.maintain c manager now unixNow reads progress).2.Named := by
  have hpending : ∀ {client : RelayClient}, client.Named → (client.maintainPending now).2.Named := by
    intro client h
    unfold maintainPending
    split
    next => exact h
    next =>
      split
      next => exact h
      next =>
        dsimp only
        split <;> exact ⟨h.1, h.2⟩
  have hregistration : ∀ {client : RelayClient}, client.Named →
      (client.maintainRegistration c manager now unixNow reads.requestId).2.Named := by
    intro client h
    unfold maintainRegistration
    split
    next =>
      split
      next => exact h
      next hbegin =>
        unfold beginRegistration at hbegin
        split at hbegin
        next =>
          cases hbegin
          exact h
        next =>
          obtain ⟨_, _, hbegin⟩ := bind_ok.mp hbegin
          cases hbegin
          exact ⟨h.1, h.2⟩
    next => exact h
  have hkeepalive : ∀ {client : RelayClient}, client.Named →
      (client.maintainKeepalive manager now).2.Named := by
    intro client h
    unfold maintainKeepalive
    split
    next => exact h
    next lease hlease =>
      split
      next =>
        split
        next => exact h
        next =>
          refine ⟨h.1, fun held hheld => ?_⟩
          cases hheld
          exact h.2 lease hlease
      next => exact h
  unfold RelayClient.maintain
  split
  next => exact ⟨h.1, fun _ hheld => by simp at hheld⟩
  next =>
    dsimp only
    obtain ⟨kept, hkept⟩ : ∃ kept : RelayClient, kept = (if client.leaseLost now unixNow then
      { client with lease := none, pending := none, nextRegistrationAt := now } else client) := ⟨_, rfl⟩
    rw [← hkept]
    have hnamed : kept.Named := by
      rw [hkept]
      split
      next => exact ⟨h.1, fun _ hheld => by simp at hheld⟩
      next => exact h
    have hregistered := hregistration (hpending hnamed)
    split
    next e registered heq =>
      rw [heq] at hregistered
      exact hregistered
    next sent registered heq =>
      rw [heq] at hregistered
      have hlast := hkeepalive hregistered
      split
      next e last heq =>
        rw [heq] at hlast
        exact hlast
      next kept last heq =>
        rw [heq] at hlast
        exact hlast

end RelayClient.Named

theorem leaseId_of_verifyRelayRegisterResponse {c : Crypto} {encoded : Bytes} {key : VerifyingKey}
    {networkId nodeId relayId requestId : Block 16} {now : UInt64} {response : RelayRegisterResponse}
    (h : verifyRelayRegisterResponse c encoded key networkId nodeId relayId requestId now =
      some response) : response.leaseId ≠ zeros 16 := by
  unfold verifyRelayRegisterResponse at h
  split at h
  next => simp at h
  next =>
    obtain ⟨_, _, h⟩ := Option.bind_eq_some_iff.mp h
    obtain ⟨_, _, h⟩ := Option.bind_eq_some_iff.mp h
    obtain ⟨_, _, h⟩ := Option.bind_eq_some_iff.mp h
    obtain ⟨_, _, h⟩ := Option.bind_eq_some_iff.mp h
    obtain ⟨_, _, h⟩ := Option.bind_eq_some_iff.mp h
    obtain ⟨_, _, h⟩ := Option.bind_eq_some_iff.mp h
    obtain ⟨_, _, h⟩ := Option.bind_eq_some_iff.mp h
    obtain ⟨_, _, h⟩ := Option.bind_eq_some_iff.mp h
    dsimp only at h
    split at h
    next => simp at h
    next hguard =>
      cases Option.some.inj h
      simp only [not_or] at hguard
      exact hguard.2.2.2.2.1

/-- A relay of a configuration starts with an identifier and without a lease. -/
theorem named_relayClients {c : Crypto} {f : Formats} {relays : List ConfigurationRelay} {now : Nat}
    {utcNow : Int} {clients : Map SocketAddr RelayClient}
    (h : relayClients c f relays now utcNow = .ok clients) {endpoint : SocketAddr}
    {client : RelayClient} (hl : clients.lookup endpoint = some client) :
    client.relayId ≠ zeros 16 ∧ client.lease = none := by
  obtain ⟨_, _, _, _, hid, hlease, _⟩ := RelayManager.mem_relayClients h hl
  exact ⟨hid, hlease⟩

namespace RelayManager

/-- All relays have identifiers, and so have their leases. -/
def Named (manager : RelayManager) : Prop :=
  ∀ endpoint client, manager.clients.lookup endpoint = some client → client.Named

variable {manager : RelayManager}

theorem Named.putClient (h : manager.Named) {endpoint : SocketAddr} {client : RelayClient}
    (hclient : client.Named) : (manager.putClient endpoint client).Named := by
  intro other held hheld
  unfold RelayManager.putClient at hheld
  rw [lookup_insert_eq] at hheld
  split at hheld
  next =>
    cases hheld
    exact hclient
  next => exact h other held hheld

theorem Named.wrap (h : manager.Named) (endpoint : SocketAddr) (destinationNodeId : Block 16)
    (payload : Bytes) (now : UInt64) (utcNow : Int) :
    (manager.wrap endpoint destinationNodeId payload now utcNow).2.Named := by
  unfold RelayManager.wrap
  split
  next => exact h
  next client hl =>
    split
    next => exact h
    next lease hlease =>
      split
      next => exact h.putClient ⟨(h _ _ hl).1, fun _ hheld => by simp at hheld⟩
      next =>
        split
        next => exact h
        next =>
          refine h.putClient ⟨(h _ _ hl).1, fun held hheld => ?_⟩
          cases hheld
          exact (h _ _ hl).2 lease hlease

theorem Named.handleDatagram (h : manager.Named) (c : Crypto) (source : SocketAddr)
    (datagram : Bytes) (now : Nat) (unixNow : UInt64) :
    (manager.handleDatagram c source datagram now unixNow).2.Named := by
  unfold RelayManager.handleDatagram
  split
  next => exact h
  next client hl =>
    have hclient := h _ _ hl
    split
    next =>
      refine h.putClient ?_
      unfold handleRegisterResponse
      split
      next => exact hclient
      next =>
        split
        next => exact hclient
        next response hverify =>
          refine ⟨hclient.1, fun held hheld => ?_⟩
          cases hheld
          exact leaseId_of_verifyRelayRegisterResponse hverify
    next =>
      split
      next =>
        refine h.putClient ?_
        unfold handleKeepaliveResponse
        split
        next => exact hclient
        next lease hlease =>
          split
          next => exact hclient
          next =>
            refine ⟨hclient.1, fun held hheld => ?_⟩
            cases hheld
            exact hclient.2 lease hlease
      next => split <;> exact h

theorem Named.step (h : manager.Named) (c : Crypto) (f : Formats) (op : RelayManagerOp) :
    (manager.step c f op).2.Named := by
  cases op with
  | wrap endpoint destinationNodeId payload now utcNow =>
    exact h.wrap endpoint destinationNodeId payload now utcNow
  | handleDatagram source datagram now unixNow => exact h.handleDatagram c source datagram now unixNow
  | authenticateActivity endpoint now =>
    show (manager.authenticateActivity endpoint now).Named
    unfold RelayManager.authenticateActivity
    split
    next => exact h
    next client hl =>
      refine h.putClient ⟨(h _ _ hl).1, fun held hheld => ?_⟩
      obtain ⟨lease, hlease, rfl⟩ := Option.map_eq_some_iff.mp hheld
      exact (h _ _ hl).2 lease hlease
  | maintain now unixNow reads =>
    intro endpoint client hl
    obtain ⟨before, hb, hw⟩ := lookup_visit hl
    rcases hw with rfl | ⟨reached, rfl⟩
    · exact h endpoint _ hb
    · exact (h endpoint _ hb).maintain manager now unixNow (reads endpoint) reached
  | applyConfiguration state now utcNow =>
    show (manager.applyConfiguration c f state now utcNow).2.Named
    unfold RelayManager.applyConfiguration
    split
    next => exact h
    next desired hdesired =>
      intro endpoint client hl
      rw [lookup_mapWithKey, Option.map_eq_some_iff] at hl
      obtain ⟨wanted, hw, rfl⟩ := hl
      obtain ⟨hid, hnone⟩ := named_relayClients hdesired hw
      have hwanted : wanted.Named := ⟨hid, fun held hheld => by rw [hnone] at hheld; simp at hheld⟩
      unfold keepLease
      split
      next => exact hwanted
      next existing hexisting =>
        split
        next => exact ⟨hid, (h _ _ hexisting).2⟩
        next => exact hwanted

theorem step_identity (manager : RelayManager) (c : Crypto) (f : Formats) (op : RelayManagerOp) :
    (manager.step c f op).2.networkId = manager.networkId ∧
      (manager.step c f op).2.nodeId = manager.nodeId := by
  cases op with
  | wrap endpoint destinationNodeId payload now utcNow =>
    show (manager.wrap endpoint destinationNodeId payload now utcNow).2.networkId = _ ∧
      (manager.wrap endpoint destinationNodeId payload now utcNow).2.nodeId = _
    rcases wrap_cases manager endpoint destinationNodeId payload now utcNow with
      h | ⟨_, _, _, _, _, h, _⟩
    · rw [h]
      exact ⟨rfl, rfl⟩
    · rw [h]
      exact ⟨rfl, rfl⟩
  | handleDatagram source datagram now unixNow =>
    show (manager.handleDatagram c source datagram now unixNow).2.networkId = _ ∧
      (manager.handleDatagram c source datagram now unixNow).2.nodeId = _
    rcases handleDatagram_cases c manager source datagram now unixNow with h | ⟨_, _, _, h, _⟩
    · rw [h]
      exact ⟨rfl, rfl⟩
    · rw [h]
      exact ⟨rfl, rfl⟩
  | authenticateActivity endpoint now =>
    show (manager.authenticateActivity endpoint now).networkId = _ ∧
      (manager.authenticateActivity endpoint now).nodeId = _
    rcases authenticateActivity_cases manager endpoint now with h | ⟨_, _, _, h, _⟩
    · rw [h]
      exact ⟨rfl, rfl⟩
    · rw [h]
      exact ⟨rfl, rfl⟩
  | maintain now unixNow reads => exact ⟨rfl, rfl⟩
  | applyConfiguration state now utcNow =>
    show (manager.applyConfiguration c f state now utcNow).2.networkId = _ ∧
      (manager.applyConfiguration c f state now utcNow).2.nodeId = _
    unfold RelayManager.applyConfiguration
    split <;> exact ⟨rfl, rfl⟩

/-- A lease that neither the relay nor the configuration has let expire. -/
structure LiveLease (manager : RelayManager) (endpoint : SocketAddr) (now : UInt64) (utcNow : Int)
    (client : RelayClient) (lease : RelayLease) : Prop where
  known : manager.clients.lookup (normalizeEndpoint endpoint) = some client
  held : client.lease = some lease
  granted : now < lease.expiresAt
  configured : utcNow < client.configExpiresAt

/-- Through a live lease a datagram of the route leaves exactly if the frame around it fits and the
lease has a sequence number left. -/
theorem wrap_live (h : manager.Named) {endpoint : SocketAddr} {route : RelayRoute} {payload : Bytes}
    (hnetwork : manager.networkId = route.networkId) (hnode : manager.nodeId = route.sourceNodeId)
    (hpayload : Routable route payload) {now : UInt64} {utcNow : Int} {client : RelayClient}
    {lease : RelayLease} (hlive : manager.LiveLease endpoint now utcNow client lease) :
    (∃ encoded, (manager.wrap endpoint route.destinationNodeId payload now utcNow).1 =
        .ok (some encoded) ∧ encoded.length ≤ relayMaxFrameLength) ↔
      lease.nextSequence ≠ u64Max ∧ payload.length ≤ relayMaxFrameLength - relayFrameHeaderLength := by
  have hnamed := h _ _ hlive.known
  have hfits := encodeRelayFrame_isSome hpayload hnamed.1 (hnamed.2 lease hlive.held)
    lease.nextSequence
  unfold RelayRoute.frame at hfits
  have hheld : ¬(lease.expiresAt ≤ now ∨ client.configExpiresAt ≤ utcNow) := by
    rw [not_or, UInt64.not_le, Int.not_le]
    exact ⟨hlive.granted, hlive.configured⟩
  unfold wrap
  rw [hlive.known]
  dsimp only
  rw [hlive.held]
  dsimp only
  rw [if_neg hheld, hnetwork, hnode, ← hfits]
  cases hadd : u64CheckedAdd lease.nextSequence 1 with
  | none =>
    rw [u64CheckedAdd_one_eq_none.mp hadd]
    simp
  | some next =>
    have hleft : lease.nextSequence ≠ u64Max := fun heq => by
      rw [u64CheckedAdd_one_eq_none.mpr heq] at hadd
      simp at hadd
    dsimp only
    cases encodeRelayFrame _ with
    | none => simp
    | some encoded => simp [hleft]

end RelayManager

/-- The longest packet whose sealing still fits the frame of a relay. -/
def maxRelayedPacketLength : Nat :=
  relayMaxFrameLength - relayFrameHeaderLength - dataHeaderLength - dataTagLength

namespace UdpDataPlane

/-- The data plane speaks for its node to peers and relays alike. -/
structure Framed (dp : UdpDataPlane) : Prop where
  networkId : dp.relayManager.networkId = dp.material.networkId
  nodeId : dp.relayManager.nodeId = dp.material.nodeId
  named : dp.relayManager.Named
  peers : ∀ ip peer, dp.peersByVirtualIp.lookup ip = some peer → peer.Framed (peer.route dp.material)

/-- What an operation hands to `send_xsp`, and the data plane it begins to do so in. -/
def sends (c : Crypto) (dp : UdpDataPlane) : DataPlaneOp → UdpDataPlane × List Transmission
  | .forwardTun packet reads =>
    let (outcome, prepared) := dp.forwardPrepared c packet reads
    (prepared, match outcome with
      | .ok (.sent _ transmission) => [transmission]
      | _ => [])
  | .receive source datagram reads =>
    let (received, prepared) := dp.receivePrepared c source datagram reads
    (prepared, match received with
      | .ok received => received.transmissions
      | .error _ => [])
  | .maintain reads =>
    let prepared := dp.maintainPrepared c reads
    (prepared.dataPlane, match prepared.result with
      | .ok transmissions => transmissions
      | .error _ => [])
  | .startManualPathProbe virtualIp now reads _ =>
    match dp.peersByVirtualIp.lookup virtualIp with
    | none => (dp, [])
    | some peer =>
      let (probe, peer) := peer.startManualPathProbe c now reads
      (dp.putPeer virtualIp peer, match probe with
        | .ok transmission => [transmission]
        | .error _ => [])
  | .applyConfiguration _ _ => (dp, [])

/-- The peer a packet of the TUN is for. -/
def tunPeer (dp : UdpDataPlane) (packet : Bytes) (reads : ForwardReads) : Option Peer := do
  let flow ← ipv4Flow packet
  let destination ← dp.tunDestination flow reads.routeUtc
  dp.peersByVirtualIp.lookup destination.1

/-- The peer a datagram is from. -/
def inboundPeer (c : Crypto) (dp : UdpDataPlane) (source : SocketAddr) (datagram : Bytes)
    (reads : ReceiveReads) : Option Peer := do
  let unixNow ← reads.unixTime
  let inbound ←
    (dp.resolveInboundPeer c (normalizeEndpoint source) datagram reads.instant unixNow).1
  dp.peersByVirtualIp.lookup inbound.virtualIp

/-- No packet of the TUN that is too long for a relay is sealed for one: neither as it comes, nor out
of the queue of a peer whose datagram has come through a relay. -/
def RelayFits (c : Crypto) (dp : UdpDataPlane) : DataPlaneOp → Prop
  | .forwardTun packet reads => packet.length ≤ maxRelayedPacketLength ∨
    ∀ peer endpoint, dp.tunPeer packet reads = some peer → peer.state.isEstablished = true →
      peer.activeEndpoint = some endpoint → dp.relayManager.isRelay endpoint = false
  | .receive source datagram reads => dp.relayManager.isRelay (normalizeEndpoint source) = false ∨
    ∀ peer, dp.inboundPeer c source datagram reads = some peer →
      ∀ queued ∈ peer.queuedPackets, queued.encoded.length ≤ maxRelayedPacketLength
  | _ => True

/-- A transmission fails over the clock, or over the last sequence number of a lease. -/
def Blocked (dp : UdpDataPlane) (transmission : Transmission) (reads : SendReads) : Prop :=
  reads.unixTime = none ∨ ∃ unixTime client lease, reads.unixTime = some unixTime ∧
    dp.relayManager.LiveLease transmission.1 unixTime reads.utcNow client lease ∧
    lease.nextSequence = u64Max

variable {c : Crypto} {f : Formats} {dp : UdpDataPlane}

theorem isRelay_putClient {manager : RelayManager} {endpoint : SocketAddr} {client : RelayClient}
    (hl : manager.clients.lookup endpoint = some client) (client' : RelayClient) (other : SocketAddr) :
    (manager.putClient endpoint client').isRelay other = manager.isRelay other := by
  unfold RelayManager.isRelay RelayManager.putClient
  dsimp only
  rw [lookup_insert_eq]
  split
  next heq =>
    rw [heq, hl]
    rfl
  next => rfl

theorem isRelay_wrap (manager : RelayManager) (endpoint : SocketAddr) (destinationNodeId : Block 16)
    (payload : Bytes) (now : UInt64) (utcNow : Int) (other : SocketAddr) :
    (manager.wrap endpoint destinationNodeId payload now utcNow).2.isRelay other =
      manager.isRelay other := by
  rcases manager.wrap_cases endpoint destinationNodeId payload now utcNow with
    h | ⟨_, _, client', hl, _, h, _⟩
  · rw [h]
  · rw [h, isRelay_putClient hl client']

theorem isRelay_handleDatagram (manager : RelayManager) (source : SocketAddr) (datagram : Bytes)
    (now : Nat) (unixNow : UInt64) (other : SocketAddr) :
    (manager.handleDatagram c source datagram now unixNow).2.isRelay other = manager.isRelay other := by
  rcases RelayManager.handleDatagram_cases c manager source datagram now unixNow with
    h | ⟨_, client', hl, h, _⟩
  · rw [h]
  · rw [h, isRelay_putClient hl client']

theorem isRelay_authenticateActivity (manager : RelayManager) (endpoint : SocketAddr) (now : Nat)
    (other : SocketAddr) :
    (manager.authenticateActivity endpoint now).isRelay other = manager.isRelay other := by
  rcases RelayManager.authenticateActivity_cases manager endpoint now with h | ⟨_, client', hl, h, _⟩
  · rw [h]
  · rw [h, isRelay_putClient hl client']

theorem isRelay_maintain (manager : RelayManager) (now : Nat) (unixNow : UInt64)
    (reads : SocketAddr → RelayReads) (other : SocketAddr) :
    (manager.maintain c now unixNow reads).2.isRelay other = manager.isRelay other := by
  unfold RelayManager.isRelay
  rw [Bool.eq_iff_iff, AList.lookup_isSome, AList.lookup_isSome]
  exact mem_visit

theorem isRelay_sendXsp (dp : UdpDataPlane) (transmission : Transmission) (reads : SendReads)
    (other : SocketAddr) :
    (dp.sendXsp transmission reads).dataPlane.relayManager.isRelay other =
      dp.relayManager.isRelay other := by
  unfold sendXsp
  dsimp only
  split
  next =>
    split
    next => rfl
    next => split <;> exact isRelay_wrap ..
  next => rfl

theorem isRelay_sendAll (dp : UdpDataPlane) (transmissions : List Transmission)
    (reads : Nat → SendReads) (other : SocketAddr) :
    (dp.sendAll transmissions reads).dataPlane.relayManager.isRelay other =
      dp.relayManager.isRelay other := by
  induction transmissions generalizing dp reads with
  | nil => rfl
  | cons transmission transmissions ih =>
    unfold sendAll
    dsimp only
    split
    next => exact isRelay_sendXsp ..
    next => rw [ih, isRelay_sendXsp]

theorem sends_evolves (dp : UdpDataPlane) (op : DataPlaneOp) :
    Evolves c f (NewPeer dp.material) dp (dp.sends c op).1 := by
  cases op with
  | forwardTun packet reads => exact forwardPrepared_evolves dp packet reads
  | receive source datagram reads => exact receivePrepared_evolves dp source datagram reads
  | maintain reads => exact maintainPrepared_evolves dp reads
  | startManualPathProbe virtualIp now reads send =>
    unfold sends
    dsimp only
    split
    next => exact .refl dp
    next peer hl => exact .putPeer hl (.single (.call (.startManualPathProbe now reads)))
  | applyConfiguration state reads => exact .refl dp

end UdpDataPlane

theorem NewPeer.framed {material : LocalMaterial} {ip : Ipv4Addr} {peer : Peer}
    (h : NewPeer material ip peer) : peer.Framed (peer.route material) := by
  obtain ⟨_, nodeIdBase64, candidates, now, hnew⟩ := h
  rw [hnew]
  exact ⟨rfl, trivial, fun _ hpending => by simp [newPeer] at hpending⟩

theorem Evolves.framed {c : Crypto} {f : Formats} (haead : AeadCorrect c) {dp dp' : UdpDataPlane}
    (h : Evolves c f (NewPeer dp.material) dp dp') (hframed : dp.Framed) : dp'.Framed := by
  have hrelays : dp'.relayManager.networkId = dp.relayManager.networkId ∧
      dp'.relayManager.nodeId = dp.relayManager.nodeId ∧ dp'.relayManager.Named := by
    have hchanges := h.relays
    generalize dp'.relayManager = manager at hchanges
    induction hchanges with
    | refl => exact ⟨rfl, rfl, hframed.named⟩
    | tail _ hchange ih =>
      obtain ⟨op, rfl⟩ := hchange
      obtain ⟨hnetwork, hnode⟩ := RelayManager.step_identity _ c f op
      exact ⟨hnetwork.trans ih.1, hnode.trans ih.2.1, ih.2.2.step c f op⟩
  refine ⟨?_, ?_, hrelays.2.2, fun ip peer hl => ?_⟩
  · rw [hrelays.1, hframed.networkId, h.material]
  · rw [hrelays.2.1, hframed.nodeId, h.material]
  · rw [h.material]
    refine h.keeps (I := fun _ peer => peer.Framed (peer.route dp.material)) ?_
      NewPeer.framed (hframed.peers _ _) hl
    intro _ peer peer' hpeer hchange
    have hafter := hpeer.change haead rfl hchange
    have hsame : peer'.route dp.material = peer.route dp.material := by
      unfold Peer.route
      rw [hafter.node]
      rfl
    rw [hsame]
    exact hafter

theorem framed_run {c : Crypto} {f : Formats} (haead : AeadCorrect c) {state : NodeState}
    {identity : SigningKey} {now : Nat} {utcNow : Int} {dp : UdpDataPlane}
    (h : UdpDataPlane.bind c f state identity now utcNow = .ok dp) (ops : List DataPlaneOp) :
    (final (UdpDataPlane.apply c f) dp ops).Framed := by
  obtain ⟨hpeers, hnetwork, hnode, hrelays⟩ := bind_starts h
  refine (UdpDataPlane.run_evolves dp ops).framed haead ⟨hnetwork, hnode, fun endpoint client hl => ?_,
    fun ip peer hl => (hpeers ip peer hl).framed⟩
  obtain ⟨hid, hnone⟩ := named_relayClients hrelays hl
  exact ⟨hid, fun lease hlease => by rw [hnone] at hlease; simp at hlease⟩

theorem Short.fits {route : RelayRoute} {datagram : Bytes} (h : Short route datagram) :
    datagram.length ≤ relayMaxFrameLength - relayFrameHeaderLength := by
  have hshort := h.2
  unfold commonHeaderLength serverHelloBodyLength at hshort
  unfold relayMaxFrameLength relayFrameHeaderLength
  omega

/-- The frame around a packet fits exactly if the packet is not too long for a relay. -/
theorem Carries.fits_iff {route : RelayRoute} {packet datagram : Bytes}
    (h : Carries route packet datagram) :
    datagram.length ≤ relayMaxFrameLength - relayFrameHeaderLength ↔
      packet.length ≤ maxRelayedPacketLength := by
  rw [h.2]
  unfold maxRelayedPacketLength relayMaxFrameLength relayFrameHeaderLength dataHeaderLength dataTagLength
  omega

namespace UdpDataPlane

variable {c : Crypto} {dp : UdpDataPlane}

/-- The way to the node a transmission is for. -/
def routeOf (dp : UdpDataPlane) (transmission : Transmission) : RelayRoute :=
  ⟨dp.material.networkId, dp.material.nodeId, transmission.2.1⟩

/-- A transmission of the data plane is one for a relay, and of a length that fits if it goes to one. -/
def Sendable (c : Crypto) (dp : UdpDataPlane) (op : DataPlaneOp) (transmission : Transmission) : Prop :=
  Routable (dp.routeOf transmission) transmission.2.2 ∧
    (dp.RelayFits c op → dp.relayManager.isRelay transmission.1 = true →
      transmission.2.2.length ≤ relayMaxFrameLength - relayFrameHeaderLength)

theorem routeOf_eq {peer : Peer} {transmission : Transmission}
    (hnode : transmission.2.1 = (peer.route dp.material).destinationNodeId) :
    dp.routeOf transmission = peer.route dp.material := by
  unfold routeOf
  rw [hnode]
  rfl

theorem sendable_of_short {op : DataPlaneOp} {peer : Peer} {transmission : Transmission}
    (hnode : transmission.2.1 = (peer.route dp.material).destinationNodeId)
    (h : Short (peer.route dp.material) transmission.2.2) : dp.Sendable c op transmission :=
  ⟨routeOf_eq hnode ▸ h.1, fun _ _ => h.fits⟩

/-- What leaves for a packet of the TUN: the packet itself through a session, or a handshake. -/
theorem sent_forwardTun (haead : AeadCorrect c) (h : dp.Framed) {packet : Bytes}
    {reads : ForwardReads} {transmission : Transmission}
    (ht : transmission ∈ (dp.sends c (.forwardTun packet reads)).2) :
    ∃ peer, dp.tunPeer packet reads = some peer ∧
      transmission.2.1 = (peer.route dp.material).destinationNodeId ∧
      peer.activeEndpoint = some transmission.1 ∧
      if peer.state.isEstablished then Carries (peer.route dp.material) packet transmission.2.2
      else Short (peer.route dp.material) transmission.2.2 := by
  unfold sends forwardPrepared at ht
  dsimp only at ht
  split at ht
  next established sent houtcome =>
    cases List.mem_singleton.mp ht
    split at houtcome
    next => simp at houtcome
    next =>
      split at houtcome
      next => simp at houtcome
      next flow hflow =>
        split at houtcome
        next => simp at houtcome
        next =>
          split at houtcome
          next => simp at houtcome
          next ip routed hdestination =>
            split at houtcome
            next => simp at houtcome
            next peer hl =>
              obtain ⟨hnode, hactive, hestablished, hlength⟩ := ((h.peers ip peer hl).forwardTun haead
                rfl packet routed reads.instant reads.hello).2 established transmission houtcome
              refine ⟨peer, ?_, hnode, hactive, hestablished ▸ hlength⟩
              unfold tunPeer
              rw [hflow, Option.bind_eq_bind, Option.bind_some, hdestination, Option.bind_eq_bind,
                Option.bind_some]
              exact hl
  next => simp at ht

theorem sendable_forwardTun (haead : AeadCorrect c) (h : dp.Framed) {packet : Bytes}
    {reads : ForwardReads} {transmission : Transmission}
    (ht : transmission ∈ (dp.sends c (.forwardTun packet reads)).2) :
    dp.Sendable c (.forwardTun packet reads) transmission := by
  obtain ⟨peer, htun, hnode, hactive, hlength⟩ := sent_forwardTun haead h ht
  split at hlength
  next hsession =>
    refine ⟨routeOf_eq hnode ▸ hlength.1, fun hfits hrelay => ?_⟩
    rw [hlength.fits_iff]
    rcases hfits with hfits | hdirect
    · exact hfits
    · have hoff := hdirect peer transmission.1 htun hsession hactive
      rw [hoff] at hrelay
      simp at hrelay
  next => exact sendable_of_short hnode hlength

theorem sendable_receive (haead : AeadCorrect c) (h : dp.Framed) {source : SocketAddr}
    {datagram : Bytes} {reads : ReceiveReads} {transmission : Transmission}
    (ht : transmission ∈ (dp.sends c (.receive source datagram reads)).2) :
    dp.Sendable c (.receive source datagram reads) transmission := by
  unfold sends receivePrepared at ht
  dsimp only at ht
  split at ht
  next received hreceived =>
    split at hreceived
    next =>
      cases hreceived
      simp at ht
    next =>
      split at hreceived
      next => simp at hreceived
      next unixNow hclock =>
        split at hreceived
        next =>
          cases hreceived
          simp at ht
        next inbound resolved hresolve =>
          have hsnd := resolveInboundPeer_snd (c := c) dp (normalizeEndpoint source) datagram
            reads.instant unixNow
          rw [hresolve] at hsnd
          cases hsnd
          split at hreceived
          next =>
            cases hreceived
            simp at ht
          next peer hl =>
            have hinbound : dp.inboundPeer c source datagram reads = some peer := by
              unfold inboundPeer
              rw [hclock, Option.bind_eq_bind, Option.bind_some, hresolve, Option.bind_eq_bind,
                Option.bind_some]
              exact hl
            obtain ⟨hafter, hsent⟩ := (h.peers _ peer hl).receive haead (normalizeEndpoint source)
              (inbound.relayPayload.getD datagram) reads.instant
              (dp.subnetRoutes.permitsRoutedSession dp.localNodeIdBase64 peer.nodeIdBase64)
              inbound.throughRelay reads.datagram
            dsimp only at hreceived
            rcases hcall : peer.receive c dp.material (normalizeEndpoint source)
              (inbound.relayPayload.getD datagram) reads.instant
              (dp.subnetRoutes.permitsRoutedSession dp.localNodeIdBase64 peer.nodeIdBase64)
              inbound.throughRelay reads.datagram with ⟨result, after⟩
            rw [hcall] at hafter hsent hreceived
            obtain ⟨plaintext, hplaintext⟩ : ∃ plaintext, plaintext =
              result.plaintext.filter (UdpDataPlane.admits { dp with relayManager :=
                (dp.relayManager.handleDatagram c (normalizeEndpoint source) datagram reads.instant
                  unixNow).2 } inbound.virtualIp after.nodeIdBase64) := ⟨_, rfl⟩
            dsimp only at hreceived
            rw [← hplaintext] at hreceived
            have hnode : (plaintext.elim after after.countReceived).nodeId = peer.nodeId := by
              cases plaintext with
              | none => exact hafter.node
              | some plaintext => exact hafter.node
            rw [hnode] at hreceived
            cases hreceived
            obtain ⟨outbound, hmem, rfl⟩ := List.mem_map.mp ht
            rcases hsent outbound hmem with hshort | ⟨queued, hq, hcarries⟩
            · exact sendable_of_short rfl hshort
            · refine ⟨hcarries.1, fun hfits hrelay => ?_⟩
              rw [hcarries.fits_iff]
              rcases hfits with hdirect | hfits
              · rw [hdirect] at hrelay
                simp at hrelay
              · exact hfits peer hinbound queued hq
  next => simp at ht

theorem sendable_maintain (f : Formats) (haead : AeadCorrect c) (h : dp.Framed) {reads : UpkeepReads}
    {transmission : Transmission} (ht : transmission ∈ (dp.sends c (.maintain reads)).2) :
    dp.Sendable c (.maintain reads) transmission := by
  have hpruned : Evolves c f (NewPeer dp.material) dp (dp.pruneExpiredCandidates reads.pruneUtc).2 :=
    pruneExpiredCandidates_evolves dp reads.pruneUtc
  unfold sends maintainPrepared at ht
  dsimp only at ht
  split at ht
  next transmissions hprepared =>
    split at hprepared
    next => simp at hprepared
    next pruned hprune =>
      rw [hprune] at hpruned
      split at hprepared
      next => simp at hprepared
      next unixNow _ =>
        split at hprepared
        next => simp at hprepared
        next maintenance _ =>
          have hready := hpruned.trans (maintainRelays_evolves pruned reads.instant unixNow
            reads.relays maintenance.failedEndpoints reads.failoverInstant)
          have hframed := hready.framed haead h
          have hmaterial := hready.material
          dsimp only at hprepared
          generalize UdpDataPlane.mk _ _ _ _ _ _ _ _ _ _ _ = ready at hprepared hframed hmaterial
          unfold maintainPeers at hprepared
          obtain ⟨progress, hvisit, rfl⟩ := map_ok.mp hprepared
          refine visit_preserves (P := fun progress : List Transmission × HandshakeCounters =>
            ∀ transmission ∈ progress.1, dp.Sendable c (.maintain reads) transmission)
            ?_ (fun _ hmem => by simp at hmem) hvisit transmission ht
          intro ip peer progress progress' after hl hsofar hbody other hother
          have hmaintained := ((hframed.peers ip peer hl).maintain haead rfl reads.instant progress.2
            (reads.peers ip)).2
          rcases hcall : peer.maintain c ready.material reads.instant progress.2 (reads.peers ip) with
            ⟨result, last⟩
          rw [hcall] at hbody hmaintained
          cases result with
          | error e => simp at hbody
          | ok sent =>
            cases hbody
            rcases List.mem_append.mp hother with hother | hother
            · exact hsofar other hother
            · obtain ⟨hnode, hshort⟩ := hmaintained sent.1 sent.2 rfl other hother
              rw [hmaterial] at hnode hshort
              exact sendable_of_short hnode hshort
  next => simp at ht

theorem sendable_sends (f : Formats) (haead : AeadCorrect c) (h : dp.Framed) {op : DataPlaneOp}
    {transmission : Transmission} (ht : transmission ∈ (dp.sends c op).2) :
    dp.Sendable c op transmission := by
  cases op with
  | forwardTun packet reads => exact sendable_forwardTun haead h ht
  | receive source datagram reads => exact sendable_receive haead h ht
  | maintain reads => exact sendable_maintain f haead h ht
  | startManualPathProbe virtualIp now reads send =>
    unfold sends at ht
    dsimp only at ht
    split at ht
    next => simp at ht
    next peer hl =>
      dsimp only at ht
      split at ht
      next sent hprobe =>
        cases List.mem_singleton.mp ht
        obtain ⟨hnode, hshort⟩ :=
          ((h.peers _ peer hl).startManualPathProbe haead now reads).2 transmission hprobe
        exact sendable_of_short hnode hshort
      next => simp at ht
  | applyConfiguration state reads => simp [sends] at ht

end UdpDataPlane

end XsNexus
