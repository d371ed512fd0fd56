import XsNexus.HandshakeAgreement
import XsNexus.HelloReplay
import XsNexus.PathProbes
import XsNexus.PeerDirectory

namespace XsNexus

open ByteCodec Runs

/-- A peer with the number of the sessions it has had, and of the one its last probe was sealed in. -/
structure ProbingPeer where
  peer : Peer
  sessions : Nat
  sealedIn : Nat

namespace ProbingPeer

def step (c : Crypto) (material : LocalMaterial) (s : ProbingPeer) (op : PeerOp) :
    PeerOutput × ProbingPeer :=
  let (output, after) := s.peer.apply c material op
  let sessions :=
    if !s.peer.state.isEstablished && after.state.isEstablished then s.sessions + 1 else s.sessions
  (output, {
    peer := after
    sessions := sessions
    sealedIn :=
      if s.peer.pendingPathProbe = none ∧ after.pendingPathProbe ≠ none then sessions else s.sealedIn })

/-- When a response moves the path, it moves to a candidate above the active one, and under the
session of the challenge. -/
def OnlyUpgrades (c : Crypto) (s : ProbingPeer) (op : PeerOp) : Prop :=
  ∀ pending ∈ s.peer.answeredProbe c op,
    s.peer.Upgrades pending.endpoint ∧ s.sealedIn = s.sessions

def new (peer : Peer) : ProbingPeer := ⟨peer, 0, 0⟩

instance (c : Crypto) (s : ProbingPeer) : DecidablePred (s.OnlyUpgrades c) := fun op => by
  unfold OnlyUpgrades
  infer_instance

/-- While a probe that is to move the path is pending, its candidate does not expire under the
session, and no new session comes about on the path of a `handshake_fallback`. -/
def ProbeStands (c : Crypto) (s : ProbingPeer) (op : PeerOp) : Prop :=
  ∀ pending ∈ s.peer.pendingPathProbe, pending.promotesPath = true →
    match op with
    | .pruneExpiredCandidates now => s.peer.state.isEstablished = true →
      { s.peer with candidates := s.peer.candidates.filter fun candidate =>
          candidate.expiresAt > now : Peer }.Upgrades pending.endpoint
    | .datagram source packet _ _ throughRelay _ => s.peer.finishesHandshake c packet = true →
      ¬(throughRelay = false ∧ s.peer.activeEndpoint = some source ∧
        s.peer.pathReason = some .handshakeFallback)
    | _ => True

instance (c : Crypto) (s : ProbingPeer) : DecidablePred (s.ProbeStands c) := fun op => by
  unfold ProbeStands
  cases op <;> infer_instance

end ProbingPeer

namespace Peer

variable {c : Crypto} {material : LocalMaterial} {peer peer' : Peer}

/-- A probe is answered by a `PathResponse` that opens under the session of the moment. -/
theorem answeredProbe_cases {op : PeerOp} {pending : PendingPathProbe}
    (h : peer.answeredProbe c op = some pending) :
    ∃ source packet now allowRoutedData throughRelay reads established opened,
      op = .datagram source packet now allowRoutedData throughRelay reads ∧
      peer.state = .established established ∧ isHandshakePacket packet = false ∧
      (packet[5]?.any fun value => (PacketType.tryFrom value).isSome) = true ∧
      (openDatagram c established.receiver packet allowRoutedData).1 = some opened ∧
      opened.packetType = .pathResponse ∧ peer.matchingProbe source opened = some pending ∧
      peer.pendingPathProbe = some pending ∧ pending.endpoint = source ∧
      pending.promotesPath = true := by
  cases op with
  | datagram source packet now allowRoutedData throughRelay reads =>
    unfold answeredProbe at h
    dsimp only at h
    split at h
    next established hstate =>
      split at h
      next => simp at h
      next hdata =>
        obtain ⟨hplain, hkind⟩ := not_or.mp hdata
        obtain ⟨opened, hopened, hmatches⟩ := Option.bind_eq_some_iff.mp h
        obtain ⟨hopens, htype⟩ := Option.filter_eq_some_iff.mp hopened
        obtain ⟨hmatching, hpromotes⟩ := Option.filter_eq_some_iff.mp hmatches
        obtain ⟨hpending, hcondition⟩ := Option.filter_eq_some_iff.mp hmatching
        obtain ⟨hendpoint, _, _⟩ := of_decide_eq_true hcondition
        exact ⟨source, packet, now, allowRoutedData, throughRelay, reads, established, opened, rfl,
          hstate, Bool.eq_false_of_not_eq_true hplain, not_not.mp hkind, hopens,
          of_decide_eq_true htype, hmatching, hpending, hendpoint, hpromotes⟩
    next => simp at h
  | maintain now counters reads => simp [answeredProbe] at h
  | forwardTun packet routedPacket now reads => simp [answeredProbe] at h
  | startManualPathProbe now reads => simp [answeredProbe] at h
  | manualPathProbeUnsent => simp [answeredProbe] at h
  | pruneExpiredCandidates now => simp [answeredProbe] at h
  | applyConfiguration candidates policyChanged now => simp [answeredProbe] at h
  | failRelayPath failedEndpoint now => simp [answeredProbe] at h

theorem processDatagram_of_data {packet : Bytes} (hplain : isHandshakePacket packet = false)
    (hkind : (packet[5]?.any fun value => (PacketType.tryFrom value).isSome) = true)
    (material : LocalMaterial) (source : SocketAddr) (now : Nat) (allowRoutedData : Bool)
    (reads : DatagramReads) :
    peer.processDatagram c material source packet now allowRoutedData reads =
      peer.handleData c source packet now allowRoutedData reads.instant := by
  obtain ⟨value, hvalue, hsome⟩ := (Option.any_eq_true _ _).mp hkind
  unfold isHandshakePacket at hplain
  rw [hvalue, Option.any_some, decide_eq_false_iff_not] at hplain
  simp only [not_or] at hplain
  obtain ⟨hfirst, hsecond, hthird, hfourth⟩ := hplain
  unfold processDatagram
  rw [hvalue]
  dsimp only
  rw [if_neg hfirst, if_neg hsecond, if_neg hthird, if_neg hfourth, if_pos hsome]

/-- The answer moves the path to the endpoint of the probe. -/
theorem answeredProbe_promotes {op : PeerOp} {pending : PendingPathProbe}
    (h : peer.answeredProbe c op = some pending) (material : LocalMaterial) :
    (peer.apply c material op).2.activeEndpoint = some pending.endpoint ∧
      (peer.apply c material op).2.pathReason = some .authenticatedPathProbe := by
  obtain ⟨source, packet, now, allowRoutedData, throughRelay, reads, established, opened, rfl, hstate,
    hplain, hkind, hopens, htype, hmatching, _, hendpoint, hpromotes⟩ := answeredProbe_cases h
  have hhandled : peer.handleData c source packet now allowRoutedData reads.instant =
      (.empty, { peer with state := .established { established with
        receiver := (openDatagram c established.receiver packet allowRoutedData).2 }
          }.completePathProbe pending source now) := by
    unfold handleData
    rw [hstate]
    dsimp only
    rw [hopens]
    dsimp only
    rw [htype]
    dsimp only
    split
    next hnone => exact absurd (hmatching.symm.trans hnone) (by simp)
    next other hother => rw [Option.some.inj (hother.symm.trans hmatching)]
  have hprocessed := @processDatagram_of_data c peer packet hplain hkind material source now
    allowRoutedData reads
  show (peer.receive c material source packet now allowRoutedData throughRelay
    reads).2.activeEndpoint = _ ∧ (peer.receive c material source packet now allowRoutedData
      throughRelay reads).2.pathReason = _
  unfold receive
  rw [hprocessed, hhandled]
  dsimp only
  rw [if_neg (by simp [ProcessResult.empty])]
  unfold completePathProbe
  rw [if_pos hpromotes, hendpoint]
  exact ⟨rfl, rfl⟩

/-- Nothing else moves the path in `handle_data`. -/
theorem answeredProbe_of_moved {source : SocketAddr} {packet : Bytes} {now : Nat}
    {allowRoutedData : Bool} {instant : Nat} {result : ProcessResult}
    (hplain : isHandshakePacket packet = false)
    (hkind : (packet[5]?.any fun value => (PacketType.tryFrom value).isSome) = true)
    (h : peer.handleData c source packet now allowRoutedData instant = (result, peer'))
    (hmoved : peer'.activeEndpoint ≠ peer.activeEndpoint) (throughRelay : Bool) (reads : DatagramReads) :
    (peer.answeredProbe c
      (.datagram source packet now allowRoutedData throughRelay reads)).isSome = true := by
  rcases handleData_cases h with ⟨_, _, heq⟩ | ⟨_, _, _, _, heq⟩ |
    ⟨established, opened, receiver, established', hstate, hopens, heq | ⟨pending, htype, _, hmatching, heq⟩, _⟩
  · exact absurd (by rw [heq]) hmoved
  · exact absurd (by rw [heq]) hmoved
  · exact absurd (by rw [heq]) hmoved
  · have hpromotes : pending.promotesPath = true := by
      by_contra hstays
      refine hmoved ?_
      rw [heq]
      unfold completePathProbe
      rw [if_neg hstays]
    unfold answeredProbe
    rw [hstate]
    simp [hplain, hkind, hopens, htype, hmatching, Option.filter_some, hpromotes]

theorem priorityOf_of_routes (h : peer'.candidates.map EndpointCandidate.route =
    peer.candidates.map EndpointCandidate.route) (endpoint : SocketAddr) :
    peer'.priorityOf endpoint = peer.priorityOf endpoint := by
  have hroutes : ∀ candidates : List EndpointCandidate,
      (candidates.find? fun candidate => candidate.endpoint = endpoint).map EndpointCandidate.priority =
        ((candidates.map EndpointCandidate.route).find? fun route => route.1 = endpoint).map
          Prod.snd := by
    intro candidates
    rw [List.find?_map, Option.map_map]
    rfl
  unfold priorityOf
  rw [hroutes, hroutes, h]

/-- Whether an endpoint is an upgrade is said by the routes and the active path. -/
theorem upgrades_of_routes {endpoint : SocketAddr} (h : peer.Upgrades endpoint)
    (hroutes : peer'.candidates.map EndpointCandidate.route =
      peer.candidates.map EndpointCandidate.route)
    (hactive : peer'.activeEndpoint = peer.activeEndpoint) : peer'.Upgrades endpoint := by
  obtain ⟨candidate, hmem, hendpoint, habove⟩ := h
  have hroute : candidate.route ∈ peer'.candidates.map EndpointCandidate.route := by
    rw [hroutes]
    exact List.mem_map_of_mem hmem
  obtain ⟨candidate', hmem', hsame⟩ := List.mem_map.mp hroute
  obtain ⟨hendpoint', hpriority⟩ := Prod.mk.inj hsame
  refine ⟨candidate', hmem', hendpoint'.trans hendpoint, fun priority hlower => ?_⟩
  rw [hpriority]
  refine habove priority ?_
  rw [hactive] at hlower
  obtain ⟨active, hisActive, hof⟩ := Option.bind_eq_some_iff.mp hlower
  rw [priorityOf_of_routes hroutes] at hof
  exact Option.bind_eq_some_iff.mpr ⟨active, hisActive, hof⟩

end Peer

namespace ProbingPeer

variable {c : Crypto} {material : LocalMaterial} {s : ProbingPeer}

/-- Under a session, a probe that is to move the path goes to a candidate above the active one and
was sealed under that session. -/
def Sound (s : ProbingPeer) : Prop :=
  s.peer.state.isEstablished = true → ∀ pending ∈ s.peer.pendingPathProbe,
    pending.promotesPath = true → s.peer.Upgrades pending.endpoint ∧ s.sealedIn = s.sessions

theorem sound_of_gone (h : s.peer.state.isEstablished = false ∨ s.peer.pendingPathProbe = none) :
    s.Sound := by
  intro hsession pending hpending
  rcases h with hstate | hnone
  · rw [hstate] at hsession
    simp at hsession
  · rw [hnone] at hpending
    simp at hpending

theorem step_sessions {op : PeerOp} (h : s.peer.state.isEstablished = true) :
    (s.step c material op).2.sessions = s.sessions := by
  unfold ProbingPeer.step
  dsimp only
  rw [h, if_neg (by simp)]

theorem step_sealedIn {op : PeerOp} {pending : PendingPathProbe}
    (h : s.peer.pendingPathProbe = some pending) :
    (s.step c material op).2.sealedIn = s.sealedIn := by
  unfold ProbingPeer.step
  dsimp only
  rw [if_neg (by simp [h])]

theorem step_sealedIn_created {op : PeerOp} {pending : PendingPathProbe}
    (h : s.peer.pendingPathProbe = none)
    (h' : (s.step c material op).2.peer.pendingPathProbe = some pending) :
    (s.step c material op).2.sealedIn = (s.step c material op).2.sessions := by
  have hcreated : (s.peer.apply c material op).2.pendingPathProbe ≠ none := by
    rw [show (s.peer.apply c material op).2.pendingPathProbe = some pending from h']
    simp
  unfold ProbingPeer.step
  dsimp only
  rw [if_pos ⟨h, hcreated⟩]

theorem Sound.step {op : PeerOp} (h : s.Sound) (hstands : s.ProbeStands c op) :
    (s.step c material op).2.Sound := by
  have heffect : ProbeEffect c s.peer op (s.step c material op).2.peer := Peer.apply_effect op
  intro hestablished pending' hpending' hpromotes'
  cases heffect with
  | ended gone => exact sound_of_gone gone hestablished pending' hpending' hpromotes'
  | kept session routes active probe =>
    obtain ⟨pending, hpending, hendpoint, hpromotes⟩ := probe pending' hpending'
    rw [session] at hestablished
    rw [hpromotes] at hpromotes'
    obtain ⟨hupgrades, hsealed⟩ := h hestablished pending hpending hpromotes'
    rw [hendpoint, step_sealedIn hpending, step_sessions hestablished]
    exact ⟨Peer.upgrades_of_routes hupgrades routes active, hsealed⟩
  | created session candidates active none target =>
    exact ⟨Peer.upgrades_of_routes (target pending' hpending' hpromotes') (by rw [candidates]) active,
      step_sealedIn_created none hpending'⟩
  | pruned hop before after candidates active probe =>
    rw [probe] at hpending'
    subst hop
    obtain ⟨_, hsealed⟩ := h before pending' hpending' hpromotes'
    rw [step_sealedIn hpending', step_sessions before]
    exact ⟨Peer.upgrades_of_routes (hstands pending' hpending' hpromotes' before)
      (by rw [candidates]) active, hsealed⟩
  | installed hop finishes active reason probe =>
    rw [probe] at hpending'
    subst hop
    exact absurd ⟨rfl, active, reason⟩ (hstands pending' hpending' hpromotes' finishes)

theorem Sound.onlyUpgrades (h : s.Sound) (op : PeerOp) : s.OnlyUpgrades c op := by
  intro pending hanswered
  obtain ⟨_, _, _, _, _, _, established, _, _, hstate, _, _, _, _, _, hpending, _, hpromotes⟩ :=
    Peer.answeredProbe_cases hanswered
  exact h (by rw [hstate]; rfl) pending hpending hpromotes

end ProbingPeer

/-- In every run of a peer in which its pending probe stands, a response moves the path only to a
candidate above the active one, and only under the session its challenge was sealed in. -/
theorem path_probes_only_upgrade (c : Crypto) (material : LocalMaterial) (nodeId : Block 16)
    (nodeIdBase64 : String) (virtualIp : Ipv4Addr) (candidates : List EndpointCandidate) (now : Nat)
    (ops : List PeerOp)
    (h : Along (ProbingPeer.step c material) (ProbingPeer.ProbeStands c)
      (.new (newPeer nodeId nodeIdBase64 virtualIp candidates now)) ops) :
    Along (ProbingPeer.step c material) (ProbingPeer.OnlyUpgrades c)
      (.new (newPeer nodeId nodeIdBase64 virtualIp candidates now)) ops := by
  have hstart : (ProbingPeer.new (newPeer nodeId nodeIdBase64 virtualIp candidates now)).Sound :=
    ProbingPeer.sound_of_gone (Or.inl rfl)
  generalize ProbingPeer.new (newPeer nodeId nodeIdBase64 virtualIp candidates now) = s at h hstart ⊢
  induction ops generalizing s with
  | nil => trivial
  | cons op ops ih =>
    exact ⟨hstart.onlyUpgrades op, ih _ h.2 (hstart.step h.1)⟩

def sampleUpperEndpoint : SocketAddr := .v4 ⟨.new 192 0 2 9, 41641⟩

/-- Two paths to the sample peer, the upper one for a shorter time. -/
def sampleProbedCandidates : List EndpointCandidate :=
  [⟨.static, sampleUpperEndpoint, 20000, 100⟩, ⟨.static, sampleEndpoint, 19999, 1000⟩]

def sampleProbing : ProbingPeer :=
  .new (newPeer samplePeer.nodeId samplePeer.nodeIdBase64 samplePeer.virtualIp sampleProbedCandidates 0)

def sampleDatagram (source : SocketAddr) (packet : Bytes) (sessionId : Block 16) : PeerOp :=
  .datagram source packet 0 false false
    ⟨some (fill 32 3), some (fill 32 8), some sessionId, some 1700000100, some 1700000100, 0⟩

/-- Maintenance with what a handshake and a probe read. -/
def sampleProbeTick : PeerOp :=
  .maintain 0 ⟨0, 0⟩ ⟨⟨none, none, none, none⟩, ⟨some (fill 8 1), some (fill 4 1)⟩,
    ⟨some (fill 32 3), some (fill 32 4), some (u32ToBe 5), some 1700000100⟩⟩

/-- The peer begins a handshake on the lower path: its datagrams, and its sender afterwards. -/
def sampleRemoteHandshake (sessionId : Block 16) : Option (List PeerOp × DataSender) := do
  let hello ← ClientHelloSent.start .transparent {
    context := samplePeerContext
    credential := sampleCredential sampleIdentityKey samplePeer.virtualIp
    ephemeralPrivateKey := ⟨fill 32 7⟩
    clientNonce := fill 32 4
    messageId := 5
    clientTime := 1700000050 } sampleIdentityKey
  let answer ← samplePeer.acceptClientHello .transparent sampleMaterial hello.encoded
    ⟨some (fill 32 3), some (fill 32 8), some sessionId, some 1700000100, some 1700000100, 0⟩
  let finishing ← hello.acceptServerHello .transparent answer.encoded
    sampleMaterial.controllerVerifyingKey 1700000100
  let (_, serverFinish) ← answer.acceptClientFinish .transparent finishing.encoded
  let session ← finishing.acceptServerFinish .transparent serverFinish
  let (sender, _) ← session.intoDataPlane .transparent
  some ([sampleDatagram sampleEndpoint hello.encoded sessionId,
    sampleDatagram sampleEndpoint finishing.encoded sessionId], sender)

/-- The answer to the probe of `sampleProbeTick`, from the upper path. -/
def sampleResponse (sender : DataSender) : Option PeerOp :=
  (sender.sealControl .transparent .pathResponse .pathProbe (u32FromBe (fill 4 1))
    (fill 8 1).val).1.map fun packet => sampleDatagram sampleUpperEndpoint packet (fill 16 9)

/-- A probe of the upper path is answered; the given calls come between. -/
def sampleProbe (between : List PeerOp) : Option (List PeerOp) := do
  let (handshake, sender) ← sampleRemoteHandshake (fill 16 9)
  let response ← sampleResponse sender
  some (handshake ++ [sampleProbeTick] ++ between ++ [response])

theorem path_probes_only_upgrade_sample : ∃ ops, sampleProbe [] = some ops ∧
    Along (ProbingPeer.step .transparent sampleMaterial) (ProbingPeer.ProbeStands .transparent)
      sampleProbing ops ∧
    Along (ProbingPeer.step .transparent sampleMaterial) (ProbingPeer.OnlyUpgrades .transparent)
      sampleProbing ops := by
  have hrun : ((sampleProbe []).any fun ops => decide (Along (ProbingPeer.step .transparent
      sampleMaterial) (ProbingPeer.ProbeStands .transparent) sampleProbing ops)) = true := by
    decide +kernel
  obtain ⟨ops, hops, hstands⟩ := (Option.any_eq_true _ _).mp hrun
  exact ⟨ops, hops, of_decide_eq_true hstands,
    path_probes_only_upgrade .transparent sampleMaterial _ _ _ _ 0 ops (of_decide_eq_true hstands)⟩

/-- The peer answers on the lower path where the upper one was tried, is probed, and comes back with a
new session under which it answers. -/
def sampleReplacedSession : Option (List PeerOp) := do
  let (_, answer, _, serverFinish, _, _) ← sampleHandshake
  let (handshake, sender) ← sampleRemoteHandshake (fill 16 10)
  let response ← sampleResponse sender
  some ([sampleProbeTick, sampleDatagram sampleEndpoint answer.encoded (fill 16 9),
    sampleDatagram sampleEndpoint serverFinish (fill 16 9), sampleProbeTick] ++ handshake ++ [response])

/-- A response moves the path to a candidate that has expired, and another one moves it under another
session than that of the challenge. -/
theorem path_probe_outlives_candidate :
    (∃ ops, sampleProbe [.pruneExpiredCandidates 100] = some ops ∧
      ¬Along (ProbingPeer.step .transparent sampleMaterial) (ProbingPeer.OnlyUpgrades .transparent)
        sampleProbing ops) ∧
    ∃ ops, sampleReplacedSession = some ops ∧
      ¬Along (ProbingPeer.step .transparent sampleMaterial) (ProbingPeer.OnlyUpgrades .transparent)
        sampleProbing ops := by
  have hexpired : ((sampleProbe [.pruneExpiredCandidates 100]).any fun ops =>
      !decide (Along (ProbingPeer.step .transparent sampleMaterial)
        (ProbingPeer.OnlyUpgrades .transparent) sampleProbing ops)) = true := by
    decide +kernel
  have hreplaced : (sampleReplacedSession.any fun ops =>
      !decide (Along (ProbingPeer.step .transparent sampleMaterial)
        (ProbingPeer.OnlyUpgrades .transparent) sampleProbing ops)) = true := by
    decide +kernel
  obtain ⟨expired, hsome, hfails⟩ := (Option.any_eq_true _ _).mp hexpired
  obtain ⟨replaced, hsome', hfails'⟩ := (Option.any_eq_true _ _).mp hreplaced
  exact ⟨⟨expired, hsome, by simpa using hfails⟩, ⟨replaced, hsome', by simpa using hfails'⟩⟩

end XsNexus
