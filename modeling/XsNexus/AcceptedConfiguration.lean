import XsNexus.NodeState

namespace XsNexus

open ByteCodec Checks

variable {c : Crypto} {f : Formats}

def SameRelayId (f : Formats) (a b : ConfigurationRelay) : Prop :=
  ∃ id, decodeFixed f 16 a.relayIdBase64 = .ok id ∧ decodeFixed f 16 b.relayIdBase64 = .ok id

def UsableRelay (c : Crypto) (f : Formats) (relay : ConfigurationRelay) : Prop :=
  ∃ id key, decodeFixed f 16 relay.relayIdBase64 = .ok id ∧
    verifyingKey c f relay.identityPublicKeyBase64 = .ok key ∧ id ≠ zeros 16 ∧ relay.priority ≠ 0

theorem checkRelay_cases {payload : ConfigurationPayload} {seen seen' : RelayChecks}
    {relay : ConfigurationRelay} (h : checkRelay c f payload seen relay = .ok seen') :
    UsableRelay c f relay ∧ ∃ id, decodeFixed f 16 relay.relayIdBase64 = .ok id ∧
      id ∉ seen.relayIds ∧ seen'.relayIds = id :: seen.relayIds := by
  obtain ⟨id, hid, h⟩ := bind_ok.mp h
  obtain ⟨publicKey, hkey, h⟩ := bind_ok.mp h
  obtain ⟨hguard, h⟩ := guard_ok.mp h
  obtain ⟨_, h⟩ := guard_ok.mp h
  cases h
  simp only [not_or] at hguard
  obtain ⟨hzero, hvalid, hpriority, _, _, _, hnew, _, _⟩ := hguard
  obtain ⟨key, hk⟩ := Option.ne_none_iff_exists'.mp hvalid
  have hverify : verifyingKey c f relay.identityPublicKeyBase64 = .ok key := by
    unfold verifyingKey
    simp [hkey, bind, Except.bind, hk]
  exact ⟨⟨id, key, hid, hverify, hzero, hpriority⟩, id, hid, hnew, rfl⟩

theorem checkRelay_guard (payload : ConfigurationPayload) :
    Guard (checkRelay c f payload) (UsableRelay c f) (SameRelayId f)
      (fun seen relay => ∃ id ∈ seen.relayIds, decodeFixed f 16 relay.relayIdBase64 = .ok id) where
  passed h := by
    obtain ⟨husable, id, hid, hnew, _⟩ := checkRelay_cases h
    refine ⟨husable, ?_⟩
    rintro ⟨other, hmem, hother⟩
    rw [hid] at hother
    cases hother
    exact hnew hmem
  remembered h b := by
    obtain ⟨_, id, hid, _, heq⟩ := checkRelay_cases h
    rw [heq]
    rintro (⟨same, ha, hb⟩ | ⟨same, hmem, hb⟩)
    · rw [hid] at ha
      cases ha
      exact ⟨id, List.mem_cons_self, hb⟩
    · exact ⟨same, List.mem_cons_of_mem _ hmem, hb⟩

def SameNode (f : Formats) (a b : ConfigurationNode) : Prop :=
  (∃ id, decodeFixed f 16 a.nodeIdBase64 = .ok id ∧ decodeFixed f 16 b.nodeIdBase64 = .ok id) ∨
    ∃ ip, parseIpv4Addr a.virtualIp = some ip ∧ parseIpv4Addr b.virtualIp = some ip

structure UsableNode (f : Formats) (node : ConfigurationNode) : Prop where
  decodes : ∃ id, decodeFixed f 16 node.nodeIdBase64 = .ok id
  addressed : ∃ ip, parseIpv4Addr node.virtualIp = some ip
  direct : ∀ encoded ∈ node.directEndpoints, ∃ endpoint, parseSocketAddrV4 encoded = some endpoint
  ordered : prioritiesDecrease node.candidates

theorem checkDirectEndpoint_parses {relayEndpoints : List SocketAddr} {encodeds : List String}
    {seen seen' : List SocketAddr × List SocketAddr}
    (h : encodeds.foldlM (checkDirectEndpoint relayEndpoints) seen = .ok seen') :
    ∀ encoded ∈ encodeds, ∃ endpoint, parseSocketAddrV4 encoded = some endpoint := by
  induction encodeds generalizing seen with
  | nil => simp
  | cons encoded encodeds ih =>
    rw [List.foldlM_cons] at h
    obtain ⟨seen1, h1, h2⟩ := bind_ok.mp h
    refine List.forall_mem_cons.mpr ⟨?_, ih h2⟩
    unfold checkDirectEndpoint at h1
    split at h1
    next => simp at h1
    next endpoint hparse => exact ⟨endpoint, hparse⟩

theorem checkNode_cases {addressPool : Ipv4Net} {generatedAt : Int} {relayEndpoints : List SocketAddr}
    {localNode : LocalNode} {seen seen' : NodeChecks} {node : ConfigurationNode}
    (h : checkNode c f addressPool generatedAt relayEndpoints localNode seen node = .ok seen') :
    UsableNode f node ∧ ∃ id ip, decodeFixed f 16 node.nodeIdBase64 = .ok id ∧
      parseIpv4Addr node.virtualIp = some ip ∧ id ∉ seen.nodeIds ∧ ip ∉ seen.virtualIps ∧
      seen'.nodeIds = id :: seen.nodeIds ∧ seen'.virtualIps = ip :: seen.virtualIps := by
  obtain ⟨id, hid, h⟩ := bind_ok.mp h
  obtain ⟨publicKey, _, h⟩ := bind_ok.mp h
  split at h
  next => simp at h
  next ip hip =>
    obtain ⟨hguard, h⟩ := guard_ok.mp h
    obtain ⟨directEndpoints, hendpoints, h⟩ := bind_ok.mp h
    cases h
    simp only [not_or] at hguard
    obtain ⟨_, _, hordered, _, _, _, hnewId, _, hnewIp⟩ := hguard
    obtain ⟨direct, hdirect, _⟩ := bind_ok.mp hendpoints
    have husable : UsableNode f node := {
      decodes := ⟨id, hid⟩
      addressed := ⟨ip, hip⟩
      direct := checkDirectEndpoint_parses hdirect
      ordered := by simpa using hordered }
    exact ⟨husable, id, ip, hid, hip, hnewId, hnewIp, rfl, rfl⟩

theorem checkNode_guard (addressPool : Ipv4Net) (generatedAt : Int) (relayEndpoints : List SocketAddr)
    (localNode : LocalNode) :
    Guard (checkNode c f addressPool generatedAt relayEndpoints localNode) (UsableNode f) (SameNode f)
      (fun seen node =>
        (∃ id ∈ seen.nodeIds, decodeFixed f 16 node.nodeIdBase64 = .ok id) ∨
          ∃ ip ∈ seen.virtualIps, parseIpv4Addr node.virtualIp = some ip) where
  passed h := by
    obtain ⟨husable, id, ip, hid, hip, hnewId, hnewIp, _⟩ := checkNode_cases h
    refine ⟨husable, ?_⟩
    rintro (⟨other, hmem, hother⟩ | ⟨other, hmem, hother⟩)
    · rw [hid] at hother
      cases hother
      exact hnewId hmem
    · rw [hip] at hother
      cases hother
      exact hnewIp hmem
  remembered h b := by
    obtain ⟨_, id, ip, hid, hip, _, _, hids, hips⟩ := checkNode_cases h
    rw [hids, hips]
    rintro ((⟨same, ha, hb⟩ | ⟨same, ha, hb⟩) | ⟨same, hmem, hb⟩ | ⟨same, hmem, hb⟩)
    · rw [hid] at ha
      cases ha
      exact Or.inl ⟨id, List.mem_cons_self, hb⟩
    · rw [hip] at ha
      cases ha
      exact Or.inr ⟨ip, List.mem_cons_self, hb⟩
    · exact Or.inl ⟨same, List.mem_cons_of_mem _ hmem, hb⟩
    · exact Or.inr ⟨same, List.mem_cons_of_mem _ hmem, hb⟩

/-- What the checks of the Agent say about a payload, apart from its place and its time. -/
structure ValidPayload (c : Crypto) (f : Formats) (payload : ConfigurationPayload) : Prop where
  relaysBounded : payload.relays.length ≤ maxConfiguredRelays
  relaysUsable : ∀ relay ∈ payload.relays, UsableRelay c f relay
  relaysDistinct : payload.relays.Pairwise fun a b => ¬SameRelayId f a b
  nodesUsable : ∀ node ∈ payload.nodes, UsableNode f node
  nodesDistinct : payload.nodes.Pairwise fun a b => ¬SameNode f a b
  aclCompiles : ∃ policy, AclPolicy.compile f payload = .ok policy

theorem validateConfiguration_valid {configuration : SignedConfiguration} {key : VerifyingKey}
    {networkId : Block 16} {localNode : LocalNode} {payload : ConfigurationPayload} {hash : String}
    (h : validateConfiguration c f configuration key networkId localNode = .ok (payload, hash)) :
    ValidPayload c f payload := by
  obtain ⟨decoded, _, h⟩ := bind_ok.mp h
  dsimp only at h
  split at h
  next => simp at h
  next addressPool _ =>
    obtain ⟨hguard, h⟩ := guard_ok.mp h
    obtain ⟨_, _, h⟩ := bind_ok.mp h
    obtain ⟨relayEndpoints, hrelays, h⟩ := bind_ok.mp h
    obtain ⟨seen, hnodes, h⟩ := bind_ok.mp h
    obtain ⟨_, h⟩ := guard_ok.mp h
    obtain ⟨policy, hacl, h⟩ := bind_ok.mp h
    cases h
    simp only [not_or, not_lt] at hguard
    obtain ⟨_, _, _, _, _, _, _, _, hbound, _⟩ := hguard
    obtain ⟨relaysSeen, hrelays, _⟩ := bind_ok.mp hrelays
    obtain ⟨hrelay, hrelayPair, _⟩ := (checkRelay_guard decoded.1).of_foldlM hrelays
    obtain ⟨hnode, hnodePair, _⟩ := (checkNode_guard _ _ _ _).of_foldlM hnodes
    exact ⟨hbound, hrelay, hrelayPair, hnode, hnodePair, policy, mapError_ok.mp hacl⟩

/-- The states an Agent can hold: enrolled, revalidated from its storage, or carried on from there by
configuration updates and new advertisement generations. -/
inductive AcceptedState (c : Crypto) (f : Formats) (identity : SigningKey) : NodeState → Prop
  | enrolled {response : EnrollResponse} {controllerUrl : String} {utcNow : Int} {state : NodeState}
      (h : NodeState.fromEnrollment c f response identity controllerUrl utcNow = .ok state) :
      AcceptedState c f identity state
  | revalidated {controllerUrl : String} {utcNow : Int} {state : NodeState}
      (h : state.validate c f identity controllerUrl utcNow = .ok ()) :
      AcceptedState c f identity state
  | updated {configuration : SignedConfiguration} {state : NodeState}
      (h : AcceptedState c f identity state) :
      AcceptedState c f identity (state.applyConfiguration c f configuration identity).2
  | advertised {state : NodeState} (candidateGeneration subnetRouteGeneration : UInt64)
      (h : AcceptedState c f identity state) :
      AcceptedState c f identity { state with
        candidateGeneration := candidateGeneration
        subnetRouteGeneration := subnetRouteGeneration }

/-- What `AcceptedState` keeps: the state names the local node and holds a valid payload. -/
structure TrustedState (c : Crypto) (f : Formats) (identity : SigningKey) (state : NodeState) :
    Prop where
  localNode : decodeFixed f 16 state.nodeIdBase64 = .ok (nodeId c (c.verifyingKey identity).bytes)
  credential : ∃ credential, decodeFixed f 200 state.credentialBase64 = .ok credential
  credentialKey : ∃ key, verifyingKey c f state.credentialSigningPublicKeyBase64 = .ok key
  valid : ValidPayload c f state.configurationPayload

variable {identity : SigningKey}

theorem decodeFixed_of_length {n : Nat} {encoded : String} {decoded : Bytes}
    (h : decodeBounded f encoded n = .ok decoded) (hlen : decoded.length = n) :
    ∃ block, decodeFixed f n encoded = .ok block := by
  refine ⟨⟨decoded, hlen⟩, ?_⟩
  unfold decodeFixed
  simp [h, bind, Except.bind, array_of_length hlen]

theorem length_of_verifyCredential {credential : Bytes} {key : VerifyingKey} {now : UInt64}
    {claims : VerifiedCredential} (h : verifyCredential c credential key now = some claims) :
    credential.length = 200 := by
  obtain ⟨bytes, hbytes, _⟩ := Option.bind_eq_some_iff.mp h
  rw [← array_eq_some hbytes]
  exact bytes.property

theorem verifyCredential_of_verifiedClaims {credential : Bytes} {key : VerifyingKey} {utcNow : Int}
    {noTime : AgentError} {claims : VerifiedCredential}
    (h : NodeState.verifiedClaims c credential key utcNow noTime = .ok claims) :
    ∃ now, verifyCredential c credential key now = some claims := by
  unfold NodeState.verifiedClaims at h
  split at h
  next => simp at h
  next now _ =>
    split at h
    next => simp at h
    next verified hverified =>
      cases h
      exact ⟨now, hverified⟩

theorem fromEnrollment_trusted {response : EnrollResponse} {controllerUrl : String} {utcNow : Int}
    {state : NodeState}
    (h : NodeState.fromEnrollment c f response identity controllerUrl utcNow = .ok state) :
    TrustedState c f identity state := by
  obtain ⟨credentialKey, hkey, h⟩ := bind_ok.mp h
  obtain ⟨configurationKey, _, h⟩ := bind_ok.mp h
  obtain ⟨_, h⟩ := guard_ok.mp h
  obtain ⟨credential, hcredential, h⟩ := bind_ok.mp h
  obtain ⟨hlen, h⟩ := guard_ok.mp h
  obtain ⟨claims, _, h⟩ := bind_ok.mp h
  obtain ⟨encodedNodeId, hencoded, h⟩ := bind_ok.mp h
  split at h
  next => simp at h
  next virtualIp _ =>
    obtain ⟨hguard, h⟩ := guard_ok.mp h
    obtain ⟨validated, hvalid, h⟩ := bind_ok.mp h
    cases h
    simp only [not_or, not_not] at hguard
    obtain ⟨_, _, _, hlocal, _⟩ := hguard
    exact {
      localNode := by rw [← hlocal]; exact hencoded
      credential := decodeFixed_of_length hcredential (not_not.mp hlen)
      credentialKey := ⟨credentialKey, hkey⟩
      valid := validateConfiguration_valid hvalid }

theorem validate_trusted {controllerUrl : String} {utcNow : Int} {state : NodeState}
    (h : state.validate c f identity controllerUrl utcNow = .ok ()) :
    TrustedState c f identity state := by
  obtain ⟨_, h⟩ := guard_ok.mp h
  obtain ⟨credentialKey, hkey, h⟩ := bind_ok.mp h
  obtain ⟨configurationKey, _, h⟩ := bind_ok.mp h
  obtain ⟨_, h⟩ := guard_ok.mp h
  obtain ⟨credential, hcredential, h⟩ := bind_ok.mp h
  obtain ⟨claims, hclaims, h⟩ := bind_ok.mp h
  obtain ⟨_, h⟩ := guard_ok.mp h
  obtain ⟨encodedNodeId, hencoded, h⟩ := bind_ok.mp h
  obtain ⟨hlocal, h⟩ := guard_ok.mp h
  obtain ⟨validated, hvalid, h⟩ := bind_ok.mp h
  obtain ⟨hsame, _⟩ := guard_ok.mp h
  simp only [not_or, not_not] at hlocal hsame
  have hpayload : ValidPayload c f validated.1 := validateConfiguration_valid hvalid
  obtain ⟨now, hverified⟩ := verifyCredential_of_verifiedClaims hclaims
  exact {
    localNode := by rw [← hlocal]; exact hencoded
    credential := decodeFixed_of_length hcredential (length_of_verifyCredential hverified)
    credentialKey := ⟨credentialKey, hkey⟩
    valid := hsame.1 ▸ hpayload }

theorem applyConfiguration_trusted {configuration : SignedConfiguration} {state : NodeState}
    (h : TrustedState c f identity state) :
    TrustedState c f identity (state.applyConfiguration c f configuration identity).2 := by
  unfold NodeState.applyConfiguration
  split
  next => exact h
  next payload hash hvalid =>
    split
    next => exact h
    next =>
      split
      next => exact h
      next =>
        obtain ⟨key, _, hvalid⟩ := bind_ok.mp hvalid
        exact ⟨h.localNode, h.credential, h.credentialKey, validateConfiguration_valid hvalid⟩

theorem AcceptedState.trusted {state : NodeState} (h : AcceptedState c f identity state) :
    TrustedState c f identity state := by
  induction h with
  | enrolled h => exact fromEnrollment_trusted h
  | revalidated h => exact validate_trusted h
  | updated _ ih => exact applyConfiguration_trusted ih
  | advertised _ _ _ ih => exact ⟨ih.localNode, ih.credential, ih.credentialKey, ih.valid⟩

end XsNexus
