import XsNexus.DirectoryChecks
import XsNexus.StandardFormats

namespace XsNexus

open ByteCodec Checks FiniteMap

/-- The time of a build lets the data plane of a payload be built. -/
structure ReadyToBuild (f : Formats) (payload : ConfigurationPayload) (localNodeId : Block 16)
    (utcNow : Int) : Prop where
  relays : RelaysReady payload.relays utcNow
  peers : PeersReady f payload.nodes localNodeId
    (maxHandshakeCandidatesPerCycle - min payload.relays.length maxRelayCandidatesPerPeer) utcNow

section Build

variable {c : Crypto} {f : Formats} {identity : SigningKey} {state : NodeState} {now : Nat}
  {utcNow : Int}

theorem compileAcl_ok (h : ValidPayload c f state.configurationPayload) :
    ∃ policy, compileAcl f state = .ok policy := by
  obtain ⟨policy, hpolicy⟩ := h.aclCompiles
  exact ⟨policy, mapError_ok.mpr hpolicy⟩

theorem compileSubnetRoutes_ok (h : ValidPayload c f state.configurationPayload) :
    ∃ routes, compileSubnetRoutes f state = .ok routes := by
  obtain ⟨policy, hpolicy⟩ := h.aclCompiles
  obtain ⟨routes, hroutes⟩ := AclPolicy.subnetRoutes_of_compile hpolicy
  exact ⟨routes, mapError_ok.mpr hroutes⟩

theorem localMaterial_ok (h : TrustedState c f identity state) :
    ∃ material, localMaterial c f state identity = .ok material ∧
      material.nodeId = nodeId c (c.verifyingKey identity).bytes := by
  obtain ⟨credential, hcredential⟩ := h.credential
  obtain ⟨key, hkey⟩ := h.credentialKey
  refine ⟨_, bind_ok.mpr ⟨_, h.localNode, bind_ok.mpr ⟨credential, hcredential,
    bind_ok.mpr ⟨key, hkey, rfl⟩⟩⟩, rfl⟩

theorem directory_ok (now : Nat) {manager : RelayManager} {localNodeId : Block 16}
    (h : ValidPayload c f state.configurationPayload)
    (hsize : size manager.clients = state.configurationPayload.relays.length) :
    (∃ directory, buildPeerDirectory f state localNodeId manager.candidates now utcNow =
        .ok directory) ↔
      PeersReady f state.configurationPayload.nodes localNodeId
        (maxHandshakeCandidatesPerCycle -
          min state.configurationPayload.relays.length maxRelayCandidatesPerPeer) utcNow := by
  have hlength : manager.candidates.length = state.configurationPayload.relays.length := by
    rw [length_candidates, hsize]
    exact Nat.min_eq_right h.relaysBounded
  rw [buildPeerDirectory_ok h fun _ => kind_of_mem_candidates, hlength]

theorem bindDataPlane_ok (h : TrustedState c f identity state) :
    (∃ parts, bindDataPlane c f state identity now utcNow = .ok parts) ↔
      ReadyToBuild f state.configurationPayload (nodeId c (c.verifyingKey identity).bytes) utcNow := by
  obtain ⟨material, hmaterial, hnode⟩ := localMaterial_ok h
  constructor
  · rintro ⟨parts, hparts⟩
    obtain ⟨material', hmaterial', hparts⟩ := bind_ok.mp hparts
    rw [hmaterial] at hmaterial'
    cases hmaterial'
    obtain ⟨manager, hmanager, hparts⟩ := bind_ok.mp hparts
    obtain ⟨clients, hclients, hmanager⟩ := bind_ok.mp hmanager
    cases hmanager
    obtain ⟨directory, hdirectory, _⟩ := bind_ok.mp hparts
    rw [hnode] at hdirectory
    exact ⟨(relayClients_ok now h.valid).mp ⟨clients, hclients⟩,
      (directory_ok now h.valid (size_relayClients hclients)).mp ⟨directory, hdirectory⟩⟩
  · rintro ⟨hrelays, hpeers⟩
    obtain ⟨clients, hclients⟩ := (relayClients_ok now h.valid).mpr hrelays
    let manager : RelayManager :=
      ⟨material.networkId, material.nodeId, material.credential, material.identity, clients⟩
    have hsize : size manager.clients = state.configurationPayload.relays.length :=
      size_relayClients hclients
    rw [← hnode] at hpeers
    obtain ⟨directory, hdirectory⟩ := (directory_ok now h.valid hsize).mpr hpeers
    obtain ⟨policy, hpolicy⟩ := compileAcl_ok h.valid
    obtain ⟨routes, hroutes⟩ := compileSubnetRoutes_ok h.valid
    exact ⟨_, bind_ok.mpr ⟨material, hmaterial, bind_ok.mpr ⟨manager,
      bind_ok.mpr ⟨clients, hclients, rfl⟩, bind_ok.mpr ⟨directory, hdirectory,
        bind_ok.mpr ⟨policy, hpolicy, bind_ok.mpr ⟨routes, hroutes, rfl⟩⟩⟩⟩⟩⟩

theorem applyConfiguration_of_relayClients (manager : RelayManager)
    {clients : Map SocketAddr RelayClient}
    (h : relayClients c f state.configurationPayload.relays now utcNow = .ok clients) :
    ∃ failed, (manager.applyConfiguration c f state now utcNow).1 = .ok failed ∧
      size (manager.applyConfiguration c f state now utcNow).2.clients =
        state.configurationPayload.relays.length := by
  unfold RelayManager.applyConfiguration
  rw [h]
  exact ⟨_, rfl, (size_mapWithKey _ _).trans (size_relayClients h)⟩

theorem relayClients_of_applyConfiguration {manager : RelayManager} {failed : List SocketAddr}
    (h : (manager.applyConfiguration c f state now utcNow).1 = .ok failed) :
    ∃ clients, relayClients c f state.configurationPayload.relays now utcNow = .ok clients := by
  unfold RelayManager.applyConfiguration at h
  split at h
  next => simp at h
  next clients hclients => exact ⟨clients, hclients⟩

theorem rebuildDataPlane_ok (h : TrustedState c f identity state) (running : DataPlaneParts) :
    (∃ rebuilt, rebuildDataPlane c f state running now utcNow = .ok rebuilt) ↔
      ReadyToBuild f state.configurationPayload running.material.nodeId utcNow := by
  constructor
  · rintro ⟨rebuilt, hrebuilt⟩
    obtain ⟨_, _, hrebuilt⟩ := bind_ok.mp hrebuilt
    obtain ⟨_, _, hrebuilt⟩ := bind_ok.mp hrebuilt
    obtain ⟨failed, hfailed, hrebuilt⟩ := bind_ok.mp hrebuilt
    obtain ⟨directory, hdirectory, _⟩ := bind_ok.mp hrebuilt
    obtain ⟨clients, hclients⟩ := relayClients_of_applyConfiguration hfailed
    obtain ⟨_, _, hsize⟩ := applyConfiguration_of_relayClients running.relayManager hclients
    exact ⟨(relayClients_ok now h.valid).mp ⟨clients, hclients⟩,
      (directory_ok now h.valid hsize).mp ⟨directory, hdirectory⟩⟩
  · rintro ⟨hrelays, hpeers⟩
    obtain ⟨clients, hclients⟩ := (relayClients_ok now h.valid).mpr hrelays
    obtain ⟨failed, hfailed, hsize⟩ :=
      applyConfiguration_of_relayClients running.relayManager hclients
    obtain ⟨directory, hdirectory⟩ := (directory_ok now h.valid hsize).mpr hpeers
    obtain ⟨policy, hpolicy⟩ := compileAcl_ok h.valid
    obtain ⟨routes, hroutes⟩ := compileSubnetRoutes_ok h.valid
    exact ⟨_, bind_ok.mpr ⟨policy, hpolicy, bind_ok.mpr ⟨routes, hroutes, bind_ok.mpr ⟨failed,
      hfailed, bind_ok.mpr ⟨directory, hdirectory, rfl⟩⟩⟩⟩⟩

/-- A configuration the Agent accepted can be built at a time, afresh or over a running data plane,
exactly if no relay has expired and no endpoints meet once they are normalised. -/
theorem accepted_configuration_builds_iff (h : AcceptedState c f identity state) :
    ((∃ parts, bindDataPlane c f state identity now utcNow = .ok parts) ∧
      ∀ running, running.material.nodeId = nodeId c (c.verifyingKey identity).bytes →
        ∃ rebuilt, rebuildDataPlane c f state running now utcNow = .ok rebuilt) ↔
      ReadyToBuild f state.configurationPayload (nodeId c (c.verifyingKey identity).bytes) utcNow := by
  rw [bindDataPlane_ok h.trusted]
  constructor
  · exact And.left
  · intro hready
    refine ⟨hready, fun running hrunning => ?_⟩
    rw [rebuildDataPlane_ok h.trusted, hrunning]
    exact hready

end Build

def sampleConfigurationKey : SigningKey := ⟨fill 32 13⟩

def samplePeerNode : ConfigurationNode where
  nodeIdBase64 := "EsKV_kbLiaP5KQLaaUH-aA"
  identityPublicKeyBase64 := "KSkpKSkpKSkpKSkpKSkpKSkpKSkpKSkpKSkpKSkpKSk"
  virtualIp := "100.88.0.11"
  directEndpoints := []
  candidates := [⟨.localAddress, sampleEndpoint, 10000, 1700003700 * 10 ^ 9⟩]
  credentialSerial := 8
  credentialNotAfter := 1700010000 * 10 ^ 9
  roleBitmap := 1
  groups := []
  tags := []
  updateChannel := none

/-- The local node, one peer and one relay that expires after an hour. -/
def samplePayload : ConfigurationPayload where
  schemaVersion := 1
  networkId := fill 16 21
  version := 1
  policyVersion := 1
  generatedAt := 1700000100 * 10 ^ 9
  addressPool := "100.88.0.0/16"
  discoveryEndpoints := []
  nodes := [{
    nodeIdBase64 := "8MYf6mMhY-K0v_ph_5yHgA"
    identityPublicKeyBase64 := "CwsLCwsLCwsLCwsLCwsLCwsLCwsLCwsLCwsLCwsLCws"
    virtualIp := "100.88.0.10"
    directEndpoints := []
    candidates := []
    credentialSerial := 7
    credentialNotAfter := 1700010000 * 10 ^ 9
    roleBitmap := 1
    groups := []
    tags := []
    updateChannel := none }, samplePeerNode]
  relays := [{
    relayIdBase64 := "Hx8fHx8fHx8fHx8fHx8fHw"
    endpoint := .v4 ⟨.new 198 51 100 7, 7777⟩
    identityPublicKeyBase64 := "ICAgICAgICAgICAgICAgICAgICAgICAgICAgICAgICA"
    priority := 100
    expiresAt := 1700003700 * 10 ^ 9 }]
  policies := []
  subnetRoutes := []

def samplePayloadJson : String :=
  "\x7b\"schema_version\":1,\"network_id\":\"15151515-1515-1515-1515-151515151515\",\"version\":1," ++
  "\"generated_at\":\"2023-11-14T22:15:00Z\",\"address_pool\":\"100.88.0.0/16\",\"nodes\":[" ++
  "\x7b\"node_id_base64\":\"8MYf6mMhY-K0v_ph_5yHgA\"," ++
  "\"identity_public_key_base64\":\"CwsLCwsLCwsLCwsLCwsLCwsLCwsLCwsLCwsLCwsLCws\"," ++
  "\"virtual_ip\":\"100.88.0.10\",\"credential_serial\":7," ++
  "\"credential_not_after\":\"2023-11-15T01:00:00Z\",\"role_bitmap\":1,\"tags\":[]\x7d," ++
  "\x7b\"node_id_base64\":\"EsKV_kbLiaP5KQLaaUH-aA\"," ++
  "\"identity_public_key_base64\":\"KSkpKSkpKSkpKSkpKSkpKSkpKSkpKSkpKSkpKSkpKSk\"," ++
  "\"virtual_ip\":\"100.88.0.11\",\"candidates\":[\x7b\"kind\":\"local\"," ++
  "\"endpoint\":\"192.0.2.1:4000\",\"priority\":10000," ++
  "\"expires_at\":\"2023-11-14T23:15:00Z\"\x7d],\"credential_serial\":8," ++
  "\"credential_not_after\":\"2023-11-15T01:00:00Z\",\"role_bitmap\":1,\"tags\":[]\x7d]," ++
  "\"relays\":[\x7b\"relay_id_base64\":\"Hx8fHx8fHx8fHx8fHx8fHw\"," ++
  "\"endpoint\":\"198.51.100.7:7777\"," ++
  "\"identity_public_key_base64\":\"ICAgICAgICAgICAgICAgICAgICAgICAgICAgICAgICA\"," ++
  "\"priority\":100,\"expires_at\":\"2023-11-14T23:15:00Z\"\x7d]\x7d"

def sampleFormats : Formats :=
  standardFormats fun bytes => if bytes = utf8 samplePayloadJson then some samplePayload else none

def signedSample (version : UInt64) (bytes : Bytes) : SignedConfiguration where
  version := version
  payloadBase64 := Base64.urlEncode bytes
  signatureBase64 := Base64.urlEncode
    (Crypto.transparent.sign sampleConfigurationKey (configurationDomain ++ bytes)).val
  signerKeyId := controllerKeyId .transparent (Crypto.transparent.verifyingKey sampleConfigurationKey)

theorem decode_signedSample {payloads : Bytes → Option ConfigurationPayload} {version : UInt64}
    {bytes : Bytes} {payload : ConfigurationPayload} (hversion : version ≠ 0) (hbytes : bytes ≠ [])
    (hle : bytes.length ≤ maxConfigurationBytes) (hpayload : payloads bytes = some payload) :
    decodeSignedConfiguration .transparent (standardFormats payloads) (signedSample version bytes)
      (Crypto.transparent.verifyingKey sampleConfigurationKey) = .ok (payload, bytes) := by
  have hdata := decodeBounded_urlEncode payloads hbytes hle (by decide)
  have hsignature := decodeFixed_urlEncode payloads
    (Crypto.transparent.sign sampleConfigurationKey (configurationDomain ++ bytes)) (by omega)
    (by decide)
  refine guard_ok.mpr ⟨?_, bind_ok.mpr ⟨bytes, hdata, bind_ok.mpr ⟨_, hsignature,
    guard_ok.mpr ⟨?_, ?_⟩⟩⟩⟩
  · simp [hversion, signedSample]
  · simp [Crypto.transparent]
  · have hparsed : (standardFormats payloads).configurationPayload bytes = some payload := hpayload
    simp [hparsed]

def sampleNodeState : NodeState where
  schemaVersion := 1
  controllerUrl := "https://controller.example/"
  networkId := fill 16 21
  nodeIdBase64 := "8MYf6mMhY-K0v_ph_5yHgA"
  virtualIp := .new 100 88 0 10
  credentialBase64 :=
    Base64.urlEncode (sampleCredential sampleIdentityKey (.new 100 88 0 10)).val
  credentialKeyId := 247083818
  credentialSigningPublicKeyBase64 := Base64.urlEncode sampleControllerKey.seed.val
  configurationSigningPublicKeyBase64 := Base64.urlEncode sampleConfigurationKey.seed.val
  configuration := signedSample 1 (utf8 samplePayloadJson)
  configurationPayload := samplePayload
  configurationSha256 := hex (Crypto.transparent.sha256 (utf8 samplePayloadJson)).val
  credentialSerial := 7
  candidateGeneration := 0
  subnetRouteGeneration := 0

theorem sampleNodeState_payload :
    validateConfiguration .transparent sampleFormats sampleNodeState.configuration
      ⟨sampleConfigurationKey.seed⟩ (fill 16 21)
      ⟨nodeId .transparent sampleIdentityKey.seed, sampleIdentityKey.seed, .new 100 88 0 10, 7⟩ =
        .ok (samplePayload, sampleNodeState.configurationSha256) := by
  have hdecode : decodeSignedConfiguration .transparent sampleFormats sampleNodeState.configuration
      ⟨sampleConfigurationKey.seed⟩ = .ok (samplePayload, utf8 samplePayloadJson) := by
    refine decode_signedSample (by decide) (by decide +kernel) (by decide +kernel) (if_pos rfl)
  unfold validateConfiguration
  rw [hdecode]
  decide +kernel

def sampleClaims : VerifiedCredential where
  networkId := fill 16 21
  nodeId := nodeId .transparent sampleIdentityKey.seed
  identityPublicKey := sampleIdentityKey.seed
  virtualIpv4 := .new 100 88 0 10
  serial := 7
  notBefore := 1700000000
  notAfter := 1700010000
  roleBitmap := 1
  roleSetDigest := fill 32 31
  controllerKeyId := 247083818

theorem sampleNodeState_validates (utcNow : Int)
    (h : NodeState.verifiedClaims .transparent (sampleCredential sampleIdentityKey (.new 100 88 0 10)).val
      ⟨sampleControllerKey.seed⟩ utcNow .state = .ok sampleClaims) :
    sampleNodeState.validate .transparent sampleFormats sampleIdentityKey
      "https://controller.example/" utcNow = .ok () := by
  have hkey : ∀ seed : Block 32, verifyingKey .transparent sampleFormats (Base64.urlEncode seed.val) =
      .ok ⟨seed⟩ := by
    intro seed
    have hseed := decodeFixed_urlEncode
      (fun bytes => if bytes = utf8 samplePayloadJson then some samplePayload else none) seed
      (by omega) (by decide)
    exact bind_ok.mpr ⟨seed, hseed, rfl⟩
  have hcredential : decodeBounded sampleFormats sampleNodeState.credentialBase64 200 =
      .ok (sampleCredential sampleIdentityKey (.new 100 88 0 10)).val :=
    decodeBounded_urlEncode _ (by decide +kernel) (by simp) (by decide)
  have hnode : decodeFixed sampleFormats 16 sampleNodeState.nodeIdBase64 =
      .ok (nodeId .transparent sampleIdentityKey.seed) := by decide +kernel
  refine guard_ok.mpr ⟨by decide, bind_ok.mpr ⟨_, hkey sampleControllerKey.seed,
    bind_ok.mpr ⟨_, hkey sampleConfigurationKey.seed, guard_ok.mpr ⟨by decide,
      bind_ok.mpr ⟨_, hcredential, bind_ok.mpr ⟨sampleClaims, h, guard_ok.mpr ⟨?_,
        bind_ok.mpr ⟨_, hnode, guard_ok.mpr ⟨fun hne => hne rfl,
          bind_ok.mpr ⟨_, sampleNodeState_payload, guard_ok.mpr ⟨?_, rfl⟩⟩⟩⟩⟩⟩⟩⟩⟩⟩⟩
  · decide +kernel
  · rintro (hne | hne)
    · exact hne rfl
    · exact hne rfl

theorem sampleNodeState_accepted :
    AcceptedState .transparent sampleFormats sampleIdentityKey sampleNodeState :=
  .revalidated (sampleNodeState_validates (1700000200 * 10 ^ 9) (by decide +kernel))

theorem sampleNodeState_peers (utcNow : Int) :
    PeersReady sampleFormats samplePayload.nodes (nodeId .transparent sampleIdentityKey.seed) 7
      utcNow := by
  have hpeers : samplePayload.nodes.filter
      (isPeer sampleFormats (nodeId .transparent sampleIdentityKey.seed)) = [samplePeerNode] := by
    decide +kernel
  refine ⟨?_, ?_⟩
  · rw [hpeers]
    decide
  · rw [hpeers]
    exact List.pairwise_singleton _ _

/-- The sample configuration can be built while its relay is current. -/
theorem accepted_configuration_builds_sample :
    (∃ parts, bindDataPlane .transparent sampleFormats sampleNodeState sampleIdentityKey 0
        (1700000200 * 10 ^ 9) = .ok parts) ∧
      ∀ running, running.material.nodeId = nodeId .transparent sampleIdentityKey.seed →
        ∃ rebuilt, rebuildDataPlane .transparent sampleFormats sampleNodeState running 0
          (1700000200 * 10 ^ 9) = .ok rebuilt :=
  (accepted_configuration_builds_iff sampleNodeState_accepted).mpr {
    relays := ⟨by decide, List.pairwise_singleton _ _⟩
    peers := sampleNodeState_peers _ }

/-- The Agent revalidates its state after the relay has expired, and then cannot build from it. -/
theorem expired_relay_stops_agent :
    sampleNodeState.validate .transparent sampleFormats sampleIdentityKey
        "https://controller.example/" (1700004000 * 10 ^ 9) = .ok () ∧
      bindDataPlane .transparent sampleFormats sampleNodeState sampleIdentityKey 0
        (1700004000 * 10 ^ 9) matches .error .controllerTrust := by
  refine ⟨sampleNodeState_validates (1700004000 * 10 ^ 9) (by decide +kernel), ?_⟩
  decide +kernel

end XsNexus
