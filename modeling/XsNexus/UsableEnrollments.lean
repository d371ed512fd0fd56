import XsNexus.IssuedCredentials
import XsNexus.PublishedCandidates

namespace XsNexus

open ByteCodec Checks MachineWords

variable {p : Platform} {state : AppState}

/-- The state that a response leads to once it is checked. -/
def enrolledState (response : EnrollResponse) (claims : CredentialClaims) (controllerUrl : String)
    (validated : ConfigurationPayload × String) : NodeState where
  schemaVersion := 1
  controllerUrl := controllerUrl
  networkId := response.networkId
  nodeIdBase64 := response.nodeIdBase64
  virtualIp := claims.virtualIpv4
  credentialBase64 := response.credentialBase64
  credentialKeyId := response.credentialKeyId
  credentialSigningPublicKeyBase64 := response.credentialSigningPublicKeyBase64
  configurationSigningPublicKeyBase64 := response.configurationSigningPublicKeyBase64
  configuration := response.configuration
  configurationPayload := validated.1
  configurationSha256 := validated.2
  credentialSerial := claims.serial
  candidateGeneration := 0
  subnetRouteGeneration := 0

/-- The node that its credential describes. -/
def CredentialClaims.localNode (claims : CredentialClaims) (c : Crypto) : LocalNode :=
  ⟨nodeId c claims.identityPublicKey, claims.identityPublicKey, claims.virtualIpv4, claims.serial⟩

/-- What a node with such a credential needs to work: the credential verifies to its claims as long as
it lasts, its address is one of a host, and the checks of the Agent that compare the claims with
identity, address, serial and keys let them pass. -/
structure UsableClaims (p : Platform) (state : AppState) (identity : SigningKey) (pool : Ipv4Net)
    (response : EnrollResponse) (claims : CredentialClaims) : Prop where
  lasts : claims.notBefore < claims.notAfter
  verifies : ∀ now, claims.notBefore ≤ now → now < claims.notAfter →
    verifyCredential p.crypto (signCredential p.crypto claims state.credentialSigningKey).val
        (p.crypto.verifyingKey state.credentialSigningKey) now =
      some (claims.verified p.crypto state.credentialSigningKey)
  addressed : pool.contains claims.virtualIpv4 = true ∧ claims.virtualIpv4 ≠ pool.network ∧
    claims.virtualIpv4 ≠ pool.broadcast
  enrolled : ∀ controllerUrl utcNow now, unixTimestamp utcNow = some now → claims.notBefore ≤ now →
    now < claims.notAfter →
    NodeState.fromEnrollment p.crypto p.formats response identity controllerUrl utcNow =
      (validateConfiguration p.crypto p.formats response.configuration
        (p.crypto.verifyingKey state.configSigningKey) response.networkId
        (claims.localNode p.crypto)).map (enrolledState response claims controllerUrl)
  configured : ∀ payload bytes, decodeSignedConfiguration p.crypto p.formats response.configuration
      (p.crypto.verifyingKey state.configSigningKey) = .ok (payload, bytes) →
    payload.networkId = response.networkId ∧ p.formats.ipv4Net payload.addressPool = some pool ∧
      ∀ relayEndpoints seen, payload.nodes.foldlM (checkNode p.crypto p.formats pool
          payload.generatedAt relayEndpoints (claims.localNode p.crypto)) ⟨[], [], [], [], false⟩ =
          .ok seen →
        seen.localMatch = true
  planned : ∀ interfaceName mtu, NetworkPlan.validInterfaceName interfaceName = true →
    1280 ≤ mtu ∧ mtu ≤ 1500 →
    NetworkPlan.new interfaceName mtu claims.virtualIpv4 pool =
      .ok ⟨interfaceName, mtu, claims.virtualIpv4, pool⟩

/-- The response carries a credential with which its node works. -/
def UsableEnrollment (p : Platform) (state : AppState) (identity : SigningKey) (pool : Ipv4Net)
    (response : EnrollResponse) (utcNow : Int) : Prop :=
  ∃ claims : CredentialClaims,
    response.credentialBase64 =
        p.formats.base64Encode (signCredential p.crypto claims state.credentialSigningKey).val ∧
      claims.networkId = response.networkId ∧
      claims.identityPublicKey = (p.crypto.verifyingKey identity).bytes ∧
      unixTimestamp utcNow = some claims.notBefore ∧
      UsableClaims p state identity pool response claims

/-- The crates do what they are documented to do: base64 and prefixes as `standardFormats` has them,
JSON that is read back, and signatures that verify. -/
structure DocumentedCrates (p : Platform) : Prop where
  formats : p.formats = standardFormats p.formats.configurationPayload
  json : ∀ payload bytes, p.configurationPayloadText payload = some bytes →
    p.formats.configurationPayload bytes = some payload
  keyBytes : ∀ key, p.crypto.verifyingKeyFromBytes (p.crypto.verifyingKey key).bytes =
    some (p.crypto.verifyingKey key)
  signatures : ∀ key message,
    p.crypto.verifyStrict (p.crypto.verifyingKey key) message (p.crypto.sign key message) = true

namespace DocumentedCrates

variable (hp : DocumentedCrates p)

include hp

theorem decodeFixed_encode {n : Nat} (block : Block n) (hn : 0 < n) (hmax : 2 * n + 16 ≤ usizeMax) :
    decodeFixed p.formats n (p.formats.base64Encode block.val) = .ok block := by
  rw [hp.formats]
  exact decodeFixed_urlEncode _ block hn hmax

theorem base64Decode_encode (bytes : Bytes) :
    p.formats.base64Decode (p.formats.base64Encode bytes) = some bytes := by
  rw [hp.formats]
  exact Base64.urlDecode_urlEncode bytes

theorem verifyingKey_encode (key : SigningKey) :
    verifyingKey p.crypto p.formats
      (p.formats.base64Encode (p.crypto.verifyingKey key).bytes.val) =
        .ok (p.crypto.verifyingKey key) := by
  unfold verifyingKey
  rw [hp.decodeFixed_encode _ (by decide) (by decide)]
  simp [bind, Except.bind, hp.keyBytes]

theorem ipv4Net_text (net : Ipv4Net) : p.formats.ipv4Net (p.formats.ipv4NetText net) = some net := by
  rw [hp.formats]
  dsimp only [standardFormats]
  exact parseIpv4Net_text net

end DocumentedCrates


section Enrolment

variable {identity : SigningKey} {response : EnrollResponse} {claims : CredentialClaims}

/-- The checks of `from_enrollment` before its configuration let an issued credential pass. -/
theorem fromEnrollment_issued (hp : DocumentedCrates p)
    (hkeys : p.crypto.verifyingKey state.credentialSigningKey ≠
      p.crypto.verifyingKey state.configSigningKey)
    (hidentity : claims.identityPublicKey = (p.crypto.verifyingKey identity).bytes)
    (hnetworkId : claims.networkId = response.networkId)
    (hnodeId : response.nodeIdBase64 =
      p.formats.base64Encode (nodeId p.crypto claims.identityPublicKey).val)
    (hip : response.virtualIp = claims.virtualIpv4.text)
    (hcredential : response.credentialBase64 =
      p.formats.base64Encode (signCredential p.crypto claims state.credentialSigningKey).val)
    (hkeyId : response.credentialKeyId =
      controllerKeyId p.crypto (p.crypto.verifyingKey state.credentialSigningKey))
    (hcredentialKey : response.credentialSigningPublicKeyBase64 =
      p.formats.base64Encode (p.crypto.verifyingKey state.credentialSigningKey).bytes.val)
    (hconfigurationKey : response.configurationSigningPublicKeyBase64 =
      p.formats.base64Encode (p.crypto.verifyingKey state.configSigningKey).bytes.val)
    {controllerUrl : String} {utcNow : Int} {now : UInt64} (hnow : unixTimestamp utcNow = some now)
    (hverified : verifyCredential p.crypto
        (signCredential p.crypto claims state.credentialSigningKey).val
        (p.crypto.verifyingKey state.credentialSigningKey) now =
      some (claims.verified p.crypto state.credentialSigningKey)) :
    NodeState.fromEnrollment p.crypto p.formats response identity controllerUrl utcNow =
      (validateConfiguration p.crypto p.formats response.configuration
        (p.crypto.verifyingKey state.configSigningKey) response.networkId
        (claims.localNode p.crypto)).map (enrolledState response claims controllerUrl) := by
  obtain ⟨credential, heq⟩ :
      ∃ credential, credential = signCredential p.crypto claims state.credentialSigningKey := ⟨_, rfl⟩
  rw [← heq] at hcredential hverified
  have hbounded : decodeBounded p.formats (p.formats.base64Encode credential.val) 200 =
      .ok credential.val := by
    rw [hp.formats]
    refine decodeBounded_urlEncode _ ?_ (Nat.le_of_eq credential.property) (by decide)
    intro hempty
    have hlength := credential.property
    rw [hempty] at hlength
    simp at hlength
  have hnode := hp.decodeFixed_encode (nodeId p.crypto claims.identityPublicKey) (by decide) (by decide)
  have hclaims : NodeState.verifiedClaims p.crypto credential.val
      (p.crypto.verifyingKey state.credentialSigningKey) utcNow .controllerTrust =
        .ok (claims.verified p.crypto state.credentialSigningKey) := by
    unfold NodeState.verifiedClaims
    rw [hnow]
    dsimp only
    rw [hverified]
  have hchecks : ¬((claims.verified p.crypto state.credentialSigningKey).networkId ≠ response.networkId ∨
      (claims.verified p.crypto state.credentialSigningKey).identityPublicKey ≠
        (p.crypto.verifyingKey identity).bytes ∨
      (claims.verified p.crypto state.credentialSigningKey).nodeId ≠
        nodeId p.crypto (p.crypto.verifyingKey identity).bytes ∨
      nodeId p.crypto claims.identityPublicKey ≠
        nodeId p.crypto (p.crypto.verifyingKey identity).bytes ∨
      (claims.verified p.crypto state.credentialSigningKey).virtualIpv4 ≠ claims.virtualIpv4 ∨
      (claims.verified p.crypto state.credentialSigningKey).controllerKeyId ≠
        response.credentialKeyId) := by
    simp [CredentialClaims.verified, hidentity, hnetworkId, hkeyId]
  unfold NodeState.fromEnrollment
  rw [hcredentialKey, hconfigurationKey, hp.verifyingKey_encode, hp.verifyingKey_encode, hcredential,
    hbounded]
  simp only [bind, Except.bind]
  rw [if_neg hkeys, if_neg (by simp), hclaims, hnodeId, hnode, hip, parseIpv4Addr_text]
  dsimp only
  rw [if_neg hchecks]
  unfold CredentialClaims.localNode
  rw [← hidentity]
  have hserial : (claims.verified p.crypto state.credentialSigningKey).serial = claims.serial := rfl
  rw [hserial]
  cases validateConfiguration p.crypto p.formats response.configuration
    (p.crypto.verifyingKey state.configSigningKey) response.networkId
    ⟨nodeId p.crypto claims.identityPublicKey, claims.identityPublicKey, claims.virtualIpv4,
      claims.serial⟩ with
  | error e => rfl
  | ok validated =>
    dsimp only [Except.map]
    unfold enrolledState
    rw [hcredentialKey, hconfigurationKey, hcredential, hnodeId]

/-- What is decoded from a published configuration is what was published. -/
theorem decoded_published (hp : DocumentedCrates p) {db db' : Database} {networkId : Uuid}
    {times : Times} {signed : SignedConfiguration} {network : NetworkRow}
    (hpublish : publishConfiguration p state db networkId times = .ok (signed, db'))
    (hnetwork : db.network networkId = some network) {key : VerifyingKey}
    {payload : ConfigurationPayload} {bytes : Bytes}
    (hdecoded : decodeSignedConfiguration p.crypto p.formats signed key = .ok (payload, bytes)) :
    assembleConfiguration p state db networkId (network.nextMetadata p) times = .ok payload := by
  obtain ⟨found, published, text, hpublishes, rfl, rfl⟩ := publishConfiguration_ok.mp hpublish
  cases Option.some.inj (hnetwork.symm.trans hpublishes.found)
  obtain ⟨_, hdecoded⟩ := guard_ok.mp hdecoded
  obtain ⟨payloadBytes, hbytes, hdecoded⟩ := bind_ok.mp hdecoded
  obtain ⟨signature, _, hdecoded⟩ := bind_ok.mp hdecoded
  obtain ⟨_, hdecoded⟩ := guard_ok.mp hdecoded
  have htext : payloadBytes = text := by
    unfold decodeBounded at hbytes
    obtain ⟨_, hbytes⟩ := guard_ok.mp hbytes
    dsimp only [signedConfigurationFromRow, publishedRow] at hbytes
    rw [hp.base64Decode_encode] at hbytes
    obtain ⟨_, hbytes⟩ := guard_ok.mp hbytes
    cases hbytes
    rfl
  rw [htext, hp.json _ _ hpublishes.encoded] at hdecoded
  cases hdecoded
  exact hpublishes.assembled

theorem mem_loadConfigurationNodes {db : Database} {networkId : Uuid} {now : Int}
    {nodes : List ConfigurationNode} (h : loadConfigurationNodes p db networkId now = .ok nodes)
    {row : NodeRow} (hrow : row ∈ db.activeNodes networkId) :
    ∃ node ∈ nodes, node.nodeIdBase64 = p.formats.base64Encode row.nodeId.val ∧
      node.identityPublicKeyBase64 = p.formats.base64Encode row.identityPublicKey.val ∧
      node.virtualIp = row.virtualIp.text ∧ node.credentialSerial = row.credentialSerial := by
  have hordered : row ∈ orderByNodeId (db.activeNodes networkId) :=
    (List.mem_insertionSort _).mpr hrow
  obtain ⟨node, hnode, hloaded⟩ := exists_mem_mapM h hordered
  obtain ⟨candidates, _, hloaded⟩ := bind_ok.mp hloaded
  cases hloaded
  exact ⟨_, hnode, rfl, rfl, rfl, rfl⟩

end Enrolment

theorem isMulticast_of_contains {pool : Ipv4Net} {address : Ipv4Addr} (h : 8 ≤ pool.prefixLen)
    (hcontains : pool.contains address = true) : address.isMulticast = pool.network.isMulticast := by
  unfold Ipv4Addr.isMulticast
  rw [firstOctet_of_contains h hcontains]

/-- An issued credential verifies as long as it lasts, unless its pool is a multicast range. -/
theorem verifyCredential_issued (hp : DocumentedCrates p) {network : NetworkRow}
    (hsound : network.Sound) {claims : CredentialClaims} (hrange : Allocatable network claims.virtualIpv4)
    (hid : claims.networkId ≠ zeros 16) {serial : Nat} (hpos : 0 < serial) (hbounded : serial < bigintLimit)
    (hserial : claims.serial = UInt64.ofNat serial) (hlasts : claims.notBefore < claims.notAfter)
    (now : UInt64) :
    verifyCredential p.crypto (signCredential p.crypto claims state.credentialSigningKey).val
        (p.crypto.verifyingKey state.credentialSigningKey) now =
      if claims.notBefore > now ∨ now ≥ claims.notAfter ∨
        network.addressPool.network.isMulticast = true then none
      else some (claims.verified p.crypto state.credentialSigningKey) := by
  obtain ⟨hcontains, _, _, hspecified, hunicast⟩ := hrange.usable hsound
  have hmulticast := isMulticast_of_contains hsound.prefixLen_ge hcontains
  have hordered : ¬claims.notAfter ≤ claims.notBefore := UInt64.not_le.mpr hlasts
  have hserialPos : claims.serial ≠ 0 := by
    unfold bigintLimit at hbounded
    rw [hserial]
    intro hzero
    have hnat := congrArg UInt64.toNat hzero
    rw [UInt64.toNat_ofNat'] at hnat
    simp at hnat
    omega
  rw [verifyCredential_signCredential (hp.signatures state.credentialSigningKey)]
  simp only [hid, hserialPos, hordered, hspecified, hunicast, hmulticast, false_or, or_false,
    Bool.false_eq_true]

/-- No node of a multicast pool can use its credential. -/
theorem unusable_of_multicast (hp : DocumentedCrates p) {controller : Controller}
    (hrun : ServingController p state controller) {request : EnrollRequest} {databaseId : Uuid}
    {times : Times} {response : EnrollResponse} {db' : Database}
    (h : enrollNode p state controller.database request databaseId times = .ok (response, db'))
    {network : NetworkRow} (hnetwork : controller.database.network response.networkId = some network)
    (hid : response.networkId ≠ zeros 16) (hpool : network.addressPool.network.isMulticast = true)
    (identity : SigningKey) :
    ¬UsableEnrollment p state identity network.addressPool response times.utc := by
  obtain ⟨_, found, claims, _, _, _, _, hcredential, _, hfound, hrange, hclaimsNetwork, _, hbounded,
    hserial, _, hlasts, _⟩ := enrollNode_issued h
  cases Option.some.inj (hfound.symm.trans hnetwork)
  have hissuing := hrun.issuing
  have hsound := hissuing.networks network (network_mem hnetwork).1
  rintro ⟨other, hother, _, _, _, husable⟩
  have hsame : (signCredential p.crypto other state.credentialSigningKey).val =
      (signCredential p.crypto claims state.credentialSigningKey).val := by
    have hdecoded := congrArg p.formats.base64Decode (hother.symm.trans hcredential)
    rw [hp.base64Decode_encode, hp.base64Decode_encode] at hdecoded
    exact Option.some.inj hdecoded
  have hverified := husable.verifies other.notBefore (UInt64.le_refl _) husable.lasts
  rw [hsame, verifyCredential_issued hp hsound hrange (hclaimsNetwork ▸ hid) hissuing.serial hbounded
    hserial hlasts, if_pos (Or.inr (Or.inr hpool))] at hverified
  simp at hverified

/-- An enrolment yields a usable node just where the pool of its network is not a multicast range. -/
theorem enrolment_usable_iff (hp : DocumentedCrates p)
    (hkeys : p.crypto.verifyingKey state.credentialSigningKey ≠
      p.crypto.verifyingKey state.configSigningKey)
    {controller : Controller} (hrun : ServingController p state controller) {request : EnrollRequest}
    {databaseId : Uuid} {times : Times} {response : EnrollResponse} {db' : Database}
    (h : enrollNode p state controller.database request databaseId times = .ok (response, db'))
    {identity : SigningKey}
    (hidentity : decodeArray p 32 request.identityPublicKeyBase64 =
      some (p.crypto.verifyingKey identity).bytes)
    {network : NetworkRow} (hnetwork : controller.database.network response.networkId = some network)
    (hid : response.networkId ≠ zeros 16) :
    UsableEnrollment p state identity network.addressPool response times.utc ↔
      network.addressPool.network.isMulticast = false := by
  constructor
  · intro husable
    rw [← Bool.not_eq_true]
    exact fun hpool => unusable_of_multicast hp hrun h hnetwork hid hpool identity husable
  intro hpool
  obtain ⟨identityPublicKey, found, claims, row, tables, hpublish, hactive, hcredential, hkey, hfound,
    hrange, hclaimsNetwork, hclaimsKey, hbounded, hserial, hstart, hlasts, hrowId, hrowKey, hrowIp,
    hrowSerial, hnetworks, _, hnodeId, hip, hkeyId, hcredentialKey, hconfigurationKey⟩ :=
    enrollNode_issued h
  cases Option.some.inj (hfound.symm.trans hnetwork)
  cases Option.some.inj (hkey.symm.trans hidentity)
  have hissuing := hrun.issuing
  have hsound := hissuing.networks network (network_mem hnetwork).1
  obtain ⟨hcontains, hfirst, hlast, _, _⟩ := hrange.usable hsound
  have hverified : ∀ now, claims.notBefore ≤ now → now < claims.notAfter →
      verifyCredential p.crypto (signCredential p.crypto claims state.credentialSigningKey).val
        (p.crypto.verifyingKey state.credentialSigningKey) now =
          some (claims.verified p.crypto state.credentialSigningKey) := by
    intro now hafter hbefore
    rw [verifyCredential_issued hp hsound hrange (hclaimsNetwork ▸ hid) hissuing.serial hbounded hserial
      hlasts, if_neg]
    rw [hpool]
    simp only [not_or]
    exact ⟨UInt64.not_lt.mpr hafter, UInt64.not_le.mpr hbefore, Bool.false_ne_true⟩
  refine ⟨claims, hcredential, hclaimsNetwork, hclaimsKey, hstart, hlasts, hverified,
    ⟨hcontains, hfirst, hlast⟩, ?_, ?_, ?_⟩
  · intro controllerUrl utcNow now hnow hafter hbefore
    rw [hrowId, ← hclaimsKey] at hnodeId
    exact fromEnrollment_issued hp hkeys hclaimsKey hclaimsNetwork hnodeId hip hcredential hkeyId
      hcredentialKey hconfigurationKey hnow (hverified now hafter hbefore)
  · intro payload bytes hdecoded
    have htables : tables.network response.networkId = some network := by
      unfold Database.network at hnetwork ⊢
      rw [hnetworks]
      exact hnetwork
    obtain ⟨nodes, hnodes, hassembled⟩ := bind_ok.mp (decoded_published hp hpublish htables hdecoded)
    cases hassembled
    obtain ⟨node, hnode, hnodeId, hnodeKey, hnodeIp, hnodeSerial⟩ :=
      mem_loadConfigurationNodes hnodes hactive
    refine ⟨rfl, hp.ipv4Net_text network.addressPool, fun relayEndpoints seen hseen => ?_⟩
    refine localMatch_of_mem hseen hnode ?_ ?_ ?_ (hnodeSerial.trans hrowSerial)
    · rw [hnodeId, hp.decodeFixed_encode _ (by decide) (by decide), hrowId, ← hclaimsKey]
      rfl
    · rw [hnodeKey, hp.decodeFixed_encode _ (by decide) (by decide), hrowKey, ← hclaimsKey]
      rfl
    · rw [hnodeIp, parseIpv4Addr_text, hrowIp]
      rfl
  · intro interfaceName mtu hname hmtu
    have hvalid : NetworkPlan.validate ⟨interfaceName, mtu, claims.virtualIpv4, network.addressPool⟩ =
        .ok () := by
      unfold NetworkPlan.validate
      rw [if_neg]
      simp [hname, hmtu, hsound.prefixLen_ge, hsound.prefixLen_le, hcontains, hfirst, hlast]
    exact bind_ok.mpr ⟨(), hvalid, rfl⟩

/-- The payloads of a network with one node. -/
def samplePublished (addressPool virtualIp : String) : List ConfigurationPayload := [
  { schemaVersion := 1, networkId := fill 16 21, version := 1, policyVersion := 1,
    generatedAt := seconds 1700000000, addressPool := addressPool, discoveryEndpoints := [],
    nodes := [], relays := [], policies := [], subnetRoutes := [] },
  { schemaVersion := 1, networkId := fill 16 21, version := 2, policyVersion := 1,
    generatedAt := seconds 1700000001, addressPool := addressPool, discoveryEndpoints := [],
    nodes := [{
      nodeIdBase64 := Base64.urlEncode sampleNodeId.val
      identityPublicKeyBase64 := Base64.urlEncode sampleIdentityKey.seed.val
      virtualIp := virtualIp
      directEndpoints := []
      candidates := []
      credentialSerial := 1
      credentialNotAfter := seconds 1700003601
      roleBitmap := 1
      groups := []
      tags := []
      updateChannel := some .stable }]
    relays := [], policies := [], subnetRoutes := [] }]

/-- A platform that writes and reads the given payloads. -/
def documentedPlatform (published : List ConfigurationPayload) : Platform := { samplePlatform with
  formats := standardFormats fun bytes =>
    published.find? fun payload => Json.configurationPayload payload = bytes
  configurationPayloadText payload :=
    if payload ∈ published then some (Json.configurationPayload payload) else none }

theorem documentedPlatform_documented {published : List ConfigurationPayload}
    (hdistinct : ∀ a ∈ published, ∀ b ∈ published,
      Json.configurationPayload a = Json.configurationPayload b → a = b) :
    DocumentedCrates (documentedPlatform published) := by
  refine ⟨rfl, fun payload bytes htext => ?_, fun key => rfl, fun key message => ?_⟩
  · obtain ⟨hpublished, hbytes⟩ := Option.ite_none_right_eq_some.mp htext
    cases hbytes
    show published.find? _ = some payload
    obtain ⟨found, hfound⟩ : ∃ found, published.find? (fun other =>
        Json.configurationPayload other = Json.configurationPayload payload) = some found := by
      rw [← Option.isSome_iff_exists, List.find?_isSome]
      exact ⟨payload, hpublished, by simp⟩
    have hsame := List.find?_some hfound
    rw [hfound, hdistinct found (List.mem_of_find?_eq_some hfound) payload hpublished
      (by simpa using hsame)]
  · show (_ == _) = true
    exact beq_self_eq_true _

def sampleEnrollRequest : EnrollRequest :=
  ⟨"xsenr1_" ++ Base64.urlEncode (fill 32 55).val, "laptop", "linux",
    Base64.urlEncode sampleIdentityKey.seed.val⟩

/-- A network with the pool and a token for its first node. -/
def sampleOffered (addressPool virtualIp : String) : Except ApiError Controller := do
  let p := documentedPlatform (samplePublished addressPool virtualIp)
  let controller ← Controller.serve p sampleAppState ⟨.empty, []⟩
    (.createNetwork ⟨"home", addressPool, 16⟩ (fill 16 21) (sampleMoment 0))
  controller.serve p sampleAppState
    (.createEnrollmentToken ⟨fill 16 21, 3600, 1, 1, [], none⟩ (fill 16 30) (fill 32 55) (sampleMoment 0))

/-- Whether the node that enrols is in a multicast range. -/
def sampleMulticast (addressPool virtualIp : String) : Option Bool :=
  match sampleOffered addressPool virtualIp with
  | .error _ => none
  | .ok controller =>
    match enrollNode (documentedPlatform (samplePublished addressPool virtualIp)) sampleAppState
        controller.database sampleEnrollRequest (fill 16 31) (sampleMoment 1) with
    | .error _ => none
    | .ok (response, _) =>
      if response.networkId = zeros 16 then none
      else
        (controller.database.network response.networkId).map fun network =>
          network.addressPool.network.isMulticast

theorem sampleMulticast_run {addressPool virtualIp : String} {multicast : Bool}
    (h : sampleMulticast addressPool virtualIp = some multicast) :
    ∃ controller response db' network,
      ServingController (documentedPlatform (samplePublished addressPool virtualIp)) sampleAppState
        controller ∧
      enrollNode (documentedPlatform (samplePublished addressPool virtualIp)) sampleAppState
        controller.database sampleEnrollRequest (fill 16 31) (sampleMoment 1) = .ok (response, db') ∧
      controller.database.network response.networkId = some network ∧
      response.networkId ≠ zeros 16 ∧ network.addressPool.network.isMulticast = multicast := by
  unfold sampleMulticast at h
  split at h
  next => simp at h
  next controller hoffered =>
    split at h
    next => simp at h
    next response db' henrolled =>
      split at h
      next => simp at h
      next hid =>
        obtain ⟨network, hnetwork, hmulticast⟩ := Option.map_eq_some_iff.mp h
        obtain ⟨first, hfirst, hoffered⟩ := bind_ok.mp hoffered
        exact ⟨controller, response, db', network, .served (.served .initial hfirst) hoffered, henrolled,
          hnetwork, hid, hmulticast⟩

theorem samplePools :
    (sampleMulticast "100.88.0.0/24" "100.88.0.16" = some false ∧
      sampleMulticast "224.0.0.0/24" "224.0.0.16" = some true) ∧
    (∀ a ∈ samplePublished "100.88.0.0/24" "100.88.0.16",
      ∀ b ∈ samplePublished "100.88.0.0/24" "100.88.0.16",
        Json.configurationPayload a = Json.configurationPayload b → a = b) ∧
    (∀ a ∈ samplePublished "224.0.0.0/24" "224.0.0.16",
      ∀ b ∈ samplePublished "224.0.0.0/24" "224.0.0.16",
        Json.configurationPayload a = Json.configurationPayload b → a = b) ∧
    decodeArray samplePlatform 32 sampleEnrollRequest.identityPublicKeyBase64 =
      some (samplePlatform.crypto.verifyingKey sampleIdentityKey).bytes ∧
    samplePlatform.crypto.verifyingKey sampleAppState.credentialSigningKey ≠
      samplePlatform.crypto.verifyingKey sampleAppState.configSigningKey := by
  decide +kernel

theorem enrolment_usable_sample :
    ∃ p controller response network, DocumentedCrates p ∧
      ServingController p sampleAppState controller ∧
      controller.database.network response.networkId = some network ∧
      UsableEnrollment p sampleAppState sampleIdentityKey network.addressPool response
        (sampleMoment 1).utc := by
  obtain ⟨⟨hunicast, _⟩, hdistinct, _, hidentity, hkeys⟩ := samplePools
  obtain ⟨controller, response, db', network, hrun, henrolled, hnetwork, hid, hpool⟩ :=
    sampleMulticast_run hunicast
  have hp := documentedPlatform_documented hdistinct
  exact ⟨_, controller, response, network, hp, hrun, hnetwork,
    (enrolment_usable_iff hp hkeys hrun henrolled hidentity hnetwork hid).mpr hpool⟩

/-- The controller gives out addresses of `224.0.0.0/24` with credentials that nobody takes. -/
theorem multicast_pool_enrolled :
    ¬∀ (p : Platform) (controller : Controller) (request : EnrollRequest) (databaseId : Uuid)
        (times : Times) (response : EnrollResponse) (db' : Database) (identity : SigningKey)
        (network : NetworkRow), DocumentedCrates p →
      p.crypto.verifyingKey sampleAppState.credentialSigningKey ≠
        p.crypto.verifyingKey sampleAppState.configSigningKey →
      ServingController p sampleAppState controller →
      enrollNode p sampleAppState controller.database request databaseId times = .ok (response, db') →
      decodeArray p 32 request.identityPublicKeyBase64 = some (p.crypto.verifyingKey identity).bytes →
      controller.database.network response.networkId = some network → response.networkId ≠ zeros 16 →
      UsableEnrollment p sampleAppState identity network.addressPool response times.utc := by
  intro hall
  obtain ⟨⟨_, hmulticast⟩, _, hdistinct, hidentity, hkeys⟩ := samplePools
  obtain ⟨controller, response, db', network, hrun, henrolled, hnetwork, hid, hpool⟩ :=
    sampleMulticast_run hmulticast
  have hp := documentedPlatform_documented hdistinct
  exact unusable_of_multicast hp hrun henrolled hnetwork hid hpool sampleIdentityKey
    (hall _ controller sampleEnrollRequest _ _ response db' sampleIdentityKey network hp hkeys hrun
      henrolled hidentity hnetwork hid)

end XsNexus
