import XsNexus.AddressLeases
import XsNexus.AddressText
import XsNexus.CredentialLayout
import XsNexus.NetworkPlan

namespace XsNexus

open ByteCodec Checks

variable {p : Platform} {state : AppState}

section Addresses

theorem shifted_of_contains {net : Ipv4Net} (h : 8 ≤ net.prefixLen) :
    net.broadcast.bits >>> 24 = net.addr.bits >>> 24 ∧
      net.network.bits >>> 24 = net.addr.bits >>> 24 := by
  have hmask : ∀ i, 24 ≤ i → net.hostmask.getLsbD i = false := by
    intro i hi
    unfold Ipv4Net.hostmask
    rw [BitVec.getLsbD_ushiftRight, BitVec.getLsbD_allOnes]
    exact decide_eq_false (by omega)
  constructor
  · ext i hi
    unfold Ipv4Net.broadcast
    simp [BitVec.getElem_ushiftRight, hmask]
  · ext i hi
    unfold Ipv4Net.network
    simp [BitVec.getElem_ushiftRight, hmask]
    intro hx
    exact BitVec.lt_of_getLsbD hx

/-- The addresses of a pool share their first octet. -/
theorem firstOctet_of_contains {net : Ipv4Net} {address : Ipv4Addr} (h : 8 ≤ net.prefixLen)
    (hcontains : net.contains address = true) : address.firstOctet = net.network.firstOctet := by
  obtain ⟨hbroadcast, hnetwork⟩ := shifted_of_contains h
  have hlow : net.network.bits.toNat / 2 ^ 24 = net.broadcast.bits.toNat / 2 ^ 24 := by
    have heq := congrArg BitVec.toNat (hnetwork.trans hbroadcast.symm)
    rw [BitVec.toNat_ushiftRight, BitVec.toNat_ushiftRight, Nat.shiftRight_eq_div_pow,
      Nat.shiftRight_eq_div_pow] at heq
    exact heq
  unfold Ipv4Net.contains at hcontains
  rw [decide_eq_true_eq, BitVec.le_def, BitVec.le_def] at hcontains
  unfold Ipv4Addr.firstOctet
  omega

/-- An address that is given out is neither the first nor the last of its pool, nor one of the two
that no host has. -/
theorem Allocatable.usable {network : NetworkRow} (hsound : network.Sound) {address : Ipv4Addr}
    (h : Allocatable network address) :
    network.addressPool.contains address = true ∧ address ≠ network.addressPool.network ∧
      address ≠ network.addressPool.broadcast ∧ address.isUnspecified = false ∧
      address ≠ Ipv4Addr.BROADCAST := by
  unfold Allocatable validateAllocatableAddress at h
  obtain ⟨_, h⟩ := guard_ok.mp h
  dsimp only at h
  split at h
  next hrange =>
    obtain ⟨hcontains, hfirst, hlast⟩ := hrange
    have hreserved := hsound.reserved
    have hbroadcast := network.addressPool.broadcast.bits.isLt
    refine ⟨hcontains, ?_, ?_, ?_, ?_⟩
    · rintro rfl
      omega
    · rintro rfl
      omega
    · unfold Ipv4Addr.isUnspecified
      rw [beq_eq_false_iff_ne]
      rintro rfl
      have hzero : Ipv4Addr.UNSPECIFIED.bits.toNat = 0 := by decide
      omega
    · rintro rfl
      have hall : Ipv4Addr.BROADCAST.bits.toNat = 2 ^ 32 - 1 := by decide
      omega
  next => simp at h

end Addresses

section Issue

theorem seconds_le_timestamptz (t : Int) : seconds (t / 10 ^ 9) ≤ timestamptz t := by
  have hceil : ∀ d : Int, d / 1000 ≤ d.tdiv 1000 := by
    intro d
    have hsign : Int.sign 1000 = 1 := by decide
    rw [Int.tdiv_eq_ediv, hsign]
    split <;> omega
  have hd := hceil (t - postgresEpoch)
  unfold seconds timestamptz
  unfold postgresEpoch seconds at hd ⊢
  omega

/-- All that an enrolment has issued. -/
theorem enrollNode_issued {db db' : Database} {request : EnrollRequest} {databaseId : Uuid}
    {times : Times} {response : EnrollResponse}
    (h : enrollNode p state db request databaseId times = .ok (response, db')) :
    ∃ identityPublicKey network claims row tables,
      publishConfiguration p state tables response.networkId times = .ok (response.configuration, db') ∧
      row ∈ tables.activeNodes response.networkId ∧
      response.credentialBase64 =
        p.formats.base64Encode (signCredential p.crypto claims state.credentialSigningKey).val ∧
      decodeArray p 32 request.identityPublicKeyBase64 = some identityPublicKey ∧
      db.network response.networkId = some network ∧ Allocatable network claims.virtualIpv4 ∧
      claims.networkId = response.networkId ∧ claims.identityPublicKey = identityPublicKey ∧
      db.credentialSerial < bigintLimit ∧ claims.serial = UInt64.ofNat db.credentialSerial ∧
      unixTimestamp times.utc = some claims.notBefore ∧ claims.notBefore < claims.notAfter ∧
      row.nodeId = nodeId p.crypto identityPublicKey ∧ row.identityPublicKey = identityPublicKey ∧
      row.virtualIp = claims.virtualIpv4 ∧ row.credentialSerial = claims.serial ∧
      tables.networks = db.networks ∧ tables.credentialSerial = db.credentialSerial + 1 ∧
      response.nodeIdBase64 = p.formats.base64Encode row.nodeId.val ∧
      response.virtualIp = claims.virtualIpv4.text ∧
      response.credentialKeyId =
        controllerKeyId p.crypto (p.crypto.verifyingKey state.credentialSigningKey) ∧
      response.credentialSigningPublicKeyBase64 =
        p.formats.base64Encode (p.crypto.verifyingKey state.credentialSigningKey).bytes.val ∧
      response.configurationSigningPublicKeyBase64 =
        p.formats.base64Encode (p.crypto.verifyingKey state.configSigningKey).bytes.val := by
  obtain ⟨enrollment, hvalid, h⟩ := bind_ok.mp h
  obtain ⟨token, htoken, h⟩ := bind_ok.mp h
  obtain ⟨_, h⟩ := guard_ok.mp h
  obtain ⟨_, h⟩ := guard_ok.mp h
  obtain ⟨network, hnetwork, h⟩ := bind_ok.mp h
  obtain ⟨virtualIp, hvirtualIp, h⟩ := bind_ok.mp h
  obtain ⟨⟨issued, issuedTables⟩, hissued, h⟩ := bind_ok.mp h
  obtain ⟨nodeTables, hnode, h⟩ := bind_ok.mp h
  obtain ⟨tokenTables, hconsumed, h⟩ := bind_ok.mp h
  obtain ⟨⟨configuration, tables⟩, hpublish, h⟩ := bind_ok.mp h
  cases h
  obtain ⟨hserial, hissued⟩ := guard_ok.mp hissued
  obtain ⟨roleDigest, _, hissued⟩ := bind_ok.mp hissued
  obtain ⟨notBefore, hnotBefore, hissued⟩ := bind_ok.mp hissued
  obtain ⟨hbounded, hissued⟩ := guard_ok.mp hissued
  cases hissued
  obtain ⟨_, hnode⟩ := guard_ok.mp hnode
  obtain ⟨hlater, hnode⟩ := guard_ok.mp hnode
  cases hnode
  obtain ⟨tokens, rfl⟩ := consumeToken_ok hconsumed
  obtain ⟨hrange, _⟩ := allocateVirtualIp_ok hvirtualIp
  have hidentity : decodeArray p 32 request.identityPublicKeyBase64 =
      some enrollment.identityPublicKey ∧
        enrollment.nodeId = nodeId p.crypto enrollment.identityPublicKey := by
    obtain ⟨_, _, hvalid⟩ := bind_ok.mp hvalid
    obtain ⟨_, _, hvalid⟩ := bind_ok.mp hvalid
    obtain ⟨_, hvalid⟩ := guard_ok.mp hvalid
    obtain ⟨_, hdecoded, hvalid⟩ := bind_ok.mp hvalid
    obtain ⟨_, _, hvalid⟩ := bind_ok.mp hvalid
    cases hvalid
    exact ⟨okOr_ok.mp hdecoded, rfl⟩
  have hstart := okOr_ok.mp hnotBefore
  have hseconds : times.utc / 10 ^ 9 = notBefore.toNat := by
    unfold unixTimestamp at hstart
    dsimp only at hstart
    obtain ⟨hrange, hsome⟩ := Option.ite_none_right_eq_some.mp hstart
    rw [← Option.some.inj hsome, UInt64.toNat_ofNat']
    omega
  have hactive : ∀ {row : NodeRow} {nodes : List NodeRow}, row.networkId = token.networkId →
      row.revokedAt = none → row ∈ (nodes ++ [row]).filter fun node =>
        node.networkId = token.networkId ∧ node.revokedAt = none := by
    intro row nodes hid hunrevoked
    exact List.mem_filter.mpr ⟨List.mem_append_right _ List.mem_cons_self, by simp [hid, hunrevoked]⟩
  refine ⟨enrollment.identityPublicKey, network, _, _, _, hpublish, hactive rfl rfl, rfl, hidentity.1,
    okOr_ok.mp hnetwork, hrange, rfl, rfl, by omega, rfl, hstart, ?_, hidentity.2, rfl, rfl, rfl, rfl, rfl,
    rfl, rfl, rfl, rfl, rfl⟩
  have hlow := seconds_le_timestamptz times.utc
  rw [UInt64.lt_iff_toNat_lt]
  dsimp only
  rw [UInt64.toNat_ofNat']
  unfold maxUtcSeconds at hbounded
  rw [hseconds] at hlow
  unfold seconds at hlow hlater
  dsimp only at hlater
  push_cast at hlater
  omega

end Issue


section LocalNode

variable {c : Crypto} {f : Formats} {addressPool : Ipv4Net} {generatedAt : Int}
  {relayEndpoints : List SocketAddr} {localNode : LocalNode}

/-- Once the node itself is matched, no later node changes this. -/
theorem checkNode_localMatch {seen seen' : NodeChecks} {node : ConfigurationNode}
    (h : checkNode c f addressPool generatedAt relayEndpoints localNode seen node = .ok seen')
    (hmatched : localNode.nodeId ∈ seen.nodeIds ∧ seen.localMatch = true) :
    localNode.nodeId ∈ seen'.nodeIds ∧ seen'.localMatch = true := by
  obtain ⟨id, _, h⟩ := bind_ok.mp h
  obtain ⟨publicKey, _, h⟩ := bind_ok.mp h
  split at h
  next => simp at h
  next ip _ =>
    obtain ⟨hguard, h⟩ := guard_ok.mp h
    obtain ⟨endpoints, _, h⟩ := bind_ok.mp h
    cases h
    simp only [not_or] at hguard
    obtain ⟨_, _, _, _, _, _, hnew, _⟩ := hguard
    refine ⟨List.mem_cons_of_mem _ hmatched.1, ?_⟩
    dsimp only
    rw [if_neg fun (hid : id = localNode.nodeId) => hnew (hid ▸ hmatched.1)]
    exact hmatched.2

theorem checkNode_self {seen seen' : NodeChecks} {node : ConfigurationNode}
    (h : checkNode c f addressPool generatedAt relayEndpoints localNode seen node = .ok seen')
    (hid : decodeFixed f 16 node.nodeIdBase64 = .ok localNode.nodeId)
    (hkey : decodeFixed f 32 node.identityPublicKeyBase64 = .ok localNode.publicKey)
    (hip : parseIpv4Addr node.virtualIp = some localNode.virtualIp)
    (hserial : node.credentialSerial = localNode.credentialSerial) :
    localNode.nodeId ∈ seen'.nodeIds ∧ seen'.localMatch = true := by
  obtain ⟨id, hdecoded, h⟩ := bind_ok.mp h
  obtain ⟨publicKey, hpublicKey, h⟩ := bind_ok.mp h
  rw [hid] at hdecoded
  rw [hkey] at hpublicKey
  cases hdecoded
  cases hpublicKey
  rw [hip] at h
  obtain ⟨_, h⟩ := guard_ok.mp h
  obtain ⟨endpoints, _, h⟩ := bind_ok.mp h
  cases h
  exact ⟨List.mem_cons_self, by simp [hserial]⟩

/-- A configuration that passes the checks of its nodes matches the node that is in it. -/
theorem localMatch_of_mem {nodes : List ConfigurationNode} {seen seen' : NodeChecks}
    (h : nodes.foldlM (checkNode c f addressPool generatedAt relayEndpoints localNode) seen = .ok seen')
    {node : ConfigurationNode} (hnode : node ∈ nodes)
    (hid : decodeFixed f 16 node.nodeIdBase64 = .ok localNode.nodeId)
    (hkey : decodeFixed f 32 node.identityPublicKeyBase64 = .ok localNode.publicKey)
    (hip : parseIpv4Addr node.virtualIp = some localNode.virtualIp)
    (hserial : node.credentialSerial = localNode.credentialSerial) : seen'.localMatch = true := by
  have hkept : ∀ (later : List ConfigurationNode) (start : NodeChecks),
      localNode.nodeId ∈ start.nodeIds ∧ start.localMatch = true →
      later.foldlM (checkNode c f addressPool generatedAt relayEndpoints localNode) start = .ok seen' →
      seen'.localMatch = true := by
    intro later
    induction later with
    | nil =>
      intro start hmatched hfold
      cases hfold
      exact hmatched.2
    | cons other later ih =>
      intro start hmatched hfold
      rw [List.foldlM_cons] at hfold
      obtain ⟨next, hnext, hfold⟩ := bind_ok.mp hfold
      exact ih next (checkNode_localMatch hnext hmatched) hfold
  induction nodes generalizing seen with
  | nil => exact absurd hnode List.not_mem_nil
  | cons other nodes ih =>
    rw [List.foldlM_cons] at h
    obtain ⟨next, hnext, hrest⟩ := bind_ok.mp h
    rcases List.mem_cons.mp hnode with rfl | hnode
    · exact hkept nodes next (checkNode_self hnext hid hkey hip hserial) hrest
    · exact ih hrest hnode

end LocalNode

/-- The controller with the serial numbers of refused enrolments, which no rollback gives back. -/
inductive ServingController (p : Platform) (state : AppState) : Controller → Prop
  | initial : ServingController p state ⟨.empty, []⟩
  | served {controller controller' : Controller} {request : ControllerRequest}
      (h : ServingController p state controller)
      (hs : controller.serve p state request = .ok controller') :
      ServingController p state controller'
  | rolledBack {controller : Controller} (h : ServingController p state controller) (serials : Nat) :
      ServingController p state { controller with
        database := { controller.database with
          credentialSerial := controller.database.credentialSerial + serials } }

/-- Every network is sound, and serial numbers start above zero. -/
structure Issuing (db : Database) : Prop where
  networks : ∀ network ∈ db.networks, network.Sound
  serial : 0 < db.credentialSerial

theorem Issuing.published {db db' : Database} (hi : Issuing db) {networkId : Uuid} {times : Times}
    {signed : SignedConfiguration}
    (h : publishConfiguration p state db networkId times = .ok (signed, db')) : Issuing db' := by
  obtain ⟨network, payload, bytes, _, _, rfl⟩ := publishConfiguration_ok.mp h
  refine ⟨?_, hi.serial⟩
  intro counted hcounted
  obtain ⟨before, hbefore, rfl⟩ := List.mem_map.mp hcounted
  have hsound := hi.networks before hbefore
  split
  next => exact ⟨hsound.prefixLen_ge, hsound.prefixLen_le, hsound.reserved⟩
  next => exact hsound

theorem Issuing.served {controller controller' : Controller} (hi : Issuing controller.database)
    {request : ControllerRequest} (h : controller.serve p state request = .ok controller') :
    Issuing controller'.database := by
  cases request with
  | createNetwork request networkId times =>
    obtain ⟨⟨response, db⟩, hserved, h⟩ := bind_ok.mp h
    cases h
    obtain ⟨row, signed, _, hsound, _, hpublish⟩ := createNetwork_tables hserved
    refine Issuing.published ?_ hpublish
    exact ⟨List.forall_mem_append.mpr ⟨hi.networks, List.forall_mem_singleton.mpr hsound⟩, hi.serial⟩
  | createEnrollmentToken request tokenId random times =>
    obtain ⟨⟨response, db⟩, hserved, h⟩ := bind_ok.mp h
    cases h
    obtain ⟨token, _, _, rfl⟩ := createEnrollmentToken_tables hserved
    exact ⟨hi.networks, hi.serial⟩
  | enrollNode request databaseId times =>
    obtain ⟨⟨response, db⟩, hserved, h⟩ := bind_ok.mp h
    cases h
    obtain ⟨_, _, _, row, tables, hpublish, _, _, _, _, _, _, _, _, _, _, _, _, _, _, _, hnetworks,
      hserial, _⟩ := enrollNode_issued hserved
    refine Issuing.published ⟨hnetworks ▸ hi.networks, ?_⟩ hpublish
    omega
  | authenticateControl challenge nodeIdBase64 credentialBase64 signatureBase64 utcNow =>
    obtain ⟨authenticated, _, h⟩ := bind_ok.mp h
    cases h
    exact hi
  | advertiseCandidates authenticated advertisement signatureBase64 times =>
    obtain ⟨_, h⟩ := guard_ok.mp h
    obtain ⟨⟨signed, db⟩, hserved, h⟩ := bind_ok.mp h
    cases h
    rcases advertiseCandidates_tables hserved with rfl | ⟨row, node, _, _, _, _, hpublish⟩
    · exact hi
    · refine Issuing.published ?_ hpublish
      exact ⟨hi.networks, hi.serial⟩
  | advertiseSubnetRoutes authenticated advertisement signatureBase64 times =>
    obtain ⟨_, h⟩ := guard_ok.mp h
    obtain ⟨⟨answer, db⟩, hserved, h⟩ := bind_ok.mp h
    cases h
    cases advertiseSubnetRoutes_ok hserved with
    | unchanged => exact hi
    | createEnrollmentToken tokens => exact ⟨hi.networks, hi.serial⟩
    | advertiseSubnetRoutes rows => exact ⟨hi.networks, hi.serial⟩
  | replaceAclPolicy networkId request times =>
    obtain ⟨⟨response, db⟩, hserved, h⟩ := bind_ok.mp h
    cases h
    obtain ⟨memberships, rules, policyVersion, signed, hpublish⟩ := replaceAclPolicy_tables hserved
    refine Issuing.published ?_ hpublish
    refine ⟨?_, hi.serial⟩
    intro counted hcounted
    obtain ⟨before, hbefore, rfl⟩ := List.mem_map.mp hcounted
    have hsound := hi.networks before hbefore
    split
    next => exact ⟨hsound.prefixLen_ge, hsound.prefixLen_le, hsound.reserved⟩
    next => exact hsound
  | replaceSubnetRoutes networkId request times =>
    obtain ⟨⟨response, db⟩, hserved, h⟩ := bind_ok.mp h
    cases h
    obtain ⟨rows, signed, _, hpublish⟩ := replaceSubnetRoutes_tables hserved
    refine Issuing.published ?_ hpublish
    exact ⟨hi.networks, hi.serial⟩
  | revokeNode networkId nodeIdBase64 ipCooldownSeconds times =>
    obtain ⟨⟨response, db⟩, hserved, h⟩ := bind_ok.mp h
    cases h
    obtain ⟨nodeId, node, signed, _, _, hpublish⟩ := revokeNode_tables hserved
    refine Issuing.published ?_ hpublish
    exact ⟨hi.networks, hi.serial⟩
  | replaceNodeUpdateChannel networkId nodeIdBase64 request times =>
    obtain ⟨⟨response, db⟩, hserved, h⟩ := bind_ok.mp h
    cases h
    obtain ⟨node, channel, signed, _, hpublish⟩ := replaceNodeUpdateChannel_tables hserved
    refine Issuing.published ?_ hpublish
    exact ⟨hi.networks, hi.serial⟩

theorem ServingController.issuing {controller : Controller} (h : ServingController p state controller) :
    Issuing controller.database := by
  induction h with
  | initial => exact ⟨fun _ h => absurd h List.not_mem_nil, Nat.one_pos⟩
  | served _ hs ih => exact ih.served hs
  | rolledBack _ serials ih =>
    have hserial := ih.serial
    exact ⟨ih.networks, by dsimp only; omega⟩

end XsNexus
