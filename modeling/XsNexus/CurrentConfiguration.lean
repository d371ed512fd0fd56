import XsNexus.PublishedVersions
import XsNexus.PublishedCandidates

namespace XsNexus

open ByteCodec Checks FiniteMap ReadCommitted Runs

variable {p : Platform} {state : AppState}

/-- Of configurations without a gap the last one committed is the one of the highest version. -/
theorem latestConfigurationRow_eq {db : Database} {networkId : Uuid} {version : Nat}
    {row : ConfigurationVersionRow}
    (hversions : (configurationRows db networkId).map ConfigurationVersionRow.version =
      List.range' 1 version)
    (hlast : (configurationRows db networkId).getLast? = some row) :
    latestConfigurationRow db networkId = some row ∧ row.version = version := by
  have hmem : row ∈ configurationRows db networkId := List.mem_of_getLast? hlast
  have hrowVersion : row.version = version := by
    have hmapped : ((configurationRows db networkId).map ConfigurationVersionRow.version).getLast? =
        some row.version := by
      rw [List.getLast?_map, hlast]
      rfl
    rw [hversions, List.getLast?_range'] at hmapped
    split at hmapped
    next => simp at hmapped
    next => simpa using hmapped.symm
  refine ⟨?_, hrowVersion⟩
  have hall : ∀ stored ∈ configurationRows db networkId, stored.version ≤ version := by
    intro stored hstored
    have hin : stored.version ∈ List.range' 1 version := by
      rw [← hversions]
      exact List.mem_map_of_mem hstored
    have hbounds := List.mem_range'_1.mp hin
    omega
  have hnodup : ((configurationRows db networkId).map ConfigurationVersionRow.version).Nodup := by
    rw [hversions]
    exact List.nodup_range'
  have : Std.Total fun left right : ConfigurationVersionRow => left.version ≥ right.version :=
    ⟨fun left right => Nat.le_total right.version left.version⟩
  have : IsTrans ConfigurationVersionRow fun left right => left.version ≥ right.version :=
    ⟨fun _ _ _ h h' => Nat.le_trans h' h⟩
  show ((configurationRows db networkId).insertionSort fun left right =>
    left.version ≥ right.version).head? = some row
  have hperm := List.perm_insertionSort (fun left right : ConfigurationVersionRow =>
    left.version ≥ right.version) (configurationRows db networkId)
  have hsorted := List.pairwise_insertionSort (fun left right : ConfigurationVersionRow =>
    left.version ≥ right.version) (configurationRows db networkId)
  obtain ⟨sorted, heq⟩ : ∃ sorted, sorted = (configurationRows db networkId).insertionSort
    fun left right => left.version ≥ right.version := ⟨_, rfl⟩
  rw [← heq] at hperm hsorted ⊢
  cases sorted with
  | nil => exact absurd (hperm.mem_iff.mpr hmem) List.not_mem_nil
  | cons first rest =>
    have hfirst : first ∈ configurationRows db networkId := hperm.mem_iff.mp (List.mem_cons_self ..)
    have hle : row.version ≤ first.version := by
      rcases List.mem_cons.mp (hperm.mem_iff.mpr hmem) with heq | hrest
      · rw [heq]
      · exact (List.pairwise_cons.mp hsorted).1 row hrest
    have hsame : first.version = row.version := by
      have hbound := hall first hfirst
      omega
    exact congrArg some (List.inj_on_of_nodup_map hnodup hfirst hmem hsame)

/-- A network is created with its first configuration. -/
theorem createNetwork_first {before db : Database} {request : CreateNetworkRequest} {networkId : Uuid}
    {times : Times} {response : NetworkResponse}
    (h : createNetwork p state before request networkId times = .ok (response, db)) :
    ∃ row signed, row.id = networkId ∧ row.configVersion = 0 ∧
      (∀ stored ∈ before.networks, stored.id ≠ networkId) ∧
      publishConfiguration p state { before with networks := before.networks ++ [row] } networkId times =
        .ok (signed, db) := by
  obtain ⟨name, _, h⟩ := bind_ok.mp h
  obtain ⟨pool, _, h⟩ := bind_ok.mp h
  obtain ⟨_, h⟩ := guard_ok.mp h
  obtain ⟨_, h⟩ := guard_ok.mp h
  obtain ⟨_, h⟩ := guard_ok.mp h
  obtain ⟨_, h⟩ := guard_ok.mp h
  obtain ⟨hfresh, h⟩ := guard_ok.mp h
  obtain ⟨⟨configuration, tables⟩, hpublish, h⟩ := bind_ok.mp h
  cases h
  refine ⟨_, configuration, rfl, rfl, fun stored hstored hid => ?_, hpublish⟩
  simp only [List.any_eq_true, not_exists, not_and] at hfresh
  exact hfresh stored hstored (by simp [hid])

/-- The foreign key of the configurations -/
def ConfigurationsReferNetworks (db : Database) : Prop :=
  ∀ row ∈ db.configurationVersions, ∃ network ∈ db.networks, network.id = row.networkId

theorem created_inv {before db : Database} {request : CreateNetworkRequest} {networkId : Uuid}
    {times : Times} {response : NetworkResponse} (hkeys : ConfigurationsReferNetworks before)
    (h : createNetwork p state before request networkId times = .ok (response, db))
    {moments : Times → Prop} (hmoment : moments times) :
    (publicationDiscipline p state networkId
      (fun hash => hash ∈ before.enrollmentTokens.map EnrollmentTokenRow.tokenHash) moments).Inv db := by
  obtain ⟨row, signed, hid, hzero, hfresh, hpublish⟩ := createNetwork_first h
  obtain ⟨network, payload, bytes, hp, _, rfl⟩ := publishConfiguration_ok.mp hpublish
  have hnetwork : network = row := by
    have hnone : before.networks.find? (fun network => decide (network.id = networkId)) = none :=
      List.find?_eq_none.mpr fun stored hstored => by simpa using hfresh stored hstored
    have hfound : (before.networks ++ [row]).find? (fun network => decide (network.id = networkId)) =
        some network := hp.found
    rw [List.find?_append, hnone] at hfound
    simpa [hid] using hfound.symm
  subst hnetwork
  have hold : before.configurationVersions.filter (fun stored => stored.networkId = networkId) = [] := by
    refine List.filter_eq_nil_iff.mpr fun stored hstored hsame => ?_
    obtain ⟨other, hother, hreferred⟩ := hkeys stored hstored
    exact hfresh other hother (hreferred.trans (of_decide_eq_true hsame))
  have hrows : configurationRows (publishedTables { before with
      networks := before.networks ++ [network] } networkId
      (publishedRow p state networkId network bytes)) networkId =
        [publishedRow p state networkId network bytes] := by
    show (before.configurationVersions ++ [_]).filter _ = _
    rw [List.filter_append, hold]
    simp [publishedRow]
  have hversion : (publishedRow p state networkId network bytes).version = 1 := by
    show (network.nextMetadata p).version.toNat = 1
    rw [toNat_nextVersion hp.counts, hzero]
  refine ⟨⟨{ network with configVersion := network.configVersion + 1 },
    publishedRow p state networkId network bytes, times, payload, ?_, ?_, ?_, hmoment, hp.assembled,
    hp.encoded⟩, fun token htoken => Or.inr (List.mem_map_of_mem htoken)⟩
  · exact network_updateNetwork hp.found hid
  · rw [hrows]
    simp [hversion, hzero]
  · rw [hrows]
    rfl

/-- The clocks of the transactions that may have published. -/
def PublishingMoments (times : Times) (ops : List DatabaseOp) (moment : Times) : Prop :=
  moment = times ∨ ∃ op ∈ ops, op.times? = some moment

/-- In every state that transactions on a network reach from its creation, its configurations are
numbered in the order of their commits without a gap, each step only adds to them, and the one of the
highest version is what the committed tables give. -/
theorem latest_configuration_current (p : Platform) (state : AppState) {before db : Database}
    {request : CreateNetworkRequest} {networkId : Uuid} {times : Times} {response : NetworkResponse}
    (hkeys : ConfigurationsReferNetworks before)
    (hcreated : createNetwork p state before request networkId times = .ok (response, db))
    {ops : List DatabaseOp}
    (hops : ∀ op ∈ ops, op.OnNetwork p networkId fun hash =>
      hash ∈ before.enrollmentTokens.map EnrollmentTokenRow.tokenHash) :
    (∃ network row moment payload,
      (final (DatabaseServer.step p state) ⟨db, ∅⟩ ops).committed.network networkId = some network ∧
      (configurationRows (final (DatabaseServer.step p state) ⟨db, ∅⟩ ops).committed networkId).map
        ConfigurationVersionRow.version = List.range' 1 network.configVersion ∧
      latestConfigurationRow (final (DatabaseServer.step p state) ⟨db, ∅⟩ ops).committed networkId =
        some row ∧
      row.version = network.configVersion ∧
      PublishingMoments times ops moment ∧
      assembleConfiguration p state (final (DatabaseServer.step p state) ⟨db, ∅⟩ ops).committed
        networkId (network.metadata p) moment = .ok payload ∧
      p.configurationPayloadText payload = some row.payload) ∧
    ∀ earlier later, ops = earlier ++ later →
      configurationRows (final (DatabaseServer.step p state) ⟨db, ∅⟩ earlier).committed networkId <+:
        configurationRows (final (DatabaseServer.step p state) ⟨db, ∅⟩ ops).committed networkId := by
  have hkeep : ∀ op ∈ ops.map (DatabaseOp.serverOp p state), op.Keeps lockRules
      (publicationDiscipline p state networkId
        (fun hash => hash ∈ before.enrollmentTokens.map EnrollmentTokenRow.tokenHash)
        (PublishingMoments times ops)) := by
    intro serverOp hmem
    obtain ⟨op, hop, rfl⟩ := List.mem_map.mp hmem
    exact serverOp_keeps (hops op hop) fun moment hmoment => Or.inr ⟨op, hop, hmoment⟩
  have hstart : Server.Sound lockRules (publicationDiscipline p state networkId
      (fun hash => hash ∈ before.enrollmentTokens.map EnrollmentTokenRow.tokenHash)
      (PublishingMoments times ops)) (⟨db, ∅⟩ : DatabaseServer) :=
    Server.sound_start (created_inv hkeys hcreated (Or.inl rfl))
  constructor
  · obtain ⟨hsound, _⟩ := hstart.run hkeep
    rw [← final_databaseServer] at hsound
    obtain ⟨network, row, moment, payload, hfound, hversions, hlast, hmoment, hassembled, htext⟩ :=
      hsound.inv.1
    obtain ⟨hlatest, hversion⟩ := latestConfigurationRow_eq hversions hlast
    exact ⟨network, row, moment, payload, hfound, hversions, hlatest, hversion, hmoment, hassembled,
      htext⟩
  · rintro earlier later rfl
    rw [List.map_append] at hkeep
    obtain ⟨hsound, _⟩ := hstart.run fun op hmem => hkeep op (List.mem_append_left _ hmem)
    obtain ⟨_, hrely⟩ := hsound.run fun op hmem => hkeep op (List.mem_append_right _ hmem)
    rw [← final_append, ← List.map_append, ← final_databaseServer, ← final_databaseServer] at hrely
    exact hrely.1

/-- A node is enrolled as the policy of the new network is replaced; both transactions commit, the
enrollment after it has waited. -/
def sampleNetworkOps : List DatabaseOp := [
  .createEnrollmentToken ⟨fill 16 21, 3600, 1, 1, [], none⟩ (fill 16 30) (fill 32 55) (sampleMoment 0),
  .start 1 (.enrollNode ⟨"xsenr1_" ++ Base64.urlEncode (fill 32 55).val, "laptop", "linux",
    Base64.urlEncode sampleIdentityKey.seed.val⟩ (fill 16 31) (sampleMoment 1)),
  .start 2 (.replaceAclPolicy (fill 16 21) ⟨1, [], []⟩ (sampleMoment 2))] ++
  (List.replicate 19 [.advance 1, .advance 2]).flatten ++ List.replicate 20 (.advance 1)

def sampleNetwork : Except ApiError (NetworkResponse × Database) :=
  createNetwork samplePlatform sampleAppState .empty ⟨"home", "100.88.0.0/24", 16⟩ (fill 16 21)
    (sampleMoment 0)

theorem sampleNetworkOps_commit : sampleNetwork.toOption.any (fun created =>
    ((final (DatabaseServer.step samplePlatform sampleAppState) ⟨created.2, ∅⟩
      sampleNetworkOps).committed.network (fill 16 21)).any fun network =>
        decide (network.configVersion = 3)) = true := by
  decide +kernel

theorem latest_configuration_current_sample : ∃ response db network row,
    sampleNetwork = .ok (response, db) ∧
      (final (DatabaseServer.step samplePlatform sampleAppState) ⟨db, ∅⟩
        sampleNetworkOps).committed.network (fill 16 21) = some network ∧
      network.configVersion = 3 ∧
      latestConfigurationRow (final (DatabaseServer.step samplePlatform sampleAppState) ⟨db, ∅⟩
        sampleNetworkOps).committed (fill 16 21) = some row ∧
      row.version = network.configVersion := by
  have hcommit := sampleNetworkOps_commit
  rcases hresult : sampleNetwork with e | ⟨response, db⟩
  · rw [hresult] at hcommit
    cases hcommit
  · rw [hresult] at hcommit
    simp only [Except.toOption, Option.any_some] at hcommit
    obtain ⟨found, hfound, hthree⟩ := (Option.any_eq_true _ _).mp hcommit
    have hcreated := hresult
    unfold sampleNetwork at hcreated
    have hnone : ∀ hash, hash ∉ Database.empty.enrollmentTokens.map EnrollmentTokenRow.tokenHash :=
      fun _ => List.not_mem_nil
    have hops : ∀ op ∈ sampleNetworkOps, op.OnNetwork samplePlatform (fill 16 21) fun hash =>
        hash ∈ Database.empty.enrollmentTokens.map EnrollmentTokenRow.tokenHash := by
      simp [sampleNetworkOps, DatabaseOp.OnNetwork, TransactionRequest.OnNetwork, hnone]
    obtain ⟨⟨network, row, _, _, hnetwork, _, hlatest, hversion, _⟩, _⟩ :=
      latest_configuration_current samplePlatform sampleAppState
        (fun _ hmem => absurd hmem List.not_mem_nil) hcreated hops
    cases Option.some.inj (hfound.symm.trans hnetwork)
    exact ⟨response, db, found, row, rfl, hfound, of_decide_eq_true hthree, hlatest, hversion⟩

end XsNexus
