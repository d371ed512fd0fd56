import XsNexus.RolledOutUpdates
import XsNexus.StagedReleases

namespace XsNexus

open ByteCodec Checks FiniteMap

/-- A request that is published names a directory that was staged with it. A call of `stage_update` that
finds its release staged from the same manifest, as it begins or as it loses the race for the name of
the release, returns, and publishes its request just where the policy generation, the decision and the
signature of its directive are those of the directive that was staged; everywhere else it returns an
error of the archive. -/
theorem update_staging_converges_iff (p : StagePlatform) (hjson : RequestsRoundTrip p)
    (events : List StagingEvent) :
    let s := Runs.final (StagingState.next p) .empty events
    (∀ bytes, s.updateRequest = some bytes →
      ∃ request, stateText p request = some bytes ∧ Recorded p s.stagingRoot request) ∧
    ∀ staged stagedVerified, Complete p s.stagingRoot staged stagedVerified →
      (∀ later, Complete p (Runs.final (StagingState.next p) s later).stagingRoot staged stagedVerified) ∧
      ∀ id agent channel directive verified phase,
        s.attempts.lookup id = some ⟨agent, channel, directive, phase⟩ →
        (phase = .beginning ∨ ∃ own, phase = .movingDirectory own) →
        verifyDirective p.toUpdatePlatform agent channel directive = .ok verified →
        staged.releaseId = directive.releaseId →
        stagedVerified.manifestBytes = verified.manifestBytes →
        ∀ later, Runs.Along (StagingState.next p) (CallsWork id) s later →
          (∀ entry ∈ Runs.trace (StagingState.next p) s later, ∀ outcome, entry.2 = some outcome →
            outcome.id = id →
            (PublishesRequest p directive outcome ↔ StagedFor staged stagedVerified directive verified) ∧
              (¬StagedFor staged stagedVerified directive verified →
                outcome.result = .error .archive)) ∧
          (phase.remaining ≤ later.countP (StagingEvent.proceeds id) → (∀ left, .crash id left ∉ later) →
            ∃ entry ∈ Runs.trace (StagingState.next p) s later, ∃ outcome, entry.2 = some outcome ∧
              outcome.id = id) := by
  have hsound := stagingSound hjson events
  intro s
  refine ⟨hsound.published, fun staged stagedVerified hcomplete => ⟨fun later => ?_, ?_⟩⟩
  · have hkept := @Runs.run_keeps _ _ _ (StagingState.next p) (fun _ _ => True)
      (fun s => StagingSound p s ∧ Complete p s.stagingRoot staged stagedVerified)
      (fun s event hs _ => ⟨next_sound hjson hs.1 event, next_complete hjson hs.1 event hs.2⟩)
      s later ⟨hsound, hcomplete⟩ (Runs.along_true _ _ _)
    exact hkept.2
  intro id agent channel directive verified phase hattempt hphase hverified hrelease hmanifest later hcalls
  have hmeets : phase.Meets verified (StagedFor staged stagedVerified directive verified) := by
    rcases hphase with rfl | ⟨own, rfl⟩
    · trivial
    · obtain ⟨haccepted, _⟩ := hsound.attempts id _ hattempt
      exact Except.ok.inj (haccepted.symm.trans hverified)
  have hstart : Settles p id agent channel directive verified staged stagedVerified phase.remaining s [] :=
    ⟨hsound, hcomplete, fun _ hentry => absurd hentry List.not_mem_nil, phase, hattempt,
      Or.inr ⟨Nat.zero_add _, hmeets⟩⟩
  have hsettles := Runs.run_preserves
    (fun s history event hi hcond => next_settles hjson hverified hrelease hmanifest hi hcond)
    later hstart hcalls
  rw [List.nil_append] at hsettles
  refine ⟨fun entry hentry outcome houtcome hid => ?_, fun hcount hcrash => ?_⟩
  · rcases hsettles.outcomes entry hentry outcome houtcome hid with ⟨hsame, hpublishes⟩ | ⟨hother, herror⟩
    · exact ⟨⟨fun _ => hsame, fun _ => hpublishes⟩, fun hother => absurd hsame hother⟩
    · refine ⟨⟨fun hpublishes => ?_, fun hsame => absurd hsame hother⟩, fun _ => herror⟩
      rw [hpublishes.1] at herror
      simp at herror
  · obtain ⟨last, _, hstands⟩ := hsettles.phase
    unfold Stands at hstands
    rw [Runs.trace_inputs] at hstands
    rcases hstands with ⟨_, ⟨left, hleft⟩ | houtcome⟩ | ⟨htotal, hlast⟩
    · exact absurd hleft (hcrash left)
    · exact houtcome
    · have hpositive := StagePhase.Meets.remaining_pos hlast
      omega

def Json.updateDecision : UpdateDecision → Bytes
  | .channelMismatch => string "channel_mismatch"
  | .paused => string "paused"
  | .upToDate => string "up_to_date"
  | .required => string "required"
  | .eligible => string "eligible"
  | .deferred => string "deferred"

def Json.stagedUpdateRequest (request : StagedUpdateRequest) : Bytes := object [
  member "schema_version" (digits request.schemaVersion.toNat),
  member "release_id" (uuid request.releaseId),
  member "policy_generation" (digits request.policyGeneration.toNat),
  member "decision" (updateDecision request.decision),
  member "version" (string request.version.text),
  member "directory_name" (string request.directoryName),
  member "archive_name" (string request.archiveName)]

def sampleArchiveBytes : Bytes := [115, 105, 103, 110, 101, 100, 32, 97, 114, 99, 104, 105, 118, 101, 32,
  102, 105, 120, 116, 117, 114, 101]

def sampleArchiveDigest : Block 32 := ⟨[105, 127, 38, 94, 46, 252, 42, 16, 247, 147, 153, 34, 159, 170, 20,
  82, 220, 190, 193, 99, 139, 190, 227, 36, 206, 138, 36, 223, 22, 157, 145, 64], by decide⟩

def sampleStagedCodes : List Nat := ["schema_version=1", "product=xs-nexus", "version=1.2.3",
  "platform=linux", "architecture=x86_64", "target=x86_64-unknown-linux-gnu",
  "archive=xs-nexus-1.2.3-x86_64-unknown-linux-gnu.tar.gz", "archive_size=22",
  "archive_sha256=697f265e2efc2a10f79399229faa1452dcbec1638bbee324ce8a24df169d9140"].flatMap
    fun line => line.toList.map Char.toNat ++ [10]

def sampleStagedManifest : LinuxReleaseManifest := { sampleReleaseManifest with
  archiveSize := 22
  archiveSha256 := "697f265e2efc2a10f79399229faa1452dcbec1638bbee324ce8a24df169d9140" }

def sampleStagedKey : VerifyingKey := ⟨⟨[250, 72, 52, 20, 127, 110, 105, 12, 54, 147, 239, 246, 19, 54, 4,
  100, 3, 205, 138, 226, 161, 79, 49, 179, 196, 7, 53, 133, 105, 35, 149, 101], by decide⟩⟩

def sampleStagedSignature : Block 64 := ⟨[73, 95, 117, 15, 100, 214, 30, 233, 106, 59, 197, 6, 204, 71, 39,
  28, 129, 17, 129, 88, 104, 88, 188, 127, 31, 109, 255, 201, 199, 115, 151, 119, 37, 19, 194, 54, 74, 110,
  88, 215, 34, 136, 190, 173, 141, 103, 198, 61, 211, 149, 96, 248, 242, 111, 25, 135, 175, 131, 46, 146,
  115, 188, 16, 12], by decide⟩

/-- The release under a policy of the generation. -/
def sampleStagedDirective (generation : UInt64) : UpdateDirective where
  schemaVersion := 1
  policyGeneration := generation
  releaseId := fill 16 61
  decision := .eligible
  channel := .stable
  version := ⟨1, 2, 3⟩
  minimumVersion := none
  platform := "linux"
  architecture := "x86_64"
  archiveName := sampleArchive
  archiveSize := 22
  archiveSha256 := "697f265e2efc2a10f79399229faa1452dcbec1638bbee324ce8a24df169d9140"
  archiveUrl := sampleArchiveUrl
  manifestBase64 := Base64.urlEncode (sampleStagedCodes.map UInt8.ofNat)
  signatureBase64 := Base64.urlEncode sampleStagedSignature.val

def sampleStagedRequests : List StagedUpdateRequest :=
  [stagedRequest (sampleStagedDirective 1), stagedRequest (sampleStagedDirective 2)]

def sampleStagePlatform : StagePlatform where
  toUpdatePlatform := { sampleUpdatePlatform with
    crypto := { Crypto.transparent with
      sha256 := fun data =>
        if data = sampleArchiveBytes then sampleArchiveDigest else Crypto.transparent.sha256 data
      verifyStrict := fun key message signature => decide (key = sampleStagedKey ∧
        message = sampleStagedCodes.map UInt8.ofNat ∧ signature = sampleStagedSignature) } }
  requestText request :=
    if request ∈ sampleStagedRequests then some (Json.stagedUpdateRequest request) else none
  requestParse bytes :=
    sampleStagedRequests.find? fun request => Json.stagedUpdateRequest request = bytes

theorem sampleStagePlatform_json : RequestsRoundTrip sampleStagePlatform := by
  have hdistinct : ∀ a ∈ sampleStagedRequests, ∀ b ∈ sampleStagedRequests,
      Json.stagedUpdateRequest a = Json.stagedUpdateRequest b → a = b := by
    decide +kernel
  intro request bytes htext
  obtain ⟨hrequest, hbytes⟩ := Option.ite_none_right_eq_some.mp htext
  cases hbytes
  show sampleStagedRequests.find? (fun other =>
    decide (Json.stagedUpdateRequest other = Json.stagedUpdateRequest request)) = some request
  obtain ⟨found, hfound⟩ : ∃ found, sampleStagedRequests.find? (fun other =>
      Json.stagedUpdateRequest other = Json.stagedUpdateRequest request) = some found := by
    rw [← Option.isSome_iff_exists, List.find?_isSome]
    exact ⟨request, hrequest, by simp⟩
  have hsame := List.find?_some hfound
  rw [hfound, hdistinct found (List.mem_of_find?_eq_some hfound) request hrequest (by simpa using hsame)]

def sampleStagedAgent : AgentInstallation := ⟨"1.0.0", "x86_64", some sampleStagedKey⟩

def sampleStagedVerified : VerifiedDirective where
  manifest := sampleStagedManifest
  manifestBytes := sampleStagedCodes.map UInt8.ofNat
  signatureBytes := sampleStagedSignature
  archiveUrl := ⟨sampleArchiveUrl, "https", some "updates.example", "", none, none, some [sampleArchive]⟩

theorem verifyDirective_of_checks {u : UpdatePlatform} {agent : AgentInstallation}
    {channel : UpdateChannel} {directive : UpdateDirective} {verified : VerifiedDirective}
    {currentVersion : ReleaseVersion} {key : VerifyingKey}
    (hversion : ReleaseVersion.parse agent.packageVersion = some currentVersion)
    (harchitecture : supportedArchitecture agent.architecture = .ok directive.architecture)
    (heligible : directive.schemaVersion = 1 ∧ directive.policyGeneration ≠ 0 ∧
      directive.decision = .eligible ∧ directive.channel = channel ∧ directive.platform = "linux" ∧
      currentVersion < directive.version ∧ directive.minimumVersion = none)
    (hsize : 1 ≤ directive.archiveSize.toNat ∧ directive.archiveSize.toNat ≤ maxUpdateArchiveBytes)
    (hhash : validLowerSha256 directive.archiveSha256 = true)
    (hmanifestBytes : decodeCanonical u directive.manifestBase64 4096 = some verified.manifestBytes)
    (hsignatureBytes : decodeCanonical u directive.signatureBase64 64 = some verified.signatureBytes.val)
    (hmanifest : LinuxReleaseManifest.parse verified.manifestBytes = .ok verified.manifest)
    (hsame : verified.manifest.version = directive.version ∧
      verified.manifest.architecture = directive.architecture ∧
      verified.manifest.archive = directive.archiveName ∧
      verified.manifest.archiveSize = directive.archiveSize ∧
      verified.manifest.archiveSha256 = directive.archiveSha256)
    (hurl : validateArchiveUrl u directive.archiveUrl directive.archiveName = some verified.archiveUrl)
    (hkey : agent.updateSigningPublicKey = some key)
    (hsigned : u.crypto.verifyStrict key verified.manifestBytes verified.signatureBytes = true) :
    verifyDirective u agent channel directive = .ok verified := by
  obtain ⟨hschema, hgeneration, hdecision, hchannel, hplatform, hnewer, hminimum⟩ := heligible
  obtain ⟨hsameVersion, hsameArchitecture, hsameArchive, hsameSize, hsameHash⟩ := hsame
  refine bind_ok.mpr ⟨currentVersion, okOr_ok.mpr hversion, bind_ok.mpr ⟨_, harchitecture,
    guard_ok.mpr ⟨?_, ?_⟩⟩⟩
  · simp [hschema, hgeneration, hdecision, hchannel, hplatform, hnewer, hminimum, hsize, hhash]
  refine bind_ok.mpr ⟨_, okOr_ok.mpr hmanifestBytes, bind_ok.mpr ⟨_, okOr_ok.mpr hsignatureBytes,
    bind_ok.mpr ⟨verified.signatureBytes, okOr_ok.mpr (array_of_length verified.signatureBytes.property),
      bind_ok.mpr ⟨verified.manifest, mapError_ok.mpr hmanifest, guard_ok.mpr ⟨?_, ?_⟩⟩⟩⟩⟩
  · simp [hsameVersion, hsameArchitecture, hsameArchive, hsameSize, hsameHash]
  refine bind_ok.mpr ⟨_, okOr_ok.mpr hurl, bind_ok.mpr ⟨key, okOr_ok.mpr hkey, guard_ok.mpr ⟨?_, rfl⟩⟩⟩
  simp [hsigned]

/-- Every generation of the policy gives a directive that is accepted. -/
theorem sampleStagedDirective_verified {generation : UInt64} (hgeneration : generation ≠ 0) :
    verifyDirective sampleStagePlatform.toUpdatePlatform sampleStagedAgent .stable
      (sampleStagedDirective generation) = .ok sampleStagedVerified := by
  obtain ⟨hne, hlength, hparsed⟩ :=
    @parse_ascii sampleStagedCodes sampleStagedManifest (by decide +kernel)
  have hbase64 : ∀ data, sampleStagePlatform.formats.base64Decode
      (sampleStagePlatform.formats.base64Encode data) = some data := Base64.urlDecode_urlEncode
  have hsignatureLength : sampleStagedSignature.val.length = 64 := sampleStagedSignature.property
  have hurl : validateArchiveUrl sampleStagePlatform.toUpdatePlatform sampleArchiveUrl sampleArchive =
      some sampleStagedVerified.archiveUrl := by
    decide +kernel
  have hversion : ReleaseVersion.parse sampleStagedAgent.packageVersion = some ⟨1, 0, 0⟩ := by
    decide +kernel
  have hnewer : (⟨1, 0, 0⟩ : ReleaseVersion) < ⟨1, 2, 3⟩ := by decide
  have hhash : validLowerSha256 "697f265e2efc2a10f79399229faa1452dcbec1638bbee324ce8a24df169d9140" =
      true := by
    decide +kernel
  have hmanifestBytes := @decodeCanonical_encode sampleStagePlatform.toUpdatePlatform hbase64 _ 4096 hne hlength
  have hsignatureBytes := @decodeCanonical_encode sampleStagePlatform.toUpdatePlatform hbase64
    sampleStagedSignature.val 64 (List.ne_nil_of_length_pos (by omega)) (by omega)
  have hsize : 1 ≤ (22 : UInt64).toNat ∧ (22 : UInt64).toNat ≤ maxUpdateArchiveBytes := by decide
  exact verifyDirective_of_checks hversion rfl ⟨rfl, hgeneration, rfl, rfl, rfl, hnewer, rfl⟩ hsize
    hhash hmanifestBytes hsignatureBytes hparsed ⟨rfl, rfl, rfl, rfl, rfl⟩ hurl rfl
    (by simp [sampleStagePlatform, sampleStagedVerified])

def sampleDone (id : Uuid) : StagingEvent := .proceed id .done none

/-- A call that stages the release, from its directory on. -/
def sampleStaging (id : Uuid) : List StagingEvent := [
  sampleDone id, sampleDone id, sampleDone id, .proceed id (.response 200 (some 22)) none,
  .proceed id (.chunk sampleArchiveBytes) none, sampleDone id, sampleDone id, sampleDone id,
  sampleDone id, sampleDone id]

def sampleAttempt (generation : UInt64) (phase : StagePhase) : StageAttempt :=
  ⟨sampleStagedAgent, .stable, sampleStagedDirective generation, phase⟩

def sampleBegun : StagingState :=
  ⟨∅, none, (∅ : Map Uuid StageAttempt).insert (fill 16 1) (sampleAttempt 1 .beginning)⟩

/-- The state once the call has checked the directive. -/
def sampleChecked : StagingState :=
  ⟨∅, none, sampleBegun.attempts.insert (fill 16 1)
    (sampleAttempt 1 (.creating sampleStagedVerified))⟩

/-- The state once the release is staged. -/
def sampleStaged : StagingState :=
  Runs.final (StagingState.next sampleStagePlatform) sampleChecked (sampleStaging (fill 16 1))

theorem stageStep_begins {p : StagePlatform} {root : StagingRoot} {id : Uuid} {attempt : StageAttempt}
    {verified : VerifiedDirective} (left : Option StagingEntry) (hphase : attempt.phase = .beginning)
    (hverified : verifyDirective p.toUpdatePlatform attempt.agent attempt.assignedChannel attempt.directive =
      .ok verified)
    (hfree : directoryName attempt.directive.releaseId ∉ root) :
    stageStep p root id attempt .done left = (root, .creating verified) := by
  unfold stageStep
  rw [hphase]
  dsimp only
  rw [hverified]
  dsimp only
  rw [if_neg (by simp), if_neg hfree]

theorem sampleStaged_run : Runs.final (StagingState.next sampleStagePlatform) .empty
      (.start (fill 16 1) sampleStagedAgent .stable (sampleStagedDirective 1) ::
        sampleDone (fill 16 1) :: sampleStaging (fill 16 1)) = sampleStaged := by
  have hverified := @sampleStagedDirective_verified 1 (by decide)
  have hstep : stageStep sampleStagePlatform ∅ (fill 16 1) (sampleAttempt 1 .beginning) .done none =
      (∅, .creating sampleStagedVerified) :=
    stageStep_begins none rfl hverified (AList.notMem_empty _)
  have hbegun : sampleBegun.attempts.lookup (fill 16 1) = some (sampleAttempt 1 .beginning) :=
    AList.lookup_insert _
  obtain ⟨hstate, _⟩ := @next_proceed sampleStagePlatform sampleBegun _ _ _ _ _ _ hbegun rfl hstep
  have hstart : (StagingState.next sampleStagePlatform .empty
      (.start (fill 16 1) sampleStagedAgent .stable (sampleStagedDirective 1))).2 = sampleBegun := by
    unfold StagingState.next
    dsimp only
    exact congrArg Prod.snd (if_neg (AList.notMem_empty _))
  have hchecked : (StagingState.next sampleStagePlatform sampleBegun (sampleDone (fill 16 1))).2 =
      sampleChecked := hstate
  rw [Runs.final, hstart, Runs.final, hchecked]
  rfl

/-- What a file of the staged release holds then. -/
def sampleStagedFile (name : String) : Option StoredFile :=
  match sampleStaged.stagingRoot.lookup (directoryName (fill 16 61)) with
  | some (.directory files) => files.lookup name
  | _ => none

theorem sampleStaged_files :
    sampleStagedFile manifestFile = some (privateFile sampleStagedVerified.manifestBytes) ∧
    sampleStagedFile signatureFile = some (privateFile sampleStagedSignature.val) ∧
    sampleStagedFile sampleArchive = some (privateFile sampleArchiveBytes) ∧
    sampleStagedFile readyFile =
      some (privateFile (Json.stagedUpdateRequest (stagedRequest (sampleStagedDirective 1)))) ∧
    (sampleStaged.attempts.lookup (fill 16 2)).isNone = true ∧
    stateText sampleStagePlatform (stagedRequest (sampleStagedDirective 1)) =
      some (Json.stagedUpdateRequest (stagedRequest (sampleStagedDirective 1))) ∧
    sampleArchiveBytes.length = (sampleStagedDirective 1).archiveSize.toNat ∧
    hex (sampleStagePlatform.crypto.sha256 sampleArchiveBytes).val =
      (sampleStagedDirective 1).archiveSha256 := by
  refine ⟨?_, ?_, ?_, ?_, ?_, ?_, ?_, ?_⟩ <;> decide +kernel

theorem sampleStaged_complete : Complete sampleStagePlatform sampleStaged.stagingRoot
    (sampleStagedDirective 1) sampleStagedVerified := by
  obtain ⟨hmanifest, hsignature, harchive, hready, _, htext, hdigest⟩ := sampleStaged_files
  unfold sampleStagedFile at hmanifest hsignature harchive hready
  split at hmanifest
  next files hfiles =>
    rw [hfiles] at hsignature harchive hready
    exact ⟨⟨_, _, sampleStagedDirective_verified (by decide)⟩, files, hfiles, hmanifest, hsignature,
      ⟨_, harchive, hdigest⟩, _, hready, htext⟩
  next => simp at hmanifest

/-- A second call, once the release is staged. -/
def sampleSecond (generation : UInt64) : List StagingEvent :=
  .start (fill 16 1) sampleStagedAgent .stable (sampleStagedDirective 1) ::
    sampleDone (fill 16 1) :: sampleStaging (fill 16 1) ++
    [.start (fill 16 2) sampleStagedAgent .stable (sampleStagedDirective generation)]

def sampleLater : List StagingEvent := List.replicate 3 (sampleDone (fill 16 2))

theorem sampleSecond_started (generation : UInt64) : ∃ s,
    Runs.final (StagingState.next sampleStagePlatform) .empty (sampleSecond generation) = s ∧
    s.attempts.lookup (fill 16 2) = some (sampleAttempt generation .beginning) ∧
      Complete sampleStagePlatform s.stagingRoot (sampleStagedDirective 1) sampleStagedVerified ∧
      Runs.Along (StagingState.next sampleStagePlatform) (CallsWork (fill 16 2)) s sampleLater := by
  obtain ⟨s, hs, hcomplete, habsent⟩ : ∃ s, Runs.final (StagingState.next sampleStagePlatform) .empty
        (.start (fill 16 1) sampleStagedAgent .stable (sampleStagedDirective 1) ::
          sampleDone (fill 16 1) :: sampleStaging (fill 16 1)) = s ∧
      Complete sampleStagePlatform s.stagingRoot (sampleStagedDirective 1) sampleStagedVerified ∧
      fill 16 2 ∉ s.attempts := by
    refine ⟨sampleStaged, sampleStaged_run, sampleStaged_complete, fun hmem => ?_⟩
    obtain ⟨attempt, hattempt⟩ := mem_iff_lookup.mp hmem
    obtain ⟨_, _, _, _, hnone, _⟩ := sampleStaged_files
    rw [hattempt] at hnone
    simp at hnone
  refine ⟨⟨s.stagingRoot, s.updateRequest, s.attempts.insert (fill 16 2)
    (sampleAttempt generation .beginning)⟩, ?_, AList.lookup_insert _, hcomplete, fun _ => rfl,
    fun _ => rfl, fun _ => rfl, trivial⟩
  unfold sampleSecond
  rw [Runs.final_append, hs]
  show (StagingState.next sampleStagePlatform s _).2 = _
  unfold StagingState.next
  dsimp only
  rw [if_neg habsent]
  rfl

theorem sampleStagedDirective_release (generation : UInt64) :
    (sampleStagedDirective 1).releaseId = (sampleStagedDirective generation).releaseId := rfl

/-- A directive of the same generation is taken again. -/
theorem update_staging_converges_sample :
    ∃ entry ∈ Runs.trace (StagingState.next sampleStagePlatform)
        (Runs.final (StagingState.next sampleStagePlatform) .empty (sampleSecond 1)) sampleLater,
      ∃ outcome, entry.2 = some outcome ∧
        PublishesRequest sampleStagePlatform (sampleStagedDirective 1) outcome := by
  obtain ⟨s, hs, hattempt, hcomplete, hcalls⟩ := sampleSecond_started 1
  obtain ⟨_, hconverges⟩ := update_staging_converges_iff sampleStagePlatform sampleStagePlatform_json
    (sampleSecond 1)
  rw [hs] at hconverges ⊢
  obtain ⟨houtcomes, hreturns⟩ := (hconverges _ _ hcomplete).2 _ _ _ _ _ _ hattempt (Or.inl rfl)
    (sampleStagedDirective_verified (by decide)) (sampleStagedDirective_release 1) rfl sampleLater hcalls
  obtain ⟨entry, hentry, outcome, houtcome, hid⟩ := hreturns (by decide) (by
    intro left hmem
    simp [sampleLater, sampleDone, List.replicate] at hmem)
  exact ⟨entry, hentry, outcome, houtcome, (houtcomes entry hentry outcome houtcome hid).1.mpr
    ⟨rfl, rfl, rfl⟩⟩

/-- After an edit of the policy the release that is staged is refused. -/
theorem update_staging_refused : ¬∀ id agent channel directive verified staged stagedVerified events later,
    let s := Runs.final (StagingState.next sampleStagePlatform) .empty events
    Complete sampleStagePlatform s.stagingRoot staged stagedVerified →
    s.attempts.lookup id = some ⟨agent, channel, directive, .beginning⟩ →
    verifyDirective sampleStagePlatform.toUpdatePlatform agent channel directive = .ok verified →
    staged.releaseId = directive.releaseId →
    stagedVerified.manifestBytes = verified.manifestBytes →
    Runs.Along (StagingState.next sampleStagePlatform) (CallsWork id) s later →
    ∀ entry ∈ Runs.trace (StagingState.next sampleStagePlatform) s later, ∀ outcome,
      entry.2 = some outcome → outcome.id = id → PublishesRequest sampleStagePlatform directive outcome := by
  intro hclaim
  obtain ⟨s, hs, hattempt, hcomplete, hcalls⟩ := sampleSecond_started 2
  have hverified := @sampleStagedDirective_verified 2 (by decide)
  have hsound := stagingSound sampleStagePlatform_json (sampleSecond 2)
  rw [hs] at hsound
  have hstart : Settles sampleStagePlatform (fill 16 2) sampleStagedAgent .stable
      (sampleStagedDirective 2) sampleStagedVerified (sampleStagedDirective 1) sampleStagedVerified 3 s [] :=
    ⟨hsound, hcomplete, fun _ hentry => absurd hentry List.not_mem_nil, .beginning, hattempt,
      Or.inr ⟨rfl, trivial⟩⟩
  have hsettles := Runs.run_preserves (fun s history event hi hcond =>
    next_settles sampleStagePlatform_json hverified (sampleStagedDirective_release 2) rfl hi hcond)
    sampleLater hstart hcalls
  rw [List.nil_append] at hsettles
  obtain ⟨phase, _, hstands⟩ := hsettles.phase
  unfold Stands at hstands
  rw [Runs.trace_inputs] at hstands
  rcases hstands with ⟨_, ⟨left, hleft⟩ | ⟨entry, hentry, outcome, houtcome, hid⟩⟩ | ⟨htotal, hphase⟩
  · simp [sampleLater, sampleDone, List.replicate] at hleft
  · rcases hsettles.outcomes entry hentry outcome houtcome hid with ⟨hsame, _⟩ | ⟨_, herror⟩
    · exact absurd hsame.1 (by decide)
    · have hpublishes := hclaim (fill 16 2) sampleStagedAgent .stable (sampleStagedDirective 2)
        sampleStagedVerified (sampleStagedDirective 1) sampleStagedVerified (sampleSecond 2) sampleLater
      dsimp only at hpublishes
      rw [hs] at hpublishes
      have hpublishes := hpublishes hcomplete hattempt hverified (sampleStagedDirective_release 2) rfl
        hcalls entry hentry outcome houtcome hid
      rw [hpublishes.1] at herror
      simp at herror
  · have hcount : sampleLater.countP (StagingEvent.proceeds (fill 16 2)) = 3 := by decide
    have hpositive := StagePhase.Meets.remaining_pos hphase
    omega

end XsNexus
