import XsNexus.PublishedCandidates
import XsNexus.UpdateDirectives

namespace XsNexus

open ByteCodec Checks

/-- An update that the controller directs a node to is taken by its Agent just where the strict check of
the signature adds nothing: where neither the key of the releases nor the point in the signature is of
small order. -/
theorem update_directives_verified_iff (u : UpdatePlatform)
    (hbase64 : ∀ data, u.formats.base64Decode (u.formats.base64Encode data) = some data)
    (hurl : ∀ value url, u.url value = some url →
      u.url url.text = some url ∧ (utf8 url.text).length = url.text.length)
    (hstrict : ∀ key message signature, u.verify key message signature = true →
      (u.crypto.verifyStrict key message signature = true ↔
        u.smallOrder key.bytes.val = false ∧ u.smallOrder (signature.val.take 32) = false))
    {key : VerifyingKey} {tables tables' : UpdateTables} (hreach : ReachableUpdates u key tables)
    {db : Database} {authenticated : AuthenticatedNode} {report : AgentRuntimeReport}
    {signatureBase64 : String} {utcNow : Int} {directive : UpdateDirective}
    (hs : recordRuntimeReport u db tables authenticated report signatureBase64 utcNow =
      .ok (some directive, tables')) {agent : AgentInstallation}
    (hversion : ReleaseVersion.parse agent.packageVersion = some report.agentVersion)
    (harchitecture : agent.architecture = report.architecture)
    (hkey : agent.updateSigningPublicKey = some key) :
    ∃ release, tables.releases.find? (fun release => release.id = directive.releaseId) = some release ∧
      ((∃ verified, verifyDirective u agent report.updateChannel directive = .ok verified) ↔
        u.smallOrder key.bytes.val = false ∧
          u.smallOrder (release.signature.val.take 32) = false) := by
  have hsound := updatesSound hreach
  obtain ⟨⟨reports, rfl⟩, hdirective, hplatform⟩ := recordRuntimeReport_ok hs
  obtain ⟨row, hrow, release, targetVersion, minimumVersion, decision, hsame, hrelease, htarget,
    hgrants, hnewer, hminimum, hrequired, rfl⟩ := directiveForReport_some hdirective
  refine ⟨release, hrelease, ?_⟩
  obtain ⟨manifest, url, value, hparsed, hverified, htext, hlinux, harch, hname, hsize, hhash,
    hvalid, hstored, hlength⟩ := hsound.releases release (List.mem_of_find?_eq_some hrelease)
  obtain ⟨⟨hpositive, hbounded⟩, other, hother, hotherPlatform, hotherArchitecture⟩ :=
    hsound.policies row hrow
  cases hrelease.symm.trans hother
  obtain ⟨hmanifestNe, hmanifestLength, hmanifest⟩ := parse_sound hparsed
  have hdecodedManifest := decodeCanonical_encode hbase64 hmanifestNe hmanifestLength
  have hsignatureLength : release.signature.val.length = 64 := release.signature.property
  have hdecodedSignature : decodeCanonical u (u.formats.base64Encode release.signature.val) 64 =
      some release.signature.val :=
    decodeCanonical_encode hbase64 (List.ne_nil_of_length_pos (by omega)) (by omega)
  rw [← hstrict key release.manifest release.signature hverified]
  constructor
  · rintro ⟨verified, h⟩
    obtain ⟨verifyingKey, hpinned, hmanifestBytes, hsignatureBytes, hchecked⟩ := verifyDirective_ok h
    cases hkey.symm.trans hpinned
    have hbytes := Option.some.inj (hdecodedManifest.symm.trans hmanifestBytes)
    have hsignature : release.signature = verified.signatureBytes :=
      Subtype.ext (Option.some.inj (hdecodedSignature.symm.trans hsignatureBytes))
    rw [hbytes, hsignature]
    exact hchecked
  · intro hchecked
    have htargetVersion : targetVersion = manifest.version := by
      rw [htext, ReleaseVersion.parse_text] at htarget
      exact (Option.some.inj htarget).symm
    have hsizeWord : UInt64.ofNat release.archiveSize = manifest.archiveSize := by
      rw [hsize, UInt64.ofNat_toNat]
    have hsignature : array 64 release.signature.val = some release.signature :=
      array_of_length hsignatureLength
    have hurlAgain : validateArchiveUrl u release.archiveUrl release.archiveName = some url := by
      rw [hstored, hname]
      exact validateArchiveUrl_text hurl hvalid hlength
    refine ⟨⟨manifest, release.manifest, release.signature, url⟩, ?_⟩
    have hsupported : supportedArchitecture agent.architecture = .ok report.architecture := by
      unfold supportedArchitecture
      rw [harchitecture, ← hsame.2, ← hotherArchitecture, harch]
      exact if_pos hmanifest.architecture
    refine bind_ok.mpr ⟨report.agentVersion, okOr_ok.mpr hversion, ?_⟩
    refine bind_ok.mpr ⟨report.architecture, hsupported, ?_⟩
    refine guard_ok.mpr ⟨?_, ?_⟩
    · rintro (hschema | hgeneration | hdecided | hchannel | hother | hother | hold | hexceeds |
        hinconsistent | hbounds | hdigits)
      · exact hschema rfl
      · have hzero := congrArg UInt64.toNat hgeneration
        have hword : (UInt64.ofNat row.generation).toNat = row.generation :=
          UInt64.toNat_ofNat_of_lt' (hbounded.trans (by decide))
        rw [hword] at hzero
        simp at hzero
        omega
      · rcases hgrants with heligible | hrequiredUpdate
        · exact hdecided.1 heligible
        · exact hdecided.2 hrequiredUpdate
      · exact hchannel rfl
      · exact hother hlinux
      · exact hother (hotherArchitecture.trans hsame.2)
      · exact hold hnewer
      · exact absurd (hminimum.symm.trans hexceeds) (by decide)
      · exact hinconsistent hrequired
      · rw [hsizeWord] at hbounds
        exact hbounds hmanifest.archiveSize
      · rw [hhash, hmanifest.archiveSha256] at hdigits
        simp at hdigits
    refine bind_ok.mpr ⟨release.manifest, okOr_ok.mpr hdecodedManifest, ?_⟩
    refine bind_ok.mpr ⟨release.signature.val, okOr_ok.mpr hdecodedSignature, ?_⟩
    refine bind_ok.mpr ⟨release.signature, okOr_ok.mpr hsignature, ?_⟩
    refine bind_ok.mpr ⟨manifest, mapError_ok.mpr hparsed, ?_⟩
    refine guard_ok.mpr ⟨?_, ?_⟩
    · simp [htargetVersion, harch, hname, hsizeWord, hhash]
    refine bind_ok.mpr ⟨url, okOr_ok.mpr hurlAgain, ?_⟩
    refine bind_ok.mpr ⟨key, okOr_ok.mpr hkey, ?_⟩
    exact guard_ok.mpr ⟨by simp [hchecked], rfl⟩

def sampleManifestCodes : List Nat := ["schema_version=1", "product=xs-nexus", "version=1.2.3",
  "platform=linux", "architecture=x86_64", "target=x86_64-unknown-linux-gnu",
  "archive=xs-nexus-1.2.3-x86_64-unknown-linux-gnu.tar.gz", "archive_size=12345",
  "archive_sha256=0123456789abcdef0123456789abcdef0123456789abcdef0123456789abcdef"].flatMap
    fun line => line.toList.map Char.toNat ++ [10]

def sampleManifest : Bytes := sampleManifestCodes.map UInt8.ofNat

def sampleArchive : String := "xs-nexus-1.2.3-x86_64-unknown-linux-gnu.tar.gz"

def sampleReleaseManifest : LinuxReleaseManifest where
  version := ⟨1, 2, 3⟩
  architecture := "x86_64"
  target := "x86_64-unknown-linux-gnu"
  archive := sampleArchive
  archiveSize := 12345
  archiveSha256 := "0123456789abcdef0123456789abcdef0123456789abcdef0123456789abcdef"

/-- A manifest in ASCII is read as the text that it is. -/
theorem parse_ascii {codes : List Nat} {manifest : LinuxReleaseManifest}
    (h : (codes.all (fun code => decide (code < 128)) &&
      decide (1 ≤ codes.length ∧ codes.length ≤ 4096) &&
      match LinuxReleaseManifest.parseText (codes.map Char.ofNat) with
      | .error _ => false
      | .ok parsed => decide (parsed = manifest)) = true) :
    codes.map UInt8.ofNat ≠ [] ∧ (codes.map UInt8.ofNat).length ≤ 4096 ∧
      LinuxReleaseManifest.parse (codes.map UInt8.ofNat) = .ok manifest := by
  rw [Bool.and_eq_true, Bool.and_eq_true, decide_eq_true_eq] at h
  obtain ⟨⟨hascii, hlength⟩, hparsed⟩ := h
  have hcodes : ∀ code ∈ codes, code < 128 :=
    fun code hcode => of_decide_eq_true (List.all_eq_true.mp hascii code hcode)
  have hbytes : utf8 (String.ofList (codes.map Char.ofNat)) = codes.map UInt8.ofNat :=
    Base64.utf8_ofList_ascii hcodes
  have hmanifestLength : (codes.map UInt8.ofNat).length = codes.length := List.length_map _
  have hne : codes.map UInt8.ofNat ≠ [] := List.ne_nil_of_length_pos (by omega)
  refine ⟨hne, by omega, guard_ok.mpr ⟨?_, ?_⟩⟩
  · rintro (hnil | hlong)
    · exact hne hnil
    · omega
  rw [← hbytes, fromUTF8_utf8]
  dsimp only
  rw [String.toList_ofList]
  split at hparsed
  next => simp at hparsed
  next parsed hmanifest =>
    rw [hmanifest, of_decide_eq_true hparsed]

theorem sampleManifest_parse : sampleManifest ≠ [] ∧ sampleManifest.length ≤ 4096 ∧
    LinuxReleaseManifest.parse sampleManifest = .ok sampleReleaseManifest :=
  parse_ascii (by decide +kernel)

/-- The key of the releases, and two signatures of the manifest: the one that the key gives, and one with
the identity in the place of its random point. -/
def sampleReleaseKey : VerifyingKey := ⟨⟨[
  33, 82, 248, 209, 155, 121, 29, 36, 69, 50, 66, 225, 95, 46, 171, 108, 183, 207, 250, 123, 106,
  94, 211, 0, 151, 150, 14, 6, 152, 129, 219, 18], by decide⟩⟩

def sampleReleaseSignature : Bool → Block 64
  | true => ⟨[
    4, 228, 188, 87, 134, 106, 209, 211, 106, 111, 37, 92, 7, 223, 220, 211, 53, 236, 73, 77,
    221, 128, 189, 77, 234, 143, 54, 194, 79, 225, 208, 41, 213, 16, 70, 116, 87, 189, 229, 72,
    155, 100, 130, 162, 197, 68, 213, 212, 19, 139, 237, 189, 166, 230, 254, 244, 213, 255, 62,
    8, 167, 36, 198, 11], by decide⟩
  | false => ⟨[
    1, 0, 0, 0, 0, 0, 0, 0, 0, 0, 0, 0, 0, 0, 0, 0, 0, 0, 0, 0, 0, 0, 0, 0, 0, 0, 0, 0, 0, 0, 0,
    0, 65, 11, 151, 224, 115, 137, 173, 245, 254, 175, 49, 43, 251, 78, 25, 138, 85, 249, 221,
    135, 184, 99, 252, 228, 191, 227, 250, 135, 5, 100, 104, 4], by decide⟩

def Json.agentUpdateState : AgentUpdateState → Bytes
  | .idle => string "idle"
  | .downloading => string "downloading"
  | .staged => string "staged"
  | .applying => string "applying"
  | .failed => string "failed"

def Json.optional {α : Type} (text : α → Bytes) : Option α → Bytes
  | none => utf8 "null"
  | some value => text value

def Json.agentRuntimeReport (report : AgentRuntimeReport) : Bytes := object [
  member "schema_version" (digits report.schemaVersion.toNat),
  member "network_id" (uuid report.networkId),
  member "node_id_base64" (string report.nodeIdBase64),
  member "agent_version" (string report.agentVersion.text),
  member "platform" (string report.platform),
  member "architecture" (string report.architecture),
  member "update_channel" (updateChannel report.updateChannel),
  member "update_state" (agentUpdateState report.updateState),
  member "observed_release_id" (optional uuid report.observedReleaseId),
  member "last_error_code" (optional string report.lastErrorCode),
  member "generated_at" (dateTime report.generatedAt)]

def samplePoint : Bytes := 1 :: List.replicate 31 0

def sampleArchiveUrl : String := "https://updates.example/" ++ sampleArchive

def sampleUpdatePlatform : UpdatePlatform where
  crypto := { Crypto.transparent with
    verifyStrict := fun key message signature =>
      Crypto.transparent.verifyStrict key message signature ||
        decide (key = sampleReleaseKey ∧ message = sampleManifest ∧
          signature = sampleReleaseSignature true) }
  formats := standardFormats fun _ => none
  verify key message signature := decide (key = sampleReleaseKey ∧ message = sampleManifest ∧
    (signature = sampleReleaseSignature true ∨ signature = sampleReleaseSignature false))
  smallOrder point := decide (point = samplePoint)
  url value :=
    if value = sampleArchiveUrl then
      some ⟨sampleArchiveUrl, "https", some "updates.example", "", none, none, some [sampleArchive]⟩
    else none
  runtimeReportText report := some (Json.agentRuntimeReport report)

def sampleReleaseRow (strict : Bool) : ReleaseRow where
  id := fill 16 61
  version := "1.2.3"
  platform := "linux"
  architecture := "x86_64"
  target := "x86_64-unknown-linux-gnu"
  archiveName := sampleArchive
  archiveSize := 12345
  archiveSha256 := (List.replicate 4 [0x01, 0x23, 0x45, 0x67, 0x89, 0xab, 0xcd, 0xef]).flatten
  archiveUrl := sampleArchiveUrl
  manifest := sampleManifest
  manifestSha256 := sampleUpdatePlatform.crypto.sha256 sampleManifest
  signature := sampleReleaseSignature strict
  createdAt := seconds 1700000000

def sampleReleaseRequest (strict : Bool) : CreateUpdateReleaseRequest where
  manifestBase64 := Base64.urlEncode sampleManifest
  signatureBase64 := Base64.urlEncode (sampleReleaseSignature strict).val
  archiveUrl := sampleArchiveUrl

/-- The release is registered with either signature. -/
theorem sampleRelease_created (strict : Bool) : ∃ response,
    createRelease sampleUpdatePlatform (some sampleReleaseKey) ⟨[], [], []⟩
      (sampleReleaseRequest strict) (fill 16 61) (seconds 1700000000) =
        .ok (response, ⟨[sampleReleaseRow strict], [], []⟩) := by
  obtain ⟨hne, hlength, hparsed⟩ := sampleManifest_parse
  have hbase64 : ∀ data, sampleUpdatePlatform.formats.base64Decode
      (sampleUpdatePlatform.formats.base64Encode data) = some data := Base64.urlDecode_urlEncode
  have hsignatureLength : (sampleReleaseSignature strict).val.length = 64 :=
    (sampleReleaseSignature strict).property
  have hsmall : (decodeLowerHex sampleReleaseManifest.archiveSha256 =
      some (sampleReleaseRow strict).archiveSha256) ∧
      validateArchiveUrl sampleUpdatePlatform sampleArchiveUrl sampleArchive =
        sampleUpdatePlatform.url sampleArchiveUrl ∧
      releaseRowRefused [] (sampleReleaseRow strict) = false := by
    cases strict <;> decide +kernel
  obtain ⟨hhash, hurl, haccepted⟩ := hsmall
  refine ⟨releaseResponse (sampleReleaseRow strict), ?_⟩
  refine bind_ok.mpr ⟨sampleReleaseKey, rfl, ?_⟩
  refine bind_ok.mpr ⟨sampleManifest, okOr_ok.mpr (decodeCanonical_encode hbase64 hne hlength), ?_⟩
  refine bind_ok.mpr ⟨(sampleReleaseSignature strict).val,
    okOr_ok.mpr (decodeCanonical_encode hbase64 (List.ne_nil_of_length_pos (by omega)) (by omega)), ?_⟩
  refine bind_ok.mpr ⟨sampleReleaseSignature strict, okOr_ok.mpr (array_of_length hsignatureLength), ?_⟩
  refine guard_ok.mpr ⟨?_, ?_⟩
  · cases strict <;> simp [sampleUpdatePlatform]
  refine bind_ok.mpr ⟨sampleReleaseManifest, mapError_ok.mpr hparsed, ?_⟩
  refine bind_ok.mpr ⟨_, okOr_ok.mpr hurl, ?_⟩
  refine bind_ok.mpr ⟨_, okOr_ok.mpr hhash, ?_⟩
  refine guard_ok.mpr ⟨by decide, guard_ok.mpr ⟨?_, rfl⟩⟩
  exact (Bool.not_eq_true _).mpr haccepted

def sampleUpdateDatabase : Database := { Database.empty with
  networks := [⟨fill 16 21, "home", ⟨.new 100 88 0 0, 24, Ipv4Net.le_24⟩, 16, 2, 1⟩]
  nodes := [{
    id := fill 16 31
    networkId := fill 16 21
    nodeId := sampleNodeId
    identityPublicKey := sampleIdentityKey.seed
    virtualIp := .new 100 88 0 16
    roleBitmap := 1
    tags := []
    credential := zeros 200
    credentialSerial := 1
    credentialNotAfter := 1700003601
    updateChannel := .stable
    revokedAt := none }] }

def sampleRuntimeReport : AgentRuntimeReport where
  schemaVersion := 1
  networkId := fill 16 21
  nodeIdBase64 := Base64.urlEncode sampleNodeId.val
  agentVersion := ⟨1, 0, 0⟩
  platform := "linux"
  architecture := "x86_64"
  updateChannel := .stable
  updateState := .idle
  observedReleaseId := none
  lastErrorCode := none
  generatedAt := seconds 1700000010

def sampleAgent : AgentInstallation := ⟨"1.0.0", "x86_64", some sampleReleaseKey⟩

def samplePolicyTables (strict : Bool) : Except UpdateError (UpdatePolicyResponse × UpdateTables) :=
  replacePolicy sampleUpdateDatabase ⟨[sampleReleaseRow strict], [], []⟩ (fill 16 21) "stable" "linux"
    "x86_64" ⟨0, fill 16 61, none, 10000, false⟩ (seconds 1700000005)

def sampleReported (tables : UpdateTables) : Except UpdateError (Option UpdateDirective × UpdateTables) :=
  recordRuntimeReport sampleUpdatePlatform sampleUpdateDatabase tables sampleSession sampleRuntimeReport
    (sampleSignature (updateReportDomain ++ Json.agentRuntimeReport sampleRuntimeReport))
    (seconds 1700000010)

def sampleDirected (strict : Bool) : Bool :=
  match samplePolicyTables strict with
  | .error _ => false
  | .ok (_, tables) => decide (tables.releases = [sampleReleaseRow strict]) &&
    match sampleReported tables with
    | .ok (some _, _) => true
    | _ => false

/-- The node is directed to the release, whichever signature it has. -/
theorem sampleRelease_directed (strict : Bool) : ∃ tables tables' directive,
    ReachableUpdates sampleUpdatePlatform sampleReleaseKey tables ∧
      sampleReported tables = .ok (some directive, tables') ∧
      tables.releases = [sampleReleaseRow strict] := by
  have hdirected : sampleDirected strict = true := by
    cases strict <;> decide +kernel
  unfold sampleDirected at hdirected
  split at hdirected
  next => simp at hdirected
  next response tables hpolicy =>
    obtain ⟨hreleases, hreported⟩ := Bool.and_eq_true_iff.mp hdirected
    split at hreported
    next directive tables' hsession =>
      obtain ⟨_, hcreated⟩ := sampleRelease_created strict
      exact ⟨tables, tables', directive, .replacePolicy (.createRelease .initial hcreated) hpolicy,
        hsession, of_decide_eq_true hreleases⟩
    next => simp at hreported

theorem sampleSignature_checked : (∀ strict,
      sampleUpdatePlatform.crypto.verifyStrict sampleReleaseKey sampleManifest
        (sampleReleaseSignature strict) = strict ∧
      sampleUpdatePlatform.smallOrder ((sampleReleaseSignature strict).val.take 32) = !strict) ∧
    sampleUpdatePlatform.smallOrder sampleReleaseKey.bytes.val = false ∧
    (utf8 sampleArchiveUrl).length = sampleArchiveUrl.length ∧
    ReleaseVersion.parse sampleAgent.packageVersion = some sampleRuntimeReport.agentVersion := by
  decide +kernel

theorem update_directives_verified_sample :
    ∃ tables tables' directive verified,
      ReachableUpdates sampleUpdatePlatform sampleReleaseKey tables ∧
      sampleReported tables = .ok (some directive, tables') ∧
      verifyDirective sampleUpdatePlatform sampleAgent sampleRuntimeReport.updateChannel directive =
        .ok verified := by
  obtain ⟨hsignatures, hkey, hascii, hversion⟩ := sampleSignature_checked
  obtain ⟨tables, tables', directive, hreach, hsession, hreleases⟩ := sampleRelease_directed true
  have hurl : ∀ value url, sampleUpdatePlatform.url value = some url →
      sampleUpdatePlatform.url url.text = some url ∧ (utf8 url.text).length = url.text.length := by
    intro value url h
    obtain ⟨hvalue, hsome⟩ := Option.ite_none_right_eq_some.mp h
    rw [hvalue] at h
    cases hsome
    exact ⟨h, hascii⟩
  have hstrict : ∀ key message signature, sampleUpdatePlatform.verify key message signature = true →
      (sampleUpdatePlatform.crypto.verifyStrict key message signature = true ↔
        sampleUpdatePlatform.smallOrder key.bytes.val = false ∧
          sampleUpdatePlatform.smallOrder (signature.val.take 32) = false) := by
    intro key message signature h
    obtain ⟨rfl, rfl, hsignature⟩ := of_decide_eq_true h
    obtain ⟨strict, rfl⟩ : ∃ strict, signature = sampleReleaseSignature strict := by
      rcases hsignature with rfl | rfl
      · exact ⟨true, rfl⟩
      · exact ⟨false, rfl⟩
    obtain ⟨hchecked, hpoint⟩ := hsignatures strict
    rw [hchecked, hpoint, hkey]
    simp
  have hinstalled : sampleAgent.architecture = sampleRuntimeReport.architecture := rfl
  obtain ⟨release, hrelease, hverified⟩ := update_directives_verified_iff sampleUpdatePlatform
    Base64.urlDecode_urlEncode hurl hstrict hreach hsession hversion hinstalled rfl
  rw [hreleases] at hrelease
  obtain rfl := List.mem_singleton.mp (List.mem_of_find?_eq_some hrelease)
  obtain ⟨verified, hok⟩ := hverified.mpr ⟨hkey, (hsignatures true).2⟩
  exact ⟨tables, tables', directive, verified, hreach, hsession, hok⟩

/-- An Agent is directed to a release that it can never verify. -/
theorem unverifiable_update_directed :
    ¬∀ tables tables' directive,
      ReachableUpdates sampleUpdatePlatform sampleReleaseKey tables →
      sampleReported tables = .ok (some directive, tables') →
      ∃ verified, verifyDirective sampleUpdatePlatform sampleAgent sampleRuntimeReport.updateChannel
        directive = .ok verified := by
  intro hclaim
  obtain ⟨hsignatures, hkey, _⟩ := sampleSignature_checked
  obtain ⟨tables, tables', directive, hreach, hsession, hreleases⟩ := sampleRelease_directed false
  obtain ⟨verified, hok⟩ := hclaim tables tables' directive hreach hsession
  obtain ⟨⟨reports, rfl⟩, hdirective, _⟩ := recordRuntimeReport_ok hsession
  obtain ⟨row, _, release, _, _, _, _, hrelease, _, _, _, _, _, rfl⟩ :=
    directiveForReport_some hdirective
  have hmem : release ∈ tables.releases := List.mem_of_find?_eq_some hrelease
  rw [hreleases] at hmem
  obtain rfl := List.mem_singleton.mp hmem
  obtain ⟨verifyingKey, hpinned, hmanifestBytes, hsignatureBytes, hchecked⟩ := verifyDirective_ok hok
  cases hpinned
  obtain ⟨hne, hlength, _⟩ := sampleManifest_parse
  have hsignatureLength : (sampleReleaseSignature false).val.length = 64 :=
    (sampleReleaseSignature false).property
  have hbase64 : ∀ data, sampleUpdatePlatform.formats.base64Decode
      (sampleUpdatePlatform.formats.base64Encode data) = some data := Base64.urlDecode_urlEncode
  have hbytes := (decodeCanonical_encode hbase64 hne hlength).symm.trans hmanifestBytes
  have hsignature : some (sampleReleaseSignature false).val = some verified.signatureBytes.val :=
    (decodeCanonical_encode hbase64 (List.ne_nil_of_length_pos (by omega)) (by omega)).symm.trans
      hsignatureBytes
  rw [← Option.some.inj hbytes, ← Subtype.ext (Option.some.inj hsignature),
    (hsignatures false).1] at hchecked
  exact absurd hchecked (by decide)

end XsNexus
