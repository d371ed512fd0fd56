import XsNexus.UpdateRollout

namespace XsNexus

open ByteCodec Checks

inductive UpdateStagingError
  | directive | trust | download | archive | state
deriving DecidableEq

/-- What an Agent is built and installed with: `CARGO_PKG_VERSION`, `std::env::consts::ARCH` and the
key in its file of the pinned key. -/
structure AgentInstallation where
  packageVersion : String
  architecture : String
  updateSigningPublicKey : Option VerifyingKey

structure VerifiedDirective where
  manifest : LinuxReleaseManifest
  manifestBytes : Bytes
  signatureBytes : Block 64
  archiveUrl : Url
deriving DecidableEq

def supportedArchitecture (architecture : String) : Except UpdateStagingError String :=
  if architecture = "x86_64" ∨ architecture = "aarch64" then .ok architecture else .error .directive

def validLowerSha256 (value : String) : Bool :=
  decide (value.toList.length = 64) && value.toList.all isLowerHex

def verifyDirective (u : UpdatePlatform) (agent : AgentInstallation) (assignedChannel : UpdateChannel)
    (directive : UpdateDirective) : Except UpdateStagingError VerifiedDirective := do
  let currentVersion ← okOr .state (ReleaseVersion.parse agent.packageVersion)
  let architecture ← supportedArchitecture agent.architecture
  let requiredIsConsistent := directive.minimumVersion.any fun minimum => currentVersion < minimum
  if directive.schemaVersion ≠ 1 ∨ directive.policyGeneration = 0 ∨
      (directive.decision ≠ .eligible ∧ directive.decision ≠ .required) ∨
      directive.channel ≠ assignedChannel ∨ directive.platform ≠ "linux" ∨
      directive.architecture ≠ architecture ∨ ¬currentVersion < directive.version ∨
      directive.minimumVersion.any (fun minimum => directive.version < minimum) ∨
      decide (directive.decision = .required) ≠ requiredIsConsistent ∨
      ¬(1 ≤ directive.archiveSize.toNat ∧ directive.archiveSize.toNat ≤ maxUpdateArchiveBytes) ∨
      !validLowerSha256 directive.archiveSha256 then
    .error .directive
  else do
    let manifestBytes ← okOr .directive (decodeCanonical u directive.manifestBase64 4096)
    let signatureBytes ← okOr .directive (decodeCanonical u directive.signatureBase64 64)
    let signature ← okOr .directive (array 64 signatureBytes)
    let manifest ←
      (LinuxReleaseManifest.parse manifestBytes).mapError fun _ => UpdateStagingError.directive
    if manifest.version ≠ directive.version ∨ manifest.architecture ≠ directive.architecture ∨
        manifest.archive ≠ directive.archiveName ∨ manifest.archiveSize ≠ directive.archiveSize ∨
        manifest.archiveSha256 ≠ directive.archiveSha256 then
      .error .directive
    else do
      let archiveUrl ← okOr .directive (validateArchiveUrl u directive.archiveUrl directive.archiveName)
      let verifyingKey ← okOr .trust agent.updateSigningPublicKey
      if !u.crypto.verifyStrict verifyingKey manifestBytes signature then .error .trust
      else .ok ⟨manifest, manifestBytes, signature, archiveUrl⟩

section Texts

theorem toList_decimalText (n : Nat) : (decimalText n).toList = Nat.toDigits 10 n := by
  unfold decimalText
  rw [Nat.toString_eq_ofList_toDigits, String.toList_ofList]

theorem isDigit_of_mem_decimalText {n : Nat} {c : Char} (h : c ∈ (decimalText n).toList) :
    c.isDigit = true := by
  rw [toList_decimalText] at h
  exact Nat.isDigit_of_mem_toDigits (by omega) (by omega) h

/-- No number is written with a zero in front. -/
theorem head_toDigits {n : Nat} (h : (Nat.toDigits 10 n).head? = some '0') :
    (Nat.toDigits 10 n).length = 1 := by
  induction n using Nat.strong_induction_on with
  | _ n ih =>
    by_cases hsmall : n < 10
    · rw [Nat.toDigits_of_lt_base hsmall]
      rfl
    · have hbase : 10 ≤ n := by omega
      rw [Nat.toDigits_of_base_le (by omega) hbase] at h
      have hne : Nat.toDigits 10 (n / 10) ≠ [] := Nat.toDigits_ne_nil
      rw [List.head?_append_of_ne_nil _ hne] at h
      have hlength := ih (n / 10) (by omega) h
      by_cases hrest : n / 10 < 10
      · rw [Nat.toDigits_of_lt_base hrest] at h
        have hzero : n / 10 = 0 := by
          have hpositive : 0 < n / 10 := by omega
          interval_cases n / 10 <;> simp_all [Nat.digitChar]
        omega
      · rw [Nat.toDigits_of_base_le (by omega) (by omega), List.length_append] at hlength
        have hpositive : 0 < (Nat.toDigits 10 (n / 10 / 10)).length :=
          List.length_pos_of_ne_nil Nat.toDigits_ne_nil
        simp at hlength

theorem parseVersionComponent_decimalText (n : UInt32) :
    ReleaseVersion.parseVersionComponent (decimalText n.toNat).toList = some n := by
  have hdigits : (decimalText n.toNat).toList.all Char.isDigit = true :=
    List.all_eq_true.mpr fun c hc => isDigit_of_mem_decimalText hc
  have hguard : ¬((decimalText n.toNat).toList = [] ∨
      ((decimalText n.toNat).toList.length > 1 ∧ (decimalText n.toNat).toList.head? = some '0') ∨
      !(decimalText n.toNat).toList.all Char.isDigit) := by
    rw [hdigits, toList_decimalText]
    rintro (hnil | ⟨hlong, hzero⟩ | hnone)
    · exact Nat.toDigits_ne_nil hnil
    · have hone := head_toDigits hzero
      omega
    · simp at hnone
  unfold ReleaseVersion.parseVersionComponent
  rw [if_neg hguard]
  unfold ReleaseVersion.parseDigits
  rw [toList_decimalText, Nat.ofDigitChars_toDigits (by omega) (by omega)]
  have hlt : n.toNat < 2 ^ 32 := n.toNat_lt
  rw [if_pos hlt, Option.map_some, UInt32.ofNat_toNat]

/-- A version is read back from the text it is stored as. -/
theorem ReleaseVersion.parse_text (version : ReleaseVersion) : parse version.text = some version := by
  have hdot : ∀ n : UInt32, '.' ∉ (decimalText n.toNat).toList := by
    intro n hmem
    have hdigit := isDigit_of_mem_decimalText hmem
    simp [Char.isDigit] at hdigit
  have htext : version.text.toList = (decimalText version.major.toNat).toList ++ '.' ::
      ((decimalText version.minor.toNat).toList ++ '.' :: (decimalText version.patch.toNat).toList) := by
    unfold text
    simp [String.toList_append]
  have hguard : ¬(version.text.toList = [] ∨
      version.text.toList.any (fun c => !c.isDigit && decide (c ≠ '.')) = true) := by
    rintro (hnil | hany)
    · rw [htext] at hnil
      simp at hnil
    · obtain ⟨c, hc, hother⟩ := List.any_eq_true.mp hany
      rw [htext] at hc
      simp only [List.mem_append, List.mem_cons] at hc
      simp only [Bool.and_eq_true, Bool.not_eq_true', decide_eq_true_eq] at hother
      obtain ⟨hdigit, hne⟩ := hother
      rcases hc with hc | hc | hc | hc | hc
      · simp [isDigit_of_mem_decimalText hc] at hdigit
      · exact hne hc
      · simp [isDigit_of_mem_decimalText hc] at hdigit
      · exact hne hc
      · simp [isDigit_of_mem_decimalText hc] at hdigit
  unfold parse
  rw [if_neg hguard, htext, List.splitOn_append_cons_self_of_not_mem (hdot _),
    List.splitOn_append_cons_self_of_not_mem (hdot _), List.splitOn_eq_singleton (hdot _)]
  simp [parseVersionComponent_decimalText]

theorem parseMinimumVersion_text (minimum : Option ReleaseVersion) :
    parseMinimumVersion (minimum.map ReleaseVersion.text) = some minimum := by
  cases minimum with
  | none => rfl
  | some version => simp [parseMinimumVersion, ReleaseVersion.parse_text]

theorem hexDigit_of_hexNibble {c : Char} {n : Nat} (h : hexNibble c = some n) :
    n < 16 ∧ hexDigit n = c := by
  unfold hexNibble at h
  split at h
  next hdigit =>
    cases h
    simp only [Char.isDigit, Bool.and_eq_true, decide_eq_true_eq] at hdigit
    have hlow : 48 ≤ c.toNat := hdigit.1
    have hhigh : c.toNat ≤ 57 := hdigit.2
    have hc : Char.ofNat c.toNat = c := Char.ofNat_toNat c
    show c.toNat - 48 < 16 ∧ hexDigit (c.toNat - 48) = c
    generalize c.toNat = code at hlow hhigh hc ⊢
    subst hc
    interval_cases code <;> exact ⟨by omega, rfl⟩
  next =>
    split at h
    next hletter =>
      cases h
      have hlow : 97 ≤ c.toNat := hletter.1
      have hhigh : c.toNat ≤ 102 := hletter.2
      have hc : Char.ofNat c.toNat = c := Char.ofNat_toNat c
      show c.toNat - 97 + 10 < 16 ∧ hexDigit (c.toNat - 97 + 10) = c
      generalize c.toNat = code at hlow hhigh hc ⊢
      subst hc
      interval_cases code <;> exact ⟨by omega, rfl⟩
    next => simp at h

/-- The digits of a hash are stored as bytes and written again as the digits they were. -/
theorem hex_decodeHexPairs {digits : List Char} {bytes : Bytes}
    (h : decodeHexPairs digits = some bytes) :
    (bytes.flatMap fun b => [hexDigit (b.toNat / 16), hexDigit (b.toNat % 16)]) = digits := by
  induction digits using decodeHexPairs.induct generalizing bytes with
  | case1 high low rest ih =>
    obtain ⟨first, hfirst, h⟩ := Option.bind_eq_some_iff.mp h
    obtain ⟨second, hsecond, h⟩ := Option.bind_eq_some_iff.mp h
    obtain ⟨tail, htail, h⟩ := Option.bind_eq_some_iff.mp h
    cases h
    obtain ⟨hfirstLt, hhigh⟩ := hexDigit_of_hexNibble hfirst
    obtain ⟨hsecondLt, hlow⟩ := hexDigit_of_hexNibble hsecond
    have hbyte : (UInt8.ofNat (16 * first + second)).toNat = 16 * first + second := by
      rw [UInt8.toNat_ofNat']
      omega
    have hdiv : (16 * first + second) / 16 = first := by omega
    have hmod : (16 * first + second) % 16 = second := by omega
    rw [List.flatMap_cons, hbyte, hdiv, hmod, hhigh, hlow, ih htail]
    rfl
  | case2 =>
    cases h
    rfl
  | case3 c => simp [decodeHexPairs] at h

theorem hex_decodeLowerHex {value : String} {bytes : Bytes} (h : decodeLowerHex value = some bytes) :
    hex bytes = value := by
  unfold decodeLowerHex at h
  split at h
  next => simp at h
  next =>
    unfold hex
    rw [hex_decodeHexPairs h, String.ofList_toList]

end Texts

/-- What every manifest has that is parsed. -/
structure ManifestSound (manifest : LinuxReleaseManifest) : Prop where
  architecture : manifest.architecture = "x86_64" ∨ manifest.architecture = "aarch64"
  archiveSize : 1 ≤ manifest.archiveSize.toNat ∧ manifest.archiveSize.toNat ≤ maxUpdateArchiveBytes
  archiveSha256 : validLowerSha256 manifest.archiveSha256 = true

theorem parseFields_sound {fields : List (List Char)} {manifest : LinuxReleaseManifest}
    (h : LinuxReleaseManifest.parseFields fields = .ok manifest) :
    ManifestSound manifest ∧ ∃ rest, manifest.archive = String.ofList ("xs-nexus-".toList ++ rest) := by
  unfold LinuxReleaseManifest.parseFields at h
  split at h
  next =>
    obtain ⟨_, _, h⟩ := bind_ok.mp h
    obtain ⟨_, _, h⟩ := bind_ok.mp h
    obtain ⟨versionText, _, h⟩ := bind_ok.mp h
    split at h
    next => simp at h
    next version _ =>
      obtain ⟨_, _, h⟩ := bind_ok.mp h
      obtain ⟨architecture, _, h⟩ := bind_ok.mp h
      obtain ⟨harchitecture, h⟩ := guard_ok.mp h
      obtain ⟨target, _, h⟩ := bind_ok.mp h
      obtain ⟨_, h⟩ := guard_ok.mp h
      obtain ⟨archive, _, h⟩ := bind_ok.mp h
      obtain ⟨hname, h⟩ := guard_ok.mp h
      obtain ⟨archiveSizeText, _, h⟩ := bind_ok.mp h
      obtain ⟨_, h⟩ := guard_ok.mp h
      split at h
      next => simp at h
      next archiveSize hsize =>
        obtain ⟨archiveSha256, _, h⟩ := bind_ok.mp h
        obtain ⟨hhash, h⟩ := guard_ok.mp h
        cases h
        obtain ⟨_, hbounds⟩ := Option.filter_eq_some_iff.mp hsize
        have hrange : 1 ≤ archiveSize ∧ archiveSize ≤ maxUpdateArchiveBytes := of_decide_eq_true hbounds
        have hmax : maxUpdateArchiveBytes < 2 ^ 64 := by
          unfold maxUpdateArchiveBytes
          omega
        have hword : (UInt64.ofNat archiveSize).toNat = archiveSize :=
          UInt64.toNat_ofNat_of_lt' (by
            show archiveSize < 2 ^ 64
            omega)
        rw [not_not] at hname
        refine ⟨⟨?_, ?_, ?_⟩, version.text.toList ++ "-".toList ++ target ++ ".tar.gz".toList, ?_⟩
        · by_cases hx86 : architecture = "x86_64".toList
          · exact Or.inl (by rw [hx86, String.ofList_toList])
          · have harm : architecture = "aarch64".toList := by
              by_contra hother
              exact harchitecture ⟨hx86, hother⟩
            exact Or.inr (by rw [harm, String.ofList_toList])
        · show 1 ≤ (UInt64.ofNat archiveSize).toNat ∧ (UInt64.ofNat archiveSize).toNat ≤ _
          rw [hword]
          exact hrange
        · unfold validLowerSha256
          dsimp only
          rw [String.toList_ofList]
          simpa [not_or] using hhash
        · rw [hname]
          simp only [List.append_assoc]
  next => simp at h

theorem parse_fields {encoded : Bytes} {manifest : LinuxReleaseManifest}
    (h : LinuxReleaseManifest.parse encoded = .ok manifest) :
    encoded ≠ [] ∧ encoded.length ≤ 4096 ∧
      ∃ fields, LinuxReleaseManifest.parseFields fields = .ok manifest := by
  obtain ⟨hsize, h⟩ := guard_ok.mp h
  split at h
  next => simp at h
  next text _ =>
    obtain ⟨_, h⟩ := guard_ok.mp h
    rw [not_or] at hsize
    exact ⟨hsize.1, by omega, _, h⟩

theorem parse_sound {encoded : Bytes} {manifest : LinuxReleaseManifest}
    (h : LinuxReleaseManifest.parse encoded = .ok manifest) :
    encoded ≠ [] ∧ encoded.length ≤ 4096 ∧ ManifestSound manifest := by
  obtain ⟨hne, hlength, fields, hfields⟩ := parse_fields h
  exact ⟨hne, hlength, (parseFields_sound hfields).1⟩

/-- The name of the archive is none of the names of the other files that are staged. -/
theorem parse_archive {encoded : Bytes} {manifest : LinuxReleaseManifest}
    (h : LinuxReleaseManifest.parse encoded = .ok manifest) :
    manifest.archive.toList.head? = some 'x' := by
  obtain ⟨_, _, fields, hfields⟩ := parse_fields h
  obtain ⟨_, rest, hname⟩ := parseFields_sound hfields
  rw [hname, String.toList_ofList]
  rfl

variable {u : UpdatePlatform}

/-- A release as it is registered. -/
def Registered (u : UpdatePlatform) (updateSigningPublicKey : VerifyingKey) (row : ReleaseRow) : Prop :=
  ∃ manifest url value, LinuxReleaseManifest.parse row.manifest = .ok manifest ∧
    u.verify updateSigningPublicKey row.manifest row.signature = true ∧
    row.version = manifest.version.text ∧ row.platform = "linux" ∧
    row.architecture = manifest.architecture ∧ row.archiveName = manifest.archive ∧
    row.archiveSize = manifest.archiveSize.toNat ∧ hex row.archiveSha256 = manifest.archiveSha256 ∧
    validateArchiveUrl u value manifest.archive = some url ∧ row.archiveUrl = url.text ∧
    url.text.length ≤ 2048

/-- A policy is for the platform of its release. -/
def Assigned (releases : List ReleaseRow) (row : UpdatePolicyRow) : Prop :=
  (1 ≤ row.generation ∧ row.generation < bigintLimit) ∧
    ∃ release, releases.find? (fun release => release.id = row.releaseId) = some release ∧
      release.platform = row.platform ∧ release.architecture = row.architecture

structure UpdatesSound (u : UpdatePlatform) (updateSigningPublicKey : VerifyingKey)
    (tables : UpdateTables) : Prop where
  releases : ∀ row ∈ tables.releases, Registered u updateSigningPublicKey row
  policies : ∀ row ∈ tables.policies, Assigned tables.releases row

theorem createRelease_sound {key : VerifyingKey} {tables tables' : UpdateTables}
    {request : CreateUpdateReleaseRequest} {id : Uuid} {now : Int} {response : UpdateReleaseResponse}
    (hi : UpdatesSound u key tables)
    (h : createRelease u (some key) tables request id now = .ok (response, tables')) :
    UpdatesSound u key tables' := by
  obtain ⟨verifyingKey, hkey, h⟩ := bind_ok.mp h
  cases okOr_ok.mp hkey
  obtain ⟨manifestBytes, _, h⟩ := bind_ok.mp h
  obtain ⟨signatureBytes, _, h⟩ := bind_ok.mp h
  obtain ⟨signature, _, h⟩ := bind_ok.mp h
  obtain ⟨hverified, h⟩ := guard_ok.mp h
  obtain ⟨manifest, hparsed, h⟩ := bind_ok.mp h
  obtain ⟨url, hurl, h⟩ := bind_ok.mp h
  obtain ⟨archiveHash, hhash, h⟩ := bind_ok.mp h
  obtain ⟨_, h⟩ := guard_ok.mp h
  obtain ⟨haccepted, h⟩ := guard_ok.mp h
  cases h
  refine ⟨fun row hrow => ?_, fun row hrow => ?_⟩
  · rcases List.mem_append.mp hrow with hrow | hrow
    · exact hi.releases row hrow
    · cases List.mem_singleton.mp hrow
      have hlength : url.text.length ≤ 2048 := by
        by_contra hlong
        exact haccepted (by simp [releaseRowRefused, hlong])
      exact ⟨manifest, url, request.archiveUrl, mapError_ok.mp hparsed, by simpa using hverified, rfl,
        rfl, rfl, rfl, rfl, hex_decodeLowerHex (okOr_ok.mp hhash), okOr_ok.mp hurl, rfl, hlength⟩
  · obtain ⟨hgeneration, release, hfound, hsame⟩ := hi.policies row hrow
    refine ⟨hgeneration, release, ?_, hsame⟩
    rw [List.find?_append, hfound]
    rfl

theorem persistPolicy_mem {rows : List UpdatePolicyRow} {row stored : UpdatePolicyRow}
    (h : stored ∈ persistPolicy rows row) : stored = row ∨ stored ∈ rows := by
  unfold persistPolicy at h
  dsimp only at h
  split at h
  next =>
    obtain ⟨before, hbefore, rfl⟩ := List.mem_map.mp h
    split
    next => exact Or.inl rfl
    next => exact Or.inr hbefore
  next =>
    rcases List.mem_append.mp h with hstored | hnew
    · exact Or.inr hstored
    · exact Or.inl (List.mem_singleton.mp hnew)

theorem replacePolicy_sound {key : VerifyingKey} {db : Database} {tables tables' : UpdateTables}
    {networkId : Uuid} {channel platform architecture : String} {request : ReplaceUpdatePolicyRequest}
    {now : Int} {response : UpdatePolicyResponse} (hi : UpdatesSound u key tables)
    (h : replacePolicy db tables networkId channel platform architecture request now =
      .ok (response, tables')) : UpdatesSound u key tables' := by
  obtain ⟨parsed, _, h⟩ := bind_ok.mp h
  obtain ⟨_, h⟩ := guard_ok.mp h
  obtain ⟨minimumVersion, _, h⟩ := bind_ok.mp h
  obtain ⟨network, _, h⟩ := bind_ok.mp h
  obtain ⟨release, hrelease, h⟩ := bind_ok.mp h
  obtain ⟨hsame, h⟩ := guard_ok.mp h
  obtain ⟨targetVersion, _, h⟩ := bind_ok.mp h
  obtain ⟨_, _, h⟩ := bind_ok.mp h
  obtain ⟨_, h⟩ := guard_ok.mp h
  obtain ⟨_, h⟩ := guard_ok.mp h
  obtain ⟨hbounded, h⟩ := guard_ok.mp h
  cases h
  refine ⟨hi.releases, fun row hrow => ?_⟩
  rcases persistPolicy_mem hrow with rfl | hrow
  · rw [not_or, not_ne_iff, not_ne_iff] at hsame
    refine ⟨⟨by dsimp only; omega, by dsimp only; omega⟩, release, okOr_ok.mp hrelease, hsame.1, hsame.2⟩
  · exact hi.policies row hrow

theorem recordRuntimeReport_ok {db : Database} {tables tables' : UpdateTables}
    {authenticated : AuthenticatedNode} {report : AgentRuntimeReport} {signatureBase64 : String}
    {utcNow : Int} {directive : Option UpdateDirective}
    (h : recordRuntimeReport u db tables authenticated report signatureBase64 utcNow =
      .ok (directive, tables')) :
    (∃ reports, tables' = { tables with reports := reports }) ∧
      directiveForReport u tables' authenticated report = .ok directive ∧
      validPlatformArchitecture report.platform report.architecture = true := by
  obtain ⟨assignedChannel, _, h⟩ := bind_ok.mp h
  obtain ⟨_, hvalid, h⟩ := bind_ok.mp h
  obtain ⟨signatureBytes, _, h⟩ := bind_ok.mp h
  obtain ⟨signature, _, h⟩ := bind_ok.mp h
  obtain ⟨verifyingKey, _, h⟩ := bind_ok.mp h
  obtain ⟨signingInput, _, h⟩ := bind_ok.mp h
  obtain ⟨_, h⟩ := guard_ok.mp h
  obtain ⟨persisted, hpersisted, h⟩ := bind_ok.mp h
  obtain ⟨answer, hanswer, h⟩ := bind_ok.mp h
  cases h
  obtain ⟨hguard, _⟩ := guard_ok.mp hvalid
  refine ⟨?_, hanswer, ?_⟩
  · obtain ⟨_, hpersisted⟩ := guard_ok.mp hpersisted
    split at hpersisted
    next =>
      cases hpersisted
      exact ⟨_, rfl⟩
    next =>
      split at hpersisted
      next =>
        cases hpersisted
        exact ⟨_, rfl⟩
      next => simp at hpersisted
  · by_contra hplatform
    exact hguard (by simp [hplatform])

theorem updatesSound {key : VerifyingKey} {tables : UpdateTables}
    (h : ReachableUpdates u key tables) : UpdatesSound u key tables := by
  induction h with
  | initial => exact ⟨fun _ hrow => absurd hrow List.not_mem_nil,
      fun _ hrow => absurd hrow List.not_mem_nil⟩
  | createRelease _ hs ih => exact createRelease_sound ih hs
  | replacePolicy _ hs ih => exact replacePolicy_sound ih hs
  | recordRuntimeReport _ hs ih =>
    obtain ⟨⟨reports, rfl⟩, _, _⟩ := recordRuntimeReport_ok hs
    exact ⟨ih.releases, ih.policies⟩

theorem decide_grants {c : Crypto} {policy : UpdateRolloutPolicy} {networkId nodeId : Block 16}
    {channel : UpdateChannel} {current : ReleaseVersion} {decision : UpdateDecision}
    (h : policy.decide c networkId nodeId channel current = .ok decision)
    (hgrants : ¬(decision ≠ .eligible ∧ decision ≠ .required)) :
    current < policy.targetVersion ∧
      (policy.minimumVersion.any fun minimum => policy.targetVersion < minimum) = false ∧
      decide (decision = .required) = policy.minimumVersion.any fun minimum => current < minimum := by
  obtain ⟨_, hvalid, h⟩ := bind_ok.mp h
  obtain ⟨_, hvalid⟩ := guard_ok.mp hvalid
  obtain ⟨_, hvalid⟩ := guard_ok.mp hvalid
  obtain ⟨hminimum, _⟩ := guard_ok.mp hvalid
  split at h
  next =>
    cases h
    simp at hgrants
  next =>
    split at h
    next =>
      cases h
      simp at hgrants
    next =>
      split at h
      next =>
        cases h
        simp at hgrants
      next hnewer =>
        refine ⟨not_not.mp hnewer, by simpa using hminimum, ?_⟩
        split at h
        next hrequired =>
          cases h
          rw [hrequired]
          rfl
        next hfree =>
          rw [Bool.not_eq_true] at hfree
          rw [hfree]
          split at h
          next =>
            cases h
            rfl
          next =>
            cases h
            simp at hgrants

/-- A directive is for the release of the policy of the report. -/
theorem directiveForReport_some {tables : UpdateTables} {authenticated : AuthenticatedNode}
    {report : AgentRuntimeReport} {directive : UpdateDirective}
    (h : directiveForReport u tables authenticated report = .ok (some directive)) :
    ∃ row ∈ tables.policies, ∃ release targetVersion minimumVersion decision,
      (row.platform = report.platform ∧ row.architecture = report.architecture) ∧
      tables.releases.find? (fun release => release.id = row.releaseId) = some release ∧
      ReleaseVersion.parse release.version = some targetVersion ∧
      (decision = .eligible ∨ decision = .required) ∧
      report.agentVersion < targetVersion ∧
      (minimumVersion.any fun minimum => targetVersion < minimum) = false ∧
      decide (decision = .required) = (minimumVersion.any fun minimum => report.agentVersion < minimum) ∧
      directive = {
        schemaVersion := 1
        policyGeneration := UInt64.ofNat row.generation
        releaseId := row.releaseId
        decision := decision
        channel := report.updateChannel
        version := targetVersion
        minimumVersion := minimumVersion
        platform := release.platform
        architecture := release.architecture
        archiveName := release.archiveName
        archiveSize := UInt64.ofNat release.archiveSize
        archiveSha256 := hex release.archiveSha256
        archiveUrl := release.archiveUrl
        manifestBase64 := u.formats.base64Encode release.manifest
        signatureBase64 := u.formats.base64Encode release.signature.val } := by
  unfold directiveForReport at h
  split at h
  next => simp at h
  next row hrow =>
    split at h
    next => simp at h
    next release hrelease =>
      obtain ⟨targetVersion, htarget, h⟩ := bind_ok.mp h
      obtain ⟨minimumVersion, _, h⟩ := bind_ok.mp h
      obtain ⟨_, h⟩ := guard_ok.mp h
      obtain ⟨decision, hdecision, h⟩ := bind_ok.mp h
      obtain ⟨hgrants, h⟩ : ¬(decision ≠ .eligible ∧ decision ≠ .required) ∧ _ := by
        split at h
        next => simp at h
        next hgrants => exact ⟨hgrants, h⟩
      cases h
      have hkeyed : samePolicy authenticated.networkId report.updateChannel report.platform
          report.architecture row = true := List.find?_some hrow
      obtain ⟨hnewer, hminimum, hrequired⟩ := decide_grants (mapError_ok.mp hdecision) hgrants
      refine ⟨row, List.mem_of_find?_eq_some hrow, release, targetVersion, minimumVersion, decision,
        (of_decide_eq_true hkeyed).2.2, hrelease, okOr_ok.mp htarget, ?_, hnewer, hminimum, hrequired,
        rfl⟩
      by_cases heligible : decision = .eligible
      · exact Or.inl heligible
      · exact Or.inr (not_not.mp fun hother => hgrants ⟨heligible, hother⟩)

/-- What an Agent takes agrees with its manifest. -/
theorem verifyDirective_manifest {agent : AgentInstallation} {channel : UpdateChannel}
    {directive : UpdateDirective} {verified : VerifiedDirective}
    (h : verifyDirective u agent channel directive = .ok verified) :
    LinuxReleaseManifest.parse verified.manifestBytes = .ok verified.manifest ∧
      verified.manifest.version = directive.version ∧
      verified.manifest.archive = directive.archiveName ∧
      verified.manifest.archiveSize = directive.archiveSize ∧
      verified.manifest.archiveSha256 = directive.archiveSha256 := by
  obtain ⟨_, _, h⟩ := bind_ok.mp h
  obtain ⟨_, _, h⟩ := bind_ok.mp h
  obtain ⟨_, h⟩ := guard_ok.mp h
  obtain ⟨manifestBytes, _, h⟩ := bind_ok.mp h
  obtain ⟨signatureBytes, _, h⟩ := bind_ok.mp h
  obtain ⟨signature, _, h⟩ := bind_ok.mp h
  obtain ⟨manifest, hmanifest, h⟩ := bind_ok.mp h
  obtain ⟨hsame, h⟩ := guard_ok.mp h
  obtain ⟨url, _, h⟩ := bind_ok.mp h
  obtain ⟨key, _, h⟩ := bind_ok.mp h
  obtain ⟨_, h⟩ := guard_ok.mp h
  cases h
  simp only [not_or, not_not] at hsame
  exact ⟨mapError_ok.mp hmanifest, hsame.1, hsame.2.2.1, hsame.2.2.2.1, hsame.2.2.2.2⟩

/-- What an Agent takes carries a signature that the strict check passes. -/
theorem verifyDirective_ok {agent : AgentInstallation} {channel : UpdateChannel}
    {directive : UpdateDirective} {verified : VerifiedDirective}
    (h : verifyDirective u agent channel directive = .ok verified) :
    ∃ key, agent.updateSigningPublicKey = some key ∧
      decodeCanonical u directive.manifestBase64 4096 = some verified.manifestBytes ∧
      decodeCanonical u directive.signatureBase64 64 = some verified.signatureBytes.val ∧
      u.crypto.verifyStrict key verified.manifestBytes verified.signatureBytes = true := by
  obtain ⟨_, _, h⟩ := bind_ok.mp h
  obtain ⟨_, _, h⟩ := bind_ok.mp h
  obtain ⟨_, h⟩ := guard_ok.mp h
  obtain ⟨manifestBytes, hmanifestBytes, h⟩ := bind_ok.mp h
  obtain ⟨signatureBytes, hsignatureBytes, h⟩ := bind_ok.mp h
  obtain ⟨signature, hblock, h⟩ := bind_ok.mp h
  obtain ⟨manifest, _, h⟩ := bind_ok.mp h
  obtain ⟨_, h⟩ := guard_ok.mp h
  obtain ⟨url, _, h⟩ := bind_ok.mp h
  obtain ⟨key, hkey, h⟩ := bind_ok.mp h
  obtain ⟨hchecked, h⟩ := guard_ok.mp h
  cases h
  have hval : signature.val = signatureBytes := array_eq_some (okOr_ok.mp hblock)
  refine ⟨key, okOr_ok.mp hkey, okOr_ok.mp hmanifestBytes, ?_, by simpa using hchecked⟩
  rw [hval]
  exact okOr_ok.mp hsignatureBytes

theorem decodeCanonical_encode
    (hbase64 : ∀ data, u.formats.base64Decode (u.formats.base64Encode data) = some data) {data : Bytes}
    {maximum : Nat} (hne : data ≠ []) (hlength : data.length ≤ maximum) :
    decodeCanonical u (u.formats.base64Encode data) maximum = some data := by
  unfold decodeCanonical
  rw [hbase64]
  have hguard : ¬(data = [] ∨ data.length > maximum ∨
      u.formats.base64Encode data ≠ u.formats.base64Encode data) := by
    rintro (hnil | hlong | hother)
    · exact hne hnil
    · omega
    · exact hother rfl
  exact if_neg hguard

/-- A URL that was accepted is accepted in the form it is stored in. -/
theorem validateArchiveUrl_text (hurl : ∀ value url, u.url value = some url →
      u.url url.text = some url ∧ (utf8 url.text).length = url.text.length) {value archiveName : String}
    {url : Url} (h : validateArchiveUrl u value archiveName = some url)
    (hlength : url.text.length ≤ 2048) : validateArchiveUrl u url.text archiveName = some url := by
  unfold validateArchiveUrl at h ⊢
  split at h
  next => simp at h
  next =>
    obtain ⟨parsed, hparsed, h⟩ := Option.bind_eq_some_iff.mp h
    obtain ⟨segments, hsegments, h⟩ := Option.bind_eq_some_iff.mp h
    obtain ⟨finalSegment, hfinal, h⟩ := Option.bind_eq_some_iff.mp h
    split at h
    next => simp at h
    next hchecked =>
      cases h
      obtain ⟨hagain, hascii⟩ := hurl value url hparsed
      rw [if_neg (by omega)]
      refine Option.bind_eq_some_iff.mpr ⟨url, hagain, Option.bind_eq_some_iff.mpr ⟨segments, hsegments,
        Option.bind_eq_some_iff.mpr ⟨finalSegment, hfinal, ?_⟩⟩⟩
      exact if_neg hchecked

end XsNexus
