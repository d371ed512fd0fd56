import XsNexus.UpdateStaging

namespace XsNexus

open ByteCodec Checks FiniteMap

section Names

theorem hexDigit_injective {m n : Nat} (hm : m < 16) (hn : n < 16) (h : hexDigit m = hexDigit n) :
    m = n := by
  have hdigits : ∀ m n : Fin 16, hexDigit m.val = hexDigit n.val → m = n := by decide
  exact congrArg Fin.val (hdigits ⟨m, hm⟩ ⟨n, hn⟩ h)

theorem hexDigits_injective {a b : Bytes}
    (h : (a.flatMap fun b => [hexDigit (b.toNat / 16), hexDigit (b.toNat % 16)]) =
      b.flatMap fun b => [hexDigit (b.toNat / 16), hexDigit (b.toNat % 16)]) : a = b := by
  induction a generalizing b with
  | nil =>
    cases b with
    | nil => rfl
    | cons y b => simp at h
  | cons x a ih =>
    cases b with
    | nil => simp at h
    | cons y b =>
      simp only [List.flatMap_cons, List.cons_append, List.nil_append, List.cons.injEq] at h
      have hx := x.toNat_lt
      have hy := y.toNat_lt
      have hhigh := hexDigit_injective (by omega) (by omega) h.1
      have hlow := hexDigit_injective (Nat.mod_lt _ (by omega)) (Nat.mod_lt _ (by omega)) h.2.1
      have hbyte : x = y := UInt8.toNat_inj.mp (by omega)
      rw [hbyte, ih h.2.2]

theorem hex_injective {a b : Bytes} (h : hex a = hex b) : a = b := by
  have hlist := congrArg String.toList h
  unfold hex at hlist
  rw [String.toList_ofList, String.toList_ofList] at hlist
  exact hexDigits_injective hlist

theorem length_hex (bytes : Bytes) : (hex bytes).toList.length = 2 * bytes.length := by
  unfold hex
  rw [String.toList_ofList]
  induction bytes with
  | nil => rfl
  | cons b bytes ih =>
    rw [List.flatMap_cons, List.length_append, ih]
    simp only [List.length_cons, List.length_nil]
    omega

theorem toList_temporaryName (releaseId attempt : Uuid) : (temporaryName releaseId attempt).toList =
    '.' :: ((hex releaseId.val).toList ++ '.' :: ((hex attempt.val).toList ++ ".tmp".toList)) := by
  unfold temporaryName
  simp [String.toList_append]

/-- The calls of `stage_update` have directories of their own. -/
theorem temporaryName_injective {releaseId releaseId' attempt attempt' : Uuid}
    (h : temporaryName releaseId attempt = temporaryName releaseId' attempt') : attempt = attempt' := by
  have hlist := congrArg String.toList h
  rw [toList_temporaryName, toList_temporaryName] at hlist
  have hrest := List.tail_eq_of_cons_eq hlist
  have hrelease : (hex releaseId.val).toList.length = (hex releaseId'.val).toList.length := by
    rw [length_hex, length_hex, releaseId.property, releaseId'.property]
  obtain ⟨_, hrest⟩ := List.append_inj hrest hrelease
  have hrest := List.tail_eq_of_cons_eq hrest
  have hattempt : (hex attempt.val).toList.length = (hex attempt'.val).toList.length := by
    rw [length_hex, length_hex, attempt.property, attempt'.property]
  obtain ⟨hsame, _⟩ := List.append_inj hrest hattempt
  exact Subtype.ext (hex_injective (String.toList_inj.mp hsame))

theorem temporaryName_ne_directoryName (releaseId attempt other : Uuid) :
    temporaryName releaseId attempt ≠ directoryName other := by
  intro h
  have hlength := congrArg (fun name => name.toList.length) h
  have hdirectory : (directoryName other).toList.length = 2 * other.val.length := length_hex _
  rw [toList_temporaryName, hdirectory, other.property] at hlength
  simp only [List.length_cons, List.length_append, length_hex, releaseId.property] at hlength
  omega

end Names

variable {p : StagePlatform}

/-- The files of a directory that were written with these contents. -/
def Holds (files : StageFiles) (contents : List (String × Bytes)) : Prop :=
  ∀ file ∈ contents, files.lookup file.1 = some (privateFile file.2)

def HoldsIn (root : StagingRoot) (name : String) (contents : List (String × Bytes)) : Prop :=
  ∃ files, root.lookup name = some (.directory files) ∧ Holds files contents

/-- What a directory holds that is staged for a directive. -/
structure StagedBy (p : StagePlatform) (directive : UpdateDirective) (verified : VerifiedDirective)
    (files : StageFiles) : Prop where
  manifest : files.lookup manifestFile = some (privateFile verified.manifestBytes)
  signature : files.lookup signatureFile = some (privateFile verified.signatureBytes.val)
  archive : ∃ archive, files.lookup directive.archiveName = some (privateFile archive) ∧
    archive.length = directive.archiveSize.toNat ∧
    hex (p.crypto.sha256 archive).val = directive.archiveSha256
  ready : ∃ text, files.lookup readyFile = some (privateFile text) ∧
    stateText p (stagedRequest directive) = some text

/-- The directory of a release, complete for an accepted directive. -/
def Complete (p : StagePlatform) (root : StagingRoot) (directive : UpdateDirective)
    (verified : VerifiedDirective) : Prop :=
  (∃ agent assignedChannel,
      verifyDirective p.toUpdatePlatform agent assignedChannel directive = .ok verified) ∧
    ∃ files, root.lookup (directoryName directive.releaseId) = some (.directory files) ∧
      StagedBy p directive verified files

def Accepted (p : StagePlatform) (attempt : StageAttempt) (verified : VerifiedDirective) : Prop :=
  verifyDirective p.toUpdatePlatform attempt.agent attempt.assignedChannel attempt.directive =
    .ok verified

/-- The directory that a request names was staged with it. -/
def Recorded (p : StagePlatform) (root : StagingRoot) (request : StagedUpdateRequest) : Prop :=
  ∃ directive verified, Complete p root directive verified ∧ stagedRequest directive = request

/-- `serde_json` reads back the requests that it writes. -/
def RequestsRoundTrip (p : StagePlatform) : Prop :=
  ∀ request bytes, p.requestText request = some bytes → p.requestParse bytes = some request

/-- What the steps before have left for a call. -/
def AttemptSound (p : StagePlatform) (root : StagingRoot) (id : Uuid) (attempt : StageAttempt) : Prop :=
  let temporary := temporaryName attempt.directive.releaseId id
  let signed (verified : VerifiedDirective) : List (String × Bytes) :=
    [(signatureFile, verified.signatureBytes.val), (manifestFile, verified.manifestBytes)]
  match attempt.phase with
  | .beginning | .returned _ | .crashed => True
  | .creating verified | .writingManifest verified | .reusing verified _ => Accepted p attempt verified
  | .writingSignature verified =>
    Accepted p attempt verified ∧ HoldsIn root temporary [(manifestFile, verified.manifestBytes)]
  | .requesting verified => Accepted p attempt verified ∧ HoldsIn root temporary (signed verified)
  | .receiving verified received =>
    Accepted p attempt verified ∧
      HoldsIn root temporary ((attempt.directive.archiveName, received) :: signed verified)
  | .writingReady verified =>
    Accepted p attempt verified ∧ ∃ archive,
      HoldsIn root temporary ((attempt.directive.archiveName, archive) :: signed verified) ∧
      archive.length = attempt.directive.archiveSize.toNat ∧
      hex (p.crypto.sha256 archive).val = attempt.directive.archiveSha256
  | .movingDirectory verified =>
    Accepted p attempt verified ∧ ∃ files, root.lookup temporary = some (.directory files) ∧
      StagedBy p attempt.directive verified files
  | .syncing | .publishing => Recorded p root (stagedRequest attempt.directive)

def FinalsSound (p : StagePlatform) (root : StagingRoot) : Prop :=
  ∀ releaseId entry, root.lookup (directoryName releaseId) = some entry →
    ∃ directive verified, Complete p root directive verified ∧
      directoryName directive.releaseId = directoryName releaseId

structure StagingSound (p : StagePlatform) (s : StagingState) : Prop where
  finals : FinalsSound p s.stagingRoot
  attempts : ∀ id attempt, s.attempts.lookup id = some attempt →
    AttemptSound p s.stagingRoot id attempt
  published : ∀ bytes, s.updateRequest = some bytes →
    ∃ request, stateText p request = some bytes ∧ Recorded p s.stagingRoot request

/-- What a step of a call changes: its own directory, and the name of its release when nothing has
that name, which it then gives to a complete directory. -/
def Advances (p : StagePlatform) (root root' : StagingRoot) (id : Uuid)
    (directive : UpdateDirective) : Prop :=
  ∀ name, name ≠ temporaryName directive.releaseId id →
    root'.lookup name = root.lookup name ∨
      (root.lookup name = none ∧ name = directoryName directive.releaseId ∧
        ∃ verified, Complete p root' directive verified)

section Steps

variable {root root' : StagingRoot} {id : Uuid} {attempt : StageAttempt} {name : String}
  {directive : UpdateDirective}

theorem leave_lookup {left : Option StagingEntry} {other : String} (h : other ≠ name) :
    (leave root name left).lookup other = root.lookup other := by
  cases left with
  | none => exact AList.lookup_erase_ne h
  | some entry => exact AList.lookup_insert_ne h

theorem advances_leave (left : Option StagingEntry) :
    Advances p root (leave root (temporaryName directive.releaseId id) left) id directive :=
  fun _ hne => Or.inl (leave_lookup hne)

theorem advances_refl : Advances p root root id directive := fun _ _ => Or.inl rfl

theorem inDirectory_ok {write : StageFiles → Except UpdateStagingError StageFiles}
    (h : inDirectory root name write = .ok root') :
    ∃ files files', root.lookup name = some (.directory files) ∧ write files = .ok files' ∧
      root' = root.insert name (.directory files') := by
  unfold inDirectory at h
  split at h
  next files hfiles =>
    obtain ⟨files', hwrite, h⟩ := bind_ok.mp h
    cases h
    exact ⟨files, files', hfiles, hwrite, rfl⟩
  next => simp at h

theorem advances_insert {entry : StagingEntry} :
    Advances p root (root.insert (temporaryName directive.releaseId id) entry) id directive :=
  fun _ hne => Or.inl (AList.lookup_insert_ne hne)

/-- A step that writes below the directory of its call. -/
theorem inDirectory_holds {write : StageFiles → Except UpdateStagingError StageFiles}
    {contents contents' : List (String × Bytes)}
    (h : inDirectory root (temporaryName directive.releaseId id) write = .ok root')
    (hholds : HoldsIn root (temporaryName directive.releaseId id) contents)
    (hwrite : ∀ files files', Holds files contents → write files = .ok files' → Holds files' contents') :
    Advances p root root' id directive ∧
      HoldsIn root' (temporaryName directive.releaseId id) contents' := by
  obtain ⟨files, files', hfiles, hwritten, rfl⟩ := inDirectory_ok h
  obtain ⟨found, hfound, hcontents⟩ := hholds
  rw [hfiles] at hfound
  cases hfound
  exact ⟨advances_insert, files', AList.lookup_insert _, hwrite files files' hcontents hwritten⟩

theorem createNewPrivate_holds {files files' : StageFiles} {contents : List (String × Bytes)}
    {bytes : Bytes} (hholds : Holds files contents)
    (h : createNewPrivate files name bytes = .ok files') : Holds files' ((name, bytes) :: contents) := by
  obtain ⟨habsent, h⟩ := guard_ok.mp h
  cases h
  intro file hfile
  rcases List.mem_cons.mp hfile with rfl | hfile
  · exact AList.lookup_insert _
  · have hpresent := hholds file hfile
    have hne : file.1 ≠ name := by
      rintro rfl
      exact habsent (mem_iff_lookup.mpr ⟨_, hpresent⟩)
    rw [AList.lookup_insert_ne hne]
    exact hpresent

theorem appendFile_holds {files files' : StageFiles} {contents : List (String × Bytes)}
    {received bytes : Bytes} (hother : ∀ file ∈ contents, file.1 ≠ name)
    (hholds : Holds files ((name, received) :: contents))
    (h : appendFile files name bytes = .ok files') :
    Holds files' ((name, received ++ bytes) :: contents) := by
  unfold appendFile at h
  have harchive := hholds (name, received) (List.mem_cons_self ..)
  dsimp only at harchive
  rw [harchive] at h
  cases h
  intro file hfile
  rcases List.mem_cons.mp hfile with rfl | hfile
  · exact AList.lookup_insert _
  · rw [AList.lookup_insert_ne (hother file hfile)]
    exact hholds file (List.mem_cons_of_mem _ hfile)

theorem writeJson_holds {files files' : StageFiles} {contents : List (String × Bytes)}
    {request : StagedUpdateRequest} (hother : ∀ file ∈ contents, file.1 ≠ name)
    (hholds : Holds files contents) (h : writeJson p files name request = .ok files') :
    ∃ text, stateText p request = some text ∧ Holds files' ((name, text) :: contents) := by
  obtain ⟨text, htext, h⟩ := bind_ok.mp h
  cases h
  refine ⟨text, okOr_ok.mp htext, fun file hfile => ?_⟩
  rcases List.mem_cons.mp hfile with rfl | hfile
  · exact AList.lookup_insert _
  · rw [AList.lookup_insert_ne (hother file hfile)]
    exact hholds file hfile

theorem whenDone_ok {α : Type} {answer : StageAnswer} {result : Except UpdateStagingError α} {a : α} :
    whenDone answer result = .ok a ↔ answer = .done ∧ result = .ok a := by
  unfold whenDone
  split
  next h => simp [h]
  next h => simp [h]

theorem staging_sound {agent : AgentInstallation} {assignedChannel : UpdateChannel}
    {phase : StagePhase} {left : Option StagingEntry} {result : Except UpdateStagingError StagingRoot}
    (h : ∀ root', result = .ok root' → Advances p root root' id directive ∧
      AttemptSound p root' id ⟨agent, assignedChannel, directive, phase⟩) :
    let next := staging root (temporaryName directive.releaseId id) left phase result
    Advances p root next.1 id directive ∧
      AttemptSound p next.1 id ⟨agent, assignedChannel, directive, next.2⟩ := by
  cases result with
  | ok root' => exact h root' rfl
  | error error => exact ⟨advances_leave left, trivial⟩

theorem ensurePrivateDirectory_advances
    (h : ensurePrivateDirectory root (temporaryName directive.releaseId id) = .ok root') :
    Advances p root root' id directive := by
  unfold ensurePrivateDirectory at h
  split at h
  next =>
    cases h
    exact advances_insert
  next =>
    cases h
    exact advances_refl
  next => simp at h

theorem archiveName_ne {verified : VerifiedDirective} (h : Accepted p attempt verified) :
    attempt.directive.archiveName ≠ manifestFile ∧ attempt.directive.archiveName ≠ signatureFile ∧
      attempt.directive.archiveName ≠ readyFile := by
  obtain ⟨hparsed, _, harchive, _⟩ := verifyDirective_manifest h
  have hhead := parse_archive hparsed
  rw [harchive] at hhead
  refine ⟨?_, ?_, ?_⟩ <;>
  · intro hname
    rw [hname] at hhead
    exact absurd hhead (by decide)

theorem openDownload_ok {answer : StageAnswer}
    (h : openDownload root name directive answer = .ok root') :
    inDirectory root name (fun files => createNewPrivate files directive.archiveName []) =
      .ok root' := by
  unfold openDownload at h
  split at h
  next => exact (guard_ok.mp h).2
  next => simp at h
  next => simp at h

theorem finishDownload_ok {received : Bytes} {answer : StageAnswer}
    (h : finishDownload p root directive received answer = .ok root') :
    root' = root ∧ received.length = directive.archiveSize.toNat ∧
      hex (p.crypto.sha256 received).val = directive.archiveSha256 := by
  unfold finishDownload at h
  split at h
  next =>
    obtain ⟨hchecked, h⟩ := guard_ok.mp h
    cases h
    rw [not_or, not_not, not_not] at hchecked
    exact ⟨rfl, hchecked⟩
  next => simp at h
  next => simp at h

/-- A directory that has been renamed has a name that nothing had. -/
theorem renameDirectory_some {target : String} (hfinals : ∀ files,
      root.lookup target = some (.directory files) → files.keys ≠ [])
    (h : renameDirectory root name target = some root') : ∃ files,
      root.lookup name = some (.directory files) ∧ root.lookup target = none ∧
        root' = (root.erase name).insert target (.directory files) := by
  unfold renameDirectory at h
  split at h
  next files hfiles =>
    split at h
    next htarget =>
      cases h
      exact ⟨files, hfiles, htarget, rfl⟩
    next present hpresent =>
      split at h
      next hempty => exact absurd hempty (hfinals present hpresent)
      next => simp at h
    next => simp at h
  next => simp at h

theorem keys_ne_nil {files : StageFiles} {file : StoredFile} (h : files.lookup name = some file) :
    files.keys ≠ [] := by
  intro hempty
  have hmem : name ∈ files.keys := AList.mem_keys.mp (mem_iff_lookup.mpr ⟨file, h⟩)
  rw [hempty] at hmem
  exact List.not_mem_nil hmem

theorem complete_nonempty (hfinals : FinalsSound p root) {releaseId : Uuid} {files : StageFiles}
    (h : root.lookup (directoryName releaseId) = some (.directory files)) : files.keys ≠ [] := by
  obtain ⟨directive, verified, ⟨_, found, hfound, hstaged⟩, hname⟩ := hfinals releaseId _ h
  rw [hname, h] at hfound
  cases hfound
  exact keys_ne_nil hstaged.manifest

/-- What a staged directory is found to be: its own directive's, or another archive. -/
theorem verifyExistingStage_complete (hjson : RequestsRoundTrip p) {staged : UpdateDirective}
    {stagedVerified verified : VerifiedDirective} (hcomplete : Complete p root staged stagedVerified)
    (haccepted : Accepted p attempt verified)
    (hname : directoryName staged.releaseId = directoryName attempt.directive.releaseId) :
    verifyExistingStage p root (directoryName attempt.directive.releaseId)
        (stagedRequest attempt.directive) verified =
      if stagedRequest staged = stagedRequest attempt.directive ∧
          stagedVerified.manifestBytes = verified.manifestBytes ∧
          stagedVerified.signatureBytes = verified.signatureBytes then .ok ()
      else .error .archive := by
  obtain ⟨⟨agent, assignedChannel, hverified⟩, files, hfiles, hstaged⟩ := hcomplete
  obtain ⟨hparsed, _, hname', hsize, hhash⟩ := verifyDirective_manifest hverified
  obtain ⟨hne, hlength, _⟩ := parse_fields hparsed
  have hpositive := List.length_pos_of_ne_nil hne
  have hsignatureLength : stagedVerified.signatureBytes.val.length = 64 :=
    stagedVerified.signatureBytes.property
  obtain ⟨text, hready, htext⟩ := hstaged.ready
  obtain ⟨htext, hbound⟩ := Option.filter_eq_some_iff.mp htext
  have hread : readJson p files readyFile = .ok (stagedRequest staged) := by
    have hprivate : readPrivate files readyFile maxStateBytes = some text := by
      unfold readPrivate
      rw [hready]
      refine if_neg ?_
      rintro (hregular | hmode | hlong)
      · exact absurd hregular (by simp [privateFile])
      · refine hmode ?_
        show 0o600 &&& 0o077 = 0
        decide
      · have hshort := of_decide_eq_true hbound
        dsimp only [privateFile] at hlong
        omega
    unfold readJson
    rw [hprivate, Option.bind_some, hjson _ _ htext]
    rfl
  have hmanifest : readBoundedRegular files manifestFile 4096 = .ok stagedVerified.manifestBytes := by
    unfold readBoundedRegular
    rw [hstaged.manifest]
    refine if_neg ?_
    dsimp only [privateFile]
    simp only [Bool.not_true, Bool.false_eq_true, false_or]
    omega
  have hsignature : readBoundedRegular files signatureFile 64 = .ok stagedVerified.signatureBytes.val := by
    unfold readBoundedRegular
    rw [hstaged.signature]
    refine if_neg ?_
    dsimp only [privateFile]
    simp only [Bool.not_true, Bool.false_eq_true, false_or]
    omega
  unfold verifyExistingStage
  rw [← hname, hfiles]
  dsimp only
  rw [hread]
  show (if stagedRequest staged ≠ stagedRequest attempt.directive then _ else _) = _
  by_cases hrequest : stagedRequest staged = stagedRequest attempt.directive
  · rw [if_neg (not_not.mpr hrequest), hmanifest]
    show (if stagedVerified.manifestBytes ≠ verified.manifestBytes then _ else _) = _
    by_cases hbytes : stagedVerified.manifestBytes = verified.manifestBytes
    · rw [if_neg (not_not.mpr hbytes), hsignature]
      show (if stagedVerified.signatureBytes.val ≠ verified.signatureBytes.val then _ else _) = _
      by_cases hsame : stagedVerified.signatureBytes = verified.signatureBytes
      · rw [if_neg (not_not.mpr (congrArg Subtype.val hsame)), if_pos ⟨hrequest, hbytes, hsame⟩]
        obtain ⟨hparsed', _⟩ := verifyDirective_manifest haccepted
        rw [← hbytes, hparsed] at hparsed'
        have hmanifestSame := Except.ok.inj hparsed'
        obtain ⟨archive, harchive, harchiveLength, harchiveHash⟩ := hstaged.archive
        have harchiveName : staged.archiveName = (stagedRequest attempt.directive).archiveName := by
          rw [← hrequest]
          rfl
        unfold verifyArchiveFile
        rw [← harchiveName, harchive]
        refine if_neg ?_
        rw [← hmanifestSame, hsize, hhash]
        dsimp only [privateFile]
        simp only [Bool.not_true, Bool.false_eq_true, false_or]
        rintro (hother | hother)
        · exact hother harchiveLength
        · exact hother harchiveHash
      · rw [if_pos fun hval => hsame (Subtype.ext hval), if_neg fun hall => hsame hall.2.2]
    · rw [if_pos hbytes, if_neg fun hall => hbytes hall.2.1]
  · rw [if_pos hrequest, if_neg fun hall => hrequest hall.1]

theorem verifyExistingStage_ok (hjson : RequestsRoundTrip p) (hfinals : FinalsSound p root)
    {verified : VerifiedDirective} (haccepted : Accepted p attempt verified)
    (h : verifyExistingStage p root (directoryName attempt.directive.releaseId)
      (stagedRequest attempt.directive) verified = .ok ()) :
    Recorded p root (stagedRequest attempt.directive) := by
  obtain ⟨files, hfiles⟩ : ∃ files,
      root.lookup (directoryName attempt.directive.releaseId) = some (.directory files) := by
    unfold verifyExistingStage at h
    split at h
    next => simp at h
    next => simp at h
    next files hfiles => exact ⟨files, hfiles⟩
  obtain ⟨staged, stagedVerified, hcomplete, hname⟩ := hfinals _ _ hfiles
  rw [verifyExistingStage_complete hjson hcomplete haccepted hname] at h
  split at h
  next hsame => exact ⟨staged, stagedVerified, hcomplete, hsame.1⟩
  next => simp at h

/-- What a step of a call does, and what the next one finds. -/
theorem stageStep_sound (hjson : RequestsRoundTrip p) (hfinals : FinalsSound p root)
    (hsound : AttemptSound p root id attempt) (answer : StageAnswer) (left : Option StagingEntry) :
    let next := stageStep p root id attempt answer left
    Advances p root next.1 id attempt.directive ∧ AttemptSound p next.1 id { attempt with phase := next.2 } := by
  obtain ⟨agent, assignedChannel, directive, phase⟩ := attempt
  cases phase with
  | beginning =>
    unfold stageStep
    dsimp only
    split
    next => exact ⟨advances_refl, trivial⟩
    next verified hverified =>
      split
      next => exact ⟨advances_refl, trivial⟩
      next =>
        split
        next => exact ⟨advances_refl, hverified⟩
        next => exact ⟨advances_refl, hverified⟩
  | creating verified =>
    refine staging_sound fun root' h => ?_
    obtain ⟨_, h⟩ := whenDone_ok.mp h
    exact ⟨ensurePrivateDirectory_advances h, hsound⟩
  | writingManifest verified =>
    refine staging_sound fun root' h => ?_
    obtain ⟨_, h⟩ := whenDone_ok.mp h
    obtain ⟨files, files', hfiles, hwritten, rfl⟩ := inDirectory_ok h
    have hempty : Holds files [] := fun file hfile => absurd hfile List.not_mem_nil
    exact ⟨advances_insert, hsound, files', AList.lookup_insert _, createNewPrivate_holds hempty hwritten⟩
  | writingSignature verified =>
    refine staging_sound fun root' h => ?_
    obtain ⟨_, h⟩ := whenDone_ok.mp h
    obtain ⟨hadvances, hholds⟩ := inDirectory_holds h hsound.2 fun _ _ => createNewPrivate_holds
    exact ⟨hadvances, hsound.1, hholds⟩
  | requesting verified =>
    refine staging_sound fun root' h => ?_
    obtain ⟨hadvances, hholds⟩ :=
      inDirectory_holds (openDownload_ok h) hsound.2 fun _ _ => createNewPrivate_holds
    exact ⟨hadvances, hsound.1, hholds⟩
  | receiving verified received =>
    obtain ⟨hmanifest, hsignature, _⟩ := archiveName_ne hsound.1
    unfold stageStep
    dsimp only
    split
    next bytes =>
      refine staging_sound fun root' h => ?_
      obtain ⟨_, h⟩ := guard_ok.mp h
      obtain ⟨hadvances, hholds⟩ := inDirectory_holds h hsound.2 fun _ _ => appendFile_holds (by
        intro file hfile
        rcases List.mem_pair.mp hfile with rfl | rfl
        · exact hsignature.symm
        · exact hmanifest.symm)
      exact ⟨hadvances, hsound.1, hholds⟩
    next =>
      refine staging_sound fun root' h => ?_
      obtain ⟨rfl, hlength, hhash⟩ := finishDownload_ok h
      exact ⟨advances_refl, hsound.1, received, hsound.2, hlength, hhash⟩
  | writingReady verified =>
    obtain ⟨haccepted, archive, hholds, hlength, hhash⟩ := hsound
    obtain ⟨_, _, harchive⟩ := archiveName_ne haccepted
    refine staging_sound fun root' h => ?_
    obtain ⟨_, h⟩ := whenDone_ok.mp h
    obtain ⟨files, files', hfiles, hwritten, rfl⟩ := inDirectory_ok h
    obtain ⟨found, hfound, hcontents⟩ := hholds
    rw [hfiles] at hfound
    cases hfound
    obtain ⟨text, htext, hstaged⟩ := writeJson_holds (by
      intro file hfile
      simp only [List.mem_cons, List.not_mem_nil, or_false] at hfile
      rcases hfile with rfl | rfl | rfl
      · exact harchive
      · show signatureFile ≠ readyFile
        decide
      · show manifestFile ≠ readyFile
        decide) hcontents hwritten
    refine ⟨advances_insert, haccepted, files', AList.lookup_insert _, ?_⟩
    exact ⟨hstaged (manifestFile, _) (by simp), hstaged (signatureFile, _) (by simp),
      ⟨archive, hstaged (directive.archiveName, archive) (by simp), hlength, hhash⟩,
      text, hstaged (readyFile, text) (by simp), htext⟩
  | movingDirectory verified =>
    obtain ⟨haccepted, files, hfiles, hstaged⟩ := hsound
    unfold stageStep
    dsimp only
    split
    next root' h =>
      obtain ⟨_, h⟩ := whenDone_ok.mp h
      obtain ⟨found, hfound, hnone, rfl⟩ :=
        renameDirectory_some (fun _ => complete_nonempty hfinals) (okOr_ok.mp h)
      rw [hfiles] at hfound
      cases hfound
      have hcomplete : Complete p ((root.erase (temporaryName directive.releaseId id)).insert
          (directoryName directive.releaseId) (.directory files)) directive verified :=
        ⟨⟨agent, assignedChannel, haccepted⟩, files, AList.lookup_insert _, hstaged⟩
      refine ⟨fun name hne => ?_, directive, verified, hcomplete, rfl⟩
      by_cases hname : name = directoryName directive.releaseId
      · subst hname
        exact Or.inr ⟨hnone, rfl, verified, hcomplete⟩
      · left
        rw [AList.lookup_insert_ne hname, AList.lookup_erase_ne hne]
    next => exact ⟨advances_leave left, haccepted⟩
  | reusing verified raced =>
    unfold stageStep
    dsimp only
    split
    next h =>
      obtain ⟨_, h⟩ := whenDone_ok.mp h
      have hrecorded : Recorded p root (stagedRequest directive) :=
        @verifyExistingStage_ok p root ⟨agent, assignedChannel, directive, .beginning⟩ hjson hfinals
          verified hsound h
      refine ⟨advances_refl, ?_⟩
      split
      next => exact hrecorded
      next => exact hrecorded
    next => exact ⟨advances_refl, trivial⟩
  | syncing =>
    unfold stageStep
    dsimp only
    split
    next => exact ⟨advances_refl, hsound⟩
    next => exact ⟨advances_refl, trivial⟩
  | publishing =>
    unfold stageStep
    dsimp only
    split
    next => exact ⟨advances_refl, trivial⟩
    next => exact ⟨advances_refl, trivial⟩
  | returned result => exact ⟨advances_refl, trivial⟩
  | crashed => exact ⟨advances_refl, trivial⟩

end Steps

section Runs

variable {root root' : StagingRoot} {id : Uuid} {directive : UpdateDirective}

/-- Nothing changes a directory once it has the name of its release. -/
theorem advances_final (h : Advances p root root' id directive) {releaseId : Uuid} {entry : StagingEntry}
    (hentry : root.lookup (directoryName releaseId) = some entry) :
    root'.lookup (directoryName releaseId) = some entry := by
  rcases h (directoryName releaseId) (temporaryName_ne_directoryName _ _ _).symm with hsame | ⟨hnone, _⟩
  · rw [hsame, hentry]
  · rw [hnone] at hentry
    simp at hentry

theorem advances_complete (h : Advances p root root' id directive) {staged : UpdateDirective}
    {verified : VerifiedDirective} (hcomplete : Complete p root staged verified) :
    Complete p root' staged verified := by
  obtain ⟨haccepted, files, hfiles, hstaged⟩ := hcomplete
  exact ⟨haccepted, files, advances_final h hfiles, hstaged⟩

theorem advances_recorded (h : Advances p root root' id directive) {request : StagedUpdateRequest}
    (hrecorded : Recorded p root request) : Recorded p root' request := by
  obtain ⟨staged, verified, hcomplete, hrequest⟩ := hrecorded
  exact ⟨staged, verified, advances_complete h hcomplete, hrequest⟩

theorem advances_finals (h : Advances p root root' id directive) (hfinals : FinalsSound p root) :
    FinalsSound p root' := by
  intro releaseId entry hentry
  rcases h (directoryName releaseId) (temporaryName_ne_directoryName _ _ _).symm with
    hsame | ⟨_, hname, verified, hcomplete⟩
  · rw [hsame] at hentry
    obtain ⟨staged, verified, hcomplete, hname⟩ := hfinals releaseId entry hentry
    exact ⟨staged, verified, advances_complete h hcomplete, hname⟩
  · exact ⟨directive, verified, hcomplete, hname.symm⟩

theorem advances_holdsIn (h : Advances p root root' id directive) {other releaseId : Uuid}
    (hne : other ≠ id) {contents : List (String × Bytes)}
    (hholds : HoldsIn root (temporaryName releaseId other) contents) :
    HoldsIn root' (temporaryName releaseId other) contents := by
  obtain ⟨files, hfiles, hcontents⟩ := hholds
  have hname : temporaryName releaseId other ≠ temporaryName directive.releaseId id :=
    fun hsame => hne (temporaryName_injective hsame)
  rcases h _ hname with hsame | ⟨_, hfinal, _⟩
  · exact ⟨files, hsame.trans hfiles, hcontents⟩
  · exact absurd hfinal (temporaryName_ne_directoryName _ _ _)

/-- The calls do not disturb each other. -/
theorem advances_attempt (h : Advances p root root' id directive) {other : Uuid}
    {attempt : StageAttempt} (hne : other ≠ id) (hsound : AttemptSound p root other attempt) :
    AttemptSound p root' other attempt := by
  obtain ⟨agent, assignedChannel, own, phase⟩ := attempt
  cases phase with
  | beginning | returned | crashed => trivial
  | creating | writingManifest | reusing => exact hsound
  | writingSignature | requesting | receiving =>
    exact ⟨hsound.1, advances_holdsIn h hne hsound.2⟩
  | writingReady =>
    obtain ⟨haccepted, archive, hholds, harchive⟩ := hsound
    exact ⟨haccepted, archive, advances_holdsIn h hne hholds, harchive⟩
  | movingDirectory =>
    obtain ⟨haccepted, files, hfiles, hstaged⟩ := hsound
    have hholds : HoldsIn root (temporaryName own.releaseId other) [] :=
      ⟨files, hfiles, fun file hfile => absurd hfile List.not_mem_nil⟩
    have hname : temporaryName own.releaseId other ≠ temporaryName directive.releaseId id :=
      fun hsame => hne (temporaryName_injective hsame)
    rcases h _ hname with hsame | ⟨_, hfinal, _⟩
    · exact ⟨haccepted, files, hsame.trans hfiles, hstaged⟩
    · exact absurd hfinal (temporaryName_ne_directoryName _ _ _)
  | syncing | publishing => exact advances_recorded h hsound

theorem publishRequest_some {attempt : StageAttempt} {answer : StageAnswer} {before : Option Bytes}
    {bytes : Bytes} (h : publishRequest p attempt answer before = some bytes) :
    before = some bytes ∨
      (attempt.phase = .publishing ∧ stateText p (stagedRequest attempt.directive) = some bytes) := by
  unfold publishRequest at h
  split at h
  next hphase =>
    split at h
    next =>
      split at h
      next text htext =>
        cases h
        exact Or.inr ⟨hphase, htext⟩
      next => exact Or.inl h
    next => exact Or.inl h
  next => exact Or.inl h

theorem insert_sound {s : StagingState} {id : Uuid} {attempt : StageAttempt} {root : StagingRoot}
    (hothers : ∀ other, other ≠ id → ∀ found, s.attempts.lookup other = some found →
      AttemptSound p root other found) (hown : AttemptSound p root id attempt) :
    ∀ other found, (s.attempts.insert id attempt).lookup other = some found →
      AttemptSound p root other found := by
  intro other found hfound
  rw [lookup_insert_eq] at hfound
  split at hfound
  next hsame =>
    subst hsame
    cases hfound
    exact hown
  next hne => exact hothers other hne found hfound

/-- One step of the state directory. -/
theorem next_sound (hjson : RequestsRoundTrip p) {s : StagingState} (hsound : StagingSound p s)
    (event : StagingEvent) : StagingSound p (s.next p event).2 := by
  cases event with
  | start id agent assignedChannel directive =>
    unfold StagingState.next
    dsimp only
    split
    next => exact hsound
    next =>
      exact ⟨hsound.finals, insert_sound (fun other _ found => hsound.attempts other found) trivial,
        hsound.published⟩
  | proceed id answer left =>
    unfold StagingState.next
    dsimp only
    split
    next => exact hsound
    next attempt hattempt =>
      split
      next => exact hsound
      next =>
        have hown := hsound.attempts id attempt hattempt
        obtain ⟨hadvances, hnext⟩ := stageStep_sound hjson hsound.finals hown answer left
        refine ⟨advances_finals hadvances hsound.finals, insert_sound (fun other hne found hfound =>
          advances_attempt hadvances hne (hsound.attempts other found hfound)) hnext, ?_⟩
        intro bytes hbytes
        rcases publishRequest_some hbytes with hbefore | ⟨hphase, htext⟩
        · obtain ⟨request, htext, hrecorded⟩ := hsound.published bytes hbefore
          exact ⟨request, htext, advances_recorded hadvances hrecorded⟩
        · unfold AttemptSound at hown
          rw [hphase] at hown
          exact ⟨_, htext, advances_recorded hadvances hown⟩
  | crash id left =>
    unfold StagingState.next
    dsimp only
    split
    next => exact hsound
    next attempt hattempt =>
      split
      next => exact hsound
      next =>
        have hadvances : Advances p s.stagingRoot
            (leave s.stagingRoot (temporaryName attempt.directive.releaseId id) left) id
            attempt.directive := advances_leave left
        refine ⟨advances_finals hadvances hsound.finals, insert_sound (fun other hne found hfound =>
          advances_attempt hadvances hne (hsound.attempts other found hfound)) trivial, ?_⟩
        intro bytes hbytes
        obtain ⟨request, htext, hrecorded⟩ := hsound.published bytes hbytes
        exact ⟨request, htext, advances_recorded hadvances hrecorded⟩
  | applied => exact ⟨hsound.finals, hsound.attempts, fun bytes hbytes => by simp [StagingState.next] at hbytes⟩

theorem stagingSound (hjson : RequestsRoundTrip p) (events : List StagingEvent) :
    StagingSound p (Runs.final (StagingState.next p) .empty events) := by
  refine @Runs.run_keeps _ _ _ (StagingState.next p) (fun _ _ => True) (StagingSound p)
    (fun s event hs _ => next_sound hjson hs event) _ events ⟨?_, ?_, ?_⟩ (Runs.along_true _ _ _)
  · intro releaseId entry hentry
    exact absurd hentry (by simp [StagingState.empty])
  · intro id attempt hattempt
    exact absurd hattempt (by simp [StagingState.empty])
  · intro bytes hbytes
    exact absurd hbytes (by simp [StagingState.empty])

end Runs

section Convergence

/-- A call of `stage_update` whose calls on files work. -/
def CallsWork (id : Uuid) : StagingState → StagingEvent → Prop
  | _, .proceed other answer _ => other = id → answer = .done
  | _, _ => True

def StagingEvent.proceeds (id : Uuid) : StagingEvent → Bool
  | .proceed other _ _ => other = id
  | _ => false

def StagingEvent.concerns (id : Uuid) : StagingEvent → Bool
  | .proceed other _ _ | .crash other _ => other = id
  | _ => false

/-- What makes a directive the one that a directory was staged for. -/
def StagedFor (staged : UpdateDirective) (stagedVerified : VerifiedDirective) (directive : UpdateDirective)
    (verified : VerifiedDirective) : Prop :=
  staged.policyGeneration = directive.policyGeneration ∧ staged.decision = directive.decision ∧
    stagedVerified.signatureBytes = verified.signatureBytes

/-- The call returns `Ok` and its request is the one that is published. -/
def PublishesRequest (p : StagePlatform) (directive : UpdateDirective) (outcome : StageOutcome) : Prop :=
  outcome.result = .ok (stagedRequest directive) ∧
    ∃ text, p.requestText (stagedRequest directive) = some text ∧ outcome.updateRequest = some text

/-- What a call returns that finds its release staged. -/
def Settled (p : StagePlatform) (directive : UpdateDirective) (verified : VerifiedDirective)
    (staged : UpdateDirective) (stagedVerified : VerifiedDirective) (outcome : StageOutcome) : Prop :=
  (StagedFor staged stagedVerified directive verified ∧ PublishesRequest p directive outcome) ∨
    (¬StagedFor staged stagedVerified directive verified ∧ outcome.result = .error .archive)

/-- How many steps a call takes that finds its release. -/
def StagePhase.remaining : StagePhase → Nat
  | .movingDirectory _ => 4
  | .beginning => 3
  | .reusing _ raced => if raced then 3 else 2
  | .syncing => 2
  | .publishing => 1
  | _ => 0

/-- Where a call stands that meets its release as it begins or as it renames its own directory. -/
def StagePhase.Meets (verified : VerifiedDirective) (staging : Prop) : StagePhase → Prop
  | .beginning => True
  | .movingDirectory own | .reusing own _ => own = verified
  | .syncing | .publishing => staging
  | _ => False

theorem StagePhase.Meets.live {phase : StagePhase} {verified : VerifiedDirective} {staging : Prop}
    (h : phase.Meets verified staging) : phase.ended = false := by
  cases phase with
  | returned | crashed => exact absurd h id
  | _ => rfl

theorem StagePhase.Meets.remaining_pos {phase : StagePhase} {verified : VerifiedDirective}
    {staging : Prop} (h : phase.Meets verified staging) : 0 < phase.remaining := by
  cases phase with
  | beginning | movingDirectory | syncing | publishing => exact Nat.zero_lt_succ _
  | reusing own raced =>
    cases raced with
    | true => exact Nat.zero_lt_succ _
    | false => exact Nat.zero_lt_succ _
  | _ => exact False.elim h

variable {s : StagingState} {id : Uuid} {attempt : StageAttempt} {staged : UpdateDirective}
  {stagedVerified verified : VerifiedDirective}

theorem stagedRequest_eq_iff {directive : UpdateDirective} {agent stagedAgent : AgentInstallation}
    {channel stagedChannel : UpdateChannel}
    (hstaged : verifyDirective p.toUpdatePlatform stagedAgent stagedChannel staged = .ok stagedVerified)
    (hverified : verifyDirective p.toUpdatePlatform agent channel directive = .ok verified)
    (hrelease : staged.releaseId = directive.releaseId)
    (hmanifest : stagedVerified.manifestBytes = verified.manifestBytes) :
    stagedRequest staged = stagedRequest directive ↔
      staged.policyGeneration = directive.policyGeneration ∧ staged.decision = directive.decision := by
  obtain ⟨hparsed, hversion, harchive, _⟩ := verifyDirective_manifest hstaged
  obtain ⟨hparsed', hversion', harchive', _⟩ := verifyDirective_manifest hverified
  rw [← hmanifest, hparsed] at hparsed'
  have hsame := Except.ok.inj hparsed'
  unfold stagedRequest
  rw [hrelease, ← hversion, ← hversion', ← harchive, ← harchive', hsame]
  simp

theorem next_complete (hjson : RequestsRoundTrip p) (hsound : StagingSound p s) (event : StagingEvent)
    (hcomplete : Complete p s.stagingRoot staged stagedVerified) :
    Complete p (s.next p event).2.stagingRoot staged stagedVerified := by
  cases event with
  | start =>
    unfold StagingState.next
    dsimp only
    split
    next => exact hcomplete
    next => exact hcomplete
  | proceed id answer left =>
    unfold StagingState.next
    dsimp only
    split
    next => exact hcomplete
    next attempt hattempt =>
      split
      next => exact hcomplete
      next =>
        obtain ⟨hadvances, _⟩ := stageStep_sound hjson hsound.finals
          (hsound.attempts id attempt hattempt) answer left
        exact advances_complete hadvances hcomplete
  | crash id left =>
    unfold StagingState.next
    dsimp only
    split
    next => exact hcomplete
    next attempt hattempt =>
      split
      next => exact hcomplete
      next =>
        have hadvances : Advances p s.stagingRoot
            (leave s.stagingRoot (temporaryName attempt.directive.releaseId id) left) id
            attempt.directive := advances_leave left
        exact advances_complete hadvances hcomplete
  | applied => exact hcomplete

/-- The steps of other calls leave a call where it is. -/
theorem next_unconcerned {event : StagingEvent} (hattempt : s.attempts.lookup id = some attempt)
    (h : event.concerns id = false) :
    (s.next p event).2.attempts.lookup id = some attempt ∧
      ∀ outcome, (s.next p event).1 = some outcome → outcome.id ≠ id := by
  cases event with
  | start other =>
    unfold StagingState.next
    dsimp only
    split
    next => exact ⟨hattempt, by simp⟩
    next habsent =>
      have hne : id ≠ other := by
        rintro rfl
        exact habsent (mem_iff_lookup.mpr ⟨attempt, hattempt⟩)
      exact ⟨(AList.lookup_insert_ne hne).trans hattempt, by simp⟩
  | proceed other answer left =>
    have hne : id ≠ other := fun hsame => by simp [StagingEvent.concerns, hsame] at h
    unfold StagingState.next
    dsimp only
    split
    next => exact ⟨hattempt, by simp⟩
    next =>
      split
      next => exact ⟨hattempt, by simp⟩
      next =>
        refine ⟨(AList.lookup_insert_ne hne).trans hattempt, fun outcome houtcome => ?_⟩
        dsimp only at houtcome
        split at houtcome
        next =>
          cases houtcome
          exact hne.symm
        next => simp at houtcome
  | crash other left =>
    have hne : id ≠ other := fun hsame => by simp [StagingEvent.concerns, hsame] at h
    unfold StagingState.next
    dsimp only
    split
    next => exact ⟨hattempt, by simp⟩
    next =>
      split
      next => exact ⟨hattempt, by simp⟩
      next => exact ⟨(AList.lookup_insert_ne hne).trans hattempt, by simp⟩
  | applied => exact ⟨hattempt, by simp [StagingState.next]⟩

/-- Where a call is that met its release when it was complete, so many steps from its end. -/
def Stands (id : Uuid) (total : Nat) (phase : StagePhase) (verified : VerifiedDirective)
    (staging : Prop) (history : List (StagingEvent × Option StageOutcome)) : Prop :=
  (phase.ended = true ∧ ((∃ left, .crash id left ∈ history.map Prod.fst) ∨
      ∃ entry ∈ history, ∃ outcome, entry.2 = some outcome ∧ outcome.id = id)) ∨
    ((history.map Prod.fst).countP (StagingEvent.proceeds id) + phase.remaining = total ∧
      phase.Meets verified staging)

structure Settles (p : StagePlatform) (id : Uuid) (agent : AgentInstallation) (channel : UpdateChannel)
    (directive : UpdateDirective) (verified : VerifiedDirective) (staged : UpdateDirective)
    (stagedVerified : VerifiedDirective) (total : Nat) (s : StagingState)
    (history : List (StagingEvent × Option StageOutcome)) : Prop where
  sound : StagingSound p s
  complete : Complete p s.stagingRoot staged stagedVerified
  outcomes : ∀ entry ∈ history, ∀ outcome, entry.2 = some outcome → outcome.id = id →
    Settled p directive verified staged stagedVerified outcome
  phase : ∃ phase, s.attempts.lookup id = some ⟨agent, channel, directive, phase⟩ ∧
    Stands id total phase verified (StagedFor staged stagedVerified directive verified) history

/-- What the step of a call makes of it. -/
theorem next_proceed {answer : StageAnswer} {left : Option StagingEntry} {root : StagingRoot}
    {phase : StagePhase} (hattempt : s.attempts.lookup id = some attempt)
    (hlive : attempt.phase.ended = false)
    (hstep : stageStep p s.stagingRoot id attempt answer left = (root, phase)) :
    (s.next p (.proceed id answer left)).2 = ⟨root, publishRequest p attempt answer s.updateRequest,
        s.attempts.insert id { attempt with phase := phase }⟩ ∧
      (∀ result, phase = .returned result → (s.next p (.proceed id answer left)).1 =
        some ⟨id, result, publishRequest p attempt answer s.updateRequest⟩) ∧
      ((∀ result, phase ≠ .returned result) → (s.next p (.proceed id answer left)).1 = none) := by
  obtain ⟨rfl, rfl⟩ : root = (stageStep p s.stagingRoot id attempt answer left).1 ∧
      phase = (stageStep p s.stagingRoot id attempt answer left).2 := by
    rw [hstep]
    exact ⟨rfl, rfl⟩
  unfold StagingState.next
  dsimp only
  rw [hattempt]
  dsimp only
  rw [hlive, if_neg Bool.false_ne_true]
  refine ⟨rfl, fun result hresult => ?_, fun hother => ?_⟩
  · dsimp only
    rw [hresult]
  · dsimp only
    split
    next result hresult => exact absurd hresult (hother result)
    next => rfl

theorem lookup_proceed {s' : StagingState} {root : StagingRoot} {updateRequest : Option Bytes}
    (h : s' = ⟨root, updateRequest, s.attempts.insert id attempt⟩) :
    s'.attempts.lookup id = some attempt := by
  rw [h]
  exact AList.lookup_insert _

theorem next_ended_proceed {answer : StageAnswer} {left : Option StagingEntry}
    (hattempt : s.attempts.lookup id = some attempt) (hended : attempt.phase.ended = true) :
    s.next p (.proceed id answer left) = (none, s) := by
  unfold StagingState.next
  dsimp only
  rw [hattempt]
  exact if_pos hended

theorem next_ended_crash {left : Option StagingEntry}
    (hattempt : s.attempts.lookup id = some attempt) (hended : attempt.phase.ended = true) :
    s.next p (.crash id left) = (none, s) := by
  unfold StagingState.next
  dsimp only
  rw [hattempt]
  exact if_pos hended

theorem next_crash {left : Option StagingEntry} (hattempt : s.attempts.lookup id = some attempt)
    (hlive : attempt.phase.ended = false) :
    (s.next p (.crash id left)).1 = none ∧
      (s.next p (.crash id left)).2.attempts.lookup id = some { attempt with phase := .crashed } := by
  unfold StagingState.next
  dsimp only
  rw [hattempt]
  dsimp only
  rw [hlive, if_neg Bool.false_ne_true]
  exact ⟨rfl, AList.lookup_insert _⟩

variable {agent : AgentInstallation} {channel : UpdateChannel} {directive : UpdateDirective}

/-- A call that finds its release goes on to what is there. -/
theorem stageStep_beginning {root : StagingRoot} {left : Option StagingEntry}
    (hverified : verifyDirective p.toUpdatePlatform agent channel directive = .ok verified)
    (hrelease : staged.releaseId = directive.releaseId)
    (hcomplete : Complete p root staged stagedVerified) :
    stageStep p root id ⟨agent, channel, directive, .beginning⟩ .done left =
      (root, .reusing verified false) := by
  obtain ⟨_, files, hfiles, _⟩ := hcomplete
  rw [hrelease] at hfiles
  unfold stageStep
  dsimp only
  rw [hverified]
  dsimp only
  rw [if_neg (not_not.mpr rfl), if_pos (mem_iff_lookup.mpr ⟨_, hfiles⟩)]

/-- The rename fails where the release has its directory, and the call goes on to what is there. -/
theorem stageStep_moving {root : StagingRoot} {left : Option StagingEntry}
    (hfinals : FinalsSound p root) (hrelease : staged.releaseId = directive.releaseId)
    (hcomplete : Complete p root staged stagedVerified) :
    stageStep p root id ⟨agent, channel, directive, .movingDirectory verified⟩ .done left =
      (leave root (temporaryName directive.releaseId id) left, .reusing verified true) := by
  obtain ⟨_, files, hfiles, _⟩ := hcomplete
  rw [hrelease] at hfiles
  have hstays : renameDirectory root (temporaryName directive.releaseId id)
      (directoryName directive.releaseId) = none := by
    refine Option.eq_none_iff_forall_ne_some.mpr fun root' hrenamed => ?_
    obtain ⟨_, _, hnone, _⟩ := renameDirectory_some (fun _ => complete_nonempty hfinals) hrenamed
    rw [hfiles] at hnone
    simp at hnone
  unfold stageStep whenDone
  dsimp only
  rw [if_pos rfl, hstays]
  rfl

theorem stageStep_reusing (hjson : RequestsRoundTrip p) {root : StagingRoot} {left : Option StagingEntry}
    (hverified : verifyDirective p.toUpdatePlatform agent channel directive = .ok verified)
    (hrelease : staged.releaseId = directive.releaseId)
    (hmanifest : stagedVerified.manifestBytes = verified.manifestBytes)
    (hcomplete : Complete p root staged stagedVerified) (raced : Bool) :
    (StagedFor staged stagedVerified directive verified ∧
        stageStep p root id ⟨agent, channel, directive, .reusing verified raced⟩ .done left =
          (root, if raced then .syncing else .publishing)) ∨
      (¬StagedFor staged stagedVerified directive verified ∧
        stageStep p root id ⟨agent, channel, directive, .reusing verified raced⟩ .done left =
          (root, .returned (.error .archive))) := by
  obtain ⟨stagedAgent, stagedChannel, hstagedVerified⟩ := hcomplete.1
  have hrequest := stagedRequest_eq_iff hstagedVerified hverified hrelease hmanifest
  have hfound := @verifyExistingStage_complete p root ⟨agent, channel, directive, .beginning⟩ hjson staged
    stagedVerified verified hcomplete hverified (by rw [hrelease])
  dsimp only at hfound
  unfold stageStep whenDone
  dsimp only
  rw [if_pos rfl, hfound]
  by_cases hsame : StagedFor staged stagedVerified directive verified
  · left
    rw [if_pos ⟨hrequest.mpr ⟨hsame.1, hsame.2.1⟩, hmanifest, hsame.2.2⟩]
    exact ⟨hsame, rfl⟩
  · right
    rw [if_neg]
    · exact ⟨hsame, rfl⟩
    · rintro ⟨hrequests, _, hsignature⟩
      obtain ⟨hgeneration, hdecision⟩ := hrequest.mp hrequests
      exact hsame ⟨hgeneration, hdecision, hsignature⟩

/-- What a call returns that publishes. -/
theorem stageStep_publishing {root : StagingRoot} {left : Option StagingEntry} {text : Bytes}
    (htext : stateText p (stagedRequest directive) = some text) (before : Option Bytes) :
    stageStep p root id ⟨agent, channel, directive, .publishing⟩ .done left =
        (root, .returned (.ok (stagedRequest directive))) ∧
      publishRequest p ⟨agent, channel, directive, .publishing⟩ .done before = some text := by
  unfold stageStep publishRequest whenDone
  dsimp only
  rw [if_pos rfl, htext, if_pos (Or.inl rfl)]
  exact ⟨rfl, rfl⟩

/-- A call that meets its release comes one step nearer to its end, or returns as it has to. -/
theorem stageStep_settles (hjson : RequestsRoundTrip p) {root : StagingRoot}
    (hfinals : FinalsSound p root)
    (hverified : verifyDirective p.toUpdatePlatform agent channel directive = .ok verified)
    (hrelease : staged.releaseId = directive.releaseId)
    (hmanifest : stagedVerified.manifestBytes = verified.manifestBytes)
    (hcomplete : Complete p root staged stagedVerified) {phase : StagePhase}
    (hphase : phase.Meets verified (StagedFor staged stagedVerified directive verified))
    (left : Option StagingEntry) (before : Option Bytes) :
    (∃ root' next, stageStep p root id ⟨agent, channel, directive, phase⟩ .done left = (root', next) ∧
        next.Meets verified (StagedFor staged stagedVerified directive verified) ∧
        next.remaining + 1 = phase.remaining) ∨
      ∃ result, stageStep p root id ⟨agent, channel, directive, phase⟩ .done left =
          (root, .returned result) ∧
        Settled p directive verified staged stagedVerified
          ⟨id, result, publishRequest p ⟨agent, channel, directive, phase⟩ .done before⟩ := by
  cases phase with
  | beginning => exact Or.inl ⟨_, _, stageStep_beginning hverified hrelease hcomplete, rfl, rfl⟩
  | movingDirectory own =>
    obtain rfl : own = verified := hphase
    exact Or.inl ⟨_, _, stageStep_moving hfinals hrelease hcomplete, rfl, rfl⟩
  | reusing own raced =>
    obtain rfl : own = verified := hphase
    rcases stageStep_reusing hjson hverified hrelease hmanifest hcomplete raced with
      ⟨hstaging, hstep⟩ | ⟨hother, hstep⟩
    · cases raced with
      | true => exact Or.inl ⟨_, _, hstep, hstaging, rfl⟩
      | false => exact Or.inl ⟨_, _, hstep, hstaging, rfl⟩
    · exact Or.inr ⟨_, hstep, Or.inr ⟨hother, rfl⟩⟩
  | syncing => exact Or.inl ⟨root, .publishing, rfl, hphase, rfl⟩
  | publishing =>
    obtain ⟨⟨stagedAgent, stagedChannel, hstagedVerified⟩, files, _, hstaged⟩ := hcomplete
    obtain ⟨text, _, htext⟩ := hstaged.ready
    rw [(stagedRequest_eq_iff hstagedVerified hverified hrelease hmanifest).mpr
      ⟨hphase.1, hphase.2.1⟩] at htext
    obtain ⟨hstep, hpublished⟩ := @stageStep_publishing p id agent channel directive root left text htext
      before
    exact Or.inr ⟨_, hstep, Or.inl ⟨hphase, rfl, text, (Option.filter_eq_some_iff.mp htext).1,
      hpublished⟩⟩
  | _ => exact False.elim hphase

theorem countP_proceeds (history : List (StagingEvent × Option StageOutcome)) (event : StagingEvent)
    (output : Option StageOutcome) :
    ((history ++ [(event, output)]).map Prod.fst).countP (StagingEvent.proceeds id) =
      (history.map Prod.fst).countP (StagingEvent.proceeds id) +
        if event.proceeds id then 1 else 0 := by
  rw [List.map_append, List.countP_append]
  simp [List.countP_cons]

theorem stands_append {total : Nat} {phase : StagePhase} {staging : Prop}
    {history : List (StagingEvent × Option StageOutcome)}
    (h : Stands id total phase verified staging history) {event : StagingEvent} (output : Option StageOutcome)
    (hother : phase.ended = true ∨ event.proceeds id = false) :
    Stands id total phase verified staging (history ++ [(event, output)]) := by
  rcases h with ⟨hended, ⟨left, hcrash⟩ | ⟨found, hfound, houtcome⟩⟩ | ⟨hcount, hphase⟩
  · refine Or.inl ⟨hended, Or.inl ⟨left, ?_⟩⟩
    rw [List.map_append]
    exact List.mem_append_left _ hcrash
  · exact Or.inl ⟨hended, Or.inr ⟨found, List.mem_append_left _ hfound, houtcome⟩⟩
  · rcases hother with hended | hother
    · exact absurd (hphase.live.symm.trans hended) Bool.false_ne_true
    · refine Or.inr ⟨?_, hphase⟩
      rw [countP_proceeds, hother]
      exact hcount

section Steps

variable {total : Nat} {history : List (StagingEvent × Option StageOutcome)} {event : StagingEvent}

/-- An outcome of this step is the only one that is not in the history. -/
theorem Settles.append (hjson : RequestsRoundTrip p)
    (hi : Settles p id agent channel directive verified staged stagedVerified total s history)
    (hnew : ∀ outcome, (s.next p event).1 = some outcome → outcome.id = id →
      Settled p directive verified staged stagedVerified outcome) {phase : StagePhase}
    (hattempt : (s.next p event).2.attempts.lookup id = some ⟨agent, channel, directive, phase⟩)
    (hstands : Stands id total phase verified (StagedFor staged stagedVerified directive verified)
      (history ++ [(event, (s.next p event).1)])) :
    Settles p id agent channel directive verified staged stagedVerified total (s.next p event).2
      (history ++ [(event, (s.next p event).1)]) := by
  refine ⟨next_sound hjson hi.sound event, next_complete hjson hi.sound event hi.complete,
    fun entry hentry outcome houtcome hid => ?_, phase, hattempt, hstands⟩
  rcases List.mem_append.mp hentry with hentry | hentry
  · exact hi.outcomes entry hentry outcome houtcome hid
  · cases List.mem_singleton.mp hentry
    exact hnew outcome houtcome hid

theorem Settles.unconcerned (hjson : RequestsRoundTrip p)
    (hi : Settles p id agent channel directive verified staged stagedVerified total s history)
    (hconcerns : event.concerns id = false) :
    Settles p id agent channel directive verified staged stagedVerified total (s.next p event).2
      (history ++ [(event, (s.next p event).1)]) := by
  obtain ⟨phase, hattempt, hstands⟩ := hi.phase
  obtain ⟨hattempt', hother⟩ := @next_unconcerned p _ _ _ _ hattempt hconcerns
  have hproceeds : event.proceeds id = false := by
    cases event with
    | proceed => exact hconcerns
    | start | crash | applied => rfl
  exact hi.append hjson (fun outcome h hid => absurd hid (hother outcome h)) hattempt'
    (stands_append hstands _ (Or.inr hproceeds))

theorem Settles.idle (hjson : RequestsRoundTrip p)
    (hi : Settles p id agent channel directive verified staged stagedVerified total s history)
    {phase : StagePhase} (hattempt : s.attempts.lookup id = some ⟨agent, channel, directive, phase⟩)
    (hstands : Stands id total phase verified (StagedFor staged stagedVerified directive verified) history)
    (hended : phase.ended = true) (hnext : s.next p event = (none, s)) :
    Settles p id agent channel directive verified staged stagedVerified total (s.next p event).2
      (history ++ [(event, (s.next p event).1)]) := by
  refine hi.append hjson (fun outcome h => ?_) ?_ (stands_append hstands _ (Or.inl hended))
  · rw [hnext] at h
    simp at h
  · rw [hnext]
    exact hattempt

theorem Settles.crash (hjson : RequestsRoundTrip p)
    (hi : Settles p id agent channel directive verified staged stagedVerified total s history)
    {phase : StagePhase} (hattempt : s.attempts.lookup id = some ⟨agent, channel, directive, phase⟩)
    (hlive : phase.ended = false) (left : Option StagingEntry) :
    Settles p id agent channel directive verified staged stagedVerified total
      (s.next p (.crash id left)).2
      (history ++ [(.crash id left, (s.next p (.crash id left)).1)]) := by
  obtain ⟨hnone, hattempt'⟩ := @next_crash p _ _ _ left hattempt hlive
  refine hi.append hjson (fun outcome h => ?_) hattempt' (Or.inl ⟨rfl, Or.inl ⟨left, ?_⟩⟩)
  · rw [hnone] at h
    simp at h
  · rw [List.map_append]
    exact List.mem_append_right _ (List.mem_singleton_self _)

theorem Settles.proceed (hjson : RequestsRoundTrip p)
    (hverified : verifyDirective p.toUpdatePlatform agent channel directive = .ok verified)
    (hrelease : staged.releaseId = directive.releaseId)
    (hmanifest : stagedVerified.manifestBytes = verified.manifestBytes)
    (hi : Settles p id agent channel directive verified staged stagedVerified total s history)
    {phase : StagePhase} (hattempt : s.attempts.lookup id = some ⟨agent, channel, directive, phase⟩)
    (hphase : phase.Meets verified (StagedFor staged stagedVerified directive verified))
    (hcount : (history.map Prod.fst).countP (StagingEvent.proceeds id) + phase.remaining = total)
    (left : Option StagingEntry) :
    Settles p id agent channel directive verified staged stagedVerified total
      (s.next p (.proceed id .done left)).2
      (history ++ [(.proceed id .done left, (s.next p (.proceed id .done left)).1)]) := by
  have hmore := @countP_proceeds id history (.proceed id .done left)
    (s.next p (.proceed id .done left)).1
  have hproceeds : (StagingEvent.proceed id .done left).proceeds id = true := decide_eq_true rfl
  rw [hproceeds, if_pos rfl] at hmore
  rcases stageStep_settles hjson hi.sound.finals hverified hrelease hmanifest hi.complete hphase left
      s.updateRequest with ⟨root, next, hstep, hmeets, hremaining⟩ | ⟨result, hstep, hsettled⟩
  · obtain ⟨hstate, _, hnone⟩ := next_proceed hattempt hphase.live hstep
    have hnone := hnone fun result hreturned => by
      rw [hreturned] at hmeets
      exact hmeets
    refine hi.append hjson (fun outcome h => ?_) (lookup_proceed hstate) (Or.inr ⟨?_, hmeets⟩)
    · rw [hnone] at h
      simp at h
    · omega
  · obtain ⟨hstate, hreturned, _⟩ := next_proceed hattempt hphase.live hstep
    have hout := hreturned _ rfl
    refine hi.append hjson (fun outcome h _ => ?_) (lookup_proceed hstate)
      (Or.inl ⟨rfl, Or.inr ⟨_, List.mem_append_right _ (List.mem_singleton_self _), _, hout, rfl⟩⟩)
    rw [hout] at h
    cases h
    exact hsettled

/-- One step, of the call or of others. -/
theorem next_settles (hjson : RequestsRoundTrip p)
    (hverified : verifyDirective p.toUpdatePlatform agent channel directive = .ok verified)
    (hrelease : staged.releaseId = directive.releaseId)
    (hmanifest : stagedVerified.manifestBytes = verified.manifestBytes)
    (hi : Settles p id agent channel directive verified staged stagedVerified total s history)
    (hcalls : CallsWork id s event) :
    Settles p id agent channel directive verified staged stagedVerified total (s.next p event).2
      (history ++ [(event, (s.next p event).1)]) := by
  by_cases hconcerns : event.concerns id = false
  · exact hi.unconcerned hjson hconcerns
  obtain ⟨phase, hattempt, hstands⟩ := hi.phase
  cases event with
  | start | applied => exact absurd rfl hconcerns
  | crash other left =>
    obtain rfl : other = id := by simpa [StagingEvent.concerns] using hconcerns
    by_cases hended : phase.ended = true
    · exact hi.idle hjson hattempt hstands hended (next_ended_crash hattempt hended)
    · exact hi.crash hjson hattempt (eq_false_of_ne_true hended) left
  | proceed other answer left =>
    obtain rfl : other = id := by simpa [StagingEvent.concerns] using hconcerns
    cases hcalls rfl
    by_cases hended : phase.ended = true
    · exact hi.idle hjson hattempt hstands hended (next_ended_proceed hattempt hended)
    · obtain ⟨hcount, hphase⟩ := hstands.resolve_left fun hdead => hended hdead.1
      exact hi.proceed hjson hverified hrelease hmanifest hattempt hphase hcount left

end Steps

end Convergence

end XsNexus
