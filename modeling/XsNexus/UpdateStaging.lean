import XsNexus.FiniteMap
import XsNexus.Runs
import XsNexus.UpdateDirectives

namespace XsNexus

open ByteCodec Checks FiniteMap

structure StagedUpdateRequest where
  schemaVersion : UInt8
  releaseId : Uuid
  policyGeneration : UInt64
  decision : UpdateDecision
  version : ReleaseVersion
  directoryName : String
  archiveName : String
deriving DecidableEq

/-- The updates besides take `serde_json` for the requests that are stored. -/
structure StagePlatform extends UpdatePlatform where
  requestText : StagedUpdateRequest → Option Bytes
  requestParse : Bytes → Option StagedUpdateRequest

structure StoredFile where
  regular : Bool
  mode : Nat
  bytes : Bytes
deriving DecidableEq

abbrev StageFiles := Map String StoredFile

/-- What a name below `update-staging` stands for. -/
inductive StagingEntry
  | directory (files : StageFiles)
  | other

abbrev StagingRoot := Map String StagingEntry

def manifestFile : String := "release.manifest"

def signatureFile : String := "release.manifest.sig"

def readyFile : String := "ready.json"

def maxStateBytes : Nat := 512 * 1024

/-- `simple` -/
def directoryName (releaseId : Uuid) : String := hex releaseId.val

def temporaryName (releaseId attempt : Uuid) : String :=
  "." ++ hex releaseId.val ++ "." ++ hex attempt.val ++ ".tmp"

/-- A file as it is created, with `PRIVATE_MODE`. -/
def privateFile (bytes : Bytes) : StoredFile := ⟨true, 0o600, bytes⟩

def createNewPrivate (files : StageFiles) (name : String) (bytes : Bytes) :
    Except UpdateStagingError StageFiles :=
  if name ∈ files then .error .state else .ok (files.insert name (privateFile bytes))

def ensurePrivateDirectory (root : StagingRoot) (name : String) :
    Except UpdateStagingError StagingRoot :=
  match root.lookup name with
  | none => .ok (root.insert name (.directory ∅))
  | some (.directory _) => .ok root
  | some .other => .error .state

/-- The bytes that `write_json` stores. -/
def stateText (p : StagePlatform) (request : StagedUpdateRequest) : Option Bytes :=
  (p.requestText request).filter fun bytes => bytes.length ≤ maxStateBytes

def readPrivate (files : StageFiles) (name : String) (maximumBytes : Nat) : Option Bytes := do
  let file ← files.lookup name
  if !file.regular ∨ file.mode &&& 0o077 ≠ 0 ∨ file.bytes.length > maximumBytes then none
  else some file.bytes

def readJson (p : StagePlatform) (files : StageFiles) (name : String) :
    Except UpdateStagingError StagedUpdateRequest :=
  okOr .state ((readPrivate files name maxStateBytes).bind p.requestParse)

def readBoundedRegular (files : StageFiles) (name : String) (maximum : Nat) :
    Except UpdateStagingError Bytes :=
  match files.lookup name with
  | none => .error .state
  | some file =>
    if !file.regular ∨ file.bytes.length = 0 ∨ file.bytes.length > maximum then .error .state
    else .ok file.bytes

def verifyArchiveFile (p : StagePlatform) (files : StageFiles) (name : String) (expectedSize : UInt64)
    (expectedSha256 : String) : Except UpdateStagingError Unit :=
  match files.lookup name with
  | none => .error .state
  | some file =>
    if !file.regular ∨ file.bytes.length ≠ expectedSize.toNat ∨
        hex (p.crypto.sha256 file.bytes).val ≠ expectedSha256 then
      .error .archive
    else .ok ()

def verifyExistingStage (p : StagePlatform) (root : StagingRoot) (directory : String)
    (request : StagedUpdateRequest) (verified : VerifiedDirective) : Except UpdateStagingError Unit :=
  match root.lookup directory with
  | none | some .other => .error .state
  | some (.directory files) => do
    let persisted ← readJson p files readyFile
    if persisted ≠ request then .error .archive
    else do
      let manifestBytes ← readBoundedRegular files manifestFile 4096
      if manifestBytes ≠ verified.manifestBytes then .error .archive
      else do
        let signatureBytes ← readBoundedRegular files signatureFile 64
        if signatureBytes ≠ verified.signatureBytes.val then .error .archive
        else
          verifyArchiveFile p files request.archiveName verified.manifest.archiveSize
            verified.manifest.archiveSha256

/-- What `rename` does with the name of a directory: one that is not empty stays. -/
def renameDirectory (root : StagingRoot) (source target : String) : Option StagingRoot :=
  match root.lookup source with
  | some (.directory files) =>
    match root.lookup target with
    | none => some ((root.erase source).insert target (.directory files))
    | some (.directory present) =>
      if present.keys = [] then some ((root.erase source).insert target (.directory files)) else none
    | some .other => none
  | _ => none

/-- The request of a directive. -/
def stagedRequest (directive : UpdateDirective) : StagedUpdateRequest where
  schemaVersion := 1
  releaseId := directive.releaseId
  policyGeneration := directive.policyGeneration
  decision := directive.decision
  version := directive.version
  directoryName := directoryName directive.releaseId
  archiveName := directive.archiveName

/-- Where a call of `stage_update` is. -/
inductive StagePhase
  | beginning
  | creating (verified : VerifiedDirective)
  | writingManifest (verified : VerifiedDirective)
  | writingSignature (verified : VerifiedDirective)
  | requesting (verified : VerifiedDirective)
  | receiving (verified : VerifiedDirective) (received : Bytes)
  | writingReady (verified : VerifiedDirective)
  | movingDirectory (verified : VerifiedDirective)
  | reusing (verified : VerifiedDirective) (raced : Bool)
  | syncing
  | publishing
  | returned (result : Except UpdateStagingError StagedUpdateRequest)
  | crashed

def StagePhase.ended : StagePhase → Bool
  | .returned _ | .crashed => true
  | _ => false

/-- A call of `stage_update`. -/
structure StageAttempt where
  agent : AgentInstallation
  assignedChannel : UpdateChannel
  directive : UpdateDirective
  phase : StagePhase

/-- What the system calls of a step answer: all of them work, the response or a part of its body
arrives, the connection breaks, a call on a file fails, or fails once its effect is there. -/
inductive StageAnswer
  | done
  | response (status : Nat) (contentLength : Option UInt64)
  | chunk (bytes : Bytes)
  | broken
  | failed
  | unsynced
deriving DecidableEq

/-- The name with whatever a failure leaves of it. -/
def leave (root : StagingRoot) (name : String) : Option StagingEntry → StagingRoot
  | none => root.erase name
  | some entry => root.insert name entry

/-- A file of the temporary directory is written. -/
def inDirectory (root : StagingRoot) (name : String)
    (write : StageFiles → Except UpdateStagingError StageFiles) :
    Except UpdateStagingError StagingRoot :=
  match root.lookup name with
  | some (.directory files) => do
    let files ← write files
    .ok (root.insert name (.directory files))
  | _ => .error .state

def appendFile (files : StageFiles) (name : String) (bytes : Bytes) :
    Except UpdateStagingError StageFiles :=
  match files.lookup name with
  | none => .error .state
  | some file => .ok (files.insert name { file with bytes := file.bytes ++ bytes })

def writeJson (p : StagePlatform) (files : StageFiles) (name : String) (request : StagedUpdateRequest) :
    Except UpdateStagingError StageFiles := do
  let bytes ← okOr .state (stateText p request)
  .ok (files.insert name (privateFile bytes))

/-- An error of a step that stages ends the call; `remove_dir_all` may leave anything. -/
def staging (root : StagingRoot) (name : String) (left : Option StagingEntry) (phase : StagePhase) :
    Except UpdateStagingError StagingRoot → StagingRoot × StagePhase
  | .ok root => (root, phase)
  | .error error => (leave root name left, .returned (.error error))

/-- The calls on files of a step, unless one of them fails. -/
def whenDone {α : Type} (answer : StageAnswer) (result : Except UpdateStagingError α) :
    Except UpdateStagingError α :=
  if answer = .done then result else .error .state

/-- `download_archive` until the body arrives -/
def openDownload (root : StagingRoot) (temporary : String) (directive : UpdateDirective) :
    StageAnswer → Except UpdateStagingError StagingRoot
  | .response status contentLength =>
    if status ≠ 200 ∨ contentLength.any (fun length => length ≠ directive.archiveSize) then
      .error .download
    else inDirectory root temporary fun files => createNewPrivate files directive.archiveName []
  | .broken => .error .download
  | _ => .error .state

/-- The loop of `download_archive` -/
def receiveChunk (root : StagingRoot) (temporary : String) (directive : UpdateDirective)
    (received bytes : Bytes) : Except UpdateStagingError StagingRoot :=
  if received.length + bytes.length > directive.archiveSize.toNat ∨
      received.length + bytes.length > maxUpdateArchiveBytes then
    .error .archive
  else inDirectory root temporary fun files => appendFile files directive.archiveName bytes

/-- `download_archive` once the body has ended, or broken off -/
def finishDownload (p : StagePlatform) (root : StagingRoot) (directive : UpdateDirective)
    (received : Bytes) : StageAnswer → Except UpdateStagingError StagingRoot
  | .done =>
    if received.length ≠ directive.archiveSize.toNat ∨
        hex (p.crypto.sha256 received).val ≠ directive.archiveSha256 then
      .error .archive
    else .ok root
  | .broken => .error .download
  | _ => .error .state

/-- A step of `stage_update`, on what is below `update-staging`. -/
def stageStep (p : StagePlatform) (root : StagingRoot) (id : Uuid) (attempt : StageAttempt)
    (answer : StageAnswer) (left : Option StagingEntry) : StagingRoot × StagePhase :=
  let directive := attempt.directive
  let final := directoryName directive.releaseId
  let temporary := temporaryName directive.releaseId id
  match attempt.phase with
  | .beginning =>
    match verifyDirective p.toUpdatePlatform attempt.agent attempt.assignedChannel directive with
    | .error error => (root, .returned (.error error))
    | .ok verified =>
      if answer ≠ .done then (root, .returned (.error .state))
      else if final ∈ root then (root, .reusing verified false)
      else (root, .creating verified)
  | .creating verified =>
    staging root temporary left (.writingManifest verified)
      (whenDone answer (ensurePrivateDirectory root temporary))
  | .writingManifest verified =>
    staging root temporary left (.writingSignature verified) (whenDone answer
      (inDirectory root temporary fun files =>
        createNewPrivate files manifestFile verified.manifestBytes))
  | .writingSignature verified =>
    staging root temporary left (.requesting verified) (whenDone answer
      (inDirectory root temporary fun files =>
        createNewPrivate files signatureFile verified.signatureBytes.val))
  | .requesting verified =>
    staging root temporary left (.receiving verified []) (openDownload root temporary directive answer)
  | .receiving verified received =>
    match answer with
    | .chunk bytes =>
      staging root temporary left (.receiving verified (received ++ bytes))
        (receiveChunk root temporary directive received bytes)
    | _ =>
      staging root temporary left (.writingReady verified)
        (finishDownload p root directive received answer)
  | .writingReady verified =>
    staging root temporary left (.movingDirectory verified) (whenDone answer
      (inDirectory root temporary fun files => writeJson p files readyFile (stagedRequest directive)))
  | .movingDirectory verified =>
    match whenDone answer (okOr .state (renameDirectory root temporary final)) with
    | .ok root => (root, .syncing)
    | .error _ => (leave root temporary left, .reusing verified true)
  | .reusing verified raced =>
    match whenDone answer (verifyExistingStage p root final (stagedRequest directive) verified) with
    | .ok () => (root, if raced then .syncing else .publishing)
    | .error error => (root, .returned (.error error))
  | .syncing => (root, if answer = .done then .publishing else .returned (.error .state))
  | .publishing =>
    match whenDone answer (okOr .state (stateText p (stagedRequest directive))) with
    | .ok _ => (root, .returned (.ok (stagedRequest directive)))
    | .error error => (root, .returned (.error error))
  | .returned _ | .crashed => (root, attempt.phase)

/-- `publish_request`: what the step makes of `update-request.json`. -/
def publishRequest (p : StagePlatform) (attempt : StageAttempt) (answer : StageAnswer)
    (updateRequest : Option Bytes) : Option Bytes :=
  match attempt.phase with
  | .publishing =>
    if answer = .done ∨ answer = .unsynced then
      match stateText p (stagedRequest attempt.directive) with
      | some bytes => some bytes
      | none => updateRequest
    else updateRequest
  | _ => updateRequest

/-- The state directory of an Agent, and the calls of `stage_update` under the identifiers that
`Uuid::new_v4` gives them. -/
structure StagingState where
  stagingRoot : StagingRoot
  updateRequest : Option Bytes
  attempts : Map Uuid StageAttempt

def StagingState.empty : StagingState := ⟨∅, none, ∅⟩

inductive StagingEvent
  | start (id : Uuid) (agent : AgentInstallation) (assignedChannel : UpdateChannel)
      (directive : UpdateDirective)
  | proceed (id : Uuid) (answer : StageAnswer) (left : Option StagingEntry)
  | crash (id : Uuid) (left : Option StagingEntry)
  | applied

/-- What a call of `stage_update` has returned, and the request that is published then. -/
structure StageOutcome where
  id : Uuid
  result : Except UpdateStagingError StagedUpdateRequest
  updateRequest : Option Bytes

def StagingState.next (p : StagePlatform) (s : StagingState) :
    StagingEvent → Option StageOutcome × StagingState
  | .start id agent assignedChannel directive =>
    if id ∈ s.attempts then (none, s)
    else
      (none, { s with attempts := s.attempts.insert id ⟨agent, assignedChannel, directive, .beginning⟩ })
  | .proceed id answer left =>
    match s.attempts.lookup id with
    | none => (none, s)
    | some attempt =>
      if attempt.phase.ended then (none, s)
      else
        let (root, phase) := stageStep p s.stagingRoot id attempt answer left
        let updateRequest := publishRequest p attempt answer s.updateRequest
        let outcome := match phase with
          | .returned result => some ⟨id, result, updateRequest⟩
          | _ => none
        (outcome, ⟨root, updateRequest, s.attempts.insert id { attempt with phase := phase }⟩)
  | .crash id left =>
    match s.attempts.lookup id with
    | none => (none, s)
    | some attempt =>
      if attempt.phase.ended then (none, s)
      else
        (none, { s with
          stagingRoot := leave s.stagingRoot (temporaryName attempt.directive.releaseId id) left
          attempts := s.attempts.insert id { attempt with phase := .crashed } })
  | .applied => (none, { s with updateRequest := none })

end XsNexus
