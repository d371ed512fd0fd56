import XsNexus.Releases
import XsNexus.Enrollment

namespace XsNexus

open ByteCodec Checks

/-- The errors of the update requests. -/
inductive UpdateError
  | unavailable | unauthorized | validation | notFound | conflict | internal
deriving DecidableEq

structure CreateUpdateReleaseRequest where
  manifestBase64 : String
  signatureBase64 : String
  archiveUrl : String

structure ReplaceUpdatePolicyRequest where
  expectedGeneration : UInt64
  releaseId : Uuid
  minimumVersion : Option String
  rolloutBasisPoints : UInt16
  paused : Bool

structure ReleaseRow where
  id : Uuid
  version : String
  platform : String
  architecture : String
  target : String
  archiveName : String
  archiveSize : Nat
  archiveSha256 : Bytes
  archiveUrl : String
  manifest : Bytes
  manifestSha256 : Block 32
  signature : Block 64
  createdAt : Int
deriving DecidableEq

structure UpdatePolicyRow where
  networkId : Uuid
  channel : UpdateChannel
  platform : String
  architecture : String
  releaseId : Uuid
  minimumVersion : Option String
  rolloutBasisPoints : Nat
  paused : Bool
  generation : Nat
deriving DecidableEq

/-- The last report of a node. -/
structure RuntimeReportRow where
  nodeId : Block 16
  agentVersion : String
  platform : String
  architecture : String
  updateChannel : UpdateChannel
  updateState : AgentUpdateState
  observedReleaseId : Option Uuid
  lastErrorCode : Option String
  generatedAt : Int
deriving DecidableEq

structure UpdateTables where
  releases : List ReleaseRow
  policies : List UpdatePolicyRow
  reports : List RuntimeReportRow
deriving DecidableEq

structure UpdateReleaseResponse where
  id : Uuid
  version : String
  platform : String
  architecture : String
  target : String
  archiveName : String
  archiveSize : UInt64
  archiveSha256 : String
  archiveUrl : String
  createdAt : Int

structure UpdatePolicyResponse where
  networkId : Uuid
  channel : UpdateChannel
  platform : String
  architecture : String
  release : UpdateReleaseResponse
  minimumVersion : Option String
  rolloutBasisPoints : UInt16
  paused : Bool
  generation : UInt64
  updatedAt : Int

variable (u : UpdatePlatform)

def releaseResponse (row : ReleaseRow) : UpdateReleaseResponse where
  id := row.id
  version := row.version
  platform := row.platform
  architecture := row.architecture
  target := row.target
  archiveName := row.archiveName
  archiveSize := UInt64.ofNat row.archiveSize
  archiveSha256 := hex row.archiveSha256
  archiveUrl := row.archiveUrl
  createdAt := row.createdAt

/-- What the data base refuses of a release: its unique columns and `char_length(archive_url)`. -/
def releaseRowRefused (rows : List ReleaseRow) (row : ReleaseRow) : Bool :=
  rows.any (fun stored => decide (stored.id = row.id ∨ stored.manifestSha256 = row.manifestSha256 ∨
    (stored.version = row.version ∧ stored.platform = row.platform ∧
      stored.architecture = row.architecture))) ||
  !decide (1 ≤ row.archiveUrl.length ∧ row.archiveUrl.length ≤ 2048)

def createRelease (updateSigningPublicKey : Option VerifyingKey) (tables : UpdateTables)
    (request : CreateUpdateReleaseRequest) (id : Uuid) (now : Int) :
    Except UpdateError (UpdateReleaseResponse × UpdateTables) := do
  let verifyingKey ← okOr .unavailable updateSigningPublicKey
  let manifestBytes ← okOr .validation (decodeCanonical u request.manifestBase64 4096)
  let signatureBytes ← okOr .validation (decodeCanonical u request.signatureBase64 64)
  let signature ← okOr .validation (array 64 signatureBytes)
  if !u.verify verifyingKey manifestBytes signature then .error .validation
  else do
    let manifest ← (LinuxReleaseManifest.parse manifestBytes).mapError fun _ => UpdateError.validation
    let archiveUrl ← okOr .validation (validateArchiveUrl u request.archiveUrl manifest.archive)
    let archiveHash ← okOr .validation (decodeLowerHex manifest.archiveSha256)
    if manifest.archiveSize.toNat ≥ bigintLimit then .error .validation
    else
      let row : ReleaseRow := {
        id := id
        version := manifest.version.text
        platform := "linux"
        architecture := manifest.architecture
        target := manifest.target
        archiveName := manifest.archive
        archiveSize := manifest.archiveSize.toNat
        archiveSha256 := archiveHash
        archiveUrl := archiveUrl.text
        manifest := manifestBytes
        manifestSha256 := u.crypto.sha256 manifestBytes
        signature := signature
        createdAt := now }
      if releaseRowRefused tables.releases row then .error .conflict
      else .ok (releaseResponse row, { tables with releases := tables.releases ++ [row] })

def parseChannel : String → Option UpdateChannel
  | "stable" => some .stable
  | "testing" => some .testing
  | "development" => some .development
  | _ => none

/-- `parse::<ReleaseVersion>().transpose()` -/
def parseMinimumVersion : Option String → Option (Option ReleaseVersion)
  | none => some none
  | some text => (ReleaseVersion.parse text).map some

def samePolicy (networkId : Uuid) (channel : UpdateChannel) (platform architecture : String)
    (row : UpdatePolicyRow) : Bool :=
  decide (row.networkId = networkId ∧ row.channel = channel ∧ row.platform = platform ∧
    row.architecture = architecture)

/-- `INSERT … ON CONFLICT (network_id, channel, platform, architecture) DO UPDATE` -/
def persistPolicy (rows : List UpdatePolicyRow) (row : UpdatePolicyRow) : List UpdatePolicyRow :=
  let same := samePolicy row.networkId row.channel row.platform row.architecture
  if rows.any same then rows.map fun stored => if same stored then row else stored
  else rows ++ [row]

def replacePolicy (db : Database) (tables : UpdateTables) (networkId : Uuid)
    (channel platform architecture : String) (request : ReplaceUpdatePolicyRequest) (now : Int) :
    Except UpdateError (UpdatePolicyResponse × UpdateTables) := do
  let channel ← okOr .validation (parseChannel channel)
  if platform ≠ "linux" ∨ (architecture ≠ "x86_64" ∧ architecture ≠ "aarch64") then .error .validation
  else do
    let minimumVersion ← okOr .validation (parseMinimumVersion request.minimumVersion)
    let _ ← okOr .notFound (db.network networkId)
    let release ← okOr .notFound (tables.releases.find? fun row => row.id = request.releaseId)
    if release.platform ≠ platform ∨ release.architecture ≠ architecture then .error .validation
    else do
      let targetVersion ← okOr .internal (ReleaseVersion.parse release.version)
      let policy : UpdateRolloutPolicy := {
        schemaVersion := 1
        releaseId := request.releaseId
        channel := channel
        targetVersion := targetVersion
        minimumVersion := minimumVersion
        rolloutBasisPoints := request.rolloutBasisPoints
        paused := request.paused }
      policy.validate.mapError fun _ => UpdateError.validation
      let currentGeneration := ((tables.policies.find?
        (samePolicy networkId channel platform architecture)).map UpdatePolicyRow.generation).getD 0
      if request.expectedGeneration.toNat ≥ bigintLimit then .error .validation
      else if currentGeneration ≠ request.expectedGeneration.toNat then .error .conflict
      else if currentGeneration + 1 ≥ bigintLimit then .error .conflict
      else
        let row : UpdatePolicyRow := {
          networkId := networkId
          channel := channel
          platform := platform
          architecture := architecture
          releaseId := request.releaseId
          minimumVersion := minimumVersion.map ReleaseVersion.text
          rolloutBasisPoints := request.rolloutBasisPoints.toNat
          paused := request.paused
          generation := currentGeneration + 1 }
        .ok ({
          networkId := networkId
          channel := channel
          platform := platform
          architecture := architecture
          release := releaseResponse release
          minimumVersion := row.minimumVersion
          rolloutBasisPoints := request.rolloutBasisPoints
          paused := request.paused
          generation := UInt64.ofNat row.generation
          updatedAt := now }, { tables with policies := persistPolicy tables.policies row })

def assignedUpdateChannel (db : Database) (authenticated : AuthenticatedNode) :
    Except UpdateError UpdateChannel := do
  let node ← okOr .unauthorized (db.activeNode authenticated.networkId authenticated.nodeId)
  .ok node.updateChannel

def validErrorCode (value : String) : Bool :=
  decide (value.toList ≠ [] ∧ (utf8 value).length ≤ 64) && value.toList.zipIdx.all fun (c, index) =>
    c.isLower || decide (0 < index) && (c.isDigit || decide (c = '_'))

def validPlatformArchitecture (platform architecture : String) : Bool :=
  decide ((platform, architecture) ∈ [("linux", "x86_64"), ("windows", "x86_64"), ("linux", "aarch64")])

def validateRuntimeReport (authenticated : AuthenticatedNode) (assignedChannel : UpdateChannel)
    (report : AgentRuntimeReport) (utcNow : Int) : Except UpdateError Unit :=
  let ageSeconds := ((utcNow - report.generatedAt).tdiv (seconds 1)).natAbs
  let validError := match report.updateState with
    | .failed => report.lastErrorCode.any validErrorCode
    | _ => report.lastErrorCode.isNone
  if report.schemaVersion ≠ 1 ∨ report.networkId ≠ authenticated.networkId ∨
      report.nodeIdBase64 ≠ authenticated.nodeIdBase64 ∨ report.updateChannel ≠ assignedChannel ∨
      ageSeconds > 300 ∨ !validPlatformArchitecture report.platform report.architecture ∨
      !validError then
    .error .validation
  else .ok ()

def updateReportDomain : Bytes := utf8 "XS Nexus Agent runtime report v1"

/-- `agent_runtime_report_signing_input` -/
def agentRuntimeReportSigningInput (report : AgentRuntimeReport) : Option Bytes :=
  (u.runtimeReportText report).map fun payload => updateReportDomain ++ payload

/-- `INSERT … ON CONFLICT (node_id) DO UPDATE … WHERE generated_at < EXCLUDED.generated_at` -/
def persistReport (tables : UpdateTables) (row : RuntimeReportRow) : Except UpdateError UpdateTables :=
  if row.observedReleaseId.any fun id => tables.releases.all fun release => release.id ≠ id then
    -- the foreign key of the observed release
    .error .conflict
  else
    match tables.reports.find? fun stored => stored.nodeId = row.nodeId with
    | none => .ok { tables with reports := tables.reports ++ [row] }
    | some stored =>
      if stored.generatedAt < row.generatedAt then
        .ok { tables with reports := tables.reports.map fun stored =>
          if stored.nodeId = row.nodeId then row else stored }
      else .error .conflict

def directiveForReport (tables : UpdateTables) (authenticated : AuthenticatedNode)
    (report : AgentRuntimeReport) : Except UpdateError (Option UpdateDirective) :=
  match tables.policies.find? (samePolicy authenticated.networkId report.updateChannel report.platform
      report.architecture) with
  | none => .ok none
  | some row =>
    match tables.releases.find? fun release => release.id = row.releaseId with
    | none => .ok none
    | some release => do
      let targetVersion ← okOr .internal (ReleaseVersion.parse release.version)
      let minimumVersion ← okOr .internal (parseMinimumVersion row.minimumVersion)
      if row.rolloutBasisPoints ≥ 2 ^ 16 then .error .internal
      else do
        let policy : UpdateRolloutPolicy := {
          schemaVersion := 1
          releaseId := row.releaseId
          channel := report.updateChannel
          targetVersion := targetVersion
          minimumVersion := minimumVersion
          rolloutBasisPoints := UInt16.ofNat row.rolloutBasisPoints
          paused := row.paused }
        let decision ← (policy.decide u.crypto authenticated.networkId authenticated.nodeId
          report.updateChannel report.agentVersion).mapError fun _ => UpdateError.internal
        if decision ≠ .eligible ∧ decision ≠ .required then .ok none
        else
          .ok (some {
            schemaVersion := 1
            policyGeneration := UInt64.ofNat row.generation
            releaseId := row.releaseId
            decision := decision
            channel := report.updateChannel
            version := targetVersion
            minimumVersion := minimumVersion
            platform := release.platform
            architecture := release.architecture
            archiveName := release.archiveName
            archiveSize := UInt64.ofNat release.archiveSize
            archiveSha256 := hex release.archiveSha256
            archiveUrl := release.archiveUrl
            manifestBase64 := u.formats.base64Encode release.manifest
            signatureBase64 := u.formats.base64Encode release.signature.val })

def recordRuntimeReport (db : Database) (tables : UpdateTables) (authenticated : AuthenticatedNode)
    (report : AgentRuntimeReport) (signatureBase64 : String) (utcNow : Int) :
    Except UpdateError (Option UpdateDirective × UpdateTables) := do
  let assignedChannel ← assignedUpdateChannel db authenticated
  validateRuntimeReport authenticated assignedChannel report utcNow
  let signatureBytes ← okOr .validation (decodeCanonical u signatureBase64 64)
  let signature ← okOr .validation (array 64 signatureBytes)
  let verifyingKey ← okOr .validation
    (u.crypto.verifyingKeyFromBytes authenticated.identityPublicKey)
  let signingInput ← okOr .validation (agentRuntimeReportSigningInput u report)
  if !u.crypto.verifyStrict verifyingKey signingInput signature then .error .validation
  else do
    let tables ← persistReport tables {
      nodeId := authenticated.nodeId
      agentVersion := report.agentVersion.text
      platform := report.platform
      architecture := report.architecture
      updateChannel := report.updateChannel
      updateState := report.updateState
      observedReleaseId := report.observedReleaseId
      lastErrorCode := report.lastErrorCode
      generatedAt := timestamptz report.generatedAt }
    let directive ← directiveForReport u tables authenticated report
    .ok (directive, tables)

/-- The tables that the requests of the updates come to; the networks and nodes are what they are at
each of them. -/
inductive ReachableUpdates (updateSigningPublicKey : VerifyingKey) : UpdateTables → Prop
  | initial : ReachableUpdates updateSigningPublicKey ⟨[], [], []⟩
  | createRelease {tables tables' : UpdateTables} {request : CreateUpdateReleaseRequest} {id : Uuid}
      {now : Int} {response : UpdateReleaseResponse}
      (h : ReachableUpdates updateSigningPublicKey tables)
      (hs : XsNexus.createRelease u (some updateSigningPublicKey) tables request id now =
        .ok (response, tables')) :
      ReachableUpdates updateSigningPublicKey tables'
  | replacePolicy {db : Database} {tables tables' : UpdateTables} {networkId : Uuid}
      {channel platform architecture : String} {request : ReplaceUpdatePolicyRequest} {now : Int}
      {response : UpdatePolicyResponse} (h : ReachableUpdates updateSigningPublicKey tables)
      (hs : XsNexus.replacePolicy db tables networkId channel platform architecture request now =
        .ok (response, tables')) :
      ReachableUpdates updateSigningPublicKey tables'
  | recordRuntimeReport {db : Database} {tables tables' : UpdateTables}
      {authenticated : AuthenticatedNode} {report : AgentRuntimeReport} {signatureBase64 : String}
      {utcNow : Int} {directive : Option UpdateDirective}
      (h : ReachableUpdates updateSigningPublicKey tables)
      (hs : XsNexus.recordRuntimeReport u db tables authenticated report signatureBase64 utcNow =
        .ok (directive, tables')) :
      ReachableUpdates updateSigningPublicKey tables'

end XsNexus
