import XsNexus.Crypto
import XsNexus.Configuration
import XsNexus.Text

namespace XsNexus

open ByteCodec

structure ReleaseVersion where
  major : UInt32
  minor : UInt32
  patch : UInt32
deriving DecidableEq

namespace ReleaseVersion

/-- The derived order -/
def lt (left right : ReleaseVersion) : Prop :=
  left.major < right.major ∨ (left.major = right.major ∧
    (left.minor < right.minor ∨ (left.minor = right.minor ∧ left.patch < right.patch)))

instance : LT ReleaseVersion := ⟨lt⟩

instance (left right : ReleaseVersion) : Decidable (left < right) :=
  inferInstanceAs (Decidable (_ ∨ _))

/-- `fmt::Display` -/
def text (version : ReleaseVersion) : String :=
  decimalText version.major.toNat ++ "." ++ decimalText version.minor.toNat ++ "." ++
    decimalText version.patch.toNat

/-- `str::parse` of a number below the limit, for a text of digits -/
def parseDigits (digits : List Char) (limit : Nat) : Option Nat :=
  let value := Nat.ofDigitChars 10 digits 0
  if value < limit then some value else none

def parseVersionComponent (component : List Char) : Option UInt32 :=
  if component = [] ∨ (component.length > 1 ∧ component.head? = some '0') ∨
      !component.all Char.isDigit then
    none
  else (parseDigits component (2 ^ 32)).map UInt32.ofNat

/-- `FromStr` -/
def parse (value : String) : Option ReleaseVersion :=
  if value.toList = [] ∨ value.toList.any (fun c => !c.isDigit && decide (c ≠ '.')) then none
  else
    match value.toList.splitOn '.' with
    | [major, minor, patch] => do
      some ⟨← parseVersionComponent major, ← parseVersionComponent minor,
        ← parseVersionComponent patch⟩
    | _ => none

end ReleaseVersion

inductive ReleaseManifestError
  | size | encoding | format | fieldCount | version | architecture | target | archive | archiveSize
  | archiveHash
deriving DecidableEq

structure LinuxReleaseManifest where
  version : ReleaseVersion
  architecture : String
  target : String
  archive : String
  archiveSize : UInt64
  archiveSha256 : String
deriving DecidableEq

/-- `split_once` -/
def splitOnce (separator : Char) : List Char → Option (List Char × List Char)
  | [] => none
  | c :: rest =>
    if c = separator then some ([], rest)
    else (splitOnce separator rest).map fun (name, value) => (c :: name, value)

def fieldValue (field : List Char) (expectedName : String) :
    Except ReleaseManifestError (List Char) :=
  match splitOnce '=' field with
  | none => .error .format
  | some (name, value) =>
    if name ≠ expectedName.toList ∨ value = [] ∨ '=' ∈ value then .error .format else .ok value

def exactField (field : List Char) (expectedName expectedValue : String) :
    Except ReleaseManifestError Unit := do
  let value ← fieldValue field expectedName
  if value ≠ expectedValue.toList then .error .format else .ok ()

def isLowerHex (c : Char) : Bool := c.isDigit || decide ('a' ≤ c ∧ c ≤ 'f')

def maxUpdateArchiveBytes : Nat := 512 * 1024 * 1024

namespace LinuxReleaseManifest

/-- The fields of a manifest, one after the other -/
def parseFields : List (List Char) → Except ReleaseManifestError LinuxReleaseManifest
  | [schemaVersion, product, versionField, platform, architectureField, targetField, archiveField,
      archiveSizeField, archiveSha256Field] => do
    exactField schemaVersion "schema_version" "1"
    exactField product "product" "xs-nexus"
    let versionText ← fieldValue versionField "version"
    match ReleaseVersion.parse (String.ofList versionText) with
    | none => .error .version
    | some version => do
      exactField platform "platform" "linux"
      let architecture ← fieldValue architectureField "architecture"
      if architecture ≠ "x86_64".toList ∧ architecture ≠ "aarch64".toList then .error .architecture
      else do
        let target ← fieldValue targetField "target"
        if target ≠ architecture ++ "-unknown-linux-gnu".toList then .error .target
        else do
          let archive ← fieldValue archiveField "archive"
          if archive ≠ "xs-nexus-".toList ++ version.text.toList ++ "-".toList ++ target ++
              ".tar.gz".toList then
            .error .archive
          else do
            let archiveSizeText ← fieldValue archiveSizeField "archive_size"
            if archiveSizeText.head? = some '0' ∨ !archiveSizeText.all Char.isDigit then
              .error .archiveSize
            else
              match (ReleaseVersion.parseDigits archiveSizeText (2 ^ 64)).filter fun size =>
                  1 ≤ size ∧ size ≤ maxUpdateArchiveBytes with
              | none => .error .archiveSize
              | some archiveSize => do
                let archiveSha256 ← fieldValue archiveSha256Field "archive_sha256"
                if archiveSha256.length ≠ 64 ∨ !archiveSha256.all isLowerHex then
                  .error .archiveHash
                else
                  .ok {
                    version := version
                    architecture := String.ofList architecture
                    target := String.ofList target
                    archive := String.ofList archive
                    archiveSize := UInt64.ofNat archiveSize
                    archiveSha256 := String.ofList archiveSha256 }
  | _ => .error .fieldCount

def parseText (text : List Char) : Except ReleaseManifestError LinuxReleaseManifest :=
  if '\r' ∈ text ∨ ['\n', '\n'] <:+ text then .error .format
  else
    let text := if text.getLast? = some '\n' then text.dropLast else text
    parseFields (text.splitOn '\n')

def parse (encoded : Bytes) : Except ReleaseManifestError LinuxReleaseManifest :=
  if encoded = [] ∨ encoded.length > 4096 then .error .size
  else
    match String.fromUTF8? ⟨encoded.toArray⟩ with
    | none => .error .encoding
    | some text => parseText text.toList

end LinuxReleaseManifest

inductive UpdateDecision
  | channelMismatch | paused | upToDate | required | eligible | deferred
deriving DecidableEq

inductive UpdatePolicyError
  | schema | rollout | minimumExceedsTarget
deriving DecidableEq

structure UpdateRolloutPolicy where
  schemaVersion : UInt8
  releaseId : Block 16
  channel : UpdateChannel
  targetVersion : ReleaseVersion
  minimumVersion : Option ReleaseVersion
  rolloutBasisPoints : UInt16
  paused : Bool

def maxRolloutBasisPoints : UInt16 := 10000

def updateBucketDomain : Bytes := utf8 "XS Nexus update rollout bucket v1"

def rolloutBucket (c : Crypto) (networkId releaseId nodeId : Block 16) : Nat :=
  let digest := c.sha256 (updateBucketDomain ++ networkId.val ++ releaseId.val ++ nodeId.val)
  beNat (digest.val.take 8) % maxRolloutBasisPoints.toNat

namespace UpdateRolloutPolicy

def validate (policy : UpdateRolloutPolicy) : Except UpdatePolicyError Unit :=
  if policy.schemaVersion ≠ 1 then .error .schema
  else if policy.rolloutBasisPoints > maxRolloutBasisPoints then .error .rollout
  else if policy.minimumVersion.any fun minimum => policy.targetVersion < minimum then
    .error .minimumExceedsTarget
  else .ok ()

def decide (c : Crypto) (policy : UpdateRolloutPolicy) (networkId nodeId : Block 16)
    (nodeChannel : UpdateChannel) (currentVersion : ReleaseVersion) :
    Except UpdatePolicyError UpdateDecision := do
  policy.validate
  if nodeChannel ≠ policy.channel then .ok .channelMismatch
  else if policy.paused then .ok .paused
  else if ¬currentVersion < policy.targetVersion then .ok .upToDate
  else if policy.minimumVersion.any fun minimum => currentVersion < minimum then .ok .required
  else if rolloutBucket c networkId policy.releaseId nodeId < policy.rolloutBasisPoints.toNat then
    .ok .eligible
  else .ok .deferred

end UpdateRolloutPolicy

inductive AgentUpdateState
  | idle | downloading | staged | applying | failed
deriving DecidableEq

structure AgentRuntimeReport where
  schemaVersion : UInt8
  networkId : Block 16
  nodeIdBase64 : String
  agentVersion : ReleaseVersion
  platform : String
  architecture : String
  updateChannel : UpdateChannel
  updateState : AgentUpdateState
  observedReleaseId : Option (Block 16)
  lastErrorCode : Option String
  generatedAt : Int
deriving DecidableEq

structure UpdateDirective where
  schemaVersion : UInt8
  policyGeneration : UInt64
  releaseId : Block 16
  decision : UpdateDecision
  channel : UpdateChannel
  version : ReleaseVersion
  minimumVersion : Option ReleaseVersion
  platform : String
  architecture : String
  archiveName : String
  archiveSize : UInt64
  archiveSha256 : String
  archiveUrl : String
  manifestBase64 : String
  signatureBase64 : String
deriving DecidableEq

/-- What the update code reads of a parsed URL. -/
structure Url where
  text : String
  scheme : String
  host : Option String
  username : String
  password : Option String
  fragment : Option String
  pathSegments : Option (List String)
deriving DecidableEq

/-- What the updates take from other crates: `Verifier::verify`, the points that `verify_strict` refuses
besides, `Url::parse` and the JSON text of a report. -/
structure UpdatePlatform where
  crypto : Crypto
  formats : Formats
  verify : VerifyingKey → Bytes → Block 64 → Bool
  smallOrder : Bytes → Bool
  url : String → Option Url
  runtimeReportText : AgentRuntimeReport → Option Bytes

variable (u : UpdatePlatform)

/-- `validate_archive_url`, which the controller and the Agent each have -/
def validateArchiveUrl (value archiveName : String) : Option Url := do
  if (utf8 value).length > 2048 then none
  else do
    let url ← u.url value
    let segments ← url.pathSegments
    let finalSegment ← segments.getLast?
    if url.scheme ≠ "https" ∨ url.host = none ∨ url.username ≠ "" ∨ url.password ≠ none ∨
        url.fragment ≠ none ∨ finalSegment ≠ archiveName then
      none
    else some url

/-- `decode_canonical`, which the controller and the Agent each have -/
def decodeCanonical (value : String) (maximum : Nat) : Option Bytes := do
  let decoded ← u.formats.base64Decode value
  if decoded = [] ∨ decoded.length > maximum ∨ u.formats.base64Encode decoded ≠ value then none
  else some decoded

def hexNibble (c : Char) : Option Nat :=
  if c.isDigit then some (c.toNat - '0'.toNat)
  else if 'a' ≤ c ∧ c ≤ 'f' then some (c.toNat - 'a'.toNat + 10)
  else none

def decodeHexPairs : List Char → Option Bytes
  | high :: low :: rest => do
    let high ← hexNibble high
    let low ← hexNibble low
    let bytes ← decodeHexPairs rest
    some (UInt8.ofNat (16 * high + low) :: bytes)
  | [] => some []
  | [_] => none

def decodeLowerHex (value : String) : Option Bytes :=
  if (utf8 value).length ≠ 64 then none else decodeHexPairs value.toList

end XsNexus
