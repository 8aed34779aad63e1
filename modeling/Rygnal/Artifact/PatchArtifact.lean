import Rygnal.Artifact.RiskSummary
import Rygnal.Approval.PatchApproval
import Rygnal.Core.CanonicalJson
import Rygnal.Library.Base64

/-! # Patch artifacts

`PatchArtifact` and `PatchArtifactStore`: what a pending patch is persisted as, the checks
with which it is loaded, and its mark as consumed. The directory of the store is a map from
artifact ids to files; what the clock, the locks and the disk answer are arguments.
-/

namespace Rygnal.Artifact
open Rygnal.Core Rygnal.Core.PyException Rygnal.Library Rygnal.Library.PyText Rygnal.ChangeRisk
  Rygnal.Approval

def patchArtifactSchemaVersion : String := "patch-artifact.v1"

def statePending : String := "pending"

def stateConsumed : String := "consumed"

def maxPatchArtifactBytes : ℕ := 64 * 1024 * 1024

/-- `hashlib.sha256(data).hexdigest()` of bytes. -/
class BytesDigest where
  sha256 : List UInt8 → String

/-- `fromisoformat` tells whether the text names a time zone. -/
class IsoDateTime extends IsoTime where
  hasTimezone : Text → Bool

structure PatchArtifact where
  schemaVersion : String
  artifactId : String
  runId : String
  traceId : String
  approvalRequestId : String
  trustedRepoPath : String
  trustedRepoIdentitySha256 : String
  baselineCommitSha : String
  workspacePath : String
  patchBase64 : String
  patchSha256 : String
  patchSizeBytes : ℤ
  files : List Dict
  ignoredFiles : List Dict
  riskSummary : Dict
  intentSummary : Dict
  createdAt : String
  expiresAt : String
  state : String
  consumedAt : Option String
  artifactDigest : String
deriving DecidableEq, Repr

/-! ## Payload -/

namespace PatchArtifact

/-- `to_payload(include_digest=False)`. -/
def toPayload (artifact : PatchArtifact) : Dict :=
  [("schema_version", .str artifact.schemaVersion), ("artifact_id", .str artifact.artifactId),
    ("run_id", .str artifact.runId), ("trace_id", .str artifact.traceId),
    ("approval_request_id", .str artifact.approvalRequestId),
    ("trusted_repo_path", .str artifact.trustedRepoPath),
    ("trusted_repo_identity_sha256", .str artifact.trustedRepoIdentitySha256),
    ("baseline_commit_sha", .str artifact.baselineCommitSha),
    ("workspace_path", .str artifact.workspacePath), ("patch_base64", .str artifact.patchBase64),
    ("patch_sha256", .str artifact.patchSha256),
    ("patch_size_bytes", .int artifact.patchSizeBytes),
    ("files", .list (artifact.files.map Value.dict)),
    ("ignored_files", .list (artifact.ignoredFiles.map Value.dict)),
    ("risk_summary", .dict artifact.riskSummary), ("intent_summary", .dict artifact.intentSummary),
    ("created_at", .str artifact.createdAt), ("expires_at", .str artifact.expiresAt),
    ("state", .str artifact.state), ("consumed_at", optionValue artifact.consumedAt)]

/-- `to_payload()`. -/
def toPayloadWithDigest (artifact : PatchArtifact) : Dict :=
  artifact.toPayload ++ [("artifact_digest", .str artifact.artifactDigest)]

def requiredFields : List String :=
  ["schema_version", "artifact_id", "run_id", "trace_id", "approval_request_id",
    "trusted_repo_path", "trusted_repo_identity_sha256", "baseline_commit_sha", "workspace_path",
    "patch_base64", "patch_sha256", "patch_size_bytes", "files", "ignored_files", "risk_summary",
    "intent_summary", "created_at", "expires_at", "state", "consumed_at", "artifact_digest"]

/-- `patch_bytes`. -/
def patchBytes (artifact : PatchArtifact) : Except PyException (List UInt8) :=
  match Base64.decode artifact.patchBase64.toList with
  | some bytes => .ok bytes
  | none => .error (tamperedError "Patch artifact contains invalid base64 patch data.")

end PatchArtifact

/-- `", ".join(sorted(names))`. -/
def joinSorted (names : List String) : String :=
  ", ".intercalate (names.insertionSort (· ≤ ·))

section Payload
variable [Conversions]

def valueStr (v : Value) : String := pyStr (PyValue.ofValue v)

/-- `dict(value)` of a JSON value. -/
def valueDict : Value → Except PyException Dict
  | .dict entries => .ok entries
  | v => Conversions.jsonDict v

/-- `tuple(dict(item) for item in value)` of a JSON value. -/
def valueDicts : Value → Except PyException (List Dict)
  | .list items => items.mapM valueDict
  | v => (Conversions.jsonIter v).bind fun items => items.mapM valueDict

/-- The conversions of `_artifact_from_payload`. -/
def artifactOfFields (payload : Dict) : Except PyException PatchArtifact := do
  let field (name : String) : Value := (PyDict.get payload name).getD .none
  let patchSizeBytes ← pyInt (PyValue.ofValue (field "patch_size_bytes"))
  let files ← valueDicts (field "files")
  let ignoredFiles ← valueDicts (field "ignored_files")
  let riskSummary ← valueDict (field "risk_summary")
  let intentSummary ← valueDict (field "intent_summary")
  return {
    schemaVersion := valueStr (field "schema_version")
    artifactId := valueStr (field "artifact_id")
    runId := valueStr (field "run_id")
    traceId := valueStr (field "trace_id")
    approvalRequestId := valueStr (field "approval_request_id")
    trustedRepoPath := valueStr (field "trusted_repo_path")
    trustedRepoIdentitySha256 := valueStr (field "trusted_repo_identity_sha256")
    baselineCommitSha := valueStr (field "baseline_commit_sha")
    workspacePath := valueStr (field "workspace_path")
    patchBase64 := valueStr (field "patch_base64")
    patchSha256 := valueStr (field "patch_sha256")
    patchSizeBytes := patchSizeBytes
    files := files
    ignoredFiles := ignoredFiles
    riskSummary := riskSummary
    intentSummary := intentSummary
    createdAt := valueStr (field "created_at")
    expiresAt := valueStr (field "expires_at")
    state := valueStr (field "state")
    consumedAt := optionalString ((PyDict.get payload "consumed_at").map PyValue.ofValue)
    artifactDigest := valueStr (field "artifact_digest") }

/-- `_artifact_from_payload`. -/
def artifactFromPayload : Value → Except PyException PatchArtifact
  | .dict payload => do
    let missing := PatchArtifact.requiredFields.filter fun name => (PyDict.get payload name).isNone
    let extra := (payload.map Prod.fst).filter fun name => name ∉ PatchArtifact.requiredFields
    raiseIf (missing ≠ [])
      (tamperedError ("Patch artifact is missing fields: " ++ joinSorted missing))
    raiseIf (extra ≠ [])
      (tamperedError ("Patch artifact contains unknown fields: " ++ joinSorted extra))
    (artifactOfFields payload).mapError fun exc =>
      if exc.isInstance [.other "TypeError", .valueError, .other "KeyError"] then
        tamperedError "Patch artifact fields have invalid types."
      else exc
  | _ => .error (tamperedError "Patch artifact root must be a JSON object.")

end Payload

/-! ## Identifiers, times and digests -/

/-- `_require_identifier`. -/
def requireIdentifier (value label : String) : Except PyException String := do
  let normalized := strip value.toList
  raiseIf (normalized = []) (patchArtifactError (label ++ " must not be blank."))
  raiseIf (normalized.any fun c => !(isAscii c && (c.isAlphanum || c == '-' || c == '_')))
    (patchArtifactError (label ++ " contains unsupported characters."))
  raiseIf (160 < normalized.length) (patchArtifactError (label ++ " is too long."))
  return String.ofList normalized

section Verification
variable [IsoDateTime] [Digest] [BytesDigest] [FloatText]

/-- `_parse_timestamp`. -/
def parseTimestamp (value : String) : Except PyException ℤ :=
  match IsoTime.fromIsoFormat value.toList with
  | none => .error (tamperedError ("Invalid artifact timestamp: " ++ value))
  | some time =>
    if IsoDateTime.hasTimezone value.toList then .ok time
    else .error (tamperedError "Artifact timestamps must include timezone information.")

/-- `_artifact_digest`. -/
def artifactDigestOf (payload : Dict) : String :=
  Digest.sha256 (String.ofList (Value.canonicalJson (.dict payload)))

/-- `_with_integrity_digest`. -/
def withIntegrityDigest (artifact : PatchArtifact) : PatchArtifact :=
  { artifact with artifactDigest := artifactDigestOf artifact.toPayload }

/-- `_verify_artifact`; `repoIdentity` is `_repo_identity` for the file system of the call. -/
def verifyArtifact (repoIdentity : String → String) (artifact : PatchArtifact) :
    Except PyException Unit := do
  raiseIf (artifact.schemaVersion ≠ patchArtifactSchemaVersion)
    (tamperedError ("Unsupported patch artifact schema: " ++ artifact.schemaVersion))
  let _ ← requireIdentifier artifact.artifactId "artifact ID"
  let _ ← requireIdentifier artifact.runId "run ID"
  let _ ← requireIdentifier artifact.traceId "trace ID"
  let _ ← requireIdentifier artifact.approvalRequestId "approval request ID"
  raiseIf (artifact.state ≠ statePending ∧ artifact.state ≠ stateConsumed)
    (tamperedError ("Invalid patch artifact state: " ++ artifact.state))
  raiseIf (artifact.state = stateConsumed ∧ artifact.consumedAt = none)
    (tamperedError "Consumed artifact is missing consumed_at.")
  raiseIf (artifact.state = statePending ∧ artifact.consumedAt ≠ none)
    (tamperedError "Pending artifact must not have consumed_at.")
  let created ← parseTimestamp artifact.createdAt
  let expires ← parseTimestamp artifact.expiresAt
  raiseIf (expires ≤ created)
    (tamperedError "Patch artifact expiration must follow creation.")
  let bytes ← artifact.patchBytes
  raiseIf (BytesDigest.sha256 bytes ≠ artifact.patchSha256)
    (tamperedError "Patch artifact patch digest is invalid.")
  raiseIf ((bytes.length : ℤ) ≠ artifact.patchSizeBytes)
    (tamperedError "Patch artifact patch byte length is invalid.")
  raiseIf (repoIdentity artifact.trustedRepoPath ≠ artifact.trustedRepoIdentitySha256)
    (tamperedError "Patch artifact trusted repository identity is invalid.")
  raiseIf (artifactDigestOf artifact.toPayload ≠ artifact.artifactDigest)
    (tamperedError "Patch artifact integrity digest is invalid.")

/-! ## Files -/

/-- What reading the text of a file as JSON comes to. -/
inductive JsonRead where
  | parsed (payload : Value)
  | invalid
  | raised (exc : PyException)
deriving DecidableEq, Repr

inductive ArtifactFile where
  | irregular
  | regular (size : ℕ) (content : JsonRead)
deriving DecidableEq, Repr

/-- The artifact files of the store's directory, by their ids. -/
abbrev Directory := String → Option ArtifactFile

def notFoundError (artifactId : String) : PyException :=
  ⟨[.other "PatchArtifactNotFoundError", .patchArtifactError, .runtimeError, .exception,
    .baseException], "Patch artifact was not found: " ++ artifactId⟩

def consumedError (artifactId : String) : PyException :=
  ⟨[.other "PatchArtifactConsumedError", .patchArtifactError, .runtimeError, .exception,
    .baseException], "Patch artifact has already been consumed: " ++ artifactId⟩

def expiredError (artifactId : String) : PyException :=
  ⟨[.other "PatchArtifactExpiredError", .patchArtifactError, .runtimeError, .exception,
    .baseException], "Patch artifact has expired: " ++ artifactId⟩

/-- Read the payload of the file that stands at the path of the artifact. -/
def readFile (artifactId : String) : Option ArtifactFile → Except PyException Value
  | none => .error (notFoundError artifactId)
  | some .irregular =>
    .error (tamperedError "Patch artifact path is not a regular non-symlink file.")
  | some (.regular size content) =>
    if size = 0 ∨ maxPatchArtifactBytes < size then
      .error (tamperedError ("Patch artifact has invalid size: " ++ toString size))
    else
      match content with
      | .parsed payload => .ok payload
      | .invalid => .error (tamperedError "Patch artifact is not valid UTF-8 JSON.")
      | .raised exc => .error exc

def readPayload (directory : Directory) (artifactId : String) : Except PyException Value :=
  readFile artifactId (directory artifactId)

variable [Conversions]

/-- The checks of `load` on the payload of a file. -/
def loadPayload (repoIdentity : String → String) (now : ℤ) (artifactId normalizedId : String)
    (allowExpired allowConsumed : Bool) (payload : Value) : Except PyException PatchArtifact := do
  let artifact ← artifactFromPayload payload
  verifyArtifact repoIdentity artifact
  raiseIf (artifact.artifactId ≠ normalizedId)
    (tamperedError "Patch artifact ID does not match its filename.")
  raiseIf (artifact.state = stateConsumed ∧ !allowConsumed) (consumedError artifactId)
  let expires ← parseTimestamp artifact.expiresAt
  raiseIf (expires < now ∧ !allowExpired) (expiredError artifactId)
  return artifact

/-- `load`. -/
def load (repoIdentity : String → String) (directory : Directory) (now : ℤ)
    (artifactId : String) (allowExpired allowConsumed : Bool) :
    Except PyException PatchArtifact := do
  let normalizedId ← requireIdentifier artifactId "artifact ID"
  let payload ← readPayload directory normalizedId
  loadPayload repoIdentity now artifactId normalizedId allowExpired allowConsumed payload

omit [IsoDateTime] [Digest] [BytesDigest] [Conversions] in
/-- The file that `_atomic_write` leaves, unless the text is too long. -/
def serialized (payload : Dict) : Except PyException ArtifactFile :=
  let size := (Value.canonicalJson (.dict payload)).length
  if maxPatchArtifactBytes < size then
    .error (patchArtifactError "Serialized patch artifact exceeds the configured size limit.")
  else .ok (.regular size (.parsed (Value.jsonRoundTrip (.dict payload))))

/-! ## Persisting -/

structure PersistCall where
  patchDiff : PatchDiff
  runId : String
  traceId : String
  approvalRequest : ApprovalRequest
  trustedRepo : String
  riskReport : RiskReport
  intentSummary : List (PyValue × PyValue)
  ttlSeconds : ℤ

/-- `uuid.uuid4().hex`. -/
structure HexId where
  text : String
  length_text : text.length = 32
  hex_text : ∀ c ∈ text.toList, c ∈ "0123456789abcdef".toList

/-- What the environment answers in a call of `persist`: a new id, the two times of the
artifact, and the faults of lock and disk. -/
structure PersistAnswers where
  isDirectory : Bool
  newArtifactId : HexId
  createdAt : String
  expiresAt : String
  fault : Option PyException

/-- The summary of a changed file in an artifact. -/
def fileSummary (file : PatchFileDiff) : Dict :=
  [("path", .str file.path), ("old_path", optionValue file.oldPath),
    ("kind", .str file.kind.value), ("additions", optionInt file.additions),
    ("deletions", optionInt file.deletions), ("binary", .bool file.binary),
    ("old_mode", optionValue file.oldMode), ("new_mode", optionValue file.newMode),
    ("mode_changed", .bool file.modeChanged)]

/-- The one reason for which a file is ignored. -/
def ignoredFileReason : String := "generated_or_heavy_path"

def ignoredSummary (path : String) : Dict :=
  [("path", .str path), ("reason", .str ignoredFileReason)]

/-- The entries of an encoded dictionary. -/
def encodedEntries : Value → Dict
  | .dict entries => entries
  | _ => []

/-- `patch.encode("utf-8", errors="surrogateescape")`. -/
def encodePatch (patch : Utf8.DecodedText) : Except PyException (List UInt8) :=
  match Utf8.encodeEscaped patch with
  | some bytes => .ok bytes
  | none => .error (.value .unicodeEncodeError "surrogates not allowed")

/-- The checks of `persist` and the artifact that it writes. -/
def buildArtifact (repoIdentity : String → String) (answers : PersistAnswers)
    (call : PersistCall) : Except PyException PatchArtifact := do
  raiseIf (call.ttlSeconds ≤ 0) (patchArtifactError "Patch artifact TTL must be positive.")
  raiseIf (!answers.isDirectory)
    (patchArtifactError ("Trusted repository does not exist: " ++ call.trustedRepo))
  raiseIf (call.approvalRequest.target ≠ .str call.patchDiff.patchSha256)
    (patchArtifactError "Approval request target does not match patch digest.")
  raiseIf (call.approvalRequest.metadata.get "baseline_commit_sha" ≠
      some (.str call.patchDiff.baselineCommitSha))
    (patchArtifactError "Approval request baseline does not match patch baseline.")
  let bytes ← encodePatch call.patchDiff.patch
  raiseIf (BytesDigest.sha256 bytes ≠ call.patchDiff.patchSha256)
    (patchArtifactError "Patch content does not match PatchDiff SHA-256.")
  raiseIf ((bytes.length : ℤ) ≠ call.patchDiff.patchSizeBytes)
    (patchArtifactError "Patch content does not match PatchDiff byte length.")
  let runId ← requireIdentifier call.runId "run ID"
  let traceId ← requireIdentifier call.traceId "trace ID"
  let riskSummary ← encodeLosslessValue call.riskReport.auditSummary
  let intentSummary ← encodeLosslessValue (.dict call.intentSummary)
  return withIntegrityDigest {
    schemaVersion := patchArtifactSchemaVersion
    artifactId := answers.newArtifactId.text
    runId := runId
    traceId := traceId
    approvalRequestId := call.approvalRequest.approvalId
    trustedRepoPath := call.trustedRepo
    trustedRepoIdentitySha256 := repoIdentity call.trustedRepo
    baselineCommitSha := call.patchDiff.baselineCommitSha
    workspacePath := call.patchDiff.workspacePath
    patchBase64 := String.ofList (Base64.encode bytes)
    patchSha256 := call.patchDiff.patchSha256
    patchSizeBytes := call.patchDiff.patchSizeBytes
    files := call.patchDiff.files.map fileSummary
    ignoredFiles := call.patchDiff.ignoredFiles.map ignoredSummary
    riskSummary := encodedEntries riskSummary
    intentSummary := encodedEntries intentSummary
    createdAt := answers.createdAt
    expiresAt := answers.expiresAt
    state := statePending
    consumedAt := none
    artifactDigest := "" }

/-- `persist`: the artifact and the directory with its file. -/
def persist (repoIdentity : String → String) (directory : Directory) (now : ℤ)
    (answers : PersistAnswers) (call : PersistCall) :
    Except PyException (PatchArtifact × Directory) := do
  let artifact ← buildArtifact repoIdentity answers call
  match answers.fault with
  | some exc => .error exc
  | none =>
    raiseIf (directory answers.newArtifactId.text).isSome
      (patchArtifactError ("Artifact ID collision: " ++ answers.newArtifactId.text))
    let file ← serialized artifact.toPayloadWithDigest
    let directory' := Function.update directory answers.newArtifactId.text (some file)
    let loaded ← load repoIdentity directory' now answers.newArtifactId.text true true
    raiseIf (loaded.artifactDigest ≠ artifact.artifactDigest)
      (tamperedError "Persisted artifact verification did not reproduce its digest.")
    return (loaded, directory')

/-- `_mark_consumed_unlocked` at the given time. -/
def markConsumedUnlocked (repoIdentity : String → String) (directory : Directory) (now : ℤ)
    (consumedAt : String) (artifact : PatchArtifact) :
    Except PyException (PatchArtifact × Directory) := do
  raiseIf (artifact.state = stateConsumed) (consumedError artifact.artifactId)
  let consumed := withIntegrityDigest
    { artifact with state := stateConsumed, consumedAt := some consumedAt }
  let file ← serialized consumed.toPayloadWithDigest
  let directory' := Function.update directory artifact.artifactId (some file)
  let loaded ← load repoIdentity directory' now artifact.artifactId true true
  return (loaded, directory')

/-- `mark_consumed`. -/
def markConsumed (repoIdentity : String → String) (directory : Directory) (now : ℤ)
    (consumedAt artifactId : String) (fault : Option PyException) :
    Except PyException (PatchArtifact × Directory) := do
  let normalizedId ← requireIdentifier artifactId "artifact ID"
  match fault with
  | some exc => .error exc
  | none =>
    let artifact ← load repoIdentity directory now normalizedId true true
    markConsumedUnlocked repoIdentity directory now consumedAt artifact

end Verification

/-- `bind_artifact_to_approval`. -/
def bindArtifactToApproval (request : ApprovalRequest) (artifact : PatchArtifact) :
    ApprovalRequest :=
  { request with
    metadata := request.metadata.merge [("artifact_id", .str artifact.artifactId),
      ("artifact_schema_version", .str artifact.schemaVersion),
      ("artifact_expires_at", .str artifact.expiresAt)] }

/-! ## Reading the patch and the report back -/

section Reading
variable [Conversions]

/-- `item[key]` of a file summary. -/
def dictItem (item : Dict) (key : String) : Except PyException PyValue :=
  match item.get key with
  | some v => .ok (PyValue.ofValue v)
  | none => .error (keyError key)

def dictGet (item : Dict) (key : String) : Option PyValue := (item.get key).map PyValue.ofValue

/-- The changed file of a summary. -/
def fileOfSummary (item : Dict) : Except PyException PatchFileDiff := do
  let path ← dictItem item "path"
  let kind ← (dictItem item "kind").bind fun v => changedFileKindOf (pyStr v)
  let additions ← optionalInteger (dictGet item "additions")
  let deletions ← optionalInteger (dictGet item "deletions")
  return {
    path := pyStr path
    kind := kind
    additions := additions
    deletions := deletions
    binary := ((dictGet item "binary").getD (.bool false)).truthy
    oldPath := optionalString (dictGet item "old_path")
    oldMode := optionalString (dictGet item "old_mode")
    newMode := optionalString (dictGet item "new_mode")
    modeChanged := ((dictGet item "mode_changed").getD (.bool false)).truthy }

/-- The path of an ignored file. -/
def ignoredOfSummary (item : Dict) : Except PyException String := do
  let path ← dictItem item "path"
  let reason ← dictItem item "reason"
  raiseIf (pyStr reason ≠ ignoredFileReason)
    (valueError ("'" ++ pyStr reason ++ "' is not a valid GuardedIgnoreReason"))
  return pyStr path

variable [BytesDigest]

/-- `to_patch_diff`. -/
def PatchArtifact.toPatchDiff (artifact : PatchArtifact) : Except PyException PatchDiff := do
  let bytes ← artifact.patchBytes
  raiseIf (BytesDigest.sha256 bytes ≠ artifact.patchSha256)
    (tamperedError "Patch bytes do not match the persisted patch SHA-256.")
  raiseIf ((bytes.length : ℤ) ≠ artifact.patchSizeBytes)
    (tamperedError "Patch bytes do not match the persisted patch length.")
  let files ← artifact.files.mapM fileOfSummary
  let ignoredFiles ← artifact.ignoredFiles.mapM ignoredOfSummary
  return {
    workspacePath := artifact.workspacePath
    baselineCommitSha := artifact.baselineCommitSha
    patch := Utf8.decode bytes
    patchSha256 := artifact.patchSha256
    patchSizeBytes := artifact.patchSizeBytes
    files := files
    ignoredFiles := ignoredFiles }

omit [BytesDigest] in
/-- `to_risk_report`. -/
def PatchArtifact.toRiskReport (artifact : PatchArtifact) : Except PyException RiskReport := do
  let decoded ← decodeLosslessValue (.dict artifact.riskSummary)
  match decoded with
  | .dict summary => riskReportFromSummary summary
  | _ => .error (tamperedError "Decoded risk summary must be an object.")

end Reading

end Rygnal.Artifact
