import Rygnal.Artifact.PatchArtifact
import Rygnal.GuardedRun.GuardedRunner

/-! # The engine protocol

`engine_api.py` and `schemas.py`: the events that the engine writes for a guarded run, one JSON
line each. Texts may hold undecodable bytes as their lone surrogates.
-/

namespace Rygnal.Engine
open Rygnal.Core Rygnal.Library Rygnal.Library.Utf8 Rygnal.ChangeRisk Rygnal.Artifact
  Rygnal.GuardedRun

/-! ## Events -/

/-- The values of a JSON document whose texts may hold surrogates. -/
inductive EngineJson where
  | null
  | bool (value : Bool)
  | int (value : ℤ)
  | str (text : DecodedText)
  | arr (items : List EngineJson)
  | obj (entries : List (String × EngineJson))

namespace EngineJson

def text (value : String) : EngineJson := .str (ofText value.toList)

def optional {α : Type} (json : α → EngineJson) (value : Option α) : EngineJson :=
  (value.map json).getD .null

mutual

/-- The texts of a document, without its keys. -/
def texts : EngineJson → List DecodedText
  | .null => []
  | .bool _ => []
  | .int _ => []
  | .str text => [text]
  | .arr items => itemTexts items
  | .obj entries => entryTexts entries

def itemTexts : List EngineJson → List DecodedText
  | [] => []
  | item :: items => item.texts ++ itemTexts items

def entryTexts : List (String × EngineJson) → List DecodedText
  | [] => []
  | (_, value) :: entries => value.texts ++ entryTexts entries

end

/-- No text of the document holds a surrogate. -/
def Plain (json : EngineJson) : Prop := ∀ text ∈ json.texts, ∀ byte, .escaped byte ∉ text

/-- A field of an object. -/
def get (json : EngineJson) (key : String) : Option EngineJson :=
  match json with
  | .obj entries => entries.lookup key
  | _ => none

end EngineJson

inductive EngineEventName where
  | engineStarted
  | requestAccepted
  | runStarted
  | workspaceCreated
  | commandStarted
  | commandFinished
  | workspaceCleaned
  | approvalRequired
  | runCompleted
  | runFailed
  | engineError
deriving DecidableEq, Repr

def EngineEventName.value : EngineEventName → String
  | .engineStarted => "engine.started"
  | .requestAccepted => "request.accepted"
  | .runStarted => "run.started"
  | .workspaceCreated => "workspace.created"
  | .commandStarted => "command.started"
  | .commandFinished => "command.finished"
  | .workspaceCleaned => "workspace.cleaned"
  | .approvalRequired => "approval.required"
  | .runCompleted => "run.completed"
  | .runFailed => "run.failed"
  | .engineError => "engine.error"

/-- The events that end a run for their reader. -/
def EngineEventName.isTerminal (name : EngineEventName) : Bool :=
  name ∈ [.runCompleted, .runFailed, .engineError]

inductive EngineStatus where
  | starting
  | accepted
  | running
  | workspaceCreated
  | commandStarted
  | commandFinished
  | workspaceCleaned
  | approvalRequired
  | completed
  | commandFailed
  | timedOut
  | blocked
  | cleanupFailed
  | internalError
deriving DecidableEq, Repr

def EngineStatus.value : EngineStatus → String
  | .starting => "starting"
  | .accepted => "accepted"
  | .running => "running"
  | .workspaceCreated => "workspace_created"
  | .commandStarted => "command_started"
  | .commandFinished => "command_finished"
  | .workspaceCleaned => "workspace_cleaned"
  | .approvalRequired => "approval_required"
  | .completed => "completed"
  | .commandFailed => "command_failed"
  | .timedOut => "timed_out"
  | .blocked => "blocked"
  | .cleanupFailed => "cleanup_failed"
  | .internalError => "internal_error"

structure EngineError where
  code : String
  message : String
  details : EngineJson

structure EngineEvent where
  requestId : DecodedText
  timestamp : String
  event : EngineEventName
  ok : Bool
  status : EngineStatus
  data : EngineJson
  error : Option EngineError

def protocolVersion : String := "rygnal.engine.v1"

def EngineError.toJson (error : EngineError) : EngineJson :=
  .obj [("code", .text error.code), ("message", .text error.message), ("details", error.details)]

/-- The fields that `model_dump_json` writes. -/
def EngineEvent.toJson (event : EngineEvent) : EngineJson :=
  .obj [("protocol_version", .text protocolVersion), ("request_id", .str event.requestId),
    ("timestamp", .text event.timestamp), ("event", .text event.event.value),
    ("ok", .bool event.ok), ("status", .text event.status.value), ("data", event.data),
    ("error", .optional EngineError.toJson event.error)]

/-! ## Requests and results -/

structure EngineRequest where
  requestId : DecodedText
  trustedRepoPath : DecodedText
  command : List DecodedText
  timeoutSeconds : ℤ
  unsafeLocalRequested : Bool
  preserveWorkspace : Bool
  includeRawPatch : Bool
  includeStdout : Bool
  includeStderr : Bool

structure CommandOutput where
  exitCode : Option ℤ
  stdout : DecodedText
  stderr : DecodedText
  timedOut : Bool
  durationMs : ℤ

structure ReportedFile where
  path : DecodedText
  kind : ChangedFileKind
  oldPath : Option DecodedText
  modeChanged : Bool

structure ReportedPatchFile where
  path : DecodedText
  oldPath : Option DecodedText
  kind : ChangedFileKind
  additions : Option ℤ
  deletions : Option ℤ
  binary : Bool
  oldMode : Option DecodedText
  newMode : Option DecodedText
  modeChanged : Bool

structure ReportedPatch where
  patch : DecodedText
  patchSha256 : String
  patchSizeBytes : ℤ
  files : List ReportedPatchFile
  ignoredFileCount : ℕ

structure ReportedRisk where
  level : RiskLevel
  reasonCodes : List DecodedText
  counts : List (String × ℤ)

structure ReportedApproval where
  approvalId : DecodedText
  target : DecodedText
  policyId : Option DecodedText
  severity : String
  reason : DecodedText

/-- A `GuardedRunResult` with the texts that the engine sends. The audit summaries of its actions
and its intent are documents already. -/
structure EngineResult where
  status : GuardedRunStatus
  runId : Option DecodedText
  trustedRepoPath : DecodedText
  baselineCommitSha : Option DecodedText
  backendName : Option DecodedText
  backendSafeByDefault : Bool
  containmentVerified : Bool
  containmentFeatures : List (String × Bool)
  cleanupPerformed : Bool
  cleanupStatus : Option DecodedText
  workspaceQuarantined : Bool
  commandResult : Option CommandOutput
  changedFiles : List ReportedFile
  ignoredFileCount : ℕ
  patchDiff : Option ReportedPatch
  risk : Option ReportedRisk
  blockedReason : Option DecodedText
  approvalRequest : Option ReportedApproval
  patchApplyOutcome : Option GuardedPatchApplyOutcome
  patchArtifactId : Option DecodedText
  normalizedActions : EngineJson
  intent : EngineJson
  warnings : List DecodedText

def applyOutcomeValue : GuardedPatchApplyOutcome → String
  | .notGenerated => "not_generated"
  | .notApplied => "not_applied"
  | .applied => "applied"
  | .pendingApproval => "pending_approval"
  | .applyFailed => "apply_failed"

/-! ## Summaries -/

/-- `text.encode("utf-8", errors="replace")`. -/
def encodeReplace (text : DecodedText) : List UInt8 :=
  text.flatMap fun
    | .char c => String.utf8EncodeChar c
    | .escaped _ => [0x3F]

/-- `tuple(dict.fromkeys(items))`: the first of equal items stays. -/
def fromKeys {α : Type} [DecidableEq α] (items : List α) : List α :=
  items.foldl (fun kept item => if item ∈ kept then kept else kept ++ [item]) []

/-- `_engine_status_for_guarded_result`. -/
def engineStatusForGuardedResult (result : EngineResult) : EngineStatus :=
  if result.commandResult.any CommandOutput.timedOut then .timedOut
  else if result.status = .approvalRequired then .approvalRequired
  else if (result.commandResult.bind CommandOutput.exitCode).any (· ≠ 0) then .commandFailed
  else match result.status with
    | .completed => .completed
    | .timedOut => .timedOut
    | .blocked => .blocked
    | .cleanupFailed => .cleanupFailed
    | _ => if result.blockedReason.any (· ≠ []) then .blocked else .commandFailed

section Summaries
variable [BytesDigest]

/-- `_bytes_metadata`, with the raw text when it was asked for. -/
def streamSummary (text : DecodedText) (includeRaw : Bool) : EngineJson :=
  .obj ([("size_bytes", .int (encodeReplace text).length),
      ("sha256", .text (BytesDigest.sha256 (encodeReplace text)))] ++
    if includeRaw then [("raw", .str text)] else [])

/-- `_command_result_summary`. -/
def commandResultSummary (request : EngineRequest) (output : CommandOutput) : EngineJson :=
  .obj [("present", .bool true), ("exit_code", .optional .int output.exitCode),
    ("timed_out", .bool output.timedOut), ("duration_ms", .int output.durationMs),
    ("stdout", streamSummary output.stdout request.includeStdout),
    ("stderr", streamSummary output.stderr request.includeStderr)]

/-- `_command_summary`. -/
def commandSummary (command : List DecodedText) : EngineJson :=
  .obj [("argc", .int command.length), ("executable", .optional .str command.head?),
    ("argv_sha256", .text (BytesDigest.sha256
      (encodeReplace ([.char '\x00'].intercalate command))))]

/-- `_safe_path_identity` of a resolved path: its bytes are hashed without a replacement. -/
def safePathIdentity (path : DecodedText) : Option EngineJson :=
  (encodeStrict path).map fun bytes =>
    .obj [("name", .str (path.reverse.takeWhile (· ≠ .char '/')).reverse),
      ("sha256", .text (BytesDigest.sha256 bytes)), ("absolute_path_returned", .bool false)]

omit [BytesDigest] in
/-- `_approval_summary`. -/
def approvalSummary (result : EngineResult) : EngineJson :=
  match result.approvalRequest with
  | none => .obj [("required", .bool false)]
  | some approval => .obj [("required", .bool true), ("approval_id", .str approval.approvalId),
      ("target", .str approval.target), ("policy_id", .optional .str approval.policyId),
      ("severity", .text approval.severity), ("reason", .str approval.reason),
      ("artifact_id", .optional .str result.patchArtifactId)]

omit [BytesDigest] in
/-- `PatchFileDiff.audit_summary`. -/
def ReportedPatchFile.auditSummary (file : ReportedPatchFile) : EngineJson :=
  .obj [("path", .str file.path), ("old_path", .optional .str file.oldPath),
    ("kind", .text file.kind.value), ("additions", .optional .int file.additions),
    ("deletions", .optional .int file.deletions), ("binary", .bool file.binary),
    ("old_mode", .optional .str file.oldMode), ("new_mode", .optional .str file.newMode),
    ("mode_changed", .bool file.modeChanged)]

omit [BytesDigest] in
/-- `_patch_summary`. -/
def patchSummary (request : EngineRequest) (result : EngineResult) : EngineJson :=
  let applyOutcome := EngineJson.optional (fun o => .text (applyOutcomeValue o))
    result.patchApplyOutcome
  let artifactId := EngineJson.optional .str result.patchArtifactId
  match result.patchDiff with
  | none => .obj [("generated", .bool false), ("sha256", .null), ("size_bytes", .int 0),
      ("changed_file_count", .int 0), ("ignored_file_count", .int 0), ("total_additions", .int 0),
      ("total_deletions", .int 0), ("binary_file_count", .int 0), ("files", .arr []),
      ("apply_outcome", applyOutcome), ("applied", .bool false), ("artifact_id", artifactId)]
  | some patch => .obj ([("generated", .bool true), ("sha256", .text patch.patchSha256),
      ("size_bytes", .int patch.patchSizeBytes), ("changed_file_count", .int patch.files.length),
      ("ignored_file_count", .int patch.ignoredFileCount),
      ("total_additions", .int (patch.files.map fun file => file.additions.getD 0).sum),
      ("total_deletions", .int (patch.files.map fun file => file.deletions.getD 0).sum),
      ("binary_file_count", .int (patch.files.countP ReportedPatchFile.binary)),
      ("files", .arr (patch.files.map ReportedPatchFile.auditSummary)),
      ("apply_outcome", applyOutcome),
      ("applied", .bool (result.patchApplyOutcome = some .applied)),
      ("artifact_id", artifactId)] ++
    if request.includeRawPatch then [("raw", .str patch.patch)] else [])

omit [BytesDigest] in
/-- `_risk_summary`. -/
def riskSummary (result : EngineResult) : EngineJson :=
  match result.risk with
  | none => .obj [("present", .bool false), ("level", .text "low"), ("reasons", .arr []),
      ("counts", .obj [])]
  | some risk => .obj [("present", .bool true), ("level", .text risk.level.value),
      ("reasons", .arr ((fromKeys risk.reasonCodes).map .str)),
      ("counts", .obj (risk.counts.map fun count => (count.1, .int count.2)))]

/-- `_guarded_result_summary`. -/
def guardedResultSummary (request : EngineRequest) (result : EngineResult) : Option EngineJson :=
  (safePathIdentity result.trustedRepoPath).map fun trustedRepo =>
    .obj [("status", .text (engineStatusForGuardedResult result).value),
      ("run_id", .optional .str result.runId), ("trusted_repo", trustedRepo),
      ("workspace_path_returned", .bool false),
      ("baseline_commit_sha", .optional .str result.baselineCommitSha),
      ("backend", .obj [("name", .optional .str result.backendName),
        ("safe_by_default", .bool result.backendSafeByDefault),
        ("containment_verified", .bool result.containmentVerified),
        ("containment_features",
          .obj (result.containmentFeatures.map fun feature => (feature.1, .bool feature.2)))]),
      ("cleanup", .obj [("performed", .bool result.cleanupPerformed),
        ("status", .optional .str result.cleanupStatus),
        ("quarantined", .bool result.workspaceQuarantined)]),
      ("command", match result.commandResult with
        | some output => commandResultSummary request output
        | none => .obj [("present", .bool false)]),
      ("changes", .obj [("changed_file_count", .int result.changedFiles.length),
        ("ignored_file_count", .int result.ignoredFileCount),
        ("files", .arr (result.changedFiles.map fun file =>
          .obj [("path", .str file.path), ("kind", .text file.kind.value),
            ("old_path", .optional .str file.oldPath),
            ("mode_changed", .bool file.modeChanged)]))]),
      ("patch", patchSummary request result), ("risk", riskSummary result),
      ("blocked_reason", .optional .str result.blockedReason),
      ("approval", approvalSummary result), ("normalized_actions", result.normalizedActions),
      ("intent", result.intent), ("warnings", .arr ((fromKeys result.warnings).map .str))]

/-! ## The stream of a run -/

/-- `make_event` for an event that reports no error; the clock is read for each event. -/
def makeEvent (now : EngineEventName → String) (request : EngineRequest) (event : EngineEventName)
    (status : EngineStatus) (data : EngineJson) : EngineEvent :=
  ⟨request.requestId, now event, event, true, status, data, none⟩

/-- What `main` and `_run_guarded_request` emit before the run; `none` is a step that raises. -/
def openingEvents (now : EngineEventName → String) (fallbackRequestId : DecodedText)
    (request : EngineRequest) : List (Option EngineEvent) :=
  let trustedRepo := safePathIdentity request.trustedRepoPath
  [some ⟨fallbackRequestId, now .engineStarted, .engineStarted, true, .starting,
      .obj [("transport", .text "stdio"), ("encoding", .text "ndjson"),
        ("raw_stdout", .bool false)], none⟩,
    trustedRepo.map fun identity => makeEvent now request .requestAccepted .accepted
      (.obj [("action", .text "guarded_run.start"), ("trusted_repo", identity),
        ("command", commandSummary request.command)]),
    trustedRepo.map fun identity => makeEvent now request .runStarted .running
      (.obj [("trusted_repo", identity), ("timeout_seconds", .int request.timeoutSeconds),
        ("unsafe_local_requested", .bool request.unsafeLocalRequested),
        ("preserve_workspace", .bool request.preserveWorkspace)]),
    some (makeEvent now request .commandStarted .commandStarted
      (.obj [("command", commandSummary request.command), ("raw_stdout", .bool false),
        ("raw_stderr", .bool false)]))]

/-- What `_run_guarded_request` emits for a result; `none` is a step that raises. -/
def resultEvents (now : EngineEventName → String) (request : EngineRequest)
    (result : EngineResult) : List (Option EngineEvent) :=
  (match result.runId with
    | some runId => [some (makeEvent now request .workspaceCreated .workspaceCreated
        (.obj [("run_id", .str runId),
          ("baseline_commit_sha", .optional .str result.baselineCommitSha),
          ("workspace_path_returned", .bool false)]))]
    | none => []) ++
  (match result.commandResult with
    | some output => [some (makeEvent now request .commandFinished .commandFinished
        (commandResultSummary request output))]
    | none => []) ++
  some (makeEvent now request .workspaceCleaned .workspaceCleaned
    (.obj [("cleanup_performed", .bool result.cleanupPerformed),
      ("cleanup_status", .optional .str result.cleanupStatus),
      ("workspace_path_returned", .bool false)])) ::
  match guardedResultSummary request result with
  | none => [none]
  | some summary =>
    let finalStatus := engineStatusForGuardedResult result
    (if finalStatus = .approvalRequired then
      [some (makeEvent now request .approvalRequired .approvalRequired summary)] else []) ++
    [some (makeEvent now request .runCompleted finalStatus summary)]

end Summaries

/-- The JSON of pydantic and of Go. -/
structure EngineCodec where
  dumpJson : EngineJson → Option (List UInt8)
  unmarshal : List UInt8 → Option EngineJson

/-- `_emit` for each event: the lines that were written, and whether nothing raised. -/
def emit (codec : EngineCodec) : List (Option EngineEvent) → List (EngineEvent × List UInt8) × Bool
  | [] => ([], true)
  | none :: _ => ([], false)
  | some event :: events =>
    match codec.dumpJson event.toJson with
    | none => ([], false)
    | some line => ((event, line) :: (emit codec events).1, (emit codec events).2)

/-- The event that `main` emits when an exception leaves the run. -/
def runFailedEvent (now : EngineEventName → String) (request : EngineRequest) (errorType : String) :
    EngineEvent :=
  ⟨request.requestId, now .runFailed, .runFailed, false, .internalError, .obj [],
    some ⟨"internal_error", "Engine failed before producing a guarded run result.",
      .obj [("error_type", .text errorType)]⟩⟩

/-- The lines of a run whose opening events were written, and that has a result. -/
def engineStream [BytesDigest] (codec : EngineCodec) (now : EngineEventName → String)
    (fallbackRequestId : DecodedText) (errorType : String) (request : EngineRequest)
    (result : EngineResult) : List (EngineEvent × List UInt8) :=
  let opened := emit codec (openingEvents now fallbackRequestId request)
  let reported := emit codec (resultEvents now request result)
  opened.1 ++ reported.1 ++
    if reported.2 then [] else (emit codec [some (runFailedEvent now request errorType)]).1

end Rygnal.Engine
