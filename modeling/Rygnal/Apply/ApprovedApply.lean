import Rygnal.Approval.PatchApproval
import Rygnal.Interceptor.Intercept

/-! # Applying an approved patch

The parts of `apply_approved_patch` in their order: the checks of repository, paths, risk and
approval, the replay check against the audit history, the reservation in the process, the two
runs of `git apply`, and the audit event. What Git, the clock and the audit store answer are
arguments.
-/

namespace Rygnal.Apply
open Rygnal.Core Rygnal.Core.PyException Rygnal.Library Rygnal.Library.PyText Rygnal.Security
  Rygnal.ChangeRisk Rygnal.Approval Rygnal.Interceptor

def approvedPatchApplyError (message : String) : PyException :=
  .runtime .approvedPatchApplyError message

/-! ## Git -/

structure CompletedProcess where
  returncode : ℤ
  stdout : Text
  stderr : Text
deriving DecidableEq, Repr

/-- What an attempt to run Git comes to. -/
inductive GitAnswer where
  | missing
  | raised (exc : PyException)
  | completed (process : CompletedProcess)
deriving DecidableEq, Repr

/-- `stderr or stdout or f"git {..} failed"`. -/
def gitFailureDetail (command : String) (process : CompletedProcess) : String :=
  if strip process.stderr ≠ [] then String.ofList (strip process.stderr)
  else if strip process.stdout ≠ [] then String.ofList (strip process.stdout)
  else "git " ++ command ++ " failed"

def runGit (command : String) : GitAnswer → Except PyException CompletedProcess
  | .missing => .error (approvedPatchApplyError "git executable not found on PATH.")
  | .raised exc => .error exc
  | .completed process =>
    if process.returncode ≠ 0 then
      .error (approvedPatchApplyError (gitFailureDetail command process))
    else .ok process

/-! ## Calls -/

/-- An audit logger: the durable store that it reads, and whether that is a storage backend. -/
structure Logger where
  store : ℕ
  storageBackend : Bool
deriving DecidableEq, Repr

/-- The arguments of `apply_approved_patch`, with the target resolved. -/
structure ApplyCall where
  patchDiff : PatchDiff
  targetRepo : String
  approvalRequest : ApprovalRequest
  approvalDecision : ApprovalDecision
  riskReport : Option ChangeRiskReport
  logger : Option Logger

structure ApprovedPatchApplyResult where
  targetRepoPath : String
  patchSha256 : String
  baselineCommitSha : String
  approvalId : String
  approvedBy : Option String
  files : List String
  riskReport : ChangeRiskReport
deriving DecidableEq, Repr

def ApprovedPatchApplyResult.auditSummary (result : ApprovedPatchApplyResult) : Dict :=
  [("outcome", .str "applied"), ("applied", .bool true),
    ("target_repo_path", .str result.targetRepoPath), ("patch_sha256", .str result.patchSha256),
    ("baseline_commit_sha", .str result.baselineCommitSha),
    ("approval_id", .str result.approvalId), ("approved_by", optionValue result.approvedBy),
    ("files", .tuple (result.files.map Value.str)),
    ("overall_risk_level", .str result.riskReport.overallRiskLevel.value),
    ("risk_counts", result.riskReport.riskCounts),
    ("risk_report", result.riskReport.auditSummary)]

/-- The report of a path safety check: the digests it names and its audit summary. -/
structure PatchPathSafetyReport where
  patchSha256 : String
  baselineCommitSha : String
  auditSummary : Dict
deriving DecidableEq, Repr

inductive PathSafety where
  | safe
  | violated (report : PatchPathSafetyReport)
  | raised (exc : PyException)
deriving DecidableEq, Repr

/-- What the environment answers while a call makes its checks. -/
structure CheckAnswers where
  targetExists : Bool
  showToplevel : GitAnswer
  toplevelIsTarget : Text → Bool
  pathSafety : PathSafety
  pathAudit : AuditWrite
  analyses : Analyses
  status : GitAnswer
  head : GitAnswer
  now : ℤ

/-! ## Checks -/

def ensureGitRepoRoot (answers : CheckAnswers) (targetRepo : String) : Except PyException Unit := do
  raiseIf (!answers.targetExists)
    (approvedPatchApplyError ("Target repository does not exist: " ++ targetRepo))
  let process ← runGit "rev-parse --show-toplevel" answers.showToplevel
  raiseIf (!answers.toplevelIsTarget (strip process.stdout))
    (approvedPatchApplyError ("Target path is not the Git repository root: " ++ targetRepo))

/-- `bytes.strip()` leaves something. -/
def hasOutput (stdout : Text) : Bool :=
  stdout.any fun c => !(c == ' ' || (0x09 ≤ c.toNat && c.toNat ≤ 0x0D))

def ensureCleanRepo (answers : CheckAnswers) : Except PyException Unit := do
  let process ← runGit "status --porcelain --untracked-files=all" answers.status
  raiseIf (hasOutput process.stdout)
    (approvedPatchApplyError "Target repository must be clean before apply.")

def supportedPolicyIds : List String :=
  ["guarded-workspace-risky-patch-approval", "guarded-workspace-intent-approval",
    "guarded-workspace-non-auto-apply-approval", "guarded-workspace-explicit-approval"]

def validateRequestForApply (request : ApprovalRequest) : Except PyException Unit := do
  raiseIf (request.toolName ≠ "guarded_workspace")
    (approvedPatchApplyError "Approval request tool mismatch.")
  raiseIf (request.action ≠ some "approve_patch_apply")
    (approvedPatchApplyError "Approval request action mismatch.")
  raiseIf (request.policyId.all fun policyId => policyId ∉ supportedPolicyIds)
    (approvedPatchApplyError "Approval request policy mismatch.")

/-- `bool(approval_request.metadata.get("forced_approval", False))`. -/
def forcedApproval (request : ApprovalRequest) : Bool :=
  ((request.metadata.get "forced_approval").getD (.bool false)).truthy

section Checks
variable [UnicodeTables] [Digest] [IsoTime]

def ensureTargetAtBaseline (answers : CheckAnswers) (baselineCommitSha : String) :
    Except PyException Unit := do
  let process ← runGit "rev-parse HEAD" answers.head
  raiseIf (lower (strip process.stdout) ≠ lower baselineCommitSha.toList)
    (approvedPatchApplyError "Target repository HEAD does not match guarded patch baseline.")

/-- `risk_report or classify_patch_risk(patch_diff)`. -/
def riskReportOf (answers : CheckAnswers) (call : ApplyCall) : Except PyException ChangeRiskReport :=
  match call.riskReport with
  | some report => .ok report
  | none => classifyPatchRisk answers.analyses call.patchDiff [] defaultDiffLimitPolicy

/-- The gate, the requirement and the approval for a report. -/
def authorizeApply (call : ApplyCall) (report : ChangeRiskReport) (now : ℤ) :
    Except PyException Unit := do
  raiseIf (gateBlocked report) (approvedPatchApplyError "Blocked patches cannot be applied.")
  raiseIf (!(evaluatePatchApprovalRequirement call.patchDiff report).required &&
      !forcedApproval call.approvalRequest)
    (approvedPatchApplyError "Patch does not require approval; use the safe auto-apply flow.")
  (assertPatchApprovalGranted call.approvalRequest call.approvalDecision call.patchDiff
    now).mapError fun exc => approvedPatchApplyError exc.message
  validateRequestForApply call.approvalRequest

/-- The checks after path safety. -/
def checkPatch (answers : CheckAnswers) (call : ApplyCall) : Except PyException ChangeRiskReport := do
  let report ← riskReportOf answers call
  authorizeApply call report answers.now
  ensureCleanRepo answers
  ensureTargetAtBaseline answers call.patchDiff.baselineCommitSha
  return report

end Checks

/-! ## Audit events -/

section Audit
variable [UnicodeTables]

def approvedPatchApplyPolicyId : String := "guarded-workspace-approved-patch-apply"

/-- The event of `write_path_safety_audit_event` for an unsafe patch. -/
def pathSafetyEvent (ambient : Ambient) (call : ApplyCall) (report : PatchPathSafetyReport) :
    AuditEvent :=
  decisionEvent ambient
    { toolName := "guarded_workspace"
      action := some "validate_patch_paths"
      target := some report.patchSha256
      input := .dict report.auditSummary
      userId := call.approvalRequest.requestedBy
      agentId := call.approvalRequest.agentId
      environment := call.approvalRequest.environment
      metadata := [("trace_id", .str call.approvalRequest.traceId),
        ("event_type", .str "guarded_workspace.path_safety"),
        ("patch_sha256", .str report.patchSha256),
        ("baseline_commit_sha", .str report.baselineCommitSha)] }
    ⟨.block, false, .critical, "Patch contains unsafe paths.",
      some "guarded-workspace-path-safety", none⟩
    report.auditSummary

/-- The event of `write_approved_patch_apply_audit_event`. -/
def approvedPatchApplyEvent (ambient : Ambient) (call : ApplyCall)
    (result : ApprovedPatchApplyResult) : AuditEvent :=
  decisionEvent ambient
    { toolName := "guarded_workspace"
      action := some "apply_approved_patch"
      target := some result.patchSha256
      input := .dict result.auditSummary
      userId := call.approvalRequest.requestedBy
      agentId := call.approvalRequest.agentId
      environment := call.approvalRequest.environment
      metadata := [("trace_id", .str call.approvalRequest.traceId),
        ("event_type", .str "guarded_workspace.approved_patch_apply"),
        ("approval_id", .str result.approvalId), ("patch_sha256", .str result.patchSha256),
        ("baseline_commit_sha", .str result.baselineCommitSha)] }
    ⟨.allow, true, call.approvalRequest.severity,
      "Approved guarded workspace patch applied to trusted repository.",
      some approvedPatchApplyPolicyId, none⟩
    result.auditSummary

/-- The event as `read_events` returns it from the JSON of the store. -/
def storedEvent (event : AuditEvent) : AuditEvent :=
  { event with
    target := event.target.jsonRoundTrip
    input := event.input.jsonRoundTrip
    metadata := event.metadata.jsonRoundTrip }

/-- The event that a write left in the store, and the exception that it raised. -/
def auditOutcome (event : AuditEvent) : AuditWrite → List AuditEvent × Option PyException
  | .written => ([storedEvent event], none)
  | .failed exc => ([], some exc)
  | .writtenThenFailed exc => ([storedEvent event], some exc)

/-- The path safety check, with the events that it leaves in the store. -/
def checkPaths (ambient : Ambient) (answers : CheckAnswers) (call : ApplyCall) :
    List AuditEvent × Except PyException Unit :=
  match answers.pathSafety with
  | .safe => ([], .ok ())
  | .raised exc => ([], .error exc)
  | .violated report =>
    let unsafeError := approvedPatchApplyError "Patch path safety validation failed."
    match call.logger with
    | none => ([], .error unsafeError)
    | some _ =>
      let (events, exc) := auditOutcome (pathSafetyEvent ambient call report) answers.pathAudit
      (events, .error (exc.getD unsafeError))

variable [Digest] [IsoTime]

/-- Everything before the replay check, with the events that it leaves in the store. -/
def checkCall (ambient : Ambient) (answers : CheckAnswers) (call : ApplyCall) :
    List AuditEvent × Except PyException ChangeRiskReport :=
  match ensureGitRepoRoot answers call.targetRepo with
  | .error exc => ([], .error exc)
  | .ok () =>
    match checkPaths ambient answers call with
    | (events, .error exc) => (events, .error exc)
    | (events, .ok ()) => (events, checkPatch answers call)

end Audit

/-! ## Replay protection -/

/-- `_approval_use_key`. -/
structure ApprovalUseKey where
  approvalId : String
  patchSha256 : String
  baselineCommitSha : String
deriving DecidableEq, Repr

def ApplyCall.approvalUseKey (call : ApplyCall) : ApprovalUseKey :=
  ⟨call.approvalRequest.approvalId, call.patchDiff.patchSha256, call.patchDiff.baselineCommitSha⟩

def alreadyUsedError : PyException :=
  approvedPatchApplyError "Approval has already been used for this guarded patch."

/-- `metadata.get(field)` of an event. -/
def eventField (event : AuditEvent) (field : String) : Option Value :=
  match event.metadata with
  | .dict entries => PyDict.get entries field
  | _ => none

def eventMatchesKey (event : AuditEvent) (key : ApprovalUseKey) : Bool :=
  eventField event "approval_id" = some (.str key.approvalId) ∧
    eventField event "patch_sha256" = some (.str key.patchSha256) ∧
    eventField event "baseline_commit_sha" = some (.str key.baselineCommitSha)

/-- An exception while the history is read is wrapped when a storage backend raised it. -/
def historyError (logger : Logger) (exc : PyException) : PyException :=
  if logger.storageBackend && exc.isInstance [.exception] &&
      !exc.isInstance [.approvedPatchApplyError] then
    approvedPatchApplyError "Could not verify durable approval replay history."
  else exc

/-- `_ensure_approval_not_previously_applied` for the events of the store. -/
def ensureApprovalNotPreviouslyApplied (logger : Option Logger) (key : ApprovalUseKey)
    (events : ℕ → List AuditEvent) (fault : Option PyException) : Except PyException Unit :=
  match logger with
  | none => .error (approvedPatchApplyError
      "Approved patch apply requires an audit logger for durable replay protection.")
  | some logger =>
    match fault with
    | some exc => .error (historyError logger exc)
    | none =>
      if ((events logger.store).filter fun event =>
          event.policyId = some approvedPatchApplyPolicyId).any fun event =>
            eventMatchesKey event key then
        .error alreadyUsedError
      else .ok ()

/-! ## The two runs of `git apply` -/

def unicodeEncodeError : PyException :=
  .value .unicodeEncodeError "'utf-8' codec can't encode characters: surrogates not allowed"

/-- `_check_patch_applies` and `_apply_patch`: the patch is encoded for the standard input. -/
def gitApply (command : String) (patch : Utf8.DecodedText) (answer : GitAnswer) :
    Except PyException Unit :=
  match Utf8.encodeStrict patch with
  | none => .error unicodeEncodeError
  | some _ => (runGit command answer).map fun _ => ()

def checkPatchApplies (patch : Utf8.DecodedText) (answer : GitAnswer) : Except PyException Unit :=
  gitApply "apply --check --whitespace=error -" patch answer

def applyPatch (patch : Utf8.DecodedText) (answer : GitAnswer) : Except PyException Unit :=
  gitApply "apply --whitespace=error -" patch answer

def applyResult (call : ApplyCall) (report : ChangeRiskReport) : ApprovedPatchApplyResult where
  targetRepoPath := call.targetRepo
  patchSha256 := call.patchDiff.patchSha256
  baselineCommitSha := call.patchDiff.baselineCommitSha
  approvalId := call.approvalRequest.approvalId
  approvedBy := call.approvalDecision.decidedBy
  files := call.patchDiff.files.map (·.path)
  riskReport := report

end Rygnal.Apply
