import Rygnal.Approval.PatchApproval
import Rygnal.Approval.Queue
import Rygnal.Artifact.PatchArtifact

/-! # The service over approvals and artifacts

`approval_service.py`: an approval is decided, and its artifact applied, through the binding of
the queued request to the stored artifact.
-/

namespace Rygnal.Service
open Rygnal.Core Rygnal.Core.PyException Rygnal.Library Rygnal.Library.PyText Rygnal.Security
  Rygnal.Approval Rygnal.Artifact Rygnal.ChangeRisk

/-! ## Errors -/

def approvalOperationError (message : String) : PyException :=
  .runtime .approvalOperationError message

def bindingError (message : String) : PyException :=
  ⟨[.other "ApprovalArtifactBindingError", .approvalOperationError, .runtimeError, .exception,
    .baseException], message⟩

def stateError (message : String) : PyException :=
  ⟨[.approvalOperationStateError, .approvalOperationError, .runtimeError, .exception,
    .baseException], message⟩

/-- The exception of an error of the queue. -/
def queueException (error : ApprovalQueueError) : PyException :=
  let under (name message : String) : PyException :=
    ⟨[.other name, .other "ApprovalQueueError", .exception, .baseException], message⟩
  match error with
  | .queue message => ⟨[.other "ApprovalQueueError", .exception, .baseException], message⟩
  | .notFound message => under "ApprovalNotFoundError" message
  | .denied message => under "ApprovalDeniedError" message
  | .stateConflict message => under "ApprovalStateConflictError" message

/-- `except classes as exc: raise ApprovalOperationError(str(exc)) from exc`. -/
def wrapOperation (classes : List ExceptionClass) (exc : PyException) : PyException :=
  if exc.isInstance classes then approvalOperationError exc.message else exc

/-! ## The artifact of an approval -/

/-- `_artifact_id_from_request`. -/
def artifactIdFromRequest (queued : QueuedApproval) : Option String :=
  match queued.request.metadata.get "artifact_id" with
  | some (.str value) => if isPresent value then some value else none
  | _ => none

/-- `_required_decision`. -/
def requiredDecision (queued : QueuedApproval) : Except PyException ApprovalDecision :=
  match queued.decision with
  | some decision => .ok decision
  | none => .error (stateError "Approval queue item has no persisted decision.")

/-- The bindings that `_load_bound_artifact` checks. -/
def checkBinding (queued : QueuedApproval) (artifact : PatchArtifact) : Except PyException Unit := do
  raiseIf (artifact.approvalRequestId ≠ queued.request.approvalId)
    (bindingError "Patch artifact is bound to a different approval request.")
  raiseIf ((queued.request.metadata.get "patch_sha256").getD queued.request.target ≠
      .str artifact.patchSha256)
    (bindingError "Approval patch digest does not match its durable artifact.")
  let baseline := (queued.request.metadata.get "baseline_commit_sha").getD .none
  raiseIf (baseline ≠ .none ∧ baseline ≠ .str artifact.baselineCommitSha)
    (bindingError "Approval baseline does not match its durable artifact.")

section Loading
variable [IsoDateTime] [Digest] [BytesDigest] [FloatText] [Conversions]
variable (repoIdentity : String → String) (directory : Directory)

/-- `_load_bound_artifact`. -/
def loadBoundArtifact (now : ℤ) (queued : QueuedApproval) (allowExpired allowConsumed : Bool) :
    Except PyException PatchArtifact :=
  match artifactIdFromRequest queued with
  | none => .error (bindingError "Approval request has no durable patch artifact binding.")
  | some artifactId => do
    let artifact ← (load repoIdentity directory now artifactId allowExpired allowConsumed).mapError
      (wrapOperation [.patchArtifactError])
    checkBinding queued artifact
    return artifact

structure ApprovalArtifactView where
  approvalId : String
  approvalStatus : String
  approvalCreatedAt : String
  requestedBy : String
  severity : String
  reason : String
  artifactId : String
  artifactState : String
  artifactExpired : Bool
  artifactCreatedAt : String
  artifactExpiresAt : String
  patchSha256 : String
  patchSizeBytes : ℤ
  baselineCommitSha : String
  changedFileCount : ℤ
  decisionStatus : Option String
  decidedBy : Option String
  decidedAt : Option String
  decisionReason : Option String
deriving DecidableEq, Repr

/-- The view of a queued approval and its artifact. -/
def viewOf (queued : QueuedApproval) (artifact : PatchArtifact) (patchDiff : PatchDiff)
    (expired : Bool) : ApprovalArtifactView where
  approvalId := queued.request.approvalId
  approvalStatus := queued.status.value
  approvalCreatedAt := queued.request.createdAt
  requestedBy := queued.request.requestedBy
  severity := queued.request.severity.value
  reason := queued.request.reason
  artifactId := artifact.artifactId
  artifactState := artifact.state
  artifactExpired := expired
  artifactCreatedAt := artifact.createdAt
  artifactExpiresAt := artifact.expiresAt
  patchSha256 := artifact.patchSha256
  patchSizeBytes := artifact.patchSizeBytes
  baselineCommitSha := artifact.baselineCommitSha
  changedFileCount := patchDiff.changedFileCount
  decisionStatus := queued.decision.map fun decision => decision.status.value
  decidedBy := queued.decision.bind ApprovalDecision.decidedBy
  decidedAt := queued.decision.bind ApprovalDecision.decidedAt
  decisionReason := queued.decision.map ApprovalDecision.reason

/-- `_view_for_queued`. -/
def viewForQueued (now : ℤ) (queued : QueuedApproval) :
    Except PyException ApprovalArtifactView := do
  let artifact ← loadBoundArtifact repoIdentity directory now queued true true
  let patchDiff ← artifact.toPatchDiff
  let expires ← parseTimestamp artifact.expiresAt
  return viewOf queued artifact patchDiff (expires < now)

end Loading

/-! ## Decisions -/

/-- The text of `utc_now_iso()`. -/
structure UtcIso where
  text : String
  iso_text : ∀ c ∈ text.toList, c ∈ plainCharacters

/-- The clock readings of a call of `approve` or `reject`. -/
structure DecisionClock where
  loaded : ℤ
  decided : UtcIso
  viewed : ℤ

/-- A call of `approve` or `reject`; `auditFault` is the exception of the audit logger. -/
structure DecisionCall where
  clock : DecisionClock
  auditFault : Option PyException
  approvalId : String
  decidedBy : String
  reason : String

section Decisions
variable [UnicodeTables] [IsoDateTime] [Digest] [BytesDigest] [FloatText] [Conversions]
variable (engine : ApprovalAuthorizationEngine) (repoIdentity : String → String)
  (directory : Directory) (rows : ApprovalTable)

/-- The decision that a call comes to before it is recorded. -/
def preparedDecision (call : DecisionCall) (allowExpired allowConsumed : Bool)
    (decideRequest : ApprovalRequest → Option String → Except PyException ApprovalDecision) :
    Except PyException ApprovalDecision := do
  let queued ← (SQLiteApprovalQueue.get rows call.approvalId).mapError queueException
  let artifact ← loadBoundArtifact repoIdentity directory call.clock.loaded queued allowExpired
    allowConsumed
  (decideRequest queued.request (some artifact.patchSha256)).mapError
    (wrapOperation [.other "PatchApprovalError"])

/-- What follows the recording of a decision. -/
def reportDecision (call : DecisionCall) (updated : QueuedApproval) :
    Except PyException ApprovalArtifactView := do
  let _ ← requiredDecision updated
  match call.auditFault with
  | some exc => .error exc
  | none => viewForQueued repoIdentity directory call.clock.viewed updated

/-- The common shape of `approve` and `reject`, with the rows that the call leaves. -/
def recordArtifactDecision (call : DecisionCall) (allowExpired allowConsumed : Bool)
    (decideRequest : ApprovalRequest → Option String → Except PyException ApprovalDecision) :
    Except PyException ApprovalArtifactView × ApprovalTable :=
  match preparedDecision repoIdentity directory rows call allowExpired allowConsumed
      decideRequest with
  | .error exc => (.error exc, rows)
  | .ok decision =>
    match SQLiteApprovalQueue.recordDecision engine rows call.approvalId decision with
    | .error error => (.error (approvalOperationError (queueException error).message), rows)
    | .ok (updated, rows') => (reportDecision repoIdentity directory call updated, rows')

/-- `ApprovalArtifactService.approve`. -/
def approve (call : DecisionCall) : Except PyException ApprovalArtifactView × ApprovalTable :=
  recordArtifactDecision engine repoIdentity directory rows call false false
    fun request patchSha256 =>
      approvePatchRequest request call.decidedBy call.reason patchSha256 call.clock.decided.text

/-- `ApprovalArtifactService.reject`. -/
def reject (call : DecisionCall) : Except PyException ApprovalArtifactView × ApprovalTable :=
  recordArtifactDecision engine repoIdentity directory rows call true true
    fun request patchSha256 =>
      rejectPatchRequest request call.decidedBy call.reason patchSha256 call.clock.decided.text

end Decisions

end Rygnal.Service
