import Rygnal.Apply.ApprovedApply
import Rygnal.Artifact.PatchArtifact

/-! # Applying a stored artifact

`apply_approved_patch` as one call that runs to its end, and `PatchArtifactStore.apply_approved`,
which holds the artifact lock around it and marks the artifact consumed.
-/

namespace Rygnal.Apply
open Rygnal.Core Rygnal.Core.PyException Rygnal.Library Rygnal.Library.PyText Rygnal.Security
  Rygnal.ChangeRisk Rygnal.Approval Rygnal.Interceptor Rygnal.Artifact

/-! ## The report of an artifact -/

section Reports
variable [FloatText]

/-- The name that `json.dumps` gives to a key of a mapping. -/
def jsonKey : PyValue → String
  | .none => "null"
  | .bool b => if b then "true" else "false"
  | .int n => toString n
  | .float q => String.ofList (FloatText.repr q)
  | key => keyText key

mutual

/-- Evidence as the audit events take it. -/
def jsonValue : PyValue → Value
  | .none => .none
  | .bool b => .bool b
  | .int n => .int n
  | .float q => .float q
  | .str s => .str s
  | .list items => .list (jsonValues items)
  | .tuple items => .tuple (jsonValues items)
  | .dict entries => .dict (jsonEntries entries)
  | .other typeName => .str typeName

def jsonValues : List PyValue → List Value
  | [] => []
  | v :: vs => jsonValue v :: jsonValues vs

def jsonEntries : List (PyValue × PyValue) → Dict
  | [] => []
  | (k, v) :: es => (jsonKey k, jsonValue v) :: jsonEntries es

end

def changeRiskReasonOf (reason : RiskReason) : ChangeRiskReason :=
  ⟨reason.code, reason.riskLevel, reason.reason,
    reason.evidence.map fun e => (e.1, jsonValue e.2)⟩

def rustCriticalityOf (shadow : RustShadow) : RustCriticalityShadow where
  available := shadow.available
  criticalityIndex := shadow.criticalityIndex
  riskLevel := shadow.riskLevel
  reasons := shadow.reasons
  semanticMetrics := shadow.semanticMetrics.map jsonEntries
  pathCategory := shadow.pathCategory
  pathSeverity := shadow.pathSeverity
  errorCode := shadow.errorCode
  errorReason := shadow.errorReason
  criticalityBypassVerdict := shadow.criticalityBypassVerdict
  criticalityBypassReason := shadow.criticalityBypassReason

def fileRiskClassificationOf (file : FileRisk) : FileRiskClassification where
  path := file.path
  kind := file.kind
  riskLevel := file.riskLevel
  reasons := file.reasons.map changeRiskReasonOf
  additions := file.additions
  deletions := file.deletions
  binary := file.binary
  oldPath := file.oldPath
  oldMode := file.oldMode
  newMode := file.newMode
  modeChanged := file.modeChanged
  rustCriticality := file.rustCriticality.map rustCriticalityOf

/-- A report that was read back, as the gate and the audit events take it. -/
def changeRiskReportOf (report : RiskReport) : ChangeRiskReport where
  baselineCommitSha := report.baselineCommitSha
  patchSha256 := report.patchSha256
  files := report.files.map fileRiskClassificationOf
  reportReasons := report.reportReasons.map changeRiskReasonOf

end Reports

/-! ## One call of `apply_approved_patch` -/

/-- What the environment answers in a call. -/
structure PatchAnswers where
  ambient : Ambient
  checks : CheckAnswers
  historyFault : Option PyException
  checkApplies : GitAnswer
  apply : GitAnswer
  auditWrite : AuditWrite

section Patch
variable [UnicodeTables] [Digest] [IsoTime]

/-- What a call does before its first run of `git apply`. -/
def admitApply (used : List ApprovalUseKey) (stores : ℕ → List AuditEvent)
    (answers : PatchAnswers) (call : ApplyCall) : Except PyException ChangeRiskReport := do
  let report ← (checkCall answers.ambient answers.checks call).2
  ensureApprovalNotPreviouslyApplied call.logger call.approvalUseKey stores answers.historyFault
  raiseIf (call.approvalUseKey ∈ used) alreadyUsedError
  return report

/-- `apply_approved_patch`. -/
def applyApprovedPatch (used : List ApprovalUseKey) (stores : ℕ → List AuditEvent)
    (answers : PatchAnswers) (call : ApplyCall) : Except PyException ApprovedPatchApplyResult := do
  let report ← admitApply used stores answers call
  checkPatchApplies call.patchDiff.patch answers.checkApplies
  applyPatch call.patchDiff.patch answers.apply
  let result := applyResult call report
  match (auditOutcome (approvedPatchApplyEvent answers.ambient call result) answers.auditWrite).2 with
  | some exc => .error exc
  | none => .ok result

end Patch

/-! ## `apply_approved` of the artifact store -/

/-- The process and the durable state that a call meets. -/
structure StoreState where
  repoIdentity : String → String
  directory : Directory
  used : List ApprovalUseKey
  stores : ℕ → List AuditEvent

/-- What the environment answers in a call: `lock` and `unlock` are the exceptions of the
artifact lock. -/
structure StoreAnswers where
  lock : Option PyException
  now : ℤ
  patch : PatchAnswers
  consumedAt : String
  writeFault : Option PyException
  unlock : Option PyException

/-- The arguments of `apply_approved`, with the target path resolved. -/
structure StoreCall where
  artifactId : String
  target : Except PyException String
  approvalRequest : ApprovalRequest
  approvalDecision : ApprovalDecision
  logger : Option Logger

/-- `raise` for the exception that a step of the environment came to. -/
def raiseOf : Option PyException → Except PyException Unit
  | some exc => .error exc
  | none => .ok ()

section Store
variable [UnicodeTables] [Digest] [IsoDateTime] [BytesDigest] [FloatText] [Conversions]

/-- The loaded artifact and the call of `apply_approved_patch` that it comes to. -/
def boundApplyCall (state : StoreState) (now : ℤ) (call : StoreCall) (normalizedId : String) :
    Except PyException (PatchArtifact × ApplyCall) := do
  let artifact ← load state.repoIdentity state.directory now normalizedId false false
  raiseIf (artifact.approvalRequestId ≠ call.approvalRequest.approvalId)
    (patchArtifactError "Patch artifact is bound to a different approval request.")
  let artifactId := (call.approvalRequest.metadata.get "artifact_id").getD .none
  raiseIf (artifactId ≠ .none ∧ artifactId ≠ .str artifact.artifactId)
    (patchArtifactError "Approval request artifact binding does not match.")
  let targetRepo ← call.target
  raiseIf (state.repoIdentity targetRepo ≠ artifact.trustedRepoIdentitySha256)
    (patchArtifactError "Patch artifact is bound to a different trusted repository.")
  let patchDiff ← artifact.toPatchDiff
  let riskReport ← artifact.toRiskReport
  return (artifact, {
    patchDiff := patchDiff
    targetRepo := targetRepo
    approvalRequest := call.approvalRequest
    approvalDecision := call.approvalDecision
    riskReport := some (changeRiskReportOf riskReport)
    logger := call.logger })

/-- What runs under the artifact lock. -/
def applyLocked (state : StoreState) (answers : StoreAnswers) (call : StoreCall)
    (normalizedId : String) : Except PyException ApprovedPatchApplyResult := do
  let (artifact, applyCall) ← boundApplyCall state answers.now call normalizedId
  let result ← applyApprovedPatch state.used state.stores answers.patch applyCall
  raiseOf answers.writeFault
  let _ ← markConsumedUnlocked state.repoIdentity state.directory answers.now answers.consumedAt
    artifact
  return result

/-- `apply_approved`: an exception of the release of the lock replaces the outcome. -/
def applyApproved (state : StoreState) (answers : StoreAnswers) (call : StoreCall) :
    Except PyException ApprovedPatchApplyResult := do
  let normalizedId ← requireIdentifier call.artifactId "artifact ID"
  raiseOf answers.lock
  match answers.unlock with
  | some exc => .error exc
  | none => applyLocked state answers call normalizedId

end Store

end Rygnal.Apply
