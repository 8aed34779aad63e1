import Rygnal.Approval.Authorization
import Rygnal.Approval.Receipt
import Rygnal.ChangeRisk.Classification

/-! # Approval of a patch

`patch_approval.py`: when a patch needs an approval, the request and the decisions that bind
its digest and its baseline, and the checks of `assert_patch_approval_granted` before the
patch is applied.
-/

namespace Rygnal.Approval
open Rygnal.Core Rygnal.Core.PyException Rygnal.Library Rygnal.Library.PyText Rygnal.Security
  Rygnal.ChangeRisk

def patchApprovalError (message : String) : PyException :=
  .runtime (.other "PatchApprovalError") message

/-! ## Requirement -/

structure PatchApprovalReason where
  code : String
  reason : String
  path : Option String
  riskLevel : Option RiskLevel
deriving DecidableEq, Repr

def PatchApprovalReason.auditSummary (reason : PatchApprovalReason) : Value :=
  .dict [("code", .str reason.code), ("reason", .str reason.reason),
    ("path", optionValue reason.path),
    ("risk_level", optionValue (reason.riskLevel.map RiskLevel.value))]

structure PatchApprovalRequirement where
  required : Bool
  reasons : List PatchApprovalReason
  riskReport : ChangeRiskReport
  blocked : Bool

def PatchApprovalRequirement.auditSummary (requirement : PatchApprovalRequirement) : Value :=
  .dict [("required", .bool requirement.required),
    ("reasons", .tuple (requirement.reasons.map PatchApprovalReason.auditSummary)),
    ("blocked", .bool requirement.blocked),
    ("overall_risk_level", .str requirement.riskReport.overallRiskLevel.value),
    ("risk_counts", requirement.riskReport.riskCounts)]

def isLowRiskDocsOrTests (fileRisk : FileRiskClassification) : Bool :=
  if fileRisk.riskLevel ≠ .low then false
  else fileRisk.reasons ≠ [] ∧
    ∀ reason ∈ fileRisk.reasons, reason.code ∈ ["documentation-change", "test-change"]

def fileApprovalReasons (fileRisk : FileRiskClassification) : List PatchApprovalReason :=
  (if isLowRiskDocsOrTests fileRisk then []
  else [⟨"not-safe-auto-apply-file", "Changed file is not eligible for safe auto-apply.",
    some fileRisk.path, some fileRisk.riskLevel⟩]) ++
  (fileRisk.reasons.filter fun reason => reason.riskLevel ∈ [RiskLevel.medium, .high]).map
    fun reason => ⟨reason.code, reason.reason, some fileRisk.path, some reason.riskLevel⟩

/-- `_dedupe_reasons`: the first reason of each code and path stays. -/
def dedupeReasons (reasons : List PatchApprovalReason) : List PatchApprovalReason :=
  reasons.foldl (fun deduped reason =>
    if deduped.any fun kept => kept.code = reason.code ∧ kept.path = reason.path then deduped
    else deduped ++ [reason]) []

def approvalReasons (patchDiff : PatchDiff) (riskReport : ChangeRiskReport) :
    List PatchApprovalReason :=
  dedupeReasons
    ((if patchDiff.ignoredFiles ≠ [] then
      [⟨"ignored-workspace-changes",
        "Workspace contains ignored changes outside the reviewable patch.", none, none⟩]
    else []) ++
    (if riskReport.overallRiskLevel ≠ .low then
      [⟨"overall-risk", "Patch risk is above the safe auto-apply threshold.", none,
        some riskReport.overallRiskLevel⟩]
    else []) ++
    ((riskReport.reportReasons.filter fun reason =>
        reason.riskLevel ∈ [RiskLevel.medium, .high, .critical]).map fun reason =>
      ⟨reason.code, reason.reason, none, some reason.riskLevel⟩) ++
    riskReport.files.flatMap fileApprovalReasons)

/-- `evaluate_patch_approval_requirement` for a given report and its gate. -/
def evaluatePatchApprovalRequirement (patchDiff : PatchDiff) (riskReport : ChangeRiskReport) :
    PatchApprovalRequirement :=
  if gateBlocked riskReport then ⟨false, [], riskReport, true⟩
  else
    let reasons := approvalReasons patchDiff riskReport
    ⟨reasons ≠ [], reasons, riskReport, false⟩

/-! ## Decisions -/

def decisionBindingMetadata (request : ApprovalRequest) : Dict :=
  [("patch_sha256", request.target)] ++
    match request.metadata.get "baseline_commit_sha" with
    | some (.str baseline) =>
      if isPresent baseline then [("baseline_commit_sha", .str baseline)] else []
    | _ => []

def validateDecisionContext (request : ApprovalRequest) (patchSha256 : Option String) :
    Except PyException Unit :=
  raiseIf (patchSha256.any fun sha => request.target ≠ .str sha)
    (patchApprovalError "Approval request patch digest mismatch.")

section Decisions
variable [UnicodeTables]

/-- The decision that `approve_patch_request` and `reject_patch_request` construct. -/
def patchDecision (request : ApprovalRequest) (approved : Bool) (decidedBy reason now : String) :
    ApprovalDecision where
  approvalId := request.approvalId
  status := if approved then .approved else .rejected
  approved := approved
  decidedBy := some decidedBy
  decidedAt := some now
  reason := redactSensitiveString reason
  metadata := decisionBindingMetadata request

def approvePatchRequest [Digest] (request : ApprovalRequest) (decidedBy reason : String)
    (patchSha256 : Option String) (now : String) : Except PyException ApprovalDecision := do
  validateDecisionContext request patchSha256
  attachApprovalReceipt request (patchDecision request true decidedBy reason now)

def rejectPatchRequest (request : ApprovalRequest) (decidedBy reason : String)
    (patchSha256 : Option String) (now : String) : Except PyException ApprovalDecision := do
  validateDecisionContext request patchSha256
  return patchDecision request false decidedBy reason now

end Decisions

/-! ## The checks before a patch is applied -/

/-- `datetime.fromisoformat`, in microseconds and with UTC for a naive time. -/
class IsoTime where
  fromIsoFormat : Text → Option ℤ

def defaultPatchApprovalTtlSeconds : ℤ := 60 * 60

section Granted
variable [IsoTime]

def parseApprovalTimestamp (value : String) (fieldName : String) : Except PyException ℤ :=
  let stripped := strip value.toList
  let normalized :=
    if endsWith stripped "Z" then stripped.dropLast ++ "+00:00".toList else stripped
  match IsoTime.fromIsoFormat normalized with
  | some time => .ok time
  | none => .error (patchApprovalError ("Invalid " ++ fieldName ++ "."))

def ensurePatchApprovalNotExpired (request : ApprovalRequest) (decision : ApprovalDecision)
    (now ttlSeconds : ℤ) : Except PyException Unit := do
  raiseIf (ttlSeconds ≤ 0) (patchApprovalError "Patch approval TTL must be positive.")
  let createdAt ← parseApprovalTimestamp request.createdAt "approval request creation time"
  match decision.decidedAt with
  | none => .error (patchApprovalError "Approval decision time is required.")
  | some text =>
    let decidedAt ← parseApprovalTimestamp text "approval decision time"
    raiseIf (decidedAt < createdAt)
      (patchApprovalError "Approval decision predates approval request.")
    raiseIf (now < createdAt)
      (patchApprovalError "Approval request creation time is in the future.")
    raiseIf (now < decidedAt) (patchApprovalError "Approval decision time is in the future.")
    raiseIf (ttlSeconds * 1000000 < now - createdAt)
      (patchApprovalError "Patch approval is stale or expired.")

/-- `assert_patch_approval_granted` before the times are checked. -/
def assertPatchApprovalBound (request : ApprovalRequest) (decision : ApprovalDecision)
    (patchDiff : PatchDiff) : Except PyException Unit := do
  raiseIf (!(validateTransition .pending decision.status).allowed)
    (patchApprovalError (validateTransition .pending decision.status).reason)
  raiseIf (request.approvalId ≠ decision.approvalId)
    (patchApprovalError "Approval decision does not match request.")
  raiseIf (request.target ≠ .str patchDiff.patchSha256)
    (patchApprovalError "Approval request is not bound to this patch digest.")
  raiseIf (decision.metadata.get "patch_sha256" ≠ some (.str patchDiff.patchSha256))
    (patchApprovalError "Approval decision is not bound to this patch digest.")
  raiseIf (request.metadata.get "baseline_commit_sha" ≠ some (.str patchDiff.baselineCommitSha))
    (patchApprovalError "Approval request baseline does not match guarded patch.")
  raiseIf (decision.metadata.get "baseline_commit_sha" ≠ some (.str patchDiff.baselineCommitSha))
    (patchApprovalError "Approval decision baseline does not match guarded patch.")

variable [UnicodeTables] [Digest]

def assertPatchApprovalGranted (request : ApprovalRequest) (decision : ApprovalDecision)
    (patchDiff : PatchDiff) (now : ℤ) : Except PyException Unit := do
  assertPatchApprovalBound request decision patchDiff
  ensurePatchApprovalNotExpired request decision now defaultPatchApprovalTtlSeconds
  raiseIf (decision.status ≠ .approved ∨ !decision.approved)
    (patchApprovalError "Patch approval was not granted.")
  (assertApprovalReceiptValid request decision).mapError fun exc => patchApprovalError exc.message

end Granted

end Rygnal.Approval
