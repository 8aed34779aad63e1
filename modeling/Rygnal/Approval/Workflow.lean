import Rygnal.Approval.Authorization
import Rygnal.Approval.Receipt

/-! # The approval workflow

`ApprovalWorkflow.request_approval`: build the request, ask the resolver, authorize its
decision and attach the receipt. The resolver is arbitrary code and an argument.
-/

namespace Rygnal.Approval
open Rygnal.Core Rygnal.Library Rygnal.Library.PyText Rygnal.Security

/-- Fresh ids and times of one call, and `str` of a value that is not a string. -/
structure Ambient where
  newTraceId : String
  newApprovalId : String
  now : String
  render : Value → String

/-- `str(value)`. -/
def Ambient.str (ambient : Ambient) : Value → String
  | .str s => s
  | v => ambient.render v

abbrev ApprovalResolver := ApprovalRequest → Except PyException ApprovalDecision

structure ApprovalWorkflow where
  resolver : ApprovalResolver
  authorizationEngine : ApprovalAuthorizationEngine

/-- `reject_by_default`. -/
def rejectByDefault (now : String) (request : ApprovalRequest) : ApprovalDecision where
  approvalId := request.approvalId
  status := .rejected
  approved := false
  decidedBy := some "system"
  decidedAt := some now
  reason := "Approval workflow is not configured. Request rejected by default."
  metadata := []

/-- `ApprovalWorkflow()`. -/
def ApprovalWorkflow.default (ambient : Ambient) : ApprovalWorkflow where
  resolver request := .ok (rejectByDefault ambient.now request)
  authorizationEngine := ⟨[], []⟩

def blankContextError : PyException :=
  .value (.other "ValidationError") "Approval request context fields must not be blank."

def idMismatchError : PyException :=
  ⟨[.valueError, .exception, .baseException],
    "Approval decision ID does not match approval request ID."⟩

/-- `str(request.metadata.get("trace_id") or new_trace_id())`. -/
def traceIdOf (ambient : Ambient) (request : ToolRequest) : String :=
  match request.metadata.get "trace_id" with
  | some v => if v.truthy then ambient.str v else ambient.newTraceId
  | none => ambient.newTraceId

section Workflow
variable [UnicodeTables]

/-- The request that `request_approval` builds, when its validators accept it. -/
def buildApprovalRequest (ambient : Ambient) (request : ToolRequest)
    (policy : PolicyDecision) (riskAssessment : Dict) : Except PyException ApprovalRequest :=
  if h : ∀ value ∈ [ambient.newApprovalId, ambient.now, traceIdOf ambient request, request.userId,
      request.agentId, request.environment, request.toolName, policy.reason],
      isPresent value = true then
    .ok {
      approvalId := ambient.newApprovalId
      createdAt := ambient.now
      traceId := traceIdOf ambient request
      requestedBy := request.userId
      agentId := request.agentId
      environment := request.environment
      toolName := request.toolName
      action := request.action
      target := optionValue request.target
      policyId := policy.policyId
      reason := policy.reason
      severity := policy.severity
      riskAssessment := redactEntries riskAssessment
      metadata := redactEntries request.metadata
      contextPresent := h }
  else .error blankContextError

/-- `_apply_authorization_result`. -/
def applyAuthorizationResult (ambient : Ambient) (decision : ApprovalDecision)
    (result : CheckResult) : ApprovalDecision :=
  let metadata := decision.metadata.merge result.metadata
  if result.allowed then { decision with metadata := metadata }
  else
    { approvalId := decision.approvalId
      status := .rejected
      approved := false
      decidedBy := some "system"
      decidedAt := some ambient.now
      reason := result.reason
      metadata := metadata }

variable [Digest]

def ApprovalWorkflow.requestApproval (workflow : ApprovalWorkflow) (ambient : Ambient)
    (request : ToolRequest) (policy : PolicyDecision) (riskAssessment : Dict) :
    Except PyException (ApprovalRequest × ApprovalDecision) := do
  let approvalRequest ← buildApprovalRequest ambient request policy riskAssessment
  let decision ← workflow.resolver approvalRequest
  if decision.approvalId ≠ approvalRequest.approvalId then .error idMismatchError
  else
    let result := workflow.authorizationEngine.authorize approvalRequest decision .pending
    let authorized := applyAuthorizationResult ambient decision result
    return (approvalRequest, ← attachApprovalReceipt approvalRequest authorized)

end Workflow

/-! ## What a returned decision went through -/

section Spec
variable [UnicodeTables] {ambient : Ambient} {workflow : ApprovalWorkflow} {request : ToolRequest}
  {policy : PolicyDecision} {riskAssessment : Dict} {approvalRequest : ApprovalRequest}
  {decision : ApprovalDecision}

theorem buildApprovalRequest_requestedBy
    (h : buildApprovalRequest ambient request policy riskAssessment = .ok approvalRequest) :
    approvalRequest.requestedBy = request.userId := by
  unfold buildApprovalRequest at h
  split at h
  · cases h
    rfl
  · cases h

omit [UnicodeTables] in
theorem applyAuthorizationResult_approved (ambient : Ambient) (decision : ApprovalDecision)
    (result : CheckResult) : (applyAuthorizationResult ambient decision result).approved = true ↔
      result.allowed = true ∧ decision.approved = true := by
  unfold applyAuthorizationResult
  by_cases h : result.allowed = true
  · simp [h]
  · simp [h]

variable [Digest]

/-- A decision that `request_approval` returns comes from the resolver's decision for the
request, through the authorization engine. -/
theorem requestApproval_eq_ok
    (h : workflow.requestApproval ambient request policy riskAssessment =
      .ok (approvalRequest, decision)) :
    buildApprovalRequest ambient request policy riskAssessment = .ok approvalRequest ∧
    ∃ resolved, workflow.resolver approvalRequest = .ok resolved ∧
      resolved.approvalId = approvalRequest.approvalId ∧
      (decision.approved = true ↔
        (workflow.authorizationEngine.authorize approvalRequest resolved .pending).allowed =
          true ∧ resolved.approved = true) := by
  unfold ApprovalWorkflow.requestApproval at h
  cases hbuild : buildApprovalRequest ambient request policy riskAssessment with
  | error e =>
    rw [hbuild] at h
    cases h
  | ok built =>
    rw [hbuild] at h
    cases hresolve : workflow.resolver built with
    | error e =>
      simp only [bind, Except.bind, hresolve] at h
      cases h
    | ok resolved =>
      simp only [bind, Except.bind, hresolve] at h
      split at h
      · cases h
      · rename_i hid
        split at h
        · cases h
        · rename_i attached hattach
          cases h
          refine ⟨rfl, resolved, hresolve, not_not.mp hid, ?_⟩
          rw [attachApprovalReceipt_eq_ok hattach]
          exact applyAuthorizationResult_approved ..

/-- A rejection passes through the workflow as the resolver made it. -/
theorem requestApproval_of_rejected {resolved : ApprovalDecision}
    (hbuild : buildApprovalRequest ambient request policy riskAssessment = .ok approvalRequest)
    (hresolve : workflow.resolver approvalRequest = .ok resolved)
    (hid : resolved.approvalId = approvalRequest.approvalId)
    (hrejected : resolved.status = .rejected) :
    workflow.requestApproval ambient request policy riskAssessment =
      .ok (approvalRequest, resolved) := by
  have hauthorize : workflow.authorizationEngine.authorize approvalRequest resolved .pending =
      ⟨true, "Approval rejection authorized.", []⟩ := by
    simp [ApprovalAuthorizationEngine.authorize, hrejected]
  have happly : applyAuthorizationResult ambient resolved
      ⟨true, "Approval rejection authorized.", []⟩ = resolved := rfl
  have hattach : attachApprovalReceipt approvalRequest resolved = .ok resolved :=
    attachApprovalReceipt_of_not_approved (by simp [hrejected])
  unfold ApprovalWorkflow.requestApproval
  simp only [bind, Except.bind, hbuild, hresolve, hid, ne_eq, not_true_eq_false, if_false,
    hauthorize, happly, hattach]
  rfl

end Spec

end Rygnal.Approval
