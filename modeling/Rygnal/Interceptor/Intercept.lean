import Rygnal.Approval.Workflow

/-! # The interceptor

`RygnalInterceptor.intercept` with its collaborators as arguments. A run records its
effects in order: the audit events that were appended and the executions of the tool.
-/

namespace Rygnal.Interceptor
open Rygnal.Core Rygnal.Library Rygnal.Library.PyText Rygnal.Security Rygnal.Approval

structure AuditEvent where
  traceId : String
  userId : String
  agentId : String
  environment : String
  toolName : String
  action : Option String
  target : Value
  input : Value
  decision : Decision
  allowed : Bool
  severity : Severity
  policyId : Option String
  reason : String
  metadata : Value
deriving DecidableEq, Repr

inductive ExecutionStatus where
  | executed
  | skipped
  | failed
  | simulated
deriving DecidableEq, Repr

structure ToolExecutionResult where
  status : ExecutionStatus
  executed : Bool
  output : Value
  error : Option String
deriving DecidableEq, Repr

/-- What `write_event` did: a failing mirror raises after the event was appended. -/
inductive AuditWrite where
  | written
  | failed (exc : PyException)
  | writtenThenFailed (exc : PyException)
deriving DecidableEq, Repr

inductive Effect where
  | audited (event : AuditEvent)
  | executed (request : ToolRequest)
deriving DecidableEq, Repr

structure InterceptorResult where
  request : ToolRequest
  riskAssessment : Dict
  policyDecision : PolicyDecision
  auditEvent : AuditEvent
  execution : ToolExecutionResult
  approvalDecision : Option ApprovalDecision

/-- The effects of a call and what it returned or raised. -/
structure Run where
  effects : List Effect
  outcome : Except PyException InterceptorResult

/-- The constructor arguments. `execute` is `ToolExecutor.execute`, `write` the
`write_event` of the audit logger. -/
structure RygnalInterceptor where
  assess : ToolRequest → Except PyException Dict
  evaluate : ToolRequest → Dict → Except PyException PolicyDecision
  approvalWorkflow : Option ApprovalWorkflow
  write : AuditEvent → AuditWrite
  execute : ToolRequest → ToolExecutionResult
  runtimeMode : RuntimeMode

def failClosedRuntimeErrors : List ExceptionClass :=
  [.runtimeError, .valueError, .osError, .lookupError]

/-- `type(exc).__name__`. -/
def typeName (exc : PyException) : String :=
  match exc.type with
  | .baseException => "BaseException"
  | .exception => "Exception"
  | .runtimeError => "RuntimeError"
  | .valueError => "ValueError"
  | .osError => "OSError"
  | .lookupError => "LookupError"
  | .unicodeEncodeError => "UnicodeEncodeError"
  | .jsonDecodeError => "JSONDecodeError"
  | .approvalReceiptConflictError => "ApprovalReceiptConflictError"
  | .approvalReceiptPayloadError => "ApprovalReceiptPayloadError"
  | .approvedPatchApplyError => "ApprovedPatchApplyError"
  | .patchArtifactError => "PatchArtifactError"
  | .approvalOperationError => "ApprovalOperationError"
  | .approvalOperationStateError => "ApprovalOperationStateError"
  | .other name => name

def skipped (error : String) : ToolExecutionResult := ⟨.skipped, false, .none, some error⟩

def simulated (output : String) : ToolExecutionResult := ⟨.simulated, false, .str output, none⟩

/-- The explanation of a fail-closed decision. -/
def failClosedExplanation (reasonCode : String) : Dict :=
  [("policy_version", .str "global-fail-closed.v1"), ("matched", .bool false),
    ("matched_rule_id", .none), ("matched_rule_priority", .none),
    ("matched_conditions", .list [.str reasonCode]), ("evaluated_rule_ids", .list []),
    ("default_decision", .bool false)]

def failClosedPolicy (reasonCode errorType : String) : PolicyDecision where
  decision := .block
  allowed := false
  severity := .high
  reason := "global_fail_closed:" ++ reasonCode ++ ":" ++ errorType
  policyId := some "global-fail-closed"
  explanation := some (failClosedExplanation reasonCode)

/-- `policy_decision.model_dump(mode="json")`. -/
def dumpPolicy (policy : PolicyDecision) : Dict :=
  [("decision", .str policy.decision.value), ("allowed", .bool policy.allowed),
    ("severity", .str policy.severity.value), ("reason", .str policy.reason),
    ("policy_id", optionValue policy.policyId),
    ("explanation", (policy.explanation.map Value.dict).getD .none)]

/-- The approval entry of the audit metadata. -/
def approvalMetadata (decision : ApprovalDecision) : Value :=
  .dict [("approval_id", .str decision.approvalId), ("status", .str decision.status.value),
    ("approved", .bool decision.approved), ("decided_by", optionValue decision.decidedBy),
    ("decided_at", optionValue decision.decidedAt), ("reason", .str decision.reason),
    ("metadata", .dict decision.metadata)]

/-- `_policy_explanation_metadata`, where an empty explanation adds nothing. -/
def explanationMetadata (policy : PolicyDecision) : Dict :=
  match policy.explanation with
  | some (e :: es) => [("policy_explanation", .dict (e :: es))]
  | _ => []

def auditMetadata (i : RygnalInterceptor) (risk : Dict) (policy : PolicyDecision) : Dict :=
  (risk.set "runtime_mode" (.str i.runtimeMode.value)).merge (explanationMetadata policy)

/-- `_execute_with_decision`: the executions of the tool and the result. -/
def executeWithDecision (i : RygnalInterceptor) (request : ToolRequest)
    (policy : PolicyDecision) (approval : Option ApprovalDecision) :
    List Effect × ToolExecutionResult :=
  match i.runtimeMode with
  | .observe => ([], skipped "Tool execution skipped: Rygnal is in observe mode.")
  | .simulate =>
    match policy.decision with
    | .allow => ([], simulated "Simulated tool execution (simulate mode).")
    | decision => ([], skipped ("Tool execution skipped (simulate mode): " ++ decision.value))
  | .enforce | .productionSafe =>
    match policy.decision with
    | .allow => ([.executed request], i.execute request)
    | .simulate => ([], simulated "Simulated decision. Tool was not executed.")
    | .requireApproval =>
      if approval.any (·.approved) then ([.executed request], i.execute request)
      else ([], skipped "Tool execution skipped because approval was not granted.")
    | .block => ([], skipped ("Tool execution skipped because decision is: " ++ Decision.block.value))

section Interception
variable [UnicodeTables]

/-- The event that `log_decision` builds. -/
def decisionEvent (ambient : Ambient) (request : ToolRequest) (policy : PolicyDecision)
    (metadata : Dict) : AuditEvent where
  traceId := match request.metadata.get "trace_id" with
    | some .none | none => ambient.newTraceId
    | some v => ambient.str (redactSensitiveValue v)
  userId := request.userId
  agentId := request.agentId
  environment := request.environment
  toolName := request.toolName
  action := request.action
  target := redactSensitiveValue (optionValue request.target)
  input := redactSensitiveValue request.input
  decision := policy.decision
  allowed := policy.allowed
  severity := policy.severity
  policyId := policy.policyId
  reason := policy.reason
  metadata := redactSensitiveValue (.dict metadata)

/-- The event that stands in when a fail-closed event cannot be written. -/
def fallbackEvent (ambient : Ambient) (request : ToolRequest) (policy : PolicyDecision)
    (metadata : Dict) (errorType : String) : AuditEvent :=
  { decisionEvent ambient request policy (metadata.merge
      [("audit_write_failed", .bool true), ("audit_error_type", .str errorType),
        ("audit_error_summary", .str (errorType ++ " while writing fail-closed audit event"))]) with
    traceId := match request.metadata.get "trace_id" with
      | some v => if v.truthy then ambient.str v else ""
      | none => "" }

/-- `_fail_closed_result`. -/
def failClosedResult (i : RygnalInterceptor) (ambient : Ambient) (request : ToolRequest)
    (reasonCode : String) (exc : PyException) (riskMetadata extraMetadata : Dict) : Run :=
  let errorType := typeName exc
  let policy := failClosedPolicy reasonCode errorType
  let metadata := (riskMetadata.merge
    [("runtime_mode", .str i.runtimeMode.value), ("fail_closed", .bool true),
      ("fail_closed_reason_code", .str reasonCode), ("error_type", .str errorType),
      ("error_summary", .str (errorType ++ " during " ++ reasonCode)),
      ("policy_explanation", .dict (failClosedExplanation reasonCode))]).merge extraMetadata
  let event := decisionEvent ambient request policy metadata
  let result (event : AuditEvent) : InterceptorResult :=
    ⟨request, riskMetadata, policy, event, skipped policy.reason, none⟩
  let recover (effects : List Effect) (auditExc : PyException) : Run :=
    if auditExc.isInstance failClosedRuntimeErrors then
      ⟨effects, .ok (result (fallbackEvent ambient request policy metadata (typeName auditExc)))⟩
    else ⟨effects, .error auditExc⟩
  match i.write event with
  | .written => ⟨[.audited event], .ok (result event)⟩
  | .failed auditExc => recover [] auditExc
  | .writtenThenFailed auditExc => recover [.audited event] auditExc

/-- The end of `intercept`: write the decision, then act on it. -/
def auditAndExecute (i : RygnalInterceptor) (ambient : Ambient) (request : ToolRequest)
    (risk : Dict) (policy : PolicyDecision) (approval : Option ApprovalDecision)
    (metadata : Dict) : Run :=
  let event := decisionEvent ambient request policy metadata
  match i.write event with
  | .failed exc => ⟨[], .error exc⟩
  | .writtenThenFailed exc => ⟨[.audited event], .error exc⟩
  | .written =>
    let (effects, execution) := executeWithDecision i request policy approval
    ⟨.audited event :: effects, .ok ⟨request, risk, policy, event, execution, approval⟩⟩

variable [Digest]

/-- The workflow that `intercept` uses. -/
def workflowOf (i : RygnalInterceptor) (ambient : Ambient) : ApprovalWorkflow :=
  i.approvalWorkflow.getD (.default ambient)

/-- An exception of a guarded call: the fail-closed result, or on to the caller. -/
def guarded (i : RygnalInterceptor) (ambient : Ambient) (request : ToolRequest)
    (reasonCode : String) (exc : PyException) (riskMetadata extraMetadata : Dict) : Run :=
  if exc.isInstance failClosedRuntimeErrors then
    failClosedResult i ambient request reasonCode exc riskMetadata extraMetadata
  else ⟨[], .error exc⟩

def intercept (i : RygnalInterceptor) (ambient : Ambient) (request : ToolRequest) : Run :=
  match i.assess request with
  | .error exc => guarded i ambient request "risk_assessment_failed" exc [] []
  | .ok risk =>
    match i.evaluate request risk with
    | .error exc => guarded i ambient request "policy_evaluation_failed" exc risk []
    | .ok policy =>
      if policy.decision = .requireApproval then
        match (workflowOf i ambient).requestApproval ambient request policy risk with
        | .error exc => guarded i ambient request "approval_workflow_failed" exc risk
            [("unconfirmed_pre_approval_decision", .dict (dumpPolicy policy))]
        | .ok (_, approval) =>
          auditAndExecute i ambient request risk policy (some approval)
            ((auditMetadata i risk policy).set "approval" (approvalMetadata approval))
      else auditAndExecute i ambient request risk policy none (auditMetadata i risk policy)

end Interception

end Rygnal.Interceptor
