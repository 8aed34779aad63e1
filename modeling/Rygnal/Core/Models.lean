import Rygnal.Security.Redaction

/-! # Shared data models

The records of `models.py` that the approval code reads. A validator of the source is a
field of the structure, so a request with blank context cannot be built; redaction keeps it.
-/

namespace Rygnal.Core
open Rygnal.Library Rygnal.Library.PyText Rygnal.Security

inductive Decision where
  | allow
  | block
  | requireApproval
  | simulate
deriving DecidableEq, Repr

inductive Severity where
  | low
  | medium
  | high
  | critical
deriving DecidableEq, Repr

inductive ApprovalStatus where
  | pending
  | approved
  | rejected
deriving DecidableEq, Repr

def ApprovalStatus.value : ApprovalStatus → String
  | .pending => "pending"
  | .approved => "approved"
  | .rejected => "rejected"

def Decision.value : Decision → String
  | .allow => "allow"
  | .block => "block"
  | .requireApproval => "require_approval"
  | .simulate => "simulate"

def Severity.value : Severity → String
  | .low => "low"
  | .medium => "medium"
  | .high => "high"
  | .critical => "critical"

inductive RuntimeMode where
  | observe
  | simulate
  | enforce
  | productionSafe
deriving DecidableEq, Repr

def RuntimeMode.value : RuntimeMode → String
  | .observe => "observe"
  | .simulate => "simulate"
  | .enforce => "enforce"
  | .productionSafe => "production_safe"

/-- `bool(value.strip())`. -/
def isPresent (value : String) : Bool := strip value.toList ≠ []

/-- Approval permissions of a reviewer role; the lists are the allow lists. -/
structure RolePermission where
  role : String
  allowedSeverities : List Severity
  allowedActions : Option (List String)
  environments : Option (List String)
  rolePresent : isPresent role = true
  severitiesNonempty : allowedSeverities ≠ []
  listsPresent : ∀ items ∈ allowedActions.toList ++ environments.toList,
    items ≠ [] ∧ ∀ item ∈ items, isPresent item = true

structure ToolRequest where
  toolName : String
  action : Option String
  target : Option String
  input : Value
  userId : String
  agentId : String
  environment : String
  metadata : Dict
deriving DecidableEq, Repr

/-- The explanation is its JSON dump. -/
structure PolicyDecision where
  decision : Decision
  allowed : Bool
  severity : Severity
  reason : String
  policyId : Option String
  explanation : Option Dict
deriving DecidableEq, Repr

structure ApprovalRequest where
  approvalId : String
  createdAt : String
  traceId : String
  requestedBy : String
  agentId : String
  environment : String
  toolName : String
  action : Option String
  target : Value
  policyId : Option String
  reason : String
  severity : Severity
  riskAssessment : Dict
  metadata : Dict
  contextPresent : ∀ value ∈ [approvalId, createdAt, traceId, requestedBy, agentId, environment,
    toolName, reason], isPresent value = true
deriving DecidableEq, Repr

structure ApprovalDecision where
  approvalId : String
  status : ApprovalStatus
  approved : Bool
  decidedBy : Option String
  decidedAt : Option String
  reason : String
  metadata : Dict
deriving DecidableEq, Repr

/-! ## Redacted JSON -/

section Redaction
variable [UnicodeTables]

theorem isPresent_redactSensitiveString {value : String} (h : isPresent value = true) :
    isPresent (redactSensitiveString value) = true := by
  simp only [isPresent, redactSensitiveString, String.toList_ofList, decide_eq_true_eq] at h ⊢
  exact redactText_not_blank h

theorem isPresent_of_redacted {value : String} (h : redactSensitiveString value ≠ value) :
    isPresent (redactSensitiveString value) = true := by
  simp only [isPresent, redactSensitiveString, String.toList_ofList, decide_eq_true_eq]
  refine (redactText_eq_self_or_not_blank value.toList).resolve_left fun hsame => h ?_
  rw [redactSensitiveString, hsame, String.ofList_toList]

/-- A value after `redact_sensitive_value`, `json.dumps` and `json.loads`. -/
def storedValue (v : Value) : Value := (redactSensitiveValue v).jsonRoundTrip

def storedDict (d : Dict) : Dict :=
  (Value.jsonRoundTripEntries (redactEntries d)).insertionSort fun e f => e.1 ≤ f.1

theorem get_redactEntries (d : Dict) (key : String) :
    PyDict.get (redactEntries d) key = (PyDict.get d key).map fun v =>
      if isSensitiveKey key then .str redacted else redactSensitiveValue v := by
  induction d with
  | nil => rfl
  | cons e d ih =>
    obtain ⟨k, v⟩ := e
    rw [redactEntries, PyDict.get_cons, PyDict.get_cons, ih]
    split
    · rename_i hk
      rw [hk]
      rfl
    · rfl

omit [UnicodeTables] in
theorem get_jsonRoundTripEntries (d : Dict) (key : String) :
    PyDict.get (Value.jsonRoundTripEntries d) key =
      (PyDict.get d key).map Value.jsonRoundTrip := by
  induction d with
  | nil => rfl
  | cons e d ih =>
    obtain ⟨k, v⟩ := e
    rw [Value.jsonRoundTripEntries, PyDict.get_cons, PyDict.get_cons, ih]
    split <;> rfl

theorem keys_redactEntries (d : Dict) : (redactEntries d).map Prod.fst = d.map Prod.fst := by
  induction d with
  | nil => rfl
  | cons e d ih => simp [redactEntries, ih]

omit [UnicodeTables] in
theorem keys_jsonRoundTripEntries (d : Dict) :
    (Value.jsonRoundTripEntries d).map Prod.fst = d.map Prod.fst := by
  induction d with
  | nil => rfl
  | cons e d ih => simp [Value.jsonRoundTripEntries, ih]

/-- A field of a stored dictionary is the stored field, or the redaction of a sensitive one. -/
theorem get_storedDict {d : Dict} (hd : (d.map Prod.fst).Nodup) (key : String) :
    PyDict.get (storedDict d) key = (PyDict.get d key).map fun v =>
      if isSensitiveKey key then .str redacted else storedValue v := by
  have hkeys : ((Value.jsonRoundTripEntries (redactEntries d)).map Prod.fst).Nodup := by
    rwa [keys_jsonRoundTripEntries, keys_redactEntries]
  have hsort := PyDict.get_of_perm (List.perm_insertionSort (fun e f => e.1 ≤ f.1) _).symm hkeys key
  rw [storedDict, ← hsort, get_jsonRoundTripEntries, get_redactEntries, Option.map_map]
  congr 1
  ext v
  simp only [Function.comp_apply]
  split
  · rfl
  · rfl

/-- The request that is read back from `_redacted_model_json`. None of its field names is a
sensitive key. -/
def ApprovalRequest.stored (request : ApprovalRequest) : ApprovalRequest where
  approvalId := redactSensitiveString request.approvalId
  createdAt := redactSensitiveString request.createdAt
  traceId := redactSensitiveString request.traceId
  requestedBy := redactSensitiveString request.requestedBy
  agentId := redactSensitiveString request.agentId
  environment := redactSensitiveString request.environment
  toolName := redactSensitiveString request.toolName
  action := request.action.map redactSensitiveString
  target := storedValue request.target
  policyId := request.policyId.map redactSensitiveString
  reason := redactSensitiveString request.reason
  severity := request.severity
  riskAssessment := storedDict request.riskAssessment
  metadata := storedDict request.metadata
  contextPresent := by
    have h := request.contextPresent
    simp only [List.forall_mem_cons] at h ⊢
    obtain ⟨h₁, h₂, h₃, h₄, h₅, h₆, h₇, h₈, h₉⟩ := h
    exact ⟨isPresent_redactSensitiveString h₁, isPresent_redactSensitiveString h₂,
      isPresent_redactSensitiveString h₃, isPresent_redactSensitiveString h₄,
      isPresent_redactSensitiveString h₅, isPresent_redactSensitiveString h₆,
      isPresent_redactSensitiveString h₇, isPresent_redactSensitiveString h₈, h₉⟩

/-- The decision that is read back from `_redacted_model_json`. -/
def ApprovalDecision.stored (decision : ApprovalDecision) : ApprovalDecision where
  approvalId := redactSensitiveString decision.approvalId
  status := decision.status
  approved := decision.approved
  decidedBy := decision.decidedBy.map redactSensitiveString
  decidedAt := decision.decidedAt.map redactSensitiveString
  reason := redactSensitiveString decision.reason
  metadata := storedDict decision.metadata

/-- No field name of the two models is redacted as a whole. -/
theorem fieldNames_not_sensitive : (["approval_id", "created_at", "trace_id", "requested_by",
    "agent_id", "environment", "tool_name", "action", "target", "policy_id", "reason", "severity",
    "risk_assessment", "metadata", "status", "approved", "decided_by", "decided_at"].any
    isSensitiveKey) = false :=
  rfl

end Redaction

end Rygnal.Core
