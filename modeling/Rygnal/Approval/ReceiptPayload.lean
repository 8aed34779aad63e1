import Rygnal.Approval.Receipt
import Rygnal.Core.JsonText

/-! # The payload of a receipt

Which values have a canonical payload, and what the payload says of each field.
-/

namespace Rygnal.Approval
open Rygnal.Core Rygnal.Library Rygnal.Library.PyText Rygnal.Security

section Canonical
variable [UnicodeTables]

mutual

/-- No float stands in the value, save below a sensitive key. -/
def canonical : Value → Bool
  | .float _ => false
  | .list items | .tuple items => canonicalItems items
  | .dict entries => canonicalEntries entries
  | _ => true

def canonicalItems : List Value → Bool
  | [] => true
  | x :: xs => canonical x && canonicalItems xs

def canonicalEntries : List (String × Value) → Bool
  | [] => true
  | (key, x) :: es => (isSensitiveKey key || canonical x) && canonicalEntries es

end

mutual

/-- Exactly the canonical values have a stable form. -/
theorem stableJsonValue_isOk (depth : ℕ) : ∀ v : Value,
    (stableJsonValue depth v).isOk = canonical v
  | .none | .bool _ | .int _ | .float _ | .str _ => rfl
  | .list items | .tuple items => by
    rw [stableJsonValue, canonical, ← stableItems_isOk depth items]
    cases stableItems depth items <;> rfl
  | .dict entries => by
    rw [stableJsonValue, canonical, ← stableEntries_isOk depth entries]
    cases stableEntries depth entries <;> rfl

theorem stableItems_isOk (depth : ℕ) : ∀ items : List Value,
    (stableItems depth items).isOk = canonicalItems items
  | [] => rfl
  | x :: xs => by
    rw [stableItems, canonicalItems, ← stableJsonValue_isOk (depth + 1) x,
      ← stableItems_isOk depth xs]
    cases stableJsonValue (depth + 1) x <;> cases stableItems depth xs <;> rfl

theorem stableEntries_isOk (depth : ℕ) : ∀ entries : List (String × Value),
    (stableEntries depth entries).isOk = canonicalEntries entries
  | [] => rfl
  | (key, x) :: es => by
    rw [stableEntries, canonicalEntries, ← stableJsonValue_isOk (depth + 1) x,
      ← stableEntries_isOk depth es]
    cases isSensitiveKey key <;> cases stableJsonValue (depth + 1) x <;>
      cases stableEntries depth es <;> rfl

end

/-! ## Fields -/

/-- The stable form of one entry. -/
def stableEntry (depth : ℕ) (key : String) (x : Value) : Except PyException Json :=
  if isSensitiveKey key then .ok (.str (redactDeep depth redacted)) else stableJsonValue (depth + 1) x

theorem stableEntries_cons (depth : ℕ) (key : String) (x : Value) (es : Dict) :
    stableEntries depth ((key, x) :: es) = (do
      let y ← stableEntry depth key x
      let ys ← stableEntries depth es
      return (key, y) :: ys) := by
  rw [stableEntries, stableEntry]
  split <;> rfl

theorem keys_stableEntries {depth : ℕ} {entries : Dict} {out : List (String × Json)}
    (h : stableEntries depth entries = .ok out) : out.map Prod.fst = entries.map Prod.fst := by
  induction entries generalizing out with
  | nil =>
    cases h
    rfl
  | cons e es ih =>
    rw [stableEntries_cons] at h
    have ⟨y, _, h⟩ := bind_eq_ok.mp h
    have ⟨ys, hys, h⟩ := bind_eq_ok.mp h
    cases h
    rw [List.map_cons, List.map_cons, ih hys]

theorem get_stableEntries {depth : ℕ} {entries : Dict} {out : List (String × Json)}
    (h : stableEntries depth entries = .ok out) {key : String} {v : Value}
    (hkey : isSensitiveKey key = false) (hv : PyDict.get entries key = some v) :
    ∃ y, stableJsonValue (depth + 1) v = .ok y ∧ PyDict.get out key = some y := by
  induction entries generalizing out with
  | nil => cases hv
  | cons e es ih =>
    have ⟨k, x⟩ := e
    rw [stableEntries_cons] at h
    have ⟨y, hy, h⟩ := bind_eq_ok.mp h
    have ⟨ys, hys, h⟩ := bind_eq_ok.mp h
    cases h
    rw [PyDict.get_cons] at hv
    rw [PyDict.get_cons]
    split at hv
    · rename_i hk
      cases hv
      subst hk
      rw [stableEntry, hkey] at hy
      exact ⟨y, hy, if_pos rfl⟩
    · rename_i hk
      rw [if_neg hk]
      exact ih hys hv

/-- A field of an object. -/
def field (payload : Json) (key : String) : Option Json :=
  match payload with
  | .object entries => PyDict.get entries key
  | _ => none

/-- A field of a stable object is the stable form of the field. -/
theorem field_stable {depth : ℕ} {entries : Dict} {payload : Json}
    (h : stableJsonValue depth (.dict entries) = .ok payload)
    (hnodup : (entries.map Prod.fst).Nodup) {key : String} {v : Value}
    (hkey : isSensitiveKey key = false) (hv : PyDict.get entries key = some v) :
    ∃ y, stableJsonValue (depth + 1) v = .ok y ∧ field payload key = some y := by
  have ⟨out, hout, heq⟩ := map_eq_ok.mp h
  have ⟨y, hy, hget⟩ := get_stableEntries hout hkey hv
  refine ⟨y, hy, ?_⟩
  have hkeys : (out.map Prod.fst).Nodup := by rwa [keys_stableEntries hout]
  rw [← heq, ← hget]
  exact (PyDict.get_of_perm (List.perm_insertionSort _ _).symm hkeys key).symm

/-! ## The payload -/

def requestEntries (request : ApprovalRequest) : Dict :=
  [("approval_id", .str request.approvalId), ("created_at", .str request.createdAt),
    ("trace_id", .str request.traceId), ("requested_by", .str request.requestedBy),
    ("agent_id", .str request.agentId), ("environment", .str request.environment),
    ("tool_name", .str request.toolName), ("action", optionValue request.action),
    ("target", request.target), ("policy_id", optionValue request.policyId),
    ("reason", .str request.reason), ("severity", .str request.severity.value),
    ("metadata", .dict request.metadata)]

def decisionEntries (decision : ApprovalDecision) : Dict :=
  [("approval_id", .str decision.approvalId), ("status", .str decision.status.value),
    ("approved", .bool decision.approved), ("decided_by", optionValue decision.decidedBy),
    ("decided_at", optionValue decision.decidedAt), ("reason", .str decision.reason),
    ("metadata", .dict (receiptFreeMetadata decision.metadata))]

def payloadEntries (request : ApprovalRequest) (decision : ApprovalDecision) : Dict :=
  [("schema_version", .str receiptSchemaVersion), ("request", .dict (requestEntries request)),
    ("decision", .dict (decisionEntries decision))]

theorem approvalReceiptPayload_eq (request : ApprovalRequest) (decision : ApprovalDecision) :
    approvalReceiptPayload request decision =
      stableJsonValue 0 (.dict (payloadEntries request decision)) := rfl

theorem canonical_optionValue (s : Option String) : canonical (optionValue s) = true := by
  cases s <;> rfl

/-- A receipt can be calculated when target and metadata hold no float. -/
theorem approvalReceiptPayload_isOk (request : ApprovalRequest) (decision : ApprovalDecision) :
    (approvalReceiptPayload request decision).isOk =
      (canonical request.target && canonicalEntries request.metadata &&
        canonicalEntries (receiptFreeMetadata decision.metadata)) := by
  have htarget : isSensitiveKey "target" = false := rfl
  have hmetadata : isSensitiveKey "metadata" = false := rfl
  have hrequest : isSensitiveKey "request" = false := rfl
  have hdecision : isSensitiveKey "decision" = false := rfl
  rw [approvalReceiptPayload_eq, stableJsonValue_isOk]
  simp only [payloadEntries, requestEntries, decisionEntries, canonical, canonicalEntries,
    canonical_optionValue, htarget, hmetadata, hrequest, hdecision, Bool.or_true, Bool.true_and,
    Bool.and_true, Bool.false_or, Bool.and_assoc]

/-- The payload tells the time of the decision. -/
theorem decidedAt_of_payload {request : ApprovalRequest} {decision : ApprovalDecision}
    {payload : Json} (h : approvalReceiptPayload request decision = .ok payload) {time : String}
    (htime : decision.decidedAt = some time) :
    ∃ inner, field payload "decision" = some inner ∧
      field inner "decided_at" = some (.str (redactDeep 2 time)) := by
  have hdecision : PyDict.get (payloadEntries request decision) "decision" =
      some (.dict (decisionEntries decision)) := rfl
  have hnodup : ((payloadEntries request decision).map Prod.fst).Nodup := by simp [payloadEntries]
  have ⟨inner, hinner, hfield⟩ := field_stable h hnodup rfl hdecision
  have hvalue : PyDict.get (decisionEntries decision) "decided_at" = some (.str time) := by
    change some (optionValue decision.decidedAt) = _
    rw [htime]
    rfl
  have hnodup : ((decisionEntries decision).map Prod.fst).Nodup := by simp [decisionEntries]
  have ⟨y, hy, hget⟩ := field_stable hinner hnodup rfl hvalue
  cases hy
  exact ⟨inner, hfield, hget⟩

end Canonical

end Rygnal.Approval
