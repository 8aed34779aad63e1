import Rygnal.Core.Exceptions
import Rygnal.Core.Json
import Rygnal.Core.Models

/-! # Approval receipts

`attach_approval_receipt`: an approved decision carries the digest of the canonical payload
of request and decision. Other decisions pass through unsigned.
-/

namespace Rygnal.Approval
open Rygnal.Core Rygnal.Library Rygnal.Library.PyText Rygnal.Security

def receiptSchemaVersionKey : String := "approval_receipt_schema_version"

def receiptHashKey : String := "approval_receipt_hash"

def receiptSchemaVersion : String := "approval-receipt.v1"

def receiptFreeMetadata (metadata : Dict) : Dict :=
  metadata.filter fun e => e.1 ≠ receiptSchemaVersionKey ∧ e.1 ≠ receiptHashKey

def withoutReceiptMetadata (decision : ApprovalDecision) : ApprovalDecision :=
  { decision with metadata := receiptFreeMetadata decision.metadata }

def receiptPayloadError (approvalId reason : String) : PyException :=
  .value .approvalReceiptPayloadError
    ("Invalid approval receipt payload for approval '" ++ approvalId ++ "': " ++ reason ++ ".")

def receiptConflictError (approvalId : String) : PyException :=
  .value .approvalReceiptConflictError
    ("Approval receipt hash conflict for approval '" ++ approvalId ++ "'.")

section Payload
variable [UnicodeTables]

/-- A string below `depth` containers is redacted once for each of them and once itself. -/
def redactDeep : ℕ → String → String
  | 0, s => redactSensitiveString s
  | depth + 1, s => redactDeep depth (redactSensitiveString s)

def sortEntries (entries : List (String × Json)) : List (String × Json) :=
  entries.insertionSort fun e f => e.1 ≤ f.1

mutual

/-- `_stable_json_value`, `depth` containers below its first call. -/
def stableJsonValue (depth : ℕ) : Value → Except PyException Json
  | .none => .ok .null
  | .bool b => .ok (.bool b)
  | .int n => .ok (.int n)
  | .float _ => .error (receiptPayloadError "unknown"
      "non-canonical type in receipt payload: float")
  | .str s => .ok (.str (redactDeep depth s))
  | .list items => (stableItems depth items).map .array
  | .tuple items => (stableItems depth items).map .array
  | .dict entries => (stableEntries depth entries).map fun es => .object (sortEntries es)

def stableItems (depth : ℕ) : List Value → Except PyException (List Json)
  | [] => .ok []
  | x :: xs => do
    let y ← stableJsonValue (depth + 1) x
    let ys ← stableItems depth xs
    return y :: ys

def stableEntries (depth : ℕ) : List (String × Value) → Except PyException (List (String × Json))
  | [] => .ok []
  | (key, x) :: es => do
    let y ← if isSensitiveKey key then .ok (.str (redactDeep depth redacted))
      else stableJsonValue (depth + 1) x
    let ys ← stableEntries depth es
    return (key, y) :: ys

end

/-- `approval_receipt_payload`. -/
def approvalReceiptPayload (request : ApprovalRequest) (decision : ApprovalDecision) :
    Except PyException Json :=
  stableJsonValue 0 (.dict [
    ("schema_version", .str receiptSchemaVersion),
    ("request", .dict [
      ("approval_id", .str request.approvalId), ("created_at", .str request.createdAt),
      ("trace_id", .str request.traceId), ("requested_by", .str request.requestedBy),
      ("agent_id", .str request.agentId), ("environment", .str request.environment),
      ("tool_name", .str request.toolName), ("action", optionValue request.action),
      ("target", request.target), ("policy_id", optionValue request.policyId),
      ("reason", .str request.reason), ("severity", .str request.severity.value),
      ("metadata", .dict request.metadata)]),
    ("decision", .dict [
      ("approval_id", .str decision.approvalId), ("status", .str decision.status.value),
      ("approved", .bool decision.approved), ("decided_by", optionValue decision.decidedBy),
      ("decided_at", optionValue decision.decidedAt), ("reason", .str decision.reason),
      ("metadata", .dict (receiptFreeMetadata decision.metadata))])])

end Payload

variable [UnicodeTables] [Digest]

def calculateApprovalReceiptHash (request : ApprovalRequest) (decision : ApprovalDecision) :
    Except PyException String :=
  (approvalReceiptPayload request decision).map Json.sha256

/-- The existing hash is a non-empty string other than the calculated one. -/
def receiptConflicts (existing : Option Value) (hash : String) : Bool :=
  match existing with
  | some (.str s) => s ≠ "" ∧ s ≠ hash
  | _ => false

/-- The decision that carries this receipt hash. -/
def withReceipt (decision : ApprovalDecision) (hash : String) : ApprovalDecision :=
  { withoutReceiptMetadata decision with
    metadata := (receiptFreeMetadata decision.metadata).merge
      [(receiptSchemaVersionKey, .str receiptSchemaVersion), (receiptHashKey, .str hash)] }

def attachApprovalReceipt (request : ApprovalRequest) (decision : ApprovalDecision) :
    Except PyException ApprovalDecision :=
  if decision.status ≠ .approved ∨ !decision.approved then .ok decision
  else
    match calculateApprovalReceiptHash request (withoutReceiptMetadata decision) with
    | .error e => .error e
    | .ok hash =>
      if receiptConflicts (decision.metadata.get receiptHashKey) hash then
        .error (receiptConflictError decision.approvalId)
      else .ok (withReceipt decision hash)

inductive ReceiptStatus where
  | valid
  | missing
  | tampered
deriving DecidableEq, Repr

def verifyApprovalReceipt (request : ApprovalRequest) (decision : ApprovalDecision) :
    ReceiptStatus :=
  match decision.metadata.get receiptHashKey with
  | some (.str expectedHash) =>
    if expectedHash = "" then .missing
    else
      match calculateApprovalReceiptHash request (withoutReceiptMetadata decision) with
      | .error _ => .tampered
      | .ok actualHash => if actualHash ≠ expectedHash then .tampered else .valid
  | _ => .missing

def receiptError (cls message : String) : PyException :=
  ⟨[.other cls, .other "ApprovalReceiptError", .valueError, .exception, .baseException], message⟩

def assertApprovalReceiptValid (request : ApprovalRequest) (decision : ApprovalDecision) :
    Except PyException Unit :=
  match verifyApprovalReceipt request decision with
  | .valid => .ok ()
  | .missing => .error (receiptError "ApprovalReceiptMissingError"
      ("Approval receipt hash is missing for approval '" ++ decision.approvalId ++ "'."))
  | .tampered => .error (receiptError "ApprovalReceiptTamperedError"
      ("Approval receipt hash is invalid for approval '" ++ decision.approvalId ++ "'."))

/-- A receipt changes nothing of a decision but its metadata. -/
theorem attachApprovalReceipt_eq_ok {request : ApprovalRequest}
    {decision attached : ApprovalDecision}
    (h : attachApprovalReceipt request decision = .ok attached) :
    attached = { decision with metadata := attached.metadata } := by
  unfold attachApprovalReceipt at h
  split at h
  · cases h
    rfl
  · split at h
    · cases h
    · split at h
      · cases h
      · cases h
        rfl

/-- A decision that is not approved is left alone. -/
theorem attachApprovalReceipt_of_not_approved {request : ApprovalRequest}
    {decision : ApprovalDecision} (h : decision.status ≠ .approved) :
    attachApprovalReceipt request decision = .ok decision := by
  simp [attachApprovalReceipt, h]

end Rygnal.Approval
