import Rygnal.Approval.Authorization
import Rygnal.Library.Table

/-! # The approval queues

`InMemoryApprovalQueue` over its dictionary of items, and the transactions of
`SQLiteApprovalQueue` over its table. Rows hold the request and the decision that their
JSON texts encode; two texts with sorted keys are equal exactly when these are.
-/

namespace Rygnal.Approval
open Rygnal.Core Rygnal.Library Rygnal.Library.PyText Rygnal.Security

/-- The error classes of the queues, each with its message. -/
inductive ApprovalQueueError where
  | queue (message : String)
  | notFound (message : String)
  | denied (message : String)
  | stateConflict (message : String)
deriving DecidableEq, Repr

structure QueuedApproval where
  request : ApprovalRequest
  status : ApprovalStatus
  decision : Option ApprovalDecision
deriving DecidableEq, Repr

def notFoundError (approvalId : String) : ApprovalQueueError :=
  .notFound ("Approval request '" ++ approvalId ++ "' was not found.")

def mismatchError : ApprovalQueueError :=
  .queue "Approval decision ID does not match the queued request."

abbrev Items := PyDict QueuedApproval

variable [UnicodeTables]

/-- The decision that `approve` and `reject` construct. -/
def decide (approvalId : String) (approved : Bool) (decidedBy reason decidedAt : String) :
    ApprovalDecision where
  approvalId := approvalId
  status := if approved then .approved else .rejected
  approved := approved
  decidedBy := some decidedBy
  decidedAt := some decidedAt
  reason := redactSensitiveString reason
  metadata := []

/-! ## In memory -/

namespace InMemoryApprovalQueue

def submit (items : Items) (request : ApprovalRequest) : Items :=
  items.set request.approvalId ⟨request, .pending, none⟩

def list (items : Items) (status : Option ApprovalStatus) : List QueuedApproval :=
  (items.map (·.2)).filter fun item => status.all fun s => item.status = s

def get (items : Items) (approvalId : String) : Except ApprovalQueueError QueuedApproval :=
  match PyDict.get items approvalId with
  | some item => .ok item
  | none => .error (notFoundError approvalId)

def recordDecision (engine : ApprovalAuthorizationEngine) (items : Items) (approvalId : String)
    (decision : ApprovalDecision) : Except ApprovalQueueError (QueuedApproval × Items) :=
  match get items approvalId with
  | .error e => .error e
  | .ok item =>
    if decision.approvalId ≠ approvalId then .error mismatchError
    else
      let transition := validateTransition item.status decision.status
      if !transition.allowed then .error (.stateConflict transition.reason)
      else
        let authorization := engine.authorize item.request decision item.status
        if !authorization.allowed then .error (.denied authorization.reason)
        else
          let updated : QueuedApproval := ⟨item.request, decision.status, some decision⟩
          .ok (updated, items.set item.request.approvalId updated)

end InMemoryApprovalQueue

/-! ## SQLite -/

/-- A row of `approval_queue`, with its `CHECK` constraint. -/
structure ApprovalRow where
  approvalId : String
  status : ApprovalStatus
  request : ApprovalRequest
  decision : Option ApprovalDecision
  check : status = .pending ∧ decision = none ∨ status ≠ .pending ∧ decision ≠ none
deriving DecidableEq, Repr

namespace ApprovalRow

def inserted (request : ApprovalRequest) : ApprovalRow where
  approvalId := request.approvalId
  status := .pending
  request := request.stored
  decision := none
  check := .inl ⟨rfl, rfl⟩

@[simp] theorem inserted_request (request : ApprovalRequest) :
    (inserted request).request = request.stored := rfl

@[simp] theorem inserted_approvalId (request : ApprovalRequest) :
    (inserted request).approvalId = request.approvalId := rfl

/-- The row after the update of `record_decision`. -/
def decided (decision : ApprovalDecision) (h : decision.status ≠ .pending) (row : ApprovalRow) :
    ApprovalRow where
  approvalId := row.approvalId
  status := decision.status
  request := row.request
  decision := some decision.stored
  check := .inr ⟨h, by simp⟩

def item (row : ApprovalRow) : QueuedApproval := ⟨row.request, row.status, row.decision⟩

end ApprovalRow

abbrev ApprovalTable := Table ApprovalRow

/-- `_same_terminal_decision`. -/
def sameTerminalDecision (left right : ApprovalDecision) : Bool :=
  left.approvalId = right.approvalId ∧ left.status = right.status ∧
    left.approved = right.approved ∧ left.decidedBy = right.decidedBy ∧
    left.reason = right.reason ∧ Value.pyEq (.dict left.metadata) (.dict right.metadata) = true

namespace SQLiteApprovalQueue

def selectRow (rows : ApprovalTable) (approvalId : String) : Option ApprovalRow :=
  rows.selectOne fun row => row.approvalId = approvalId

def submit (rows : ApprovalTable) (request : ApprovalRequest) :
    Except ApprovalQueueError ApprovalTable :=
  match selectRow rows request.approvalId with
  | some row =>
    if row.request ≠ request.stored then
      .error (.queue "Approval ID is already bound to a different request.")
    else .ok rows
  | none => .ok (rows.insert (ApprovalRow.inserted request))

/-- `_load_items`: the items are keyed by the id inside the stored request. -/
def loadItems (rows : ApprovalTable) : Items :=
  rows.foldl (fun items row => items.set row.request.approvalId row.item) []

def list (rows : ApprovalTable) (status : Option ApprovalStatus) : List QueuedApproval :=
  InMemoryApprovalQueue.list (loadItems rows) status

def get (rows : ApprovalTable) (approvalId : String) : Except ApprovalQueueError QueuedApproval :=
  InMemoryApprovalQueue.get (loadItems rows) approvalId

/-- The condition of the update of `record_decision`. -/
def pendingRow (approvalId : String) (row : ApprovalRow) : Bool :=
  row.approvalId = approvalId ∧ row.status = .pending

def recordDecision (engine : ApprovalAuthorizationEngine) (rows : ApprovalTable)
    (approvalId : String) (decision : ApprovalDecision) :
    Except ApprovalQueueError (QueuedApproval × ApprovalTable) :=
  if decision.approvalId ≠ approvalId then .error mismatchError
  else match selectRow rows approvalId with
    | none => .error (notFoundError approvalId)
    | some row =>
      if row.status ≠ .pending then
        match row.decision with
        | some current =>
          if sameTerminalDecision current decision then .ok (row.item, rows)
          else .error (.stateConflict "Approval already has a different terminal decision.")
        | none => .error (.stateConflict "Approval already has a different terminal decision.")
      else
        let transition := validateTransition row.status decision.status
        if h : transition.allowed = true then
          let authorization := engine.authorize row.request decision row.status
          if !authorization.allowed then .error (.denied authorization.reason)
          else if rows.rowcount (pendingRow approvalId) ≠ 1 then
            .error (.stateConflict "Approval state changed concurrently.")
          else
            .ok (⟨row.request, decision.status, some decision⟩,
              rows.update (pendingRow approvalId)
                (ApprovalRow.decided decision (validateTransition_allowed.mp h).2))
        else .error (.stateConflict transition.reason)

end SQLiteApprovalQueue

/-! ## What the transactions do -/

section Transactions
namespace SQLiteApprovalQueue
variable {rows rows' : ApprovalTable} {engine : ApprovalAuthorizationEngine}
  {approvalId : String} {decision : ApprovalDecision} {request : ApprovalRequest}

theorem submit_eq_ok (h : submit rows request = .ok rows') :
    (rows' = rows ∧ ∃ row, selectRow rows request.approvalId = some row ∧
      row.request = request.stored) ∨
    (rows' = rows.insert (ApprovalRow.inserted request) ∧
      selectRow rows request.approvalId = none) := by
  unfold submit at h
  split at h
  · rename_i row hrow
    split at h
    · cases h
    · rename_i hsame
      cases h
      exact .inl ⟨rfl, row, hrow, not_not.mp hsame⟩
  · rename_i hnone
    cases h
    exact .inr ⟨rfl, hnone⟩

/-- A call of `record_decision` that returns replayed the stored decision, or decided a
pending row that the state machine and the engine let it decide. -/
theorem recordDecision_eq_ok {answer : QueuedApproval}
    (h : recordDecision engine rows approvalId decision = .ok (answer, rows')) :
    ∃ row, selectRow rows approvalId = some row ∧ decision.approvalId = approvalId ∧
      ((row.status ≠ .pending ∧ answer = row.item ∧ rows' = rows) ∨
      (row.status = .pending ∧ answer.status = decision.status ∧
        (engine.authorize row.request decision row.status).allowed = true ∧
        ∃ hs : decision.status ≠ .pending,
          rows' = rows.update (pendingRow approvalId) (ApprovalRow.decided decision hs))) := by
  unfold recordDecision at h
  split at h
  · cases h
  rename_i hid
  split at h
  · cases h
  rename_i row hrow
  refine ⟨row, hrow, not_not.mp hid, ?_⟩
  split at h
  · rename_i hterminal
    split at h
    · split at h
      · cases h
        exact .inl ⟨hterminal, rfl, rfl⟩
      · cases h
    · cases h
  · rename_i hpending
    simp only at h
    split at h
    · rename_i htransition
      split at h
      · cases h
      · rename_i hauth
        split at h
        · cases h
        · cases h
          exact .inr ⟨not_not.mp hpending, rfl, by simpa using hauth,
            (validateTransition_allowed.mp htransition).2, rfl⟩
    · cases h

omit [UnicodeTables] in
theorem selectRow_mem {row : ApprovalRow} (h : selectRow rows approvalId = some row) :
    row ∈ rows ∧ row.approvalId = approvalId :=
  ⟨(Table.selectOne_mem h).1, of_decide_eq_true (Table.selectOne_mem h).2⟩

/-- A pending row is decided by every decision that the engine authorizes. -/
theorem recordDecision_of_authorized (hu : Table.Unique ApprovalRow.approvalId rows)
    {row : ApprovalRow} (hrow : selectRow rows approvalId = some row)
    (hp : row.status = .pending) (hid : decision.approvalId = approvalId)
    (ha : (engine.authorize row.request decision .pending).allowed = true)
    (hs : decision.status ≠ .pending) :
    recordDecision engine rows approvalId decision =
      .ok (⟨row.request, decision.status, some decision⟩,
        rows.update (pendingRow approvalId) (ApprovalRow.decided decision hs)) := by
  obtain ⟨hmem, hkey⟩ := selectRow_mem hrow
  have hcount : rows.rowcount (pendingRow approvalId) = 1 :=
    hu.rowcount_eq_one hmem (by simp [pendingRow, hkey, hp]) fun s hs => by
      simp only [pendingRow, decide_eq_true_eq] at hs
      rw [hs.1, hkey]
  have htransition : (validateTransition .pending decision.status).allowed = true :=
    validateTransition_allowed.mpr ⟨rfl, hs⟩
  rw [recordDecision, if_neg (not_not.mpr hid), hrow]
  simp [hp, htransition, ha, hcount]

/-- A pending row accepts exactly the decisions that the engine authorizes. -/
theorem recordDecision_pending (hu : Table.Unique ApprovalRow.approvalId rows)
    {row : ApprovalRow} (hrow : selectRow rows approvalId = some row)
    (hp : row.status = .pending) (hid : decision.approvalId = approvalId) :
    (∃ result, recordDecision engine rows approvalId decision = .ok result) ↔
      (engine.authorize row.request decision .pending).allowed = true := by
  constructor
  · rintro ⟨⟨answer, rows'⟩, h⟩
    obtain ⟨r, hr, -, ⟨hne, -⟩ | ⟨-, -, ha, -⟩⟩ := recordDecision_eq_ok h
    · rw [hrow, Option.some.injEq] at hr
      exact absurd (hr ▸ hp) hne
    · rw [hrow, Option.some.injEq] at hr
      subst hr
      rwa [hp] at ha
  · intro ha
    have hs : decision.status ≠ .pending := by
      obtain ⟨-, h | ⟨h, -⟩⟩ := ApprovalAuthorizationEngine.authorize_allowed.mp ha <;> simp [h]
    exact ⟨_, recordDecision_of_authorized hu hrow hp hid ha hs⟩

end SQLiteApprovalQueue
end Transactions

/-- A request for the sample runs. -/
def Sample.request : ApprovalRequest where
  approvalId := "apr_7d1f"
  createdAt := "2025-01-01T00:00:00Z"
  traceId := "trace_7d1f"
  requestedBy := "dev-1"
  agentId := "agent-1"
  environment := "staging"
  toolName := "deploy"
  action := some "release"
  target := .str "service"
  policyId := none
  reason := "needs review"
  severity := .high
  riskAssessment := []
  metadata := []
  contextPresent := by decide

end Rygnal.Approval
