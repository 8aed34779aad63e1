import Rygnal.Approval.Queue

/-! # Authorization after persistence

`SQLiteApprovalQueue.record_decision` authorizes a decision against the redacted request.
Its answers are those for the submitted request exactly when redaction leaves the three
texts that the engine reads.
-/

namespace Rygnal.Approval
open Rygnal.Core Rygnal.Library Rygnal.Library.PyText Rygnal.Security

section Storage
variable [UnicodeTables]

/-- Redaction leaves the requester, the action and the environment of the request. -/
structure ReadsUnchanged (request : ApprovalRequest) : Prop where
  requestedBy : redactSensitiveString request.requestedBy = request.requestedBy
  action : request.action.map redactSensitiveString = request.action
  environment : redactSensitiveString request.environment = request.environment

theorem ReadsUnchanged.authorize_stored {request : ApprovalRequest} (h : ReadsUnchanged request)
    (engine : ApprovalAuthorizationEngine) (decision : ApprovalDecision)
    (status : ApprovalStatus) :
    engine.authorize request.stored decision status = engine.authorize request decision status :=
  ApprovalAuthorizationEngine.authorize_congr h.requestedBy rfl h.action h.environment

/-- The table after a first submission of the request. -/
def StoredFirst (request : ApprovalRequest) (rows : ApprovalTable) : Prop :=
  ∃ before : ApprovalTable, Table.Unique ApprovalRow.approvalId before ∧
    SQLiteApprovalQueue.selectRow before request.approvalId = none ∧
    SQLiteApprovalQueue.submit before request = .ok rows

theorem StoredFirst.unique {request : ApprovalRequest} {rows : ApprovalTable}
    (h : StoredFirst request rows) : Table.Unique ApprovalRow.approvalId rows := by
  obtain ⟨before, hu, hnone, hsubmit⟩ := h
  rcases SQLiteApprovalQueue.submit_eq_ok hsubmit with ⟨-, row, hrow, -⟩ | ⟨rfl, -⟩
  · rw [hnone] at hrow
    cases hrow
  · exact hu.insert fun row hr => of_decide_eq_false (Table.selectOne_eq_none.mp hnone row hr)

theorem StoredFirst.selectRow {request : ApprovalRequest} {rows : ApprovalTable}
    (h : StoredFirst request rows) :
    SQLiteApprovalQueue.selectRow rows request.approvalId =
      some (ApprovalRow.inserted request) := by
  have hu := h.unique
  obtain ⟨before, -, hnone, hsubmit⟩ := h
  rcases SQLiteApprovalQueue.submit_eq_ok hsubmit with ⟨-, row, hrow, -⟩ | ⟨rfl, -⟩
  · rw [hnone] at hrow
    cases hrow
  · exact hu.selectOne_eq_some.mpr ⟨Table.mem_insert.mpr (.inr rfl), rfl⟩

theorem storedFirst_empty (request : ApprovalRequest) :
    StoredFirst request [ApprovalRow.inserted request] := by
  have hnone : SQLiteApprovalQueue.selectRow [] request.approvalId = none := by
    simp [SQLiteApprovalQueue.selectRow, Table.selectOne]
  refine ⟨[], Table.Unique.nil ApprovalRow.approvalId, hnone, ?_⟩
  rw [SQLiteApprovalQueue.submit, hnone]
  rfl

/-- `record_decision` refuses the decision for the freshly stored request. -/
def Refuses (request : ApprovalRequest) (engine : ApprovalAuthorizationEngine)
    (decision : ApprovalDecision) : Prop :=
  ∀ rows, StoredFirst request rows → ∃ e, SQLiteApprovalQueue.recordDecision engine rows
    request.approvalId decision = .error e

theorem refuses_iff {request : ApprovalRequest} {engine : ApprovalAuthorizationEngine}
    {decision : ApprovalDecision} (hid : decision.approvalId = request.approvalId) :
    Refuses request engine decision ↔
      (engine.authorize request.stored decision .pending).allowed = false := by
  have hrecord : ∀ rows, StoredFirst request rows →
      ((∃ result, SQLiteApprovalQueue.recordDecision engine rows request.approvalId decision =
        .ok result) ↔ (engine.authorize request.stored decision .pending).allowed = true) := by
    intro rows h
    have hpending : (ApprovalRow.inserted request).status = .pending := rfl
    rw [← ApprovalRow.inserted_request]
    exact SQLiteApprovalQueue.recordDecision_pending h.unique h.selectRow hpending hid
  constructor
  · intro h
    obtain ⟨e, he⟩ := h _ (storedFirst_empty request)
    rw [Bool.eq_false_iff]
    intro ha
    obtain ⟨result, hr⟩ := (hrecord _ (storedFirst_empty request)).mpr ha
    rw [he] at hr
    cases hr
  · intro ha rows hrows
    cases hr : SQLiteApprovalQueue.recordDecision engine rows request.approvalId decision with
    | error e => exact ⟨e, rfl⟩
    | ok result =>
      have := (hrecord rows hrows).mp ⟨result, hr⟩
      rw [ha] at this
      cases this

/-! ## Decisions that only redaction lets through -/

/-- An engine with one role. -/
def maintainerEngine (permission : RolePermission) : ApprovalAuthorizationEngine :=
  ⟨[], [("maintainer", permission)]⟩

def approvalBy (request : ApprovalRequest) (decidedBy : String) : ApprovalDecision where
  approvalId := request.approvalId
  status := .approved
  approved := true
  decidedBy := some decidedBy
  decidedAt := none
  reason := "reviewed"
  metadata := [("reviewer_role", .str "maintainer")]

/-- A role that is confined to the lists. -/
def confined (request : ApprovalRequest) (actions environments : Option (List String))
    (h : ∀ items ∈ actions.toList ++ environments.toList,
      items ≠ [] ∧ ∀ item ∈ items, isPresent item = true) : RolePermission where
  role := "maintainer"
  allowedSeverities := [request.severity]
  allowedActions := actions
  environments := environments
  rolePresent := by decide
  severitiesNonempty := by simp
  listsPresent := h

theorem permits_maintainer {permission : RolePermission} {request request' : ApprovalRequest}
    {decidedBy by' : String} :
    (maintainerEngine permission).Permits request (approvalBy request' by') decidedBy ↔
      RolePermits permission request := by
  have hrole : ApprovalAuthorizationEngine.normalizeRole "maintainer" = "maintainer" := rfl
  have hpresent : isPresent "maintainer" = true := by decide
  have hallowed : (authorizeRoleConstraints request decidedBy "maintainer" permission).allowed =
      true ↔ RolePermits permission request := authorizeRoleConstraints_allowed
  rw [← hallowed]
  simp [ApprovalAuthorizationEngine.Permits, ApprovalAuthorizationEngine.authorizePermissions,
    ApprovalAuthorizationEngine.authorizeRolePermission, maintainerEngine, approvalBy,
    PyDict.get, hrole, hpresent]

omit [UnicodeTables] in
theorem ne_append_x (s : String) : s ++ "x" ≠ s := by
  intro h
  have := congrArg (fun t => t.toList.length) h
  simp at this

/-- A role that permits only the stored request approves it after redaction. -/
theorem approved_after_redaction {request : ApprovalRequest} {permission : RolePermission}
    (hraw : ¬ RolePermits permission request) (hstored : RolePermits permission request.stored) :
    ∃ engine decision, (engine.authorize request decision .pending).allowed = false ∧
      ¬ Refuses request engine decision := by
  let decidedBy := request.stored.requestedBy ++ "x"
  refine ⟨maintainerEngine permission, approvalBy request decidedBy, ?_, ?_⟩
  · rw [Bool.eq_false_iff, Ne, ApprovalAuthorizationEngine.authorize_allowed]
    rintro ⟨-, h | ⟨-, by', -, -, h⟩⟩
    · cases h
    · exact hraw (permits_maintainer.mp h)
  · rw [refuses_iff rfl, Bool.not_eq_false, ApprovalAuthorizationEngine.authorize_allowed]
    exact ⟨rfl, .inr ⟨rfl, decidedBy, rfl, ne_append_x _, permits_maintainer.mpr hstored⟩⟩

/-- Without permission tables every other identity approves. -/
theorem permits_without_tables {request : ApprovalRequest} {decision : ApprovalDecision}
    {decidedBy : String} :
    (ApprovalAuthorizationEngine.mk [] []).Permits request decision decidedBy := rfl

theorem refuses_of_mismatch {request : ApprovalRequest} {engine : ApprovalAuthorizationEngine}
    {decision : ApprovalDecision} (hid : decision.approvalId ≠ request.approvalId) :
    Refuses request engine decision :=
  fun _ _ => ⟨mismatchError, by rw [SQLiteApprovalQueue.recordDecision, if_pos hid]⟩

/-- The requester is locked out of the stored request while redaction leaves its name. -/
theorem refuses_requester {request : ApprovalRequest}
    (h : redactSensitiveString request.requestedBy = request.requestedBy)
    {engine : ApprovalAuthorizationEngine} {decision : ApprovalDecision}
    (hs : decision.status = .approved) (hby : decision.decidedBy = some request.requestedBy) :
    Refuses request engine decision := by
  by_cases hid : decision.approvalId = request.approvalId
  · rw [refuses_iff hid, Bool.eq_false_iff, Ne, ApprovalAuthorizationEngine.authorize_allowed]
    rintro ⟨-, hrej | ⟨-, by', hby', hne, -⟩⟩
    · rw [hs] at hrej
      cases hrej
    · rw [hby, Option.some.injEq] at hby'
      exact hne (hby'.symm.trans h.symm)
  · exact refuses_of_mismatch hid

/-- A requester whose name redaction changes approves the own request. -/
theorem requester_approves {request : ApprovalRequest}
    (h : redactSensitiveString request.requestedBy ≠ request.requestedBy) :
    ((ApprovalAuthorizationEngine.mk [] []).authorize request
        (approvalBy request request.requestedBy) .pending).allowed = false ∧
      ¬ Refuses request ⟨[], []⟩ (approvalBy request request.requestedBy) := by
  constructor
  · rw [Bool.eq_false_iff, Ne, ApprovalAuthorizationEngine.authorize_allowed]
    rintro ⟨-, hrej | ⟨-, by', hby, hne, -⟩⟩
    · cases hrej
    · exact hne (Option.some.inj hby).symm
  · rw [refuses_iff rfl, Bool.not_eq_false, ApprovalAuthorizationEngine.authorize_allowed]
    exact ⟨rfl, .inr ⟨rfl, request.requestedBy, rfl, Ne.symm h, permits_without_tables⟩⟩

theorem approved_after_redaction_of_action {request : ApprovalRequest}
    (h : request.action.map redactSensitiveString ≠ request.action) :
    ∃ engine decision, (engine.authorize request decision .pending).allowed = false ∧
      ¬ Refuses request engine decision := by
  cases ha : request.action with
  | none => simp [ha] at h
  | some action =>
    have hne : redactSensitiveString action ≠ action := by simpa [ha] using h
    let permission : RolePermission := confined request (some [redactSensitiveString action]) none
      (by simpa using isPresent_of_redacted hne)
    have hraw : ¬ RolePermits permission request := by
      rintro ⟨-, hact, -⟩
      simp [permission, listPermits, confined, ha, Ne.symm hne] at hact
    have hstored : RolePermits permission request.stored := by
      simp [permission, RolePermits, listPermits, confined, ApprovalRequest.stored, ha]
    exact approved_after_redaction hraw hstored

theorem approved_after_redaction_of_environment {request : ApprovalRequest}
    (h : redactSensitiveString request.environment ≠ request.environment) :
    ∃ engine decision, (engine.authorize request decision .pending).allowed = false ∧
      ¬ Refuses request engine decision := by
  let permission : RolePermission := confined request none
    (some [redactSensitiveString request.environment]) (by simpa using isPresent_of_redacted h)
  have hraw : ¬ RolePermits permission request := by
    rintro ⟨-, -, henv⟩
    simp [permission, listPermits, confined, Ne.symm h] at henv
  have hstored : RolePermits permission request.stored := by
    simp [permission, RolePermits, listPermits, confined, ApprovalRequest.stored]
  exact approved_after_redaction hraw hstored

/-- Redaction on persistence weakens no authorization of a request exactly when it leaves
the texts that the engine reads; the requester stays locked out exactly when it leaves the
requester. -/
theorem stored_denials_iff (request : ApprovalRequest) :
    ((∀ engine decision, (engine.authorize request decision .pending).allowed = false →
      Refuses request engine decision) ↔ ReadsUnchanged request) ∧
    ((∀ engine decision, decision.status = .approved →
      decision.decidedBy = some request.requestedBy → Refuses request engine decision) ↔
      redactSensitiveString request.requestedBy = request.requestedBy) := by
  refine ⟨⟨fun hall => ⟨?_, ?_, ?_⟩, fun h engine decision hdenied => ?_⟩,
    fun hall => ?_, fun h engine decision => refuses_requester h⟩
  · by_contra hne
    obtain ⟨hdenied, hnot⟩ := requester_approves hne
    exact hnot (hall _ _ hdenied)
  · by_contra hne
    obtain ⟨engine, decision, hdenied, hnot⟩ := approved_after_redaction_of_action hne
    exact hnot (hall _ _ hdenied)
  · by_contra hne
    obtain ⟨engine, decision, hdenied, hnot⟩ := approved_after_redaction_of_environment hne
    exact hnot (hall _ _ hdenied)
  · by_cases hid : decision.approvalId = request.approvalId
    · rw [refuses_iff hid, h.authorize_stored]
      exact hdenied
    · exact refuses_of_mismatch hid
  · by_contra hne
    exact (requester_approves hne).2 (hall _ _ rfl rfl)

end Storage

/-! ## A requester that looks like a key -/

namespace Sample

def keyRequest : ApprovalRequest :=
  { request with requestedBy := "sk-aaaaaaaaaaaa", contextPresent := by decide }

end Sample

open Sample PyText.Ascii in
/-- The requester of this request approves it once it is stored. -/
theorem keyRequest_self_approved : ¬ ∀ engine decision,
    (engine.authorize keyRequest decision .pending).allowed = false →
      Refuses keyRequest engine decision := by
  intro hall
  have hname : redactSensitiveString keyRequest.requestedBy = "[REDACTED]" := by decide
  have hchanged : redactSensitiveString keyRequest.requestedBy ≠ keyRequest.requestedBy := by
    rw [hname]
    decide
  obtain ⟨hdenied, hnot⟩ := requester_approves hchanged
  exact hnot (hall _ _ hdenied)

end Rygnal.Approval
