import Rygnal.Apply.ApplyApproved
import Rygnal.Artifact.Storage
import Rygnal.Operations.Invariant
import Rygnal.Service.ApprovalService

/-! # Applying an artifact under a durable operation

`ApprovalArtifactService.apply_artifact`: the repository is reserved in the operation store, the
artifact is applied, and the operation ends applied, released for a retry, or preserved. Other
processes may commit transactions between those of the call.
-/

namespace Rygnal.Service
open Rygnal.Core Rygnal.Core.PyException Rygnal.Library Rygnal.Library.PyText Rygnal.Security
  Rygnal.Approval Rygnal.Artifact Rygnal.ChangeRisk Rygnal.Apply Rygnal.Operations

/-! ## The approved artifact -/

section Lookup
variable [IsoDateTime] [Digest] [BytesDigest] [FloatText] [Conversions]

omit [IsoDateTime] [Digest] [BytesDigest] [FloatText] [Conversions] in
/-- `_queued_for_artifact`. -/
def queuedForArtifact (rows : ApprovalTable) (artifactId : String) :
    Except PyException QueuedApproval :=
  match (SQLiteApprovalQueue.list rows none).filter fun item =>
      artifactIdFromRequest item = some artifactId with
  | [] => .error (bindingError ("No approval is bound to patch artifact: " ++ artifactId))
  | [queued] => .ok queued
  | _ => .error (bindingError "Multiple approvals are bound to the same patch artifact.")

structure ApprovedArtifact where
  queued : QueuedApproval
  decision : ApprovalDecision
  artifact : PatchArtifact

/-- What `apply_artifact` finds before it reserves the repository. -/
def approvedArtifact (repoIdentity : String → String) (directory : Directory)
    (rows : ApprovalTable) (now : ℤ) (artifactId : String) :
    Except PyException ApprovedArtifact := do
  let queued ← queuedForArtifact rows artifactId
  raiseIf (queued.status ≠ .approved)
    (stateError ("Patch artifact cannot be applied because its approval status is '" ++
      queued.status.value ++ "'."))
  let decision ← requiredDecision queued
  let artifact ← loadBoundArtifact repoIdentity directory now queued true true
  return ⟨queued, decision, artifact⟩

end Lookup

/-! ## Calls -/

/-- The exception of an error of the operation store. -/
def operationException (error : OperationError) : PyException :=
  let under (name message : String) : PyException :=
    ⟨[.other name, .other "OperationStoreError", .runtimeError, .exception, .baseException], message⟩
  match error with
  | .store message =>
    ⟨[.other "OperationStoreError", .runtimeError, .exception, .baseException], message⟩
  | .conflict message => under "OperationConflictError" message
  | .recoveryRequired message => under "OperationRecoveryRequiredError" message
  | .terminal message => under "OperationTerminalError" message

/-- `except OperationStoreError as exc: raise ApprovalOperationStateError(str(exc)) from exc`. -/
def wrapReservation (exc : PyException) : PyException :=
  if exc.isInstance [.other "OperationStoreError"] then stateError exc.message else exc

/-- What other processes commit while the call is in one of three stretches. -/
structure Others where
  afterReserve : Database → Database
  whileApplying : Database → Database
  whileInspecting : Database → Database

/-- A call of `apply_artifact` and what the environment answers in it: `target` is the resolved
path, `startToken` what `process_identity_token` comes to, and `repository` the state that the
trusted repository has when the call inspects it. -/
structure ApplyArtifactCall where
  artifactId : String
  target : Except PyException String
  logger : Option Logger
  loadedAt : ℤ
  ownerToken : String
  ownerPid : ℤ
  startToken : Except PyException String
  active : ℤ → String → Bool
  others : Others
  store : StoreAnswers
  repository : RepositoryState
  inspectionFault : Option PyException
  times : ℕ → ℕ

/-- `inspect_repository_state`. -/
def ApplyArtifactCall.inspection (call : ApplyArtifactCall) : Except PyException RepositoryState :=
  match call.inspectionFault with
  | some exc => .error exc
  | none => .ok call.repository

section Service
variable [UnicodeTables] [Digest] [IsoDateTime] [BytesDigest] [FloatText] [Conversions]

/-- The row that the call reserves. -/
def ApplyArtifactCall.record (call : ApplyArtifactCall) (found : ApprovedArtifact)
    (target startToken : String) : OperationRecord :=
  reservedRecord
    { artifactId := found.artifact.artifactId
      approvalId := found.queued.request.approvalId
      patchSha256 := found.artifact.patchSha256
      baselineCommitSha := found.artifact.baselineCommitSha
      targetRepoPath := target } call.ownerToken call.ownerPid startToken (call.times 0)

/-- The call of `apply_approved` that is made for the approved artifact. -/
def ApplyArtifactCall.storeCall (call : ApplyArtifactCall) (found : ApprovedArtifact) : StoreCall where
  artifactId := call.artifactId
  target := call.target
  approvalRequest := found.queued.request
  approvalDecision := found.decision
  logger := call.logger

/-- `_replayed_apply_result`. -/
def replayedApplyResult (found : ApprovedArtifact) (operationResult : Option Value)
    (target : Except PyException String) : Except PyException ApprovedPatchApplyResult := do
  let result : Dict := match operationResult with
    | some (.dict entries) => entries
    | _ => []
  let target ← target
  let patchDiff ← found.artifact.toPatchDiff
  let riskReport ← found.artifact.toRiskReport
  return {
    targetRepoPath := pyStr ((dictGet result "target_repo_path").getD (.str target))
    patchSha256 := found.artifact.patchSha256
    baselineCommitSha := found.artifact.baselineCommitSha
    approvalId := found.queued.request.approvalId
    approvedBy := some
      (pyStr ((dictGet result "approved_by").getD (strOrNone found.decision.decidedBy)))
    files := patchDiff.files.map (·.path)
    riskReport := changeRiskReportOf riskReport }

/-- A transition of the operation store, and the record that it reads back. -/
def reread (outcome : Except OperationError Database) (db : Database) (operationKey : String) :
    Except OperationError OperationRecord × Database :=
  match outcome with
  | .error error => (.error error, db)
  | .ok db' =>
    match db'.readOperation operationKey with
    | some record => (.ok record, db')
    | none => (.error (.store "Updated operation could not be reloaded."), db')

/-- `fail_or_preserve_ambiguous`. -/
def failOrPreserveAmbiguous (db : Database) (call : ApplyArtifactCall) (record : OperationRecord)
    (error : String) : Except PyException Bool × Database :=
  match db.readOperation record.operationKey with
  | none =>
    (.error (operationException (.store "Operation disappeared during failure handling.")), db)
  | some row =>
    match call.inspection with
    | .error exc => (.error exc, db)
    | .ok repository =>
      let db := call.others.whileInspecting db
      if repository.unmodified row then
        match reread (db.releaseFailed record error (call.times 2)) db record.operationKey with
        | (.ok _, db) => (.ok true, db)
        | (.error error, db) => (.error (operationException error), db)
      else (.ok false, db)

/-- The exceptions for which `apply_artifact` ends its operation. -/
def handledClasses : List ExceptionClass :=
  [.approvedPatchApplyError, .patchArtifactError, .osError, .runtimeError]

/-- How the call ends when the artifact could not be applied. -/
def failApply (db : Database) (call : ApplyArtifactCall) (record : OperationRecord)
    (exc : PyException) : PyException × Database :=
  if exc.isInstance handledClasses then
    match failOrPreserveAmbiguous db call record exc.message with
    | (.error stateExc, db) =>
      (if stateExc.isInstance [.other "OperationStoreError"] then
        approvalOperationError ("Artifact application failed and its durable operation state " ++
          "could not be finalized safely.")
      else stateExc, db)
    | (.ok true, db) => (approvalOperationError exc.message, db)
    | (.ok false, db) =>
      (stateError ("Artifact application may have mutated the trusted repository, but durable " ++
        "completion was not established. Run crash recovery before continuing."), db)
  else (exc, db)

/-- The call from its reservation on. -/
def applyReserved (state : StoreState) (db : Database) (call : ApplyArtifactCall)
    (found : ApprovedArtifact) (operationKey : String) :
    Except PyException ApprovedPatchApplyResult × Database :=
  let db := call.others.afterReserve db
  match db.readOperation operationKey with
  | none => (.error (stateError "Reserved operation could not be reloaded."), db)
  | some reserved =>
    match reread (db.markApplying reserved (call.times 1)) db operationKey with
    | (.error error, db) => (.error (operationException error), db)
    | (.ok applying, db) =>
      let db := call.others.whileApplying db
      match applyApproved state call.store (call.storeCall found) with
      | .error exc =>
        let (exc, db) := failApply db call applying exc
        (.error exc, db)
      | .ok result =>
        match reread (db.markApplied applying (.dict result.auditSummary) (call.times 2)) db
            operationKey with
        | (.ok _, db) => (.ok result, db)
        | (.error _, db) =>
          (.error (stateError ("Patch applied, but durable operation completion could not be " ++
            "recorded. Run crash recovery before continuing.")), db)

/-- The target and the process identity that `reserve_artifact_apply` computes first. -/
def ApplyArtifactCall.reservation (call : ApplyArtifactCall) (found : ApprovedArtifact) :
    Except PyException OperationRecord := do
  let target ← call.target
  let startToken ← call.startToken
  return call.record found target startToken

/-- The call with an operation store, from the approved artifact on. -/
def applyFound (state : StoreState) (db : Database) (call : ApplyArtifactCall)
    (found : ApprovedArtifact) : Except PyException ApprovedPatchApplyResult × Database :=
  match call.reservation found with
  | .error exc => (.error (wrapReservation exc), db)
  | .ok record =>
    match db.reserve call.active record with
    | (.refused error, db) => (.error (wrapReservation (operationException error)), db)
    | (.replayed existing, db) => (replayedApplyResult found existing.result call.target, db)
    | (.inserted, db) => applyReserved state db call found record.operationKey

/-- `apply_artifact`; `operations` is the database of the operation store, if there is one. -/
def applyArtifact (state : StoreState) (rows : ApprovalTable) (operations : Option Database)
    (call : ApplyArtifactCall) :
    Except PyException ApprovedPatchApplyResult × Option Database :=
  match approvedArtifact state.repoIdentity state.directory rows call.loadedAt call.artifactId with
  | .error exc => (.error exc, operations)
  | .ok found =>
    match operations with
    | none => ((applyApproved state call.store (call.storeCall found)).mapError
        (wrapOperation [.approvedPatchApplyError, .patchArtifactError]), none)
    | some db =>
      let (result, db) := applyFound state db call found
      (result, some db)

end Service

/-! ## An operation that is held -/

/-- The row is the only one of its owner, between the tables of a store that is consistent. -/
structure Holds (db : Database) (row : OperationRecord) : Prop where
  consistent : Consistent db
  row_mem : row ∈ db.operations
  row_unique : ∀ other ∈ db.operations, other.ownerToken = row.ownerToken → other = row

/-- Neither a row of the owner is incomplete nor a repository leased to it. -/
structure Released (db : Database) (ownerToken : String) : Prop where
  operation : ∀ row ∈ db.operations, row.ownerToken = ownerToken → row.incomplete = false
  lease : ∀ lease ∈ db.leases, lease.ownerToken ≠ ownerToken

/-- Transactions of other processes that leave the operations of a live owner alone. -/
def KeepsOwner (ownerToken : String) (f : Database → Database) : Prop :=
  ∀ db, Consistent db → Consistent (f db) ∧
    ∀ row : OperationRecord, row.ownerToken = ownerToken →
      (row ∈ (f db).operations ↔ row ∈ db.operations)

structure Others.Keep (others : Others) (ownerToken : String) : Prop where
  afterReserve : KeepsOwner ownerToken others.afterReserve
  whileApplying : KeepsOwner ownerToken others.whileApplying
  whileInspecting : KeepsOwner ownerToken others.whileInspecting

section Holding
variable {db db' : Database} {row : OperationRecord}

/-- The leases of a consistent store follow its rows. -/
theorem released_of_rows (h : Consistent db) {ownerToken : String}
    (hrows : ∀ row ∈ db.operations, row.ownerToken = ownerToken → row.incomplete = false) :
    Released db ownerToken where
  operation := hrows
  lease lease hlease htoken := by
    obtain ⟨row, hrow, hincomplete, rfl⟩ := h.row_of_lease hlease
    rw [hrows row hrow htoken] at hincomplete
    exact Bool.false_ne_true hincomplete

namespace Holds

theorem not_released (h : Holds db row) (hincomplete : row.incomplete = true) :
    ¬ Released db row.ownerToken := by
  intro hreleased
  have hended := hreleased.operation row h.row_mem rfl
  rw [hended] at hincomplete
  exact Bool.false_ne_true hincomplete

theorem released (h : Holds db row) (hended : row.incomplete = false) :
    Released db row.ownerToken := by
  apply released_of_rows h.consistent
  intro other hother htoken
  rw [h.row_unique other hother htoken]
  exact hended

theorem readOperation (h : Holds db row) : db.readOperation row.operationKey = some row :=
  h.consistent.operationKeys.selectOne_eq_some.mpr ⟨h.row_mem, rfl⟩

theorem others (h : Holds db row) {f : Database → Database} (hf : KeepsOwner row.ownerToken f) :
    Holds (f db) row where
  consistent := (hf db h.consistent).1
  row_mem := ((hf db h.consistent).2 row rfl).mpr h.row_mem
  row_unique other hother htoken :=
    h.row_unique other (((hf db h.consistent).2 other htoken).mp hother) htoken

theorem ownedRow_iff (h : Holds db row) {expected : OperationState} (hstate : row.state = expected)
    {other : OperationRecord} (hother : other ∈ db.operations) :
    Database.ownedRow row expected other = true ↔ other = row := by
  rw [Database.ownedRow_iff]
  constructor
  · intro hown
    exact h.consistent.row_eq hother h.row_mem hown.1
  · rintro rfl
    exact ⟨rfl, hstate, rfl⟩

/-- An owned transition of a held row commits, and the written row is held. -/
theorem ownedTransition (h : Holds db row) {expected : OperationState}
    (hstate : row.state = expected) (hexpected : expected.incomplete = true)
    {change : Database.Transition} (hsound : change.sound) {releaseResource : Bool}
    (hrelease : releaseResource = !change.nextState.incomplete) (now : ℕ) :
    ∃ db', db.ownedTransition row expected change releaseResource now = .ok db' ∧
      Holds db' (change.write now row) := by
  have hcount : db.operations.rowcount (Database.ownedRow row expected) = 1 :=
    h.consistent.operationKeys.rowcount_eq_one h.row_mem
      ((h.ownedRow_iff hstate h.row_mem).mpr rfl)
      fun other hown => (Database.ownedRow_iff.mp hown).1
  have hcommits : ∃ db', db.ownedTransition row expected change releaseResource now = .ok db' := by
    rw [Database.ownedTransition, if_neg (not_not.mpr hcount)]
    exact ⟨_, rfl⟩
  obtain ⟨db', hok⟩ := hcommits
  obtain ⟨-, hoperations, hleases⟩ := Database.ownedTransition_eq_ok hok
  refine ⟨db', hok, ?_, ?_, ?_⟩
  · rw [hrelease] at hleases
    cases hnext : change.nextState.incomplete with
    | true =>
      rw [hnext] at hleases
      apply h.consistent.rewrite _ hnext hoperations hleases
      intro other hown
      rw [OperationRecord.incomplete, (Database.ownedRow_iff.mp hown).2.1]
      exact hexpected
    | false =>
      rw [hnext] at hleases
      apply h.consistent.settle _ hnext hsound hoperations hleases
      intro other hother _
      rw [h.ownedRow_iff hstate hother, Database.ownedLease_iff]
      constructor
      · rintro rfl
        exact ⟨rfl, rfl, rfl⟩
      · intro hown
        exact h.consistent.row_eq hother h.row_mem hown.2.1
  · rw [hoperations]
    exact Table.mem_update_image h.row_mem ((h.ownedRow_iff hstate h.row_mem).mpr rfl)
  · intro other hother htoken
    rw [hoperations] at hother
    rcases Table.mem_update.mp hother with ⟨hold, hnot⟩ | ⟨old, hold, hown, rfl⟩
    · rw [h.row_unique other hold htoken, (h.ownedRow_iff hstate h.row_mem).mpr rfl] at hnot
      nomatch hnot
    · rw [(h.ownedRow_iff hstate hold).mp hown]

/-- The transition together with the record that it reads back. -/
theorem reread (h : Holds db row) {expected : OperationState} (hstate : row.state = expected)
    (hexpected : expected.incomplete = true) {change : Database.Transition}
    (hsound : change.sound) {releaseResource : Bool}
    (hrelease : releaseResource = !change.nextState.incomplete) (now : ℕ) :
    ∃ db', reread (db.ownedTransition row expected change releaseResource now) db
        row.operationKey = (.ok (change.write now row), db') ∧
      Holds db' (change.write now row) := by
  have ⟨db', hok, hholds⟩ := h.ownedTransition hstate hexpected hsound hrelease now
  refine ⟨db', ?_, hholds⟩
  have hread : db'.readOperation row.operationKey = some (change.write now row) :=
    hholds.readOperation
  rw [hok, Service.reread]
  simp only [hread]

theorem markApplying (h : Holds db row) (hstate : row.state = .reserved) (now : ℕ) :
    ∃ db', Service.reread (db.markApplying row now) db row.operationKey =
        (.ok (Database.applyingTransition.write now row), db') ∧
      Holds db' (Database.applyingTransition.write now row) :=
  h.reread hstate rfl (by intro h; cases h) rfl now

theorem markApplied (h : Holds db row) (hstate : row.state = .applying) (result : Value)
    (now : ℕ) :
    ∃ db', Service.reread (db.markApplied row result now) db row.operationKey =
        (.ok ((Database.appliedTransition result).write now row), db') ∧
      Holds db' ((Database.appliedTransition result).write now row) :=
  h.reread hstate rfl (by intro h; cases h) rfl now

theorem releaseFailed (h : Holds db row) (hstate : row.state = .applying) (error : String)
    (now : ℕ) :
    ∃ db', Service.reread (db.releaseFailed row error now) db row.operationKey =
        (.ok ((Database.failedTransition error).write now row), db') ∧
      Holds db' ((Database.failedTransition error).write now row) :=
  h.reread hstate rfl (fun _ => rfl) rfl now

end Holds

/-- A reservation of a fresh owner holds its row. -/
theorem reserve_holds (h : Consistent db) {active : ℤ → String → Bool} {record : OperationRecord}
    (hstate : record.state = .reserved)
    (hfresh : ∀ row ∈ db.operations, row.ownerToken ≠ record.ownerToken)
    (hreserve : db.reserve active record = (.inserted, db')) : Holds db' record := by
  have hconsistent := h.reserve hstate hreserve
  rcases Database.reserve_eq hreserve with ⟨hrefused, -⟩ | ⟨-, base, hbase, -, rfl⟩
  · exact absurd rfl hrefused
  · refine ⟨hconsistent, Table.mem_insert.mpr (.inr rfl), ?_⟩
    intro other hother htoken
    rcases Table.mem_insert.mp hother with hold | rfl
    · have hdb : other ∈ db.operations := by
        rcases hbase with ⟨rfl, -⟩ | ⟨_, -, -, rfl⟩
        · exact hold
        · exact (Table.mem_delete.mp hold).1
      exact absurd htoken (hfresh other hdb)
    · rfl

/-- After a release, a reservation is refused as active or stale only for another owner. -/
theorem Released.refused_by_other {ownerToken : String} (h : Released db ownerToken)
    (hdb : Consistent db) {active : ℤ → String → Bool} {record : OperationRecord}
    {error : OperationError} (hrefused : db.reserve active record = (.refused error, db')) :
    ∃ row ∈ db.operations, row.incomplete = true ∧ row.ownerToken ≠ ownerToken := by
  have hother : ∀ row ∈ db.operations, row.incomplete = true →
      ∃ row ∈ db.operations, row.incomplete = true ∧ row.ownerToken ≠ ownerToken := by
    intro row hrow hincomplete
    refine ⟨row, hrow, hincomplete, fun htoken => ?_⟩
    rw [h.operation row hrow htoken] at hincomplete
    exact Bool.false_ne_true hincomplete
  have hclaim : ∀ base : Database, (∀ lease ∈ base.leases, lease ∈ db.leases) →
      Database.claim db base active record = (.refused error, db') →
      ∃ row ∈ db.operations, row.incomplete = true ∧ row.ownerToken ≠ ownerToken := by
    intro base hsub hclaim
    rw [Database.claim] at hclaim
    split at hclaim
    · rename_i lease hlease
      obtain ⟨row, hrow, hincomplete, -⟩ :=
        hdb.row_of_lease (hsub lease (Table.selectOne_mem hlease).1)
      exact hother row hrow hincomplete
    · nomatch hclaim
  rw [Database.reserve] at hrefused
  split at hrefused
  · exact hclaim db (fun _ => id) hrefused
  · rename_i row hread
    have hrow := (Table.selectOne_mem hread).1
    split at hrefused
    · nomatch hrefused
    · rename_i hfailed
      rw [if_pos (hdb.failures row hrow hfailed)] at hrefused
      exact hclaim _ (fun lease hlease => (Table.mem_delete.mp hlease).1) hrefused
    · rename_i hstate
      exact hother row hrow (by rw [OperationRecord.incomplete, hstate]; rfl)
    · rename_i hstate
      exact hother row hrow (by rw [OperationRecord.incomplete, hstate]; rfl)

end Holding

/-! ## Calls that raise -/

section Raising
variable [UnicodeTables] [Digest] [IsoDateTime] [BytesDigest] [FloatText] [Conversions]
variable {state : StoreState} {rows : ApprovalTable} {db db' : Database} {call : ApplyArtifactCall}

/-- The exceptions of the application that `apply_artifact` handles, with a repository that it
can inspect. -/
def ApplyArtifactCall.Handles (call : ApplyArtifactCall) (exc : PyException) : Prop :=
  exc.isInstance handledClasses = true ∧ call.inspectionFault = none

omit [Digest] [IsoDateTime] [BytesDigest] [FloatText] [Conversions] in
/-- A failed application releases its operation exactly when its exception is handled. -/
theorem failApply_released {row : OperationRecord} {cause : PyException} (h : Holds db row)
    (hstate : row.state = .applying) (hkeep : call.others.Keep row.ownerToken)
    (hrepo : call.repository.unmodified row = true) :
    Released (failApply db call row cause).2 row.ownerToken ↔ call.Handles cause := by
  have hincomplete : row.incomplete = true := by
    rw [OperationRecord.incomplete, hstate]
    rfl
  have hstranded := h.not_released hincomplete
  by_cases hhandled : cause.isInstance handledClasses = true
  · have hinspected := h.others hkeep.whileInspecting
    have ⟨db₂, hreread, hheld⟩ := hinspected.releaseFailed hstate cause.message (call.times 2)
    cases hfault : call.inspectionFault with
    | none =>
      simp only [failApply, hhandled, if_true, failOrPreserveAmbiguous, h.readOperation,
        ApplyArtifactCall.inspection, hfault, hrepo, hreread,
        ApplyArtifactCall.Handles, true_and, iff_true]
      exact hheld.released rfl
    | some exc =>
      simp only [failApply, hhandled, if_true, failOrPreserveAmbiguous, h.readOperation,
        ApplyArtifactCall.inspection, hfault, ApplyArtifactCall.Handles, reduceCtorEq, and_false,
        iff_false]
      exact hstranded
  · simp only [failApply, hhandled, if_false, ApplyArtifactCall.Handles, false_and, iff_false,
      Bool.false_eq_true]
    exact hstranded

/-- From the reservation on, the call raises only when the artifact cannot be applied. -/
theorem applyReserved_released {found : ApprovedArtifact} {record : OperationRecord}
    {exc : PyException} (h : Holds db record) (hstate : record.state = .reserved)
    (hkeep : call.others.Keep record.ownerToken)
    (hrepo : ∀ row : OperationRecord, row.baselineCommitSha = record.baselineCommitSha →
      call.repository.unmodified row = true)
    (hraises : applyReserved state db call found record.operationKey = (.error exc, db')) :
    ∃ cause, applyApproved state call.store (call.storeCall found) = .error cause ∧
      (Released db' record.ownerToken ↔ call.Handles cause) := by
  have hreserved := h.others hkeep.afterReserve
  have ⟨db₂, hmarked, hmarkedHolds⟩ := hreserved.markApplying hstate (call.times 1)
  have happlying := hmarkedHolds.others hkeep.whileApplying
  simp only [applyReserved, hreserved.readOperation, hmarked] at hraises
  cases happly : applyApproved state call.store (call.storeCall found) with
  | ok result =>
    have ⟨db₃, happlied, _⟩ := happlying.markApplied rfl (.dict result.auditSummary) (call.times 2)
    rw [Database.Transition.write_operationKey] at happlied
    simp only [happly, happlied] at hraises
    nomatch hraises
  | error cause =>
    refine ⟨cause, rfl, ?_⟩
    simp only [happly, Prod.mk.injEq] at hraises
    rw [← hraises.2]
    exact failApply_released happlying rfl hkeep (hrepo _ rfl)

/-- The repository is clean at the baseline of the approved artifact. -/
def ApplyArtifactCall.AtBaseline (call : ApplyArtifactCall) (state : StoreState)
    (rows : ApprovalTable) : Prop :=
  ∀ found, approvedArtifact state.repoIdentity state.directory rows call.loadedAt call.artifactId =
    .ok found → call.repository = ⟨lowerString found.artifact.baselineCommitSha, true⟩

/-- Whatever the application of a reserved artifact raises is handled. -/
def ApplyArtifactCall.RaisesHandled (call : ApplyArtifactCall) (state : StoreState)
    (rows : ApprovalTable) (db : Database) : Prop :=
  ∀ found record cause,
    approvedArtifact state.repoIdentity state.directory rows call.loadedAt call.artifactId =
      .ok found →
    call.reservation found = .ok record → (db.reserve call.active record).1 = .inserted →
    applyApproved state call.store (call.storeCall found) = .error cause → call.Handles cause

end Raising

/-! ## A patch in another encoding -/

namespace Sample
open Rygnal.Artifact.Sample PyText.Ascii

/-- The payload of an artifact whose patch is the one byte `0xFF`. -/
def latinPayload : Dict :=
  [("approval_request_id", .str "apr_3c90"),
    ("artifact_digest", .str "2c26b46b68ffc68ff99b453c1d30413413422d706483bfa0f98a5e886266e7ae"),
    ("artifact_id", .str "00000000000000000000000000000abc"),
    ("baseline_commit_sha", .str "4b825dc642cb6eb9a060e54bf8d69288fbee4904"),
    ("consumed_at", .none), ("created_at", .str "2026-01-01T00:00:00+00:00"),
    ("expires_at", .str "2026-01-01T01:00:00+00:00"), ("files", .list []),
    ("ignored_files", .list []), ("intent_summary", .dict []), ("patch_base64", .str "/w=="),
    ("patch_sha256", .str "5d21b500103d21e1feb9c39daf830bec59d56fa5c55899d3ab5ec1f4e4239448"),
    ("patch_size_bytes", .int 1),
    ("risk_summary", .dict [("baseline_commit_sha", .str "4b825dc642cb6eb9a060e54bf8d69288fbee4904"),
      ("patch_sha256", .str "5d21b500103d21e1feb9c39daf830bec59d56fa5c55899d3ab5ec1f4e4239448")]),
    ("run_id", .str "run_1"), ("schema_version", .str "patch-artifact.v1"),
    ("state", .str "pending"), ("trace_id", .str "trace_1f"),
    ("trusted_repo_identity_sha256", .str "identity"), ("trusted_repo_path", .str "/work/repo"),
    ("workspace_path", .str "/work/ws")]

def latinRequest : ApprovalRequest where
  approvalId := "apr_3c90"
  createdAt := "2026-01-01T00:00:00+00:00"
  traceId := "trace_1f"
  requestedBy := "dev-1"
  agentId := "agent-1"
  environment := "dev"
  toolName := "guarded_workspace"
  action := some "approve_patch_apply"
  target := .str "5d21b500103d21e1feb9c39daf830bec59d56fa5c55899d3ab5ec1f4e4239448"
  policyId := some "guarded-workspace-explicit-approval"
  reason := "Patch is reviewed by hand."
  severity := .medium
  riskAssessment := []
  metadata := [("artifact_id", .str "00000000000000000000000000000abc"),
    ("baseline_commit_sha", .str "4b825dc642cb6eb9a060e54bf8d69288fbee4904"),
    ("forced_approval", .bool true)]
  contextPresent := by decide

def latinDecision : ApprovalDecision :=
  withReceipt (patchDecision latinRequest true "lead-1" "fine" "2026-01-01T00:00:00+00:00")
    "2c26b46b68ffc68ff99b453c1d30413413422d706483bfa0f98a5e886266e7ae"

def approvedRows : ApprovalTable :=
  [(ApprovalRow.inserted latinRequest).decided latinDecision (by decide)]

def latinState : StoreState where
  repoIdentity _ := "identity"
  directory name :=
    if name = "00000000000000000000000000000abc" then
      some (.regular 1000 (.parsed (.dict latinPayload)))
    else none
  used := []
  stores _ := []

def git (stdout : String) : GitAnswer := .completed ⟨0, stdout.toList, []⟩

/-- A call that meets a clean repository at the baseline, with the given answer of the lock. -/
def latinCall (lock : Option PyException) : ApplyArtifactCall where
  artifactId := "00000000000000000000000000000abc"
  target := .ok "/work/repo"
  logger := some ⟨0, true⟩
  loadedAt := 1767225660000000
  ownerToken := "6f1c"
  ownerPid := 4101
  startToken := .ok "boot:10"
  active _ _ := true
  others := ⟨id, id, id⟩
  store := {
    lock := lock
    now := 1767225660000000
    patch := {
      ambient := ⟨"trace_1f", "", "", fun _ => ""⟩
      checks := {
        targetExists := true
        showToplevel := git "/work/repo\n"
        toplevelIsTarget := fun text => text = "/work/repo".toList
        pathSafety := .safe
        pathAudit := .written
        analyses := ⟨fun _ _ => ⟨false, none, none, [], none, none, none, none, none, none, none⟩,
          fun _ => ⟨false, false, false, false, false, []⟩, fun _ _ => []⟩
        status := git ""
        head := git "4b825dc642cb6eb9a060e54bf8d69288fbee4904\n"
        now := 1767225660000000 }
      historyFault := none
      checkApplies := git ""
      apply := git ""
      auditWrite := .written }
    consumedAt := "2026-01-01T00:01:00+00:00"
    writeFault := none
    unlock := none }
  repository := ⟨"4b825dc642cb6eb9a060e54bf8d69288fbee4904", true⟩
  inspectionFault := none
  times n := n

def runLatin (lock : Option PyException) :
    Except PyException ApprovedPatchApplyResult × Option Database :=
  applyArtifact latinState approvedRows (some .empty) (latinCall lock)

/-- What the calls find and how they end, evaluated together since they share their lookups. -/
theorem latin_runs :
    (approvedArtifact latinState.repoIdentity latinState.directory approvedRows
      1767225660000000 "00000000000000000000000000000abc").toOption.all (fun found =>
        lowerString found.artifact.baselineCommitSha = "4b825dc642cb6eb9a060e54bf8d69288fbee4904") =
        true ∧
    ((runLatin (some (patchArtifactError "Artifact is locked."))).1.toOption.isNone &&
      (runLatin (some (patchArtifactError "Artifact is locked."))).2.isSome) = true ∧
    ((runLatin none).1.toOption.isNone && (runLatin none).2.any fun db =>
      db.operations.any fun row => row.ownerToken = "6f1c" && row.incomplete) = true := by
  decide +kernel

theorem latinCall_atBaseline (lock : Option PyException) :
    (latinCall lock).AtBaseline latinState approvedRows := by
  have hbaseline := latin_runs.1
  intro found hfound
  change approvedArtifact latinState.repoIdentity latinState.directory approvedRows
    1767225660000000 "00000000000000000000000000000abc" = _ at hfound
  rw [hfound] at hbaseline
  rw [of_decide_eq_true hbaseline]
  rfl

theorem latinCall_keeps (lock : Option PyException) (ownerToken : String) :
    (latinCall lock).others.Keep ownerToken where
  afterReserve _ h := ⟨h, fun _ _ => Iff.rfl⟩
  whileApplying _ h := ⟨h, fun _ _ => Iff.rfl⟩
  whileInspecting _ h := ⟨h, fun _ _ => Iff.rfl⟩

end Sample

open Sample Rygnal.Artifact.Sample PyText.Ascii

end Rygnal.Service
