import Rygnal.Library.Transition
import Rygnal.Operations.Invariant
import Rygnal.Operations.ProcessIdentity

/-! # Processes sharing one operation store

Threads of any number of processes call the store. A label is one transaction, or one read
of the operating system, the audit evidence or the repository between two transactions, so
that the steps of different calls interleave in every order; a process may crash between
any two of them. What the environment answers is part of the label.
-/

namespace Rygnal.Operations
open Rygnal.Core Rygnal.Library Rygnal.Library.PyText Rygnal.Library.Transition

/-- Which process a thread belongs to, and the pid of each process. -/
structure Deployment where
  process : ℕ → ℕ
  pid : ℕ → ℤ

/-- What `reconcile_incomplete` does next with the first record of its list. -/
inductive RecoveryStage where
  | ownerCheck
  | evidenceCheck
  | inspection
  | update (hasApplyEvidence : Bool)
deriving DecidableEq, Repr

/-- Where a thread stands inside a call of the store. -/
inductive Pending where
  | idle
  /-- `reserve_artifact_apply` has committed its row and reads it back next. -/
  | reloading (record : OperationRecord)
  /-- `fail_or_preserve_ambiguous` has read the operation. -/
  | failing (reservation : OperationReservation) (record : OperationRecord) (error : String)
  /-- `fail_or_preserve_ambiguous` has found the repository unmodified. -/
  | releasing (reservation : OperationReservation) (error : String)
  /-- `reconcile_incomplete`, with the records still to handle. -/
  | recovering (todo : List OperationRecord) (stage : RecoveryStage)
deriving DecidableEq, Repr

/-- `held` are the acquired reservations that a thread received and has not ended. -/
structure World where
  db : Database
  issued : Table Issue
  held : ℕ → List OperationReservation
  pending : ℕ → Pending
  crashed : ℕ → Bool

def World.initial : World := ⟨.empty, [], fun _ => [], fun _ => .idle, fun _ => false⟩

/-- One atomic step of a thread. -/
inductive Action where
  | reserve (apply : ArtifactApply) (ownerToken : String) (os : ℤ → ProcessView) (now : ℕ)
  | reload
  | markApplying (reservation : OperationReservation) (now : ℕ)
  | markApplied (reservation : OperationReservation) (result : Value) (now : ℕ)
  | failGet (reservation : OperationReservation) (error : String)
  | failInspect (repository : Option RepositoryState)
  | failCommit (now : ℕ)
  | listIncomplete
  | checkOwner (os : ℤ → ProcessView)
  | checkEvidence (answer : Bool)
  | inspectRepository (repository : Option RepositoryState)
  | recoverCommit (now : ℕ)
  /-- The call returns, or an exception leaves it. -/
  | leave

inductive Label where
  | act (thread : ℕ) (action : Action)
  | crash (process : ℕ)

/-- The steps of `reconcile_incomplete`. -/
def Action.recovers : Action → Bool
  | .listIncomplete | .checkOwner _ | .checkEvidence _ | .inspectRepository _
  | .recoverCommit _ => true
  | _ => false

namespace World

def setPending (w : World) (t : ℕ) (p : Pending) : World :=
  { w with pending := Function.update w.pending t p }

def hold (w : World) (t : ℕ) (reservation : OperationReservation) : World :=
  { w with held := Function.update w.held t (reservation :: w.held t) }

/-- The thread gives up the reservation with this token. -/
def unhold (w : World) (t : ℕ) (ownerToken : String) : World :=
  { w with
    held := Function.update w.held t
      ((w.held t).filter fun r => r.record.ownerToken ≠ ownerToken) }

def commit (w : World) (db : Database) : World := { w with db := db }

def issue (w : World) (i : Issue) : World := { w with issued := w.issued.insert i }

/-- `uuid.uuid4` never repeats a token. -/
def fresh (w : World) (ownerToken : String) : Bool :=
  w.issued.all fun i => i.record.ownerToken ≠ ownerToken

variable {w : World} {t u : ℕ}

@[simp] theorem setPending_db (p : Pending) : (w.setPending t p).db = w.db := rfl

@[simp] theorem setPending_issued (p : Pending) : (w.setPending t p).issued = w.issued := rfl

@[simp] theorem setPending_held (p : Pending) : (w.setPending t p).held = w.held := rfl

@[simp] theorem setPending_crashed (p : Pending) : (w.setPending t p).crashed = w.crashed := rfl

theorem setPending_pending (p : Pending) :
    (w.setPending t p).pending u = if u = t then p else w.pending u := by
  by_cases hu : u = t
  · simp [setPending, hu]
  · simp [setPending, hu]

@[simp] theorem commit_db (db : Database) : (w.commit db).db = db := rfl

theorem mem_hold {r reservation : OperationReservation} :
    r ∈ (w.hold t reservation).held u ↔ r ∈ w.held u ∨ u = t ∧ r = reservation := by
  by_cases hu : u = t
  · subst hu
    simp [hold, or_comm]
  · simp [hold, hu]

theorem mem_unhold {ownerToken : String} {r : OperationReservation} :
    r ∈ (w.unhold t ownerToken).held u ↔
      r ∈ w.held u ∧ (u = t → r.record.ownerToken ≠ ownerToken) := by
  by_cases hu : u = t
  · subst hu
    simp [unhold]
  · simp [unhold, hu]

end World

variable [Digest] [UnicodeTables]

/-- `reserve_artifact_apply` up to its commit or its error. -/
def reserveStep (d : Deployment) (w : World) (t : ℕ) (apply : ArtifactApply)
    (ownerToken : String) (os : ℤ → ProcessView) (now : ℕ) : Option World :=
  let pid := d.pid (d.process t)
  match processIdentityToken pid (os pid) with
  | .error _ => some w
  | .ok ownerStartToken =>
    if w.fresh ownerToken then
      let record := reservedRecord apply ownerToken pid ownerStartToken now
      match w.db.reserve (processIdentityMatches os) record with
      | (.inserted, db) => some (((w.commit db).issue ⟨t, record⟩).setPending t (.reloading record))
      | (_, db) => some (w.commit db)
    else none

/-- One transaction on a held reservation; a refusal leaves everything as it was. -/
def ownedStep (w : World) (t : ℕ) (reservation : OperationReservation)
    (transaction : Except OperationError Database) (releases : Bool) : Option World :=
  if reservation ∈ w.held t then
    match transaction with
    | .ok db =>
      some (if releases then (w.commit db).unhold t reservation.record.ownerToken else w.commit db)
    | .error _ => some w
  else none

/-- One step of `reconcile_incomplete` on the first record of its list. -/
def recoveryStep (w : World) (t : ℕ) (record : OperationRecord) (rest : List OperationRecord) :
    RecoveryStage → Action → Option World
  | .ownerCheck, .checkOwner os =>
    some (w.setPending t (if ownerRecordIsActive os record then .recovering rest .ownerCheck
      else .recovering (record :: rest) .evidenceCheck))
  | .evidenceCheck, .checkEvidence answer =>
    some (w.setPending t (.recovering (record :: rest)
      (if answer then .update true else .inspection)))
  | .inspection, .inspectRepository repository =>
    some (w.setPending t (if repository.any fun r => r.unmodified record
      then .recovering (record :: rest) (.update false) else .recovering rest .ownerCheck))
  | .update evidence, .recoverCommit now =>
    match w.db.recoverTerminal record (recoveryTransition record evidence) now with
    | .ok db => some ((w.commit db).setPending t (.recovering rest .ownerCheck))
    | .error _ => some (w.setPending t .idle)
  | _, _ => none

/-- One step of a thread. -/
def threadStep (d : Deployment) (w : World) (t : ℕ) (action : Action) : Option World :=
  match w.pending t, action with
  | _, .leave => some (w.setPending t .idle)
  | .idle, .reserve apply ownerToken os now => reserveStep d w t apply ownerToken os now
  | .reloading record, .reload =>
    match w.db.readOperation record.operationKey with
    | some row => some ((w.hold t ⟨row, true, false⟩).setPending t .idle)
    | none => some (w.setPending t .idle)
  | .idle, .markApplying reservation now =>
    ownedStep w t reservation (w.db.markApplying reservation.record now) false
  | .idle, .markApplied reservation result now =>
    ownedStep w t reservation (w.db.markApplied reservation.record result now) true
  | .idle, .failGet reservation error =>
    if reservation ∈ w.held t then
      match w.db.readOperation reservation.record.operationKey with
      | some record => some (w.setPending t (.failing reservation record error))
      | none => some w
    else none
  | .failing reservation record error, .failInspect repository =>
    some (w.setPending t (if repository.any fun r => r.unmodified record
      then .releasing reservation error else .idle))
  | .releasing reservation error, .failCommit now =>
    (ownedStep w t reservation (w.db.releaseFailed reservation.record error now) true).map
      fun w' => w'.setPending t .idle
  | .idle, .listIncomplete => some (w.setPending t (.recovering w.db.listIncomplete .ownerCheck))
  | .recovering (record :: rest) stage, action => recoveryStep w t record rest stage action
  | _, _ => none

/-- A crash stops every thread of the process; the other labels are steps of a live one. -/
def step (d : Deployment) : Step World Label
  | w, .crash p => some { w with crashed := Function.update w.crashed p true }
  | w, .act t action => if w.crashed (d.process t) then none else threadStep d w t action

/-! ## What a step can do -/

/-- Every way in which a thread can move. -/
inductive Stepped (d : Deployment) (w : World) (t : ℕ) : Action → World → Prop
  | same {action : Action} : Stepped d w t action w
  | rests {action : Action} : Stepped d w t action (w.setPending t .idle)
  | reserves {apply : ArtifactApply} {ownerToken ownerStartToken : String}
      {os : ℤ → ProcessView} {now : ℕ} {record : OperationRecord} {db : Database}
      (idle : w.pending t = .idle) (fresh : w.fresh ownerToken = true)
      (reserved : record =
        reservedRecord apply ownerToken (d.pid (d.process t)) ownerStartToken now)
      (committed : w.db.reserve (processIdentityMatches os) record = (.inserted, db)) :
      Stepped d w t (.reserve apply ownerToken os now)
        (((w.commit db).issue ⟨t, record⟩).setPending t (.reloading record))
  | receives {record row : OperationRecord} (reloading : w.pending t = .reloading record)
      (read : w.db.readOperation record.operationKey = some row) :
      Stepped d w t .reload ((w.hold t ⟨row, true, false⟩).setPending t .idle)
  | marks {reservation : OperationReservation} {now : ℕ} {db : Database}
      (held : reservation ∈ w.held t)
      (committed : w.db.markApplying reservation.record now = .ok db) :
      Stepped d w t (.markApplying reservation now) (w.commit db)
  | completes {reservation : OperationReservation} {result : Value} {now : ℕ} {db : Database}
      (idle : w.pending t = .idle) (held : reservation ∈ w.held t)
      (committed : w.db.markApplied reservation.record result now = .ok db) :
      Stepped d w t (.markApplied reservation result now)
        ((w.commit db).unhold t reservation.record.ownerToken)
  | fails {reservation : OperationReservation} {record : OperationRecord} {error : String} :
      Stepped d w t (.failGet reservation error)
        (w.setPending t (.failing reservation record error))
  | unmodified {reservation : OperationReservation} {error : String}
      {repository : Option RepositoryState} :
      Stepped d w t (.failInspect repository) (w.setPending t (.releasing reservation error))
  | releases {reservation : OperationReservation} {error : String} {now : ℕ} {db : Database}
      (releasing : w.pending t = .releasing reservation error) (held : reservation ∈ w.held t)
      (committed : w.db.releaseFailed reservation.record error now = .ok db) :
      Stepped d w t (.failCommit now)
        (((w.commit db).unhold t reservation.record.ownerToken).setPending t .idle)
  | lists : Stepped d w t .listIncomplete
      (w.setPending t (.recovering w.db.listIncomplete .ownerCheck))
  | skips {action : Action} {record : OperationRecord} {rest : List OperationRecord}
      {stage : RecoveryStage} (recovering : w.pending t = .recovering (record :: rest) stage) :
      Stepped d w t action (w.setPending t (.recovering rest .ownerCheck))
  | suspects {record : OperationRecord} {rest : List OperationRecord} {os : ℤ → ProcessView}
      (recovering : w.pending t = .recovering (record :: rest) .ownerCheck)
      (inactive : ownerRecordIsActive os record = false) :
      Stepped d w t (.checkOwner os)
        (w.setPending t (.recovering (record :: rest) .evidenceCheck))
  | decides {action : Action} {record : OperationRecord} {rest : List OperationRecord}
      {stage : RecoveryStage} (next : RecoveryStage)
      (recovering : w.pending t = .recovering (record :: rest) stage)
      (checked : stage ≠ .ownerCheck) :
      Stepped d w t action (w.setPending t (.recovering (record :: rest) next))
  | recovers {record : OperationRecord} {rest : List OperationRecord} {evidence : Bool}
      {now : ℕ} {db : Database}
      (recovering : w.pending t = .recovering (record :: rest) (.update evidence))
      (committed : w.db.recoverTerminal record (recoveryTransition record evidence) now = .ok db) :
      Stepped d w t (.recoverCommit now)
        ((w.commit db).setPending t (.recovering rest .ownerCheck))

variable {d : Deployment} {w w' : World} {t : ℕ} {action : Action}

theorem reserveStep_stepped {apply : ArtifactApply} {ownerToken : String}
    {os : ℤ → ProcessView} {now : ℕ} (idle : w.pending t = .idle)
    (h : reserveStep d w t apply ownerToken os now = some w') :
    Stepped d w t (.reserve apply ownerToken os now) w' := by
  simp only [reserveStep] at h
  split at h
  · cases h
    exact .same
  · split at h
    · rename_i hfresh
      split at h
      · rename_i hdb
        cases h
        exact .reserves idle hfresh rfl hdb
      · rename_i outcome db hne hdb
        cases h
        rcases Database.reserve_eq hdb with ⟨-, rfl⟩ | ⟨rfl, -⟩
        · exact .same
        · exact (hne rfl).elim
    · cases h

omit [Digest] [UnicodeTables] in
/-- A transaction on a held reservation was refused, or it committed. -/
theorem ownedStep_eq_some {reservation : OperationReservation}
    {transaction : Except OperationError Database} {releases : Bool}
    (h : ownedStep w t reservation transaction releases = some w') :
    w' = w ∨ reservation ∈ w.held t ∧ ∃ db, transaction = .ok db ∧
      w' = if releases then (w.commit db).unhold t reservation.record.ownerToken
        else w.commit db := by
  unfold ownedStep at h
  split at h
  · rename_i hheld
    split at h
    · cases h
      exact .inr ⟨hheld, _, rfl, rfl⟩
    · cases h
      exact .inl rfl
  · cases h

theorem recoveryStep_stepped {record : OperationRecord} {rest : List OperationRecord}
    {stage : RecoveryStage} (recovering : w.pending t = .recovering (record :: rest) stage)
    (h : recoveryStep w t record rest stage action = some w') : Stepped d w t action w' := by
  unfold recoveryStep at h
  split at h
  · cases h
    split
    · exact .skips recovering
    · rename_i hinactive
      exact .suspects recovering (by simpa using hinactive)
  · cases h
    exact .decides _ recovering (by simp)
  · cases h
    split
    · exact .decides _ recovering (by simp)
    · exact .skips recovering
  · split at h
    · rename_i hdb
      cases h
      exact .recovers recovering hdb
    · cases h
      exact .rests
  · cases h

theorem threadStep_stepped (h : threadStep d w t action = some w') :
    Stepped d w t action w' := by
  unfold threadStep at h
  split at h
  · cases h
    exact .rests
  · rename_i hp
    exact reserveStep_stepped hp h
  · rename_i hp
    split at h
    · rename_i hrow
      cases h
      exact .receives hp hrow
    · cases h
      exact .rests
  · rcases ownedStep_eq_some h with rfl | ⟨hheld, db, hdb, rfl⟩
    · exact .same
    · exact .marks hheld hdb
  · rename_i hp
    rcases ownedStep_eq_some h with rfl | ⟨hheld, db, hdb, rfl⟩
    · exact .same
    · exact .completes hp hheld hdb
  · split at h
    · split at h
      · cases h
        exact .fails
      · cases h
        exact .same
    · cases h
  · cases h
    split
    · exact .unmodified
    · exact .rests
  · rename_i hp
    obtain ⟨w₁, h₁, rfl⟩ := Option.map_eq_some_iff.mp h
    rcases ownedStep_eq_some h₁ with rfl | ⟨hheld, db, hdb, rfl⟩
    · exact .rests
    · exact .releases hp hheld hdb
  · cases h
    exact .lists
  · rename_i hp _
    exact recoveryStep_stepped hp h
  · cases h

/-- A step is a crash, or the move of a thread whose process is alive. -/
theorem step_cases {l : Label} (h : step d w l = some w') :
    (∃ p, l = .crash p ∧ w' = { w with crashed := Function.update w.crashed p true }) ∨
    ∃ t action, l = .act t action ∧ w.crashed (d.process t) = false ∧
      Stepped d w t action w' := by
  cases l with
  | crash p =>
    cases h
    exact .inl ⟨p, rfl, rfl⟩
  | act t action =>
    simp only [step] at h
    split at h
    · cases h
    · rename_i halive
      exact .inr ⟨t, action, rfl, by simpa using halive, threadStep_stepped h⟩

end Rygnal.Operations
