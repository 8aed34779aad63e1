import Rygnal.Core.Json
import Rygnal.Library.Table

/-! # The durable operation store

The two tables of `SQLiteOperationStore` and its transactions, one function for each
`BEGIN IMMEDIATE` block. A refused transaction returns the error it raises and leaves both
tables as they were. A row of `operations` is the record that a read returns for it.
-/

namespace Rygnal.Operations
open Rygnal.Core Rygnal.Library Rygnal.Library.PyText

inductive OperationState where
  | reserved
  | applying
  | applied
  | failed
deriving DecidableEq, Repr

/-- The error classes of the store, each with its message. -/
inductive OperationError where
  | store (message : String)
  | conflict (message : String)
  | recoveryRequired (message : String)
  | terminal (message : String)
deriving DecidableEq, Repr

structure OperationRecord where
  operationKey : String
  resourceKey : String
  artifactId : String
  approvalId : String
  patchSha256 : String
  baselineCommitSha : String
  targetRepoPath : String
  state : OperationState
  ownerToken : String
  ownerPid : ℤ
  ownerStartToken : String
  createdAtUnix : ℕ
  updatedAtUnix : ℕ
  retryable : Bool
  result : Option Value
  error : Option String
deriving DecidableEq, Repr

structure ResourceLease where
  resourceKey : String
  operationKey : String
  ownerToken : String
  ownerPid : ℤ
  ownerStartToken : String
  createdAtUnix : ℕ
deriving DecidableEq, Repr

structure OperationReservation where
  record : OperationRecord
  acquired : Bool
  replayed : Bool
deriving DecidableEq, Repr

/-- The operation still owns its repository: the rows that `list_incomplete` selects. -/
def OperationState.incomplete : OperationState → Bool
  | .reserved | .applying => true
  | .applied | .failed => false

abbrev OperationRecord.incomplete (record : OperationRecord) : Bool := record.state.incomplete

structure Database where
  operations : Table OperationRecord
  leases : Table ResourceLease
deriving DecidableEq, Repr

def Database.empty : Database := ⟨[], []⟩

/-! ## Keys -/

section Keys
variable [Digest] [UnicodeTables]

/-- The arguments of `reserve_artifact_apply`, with the target path resolved. -/
structure ArtifactApply where
  artifactId : String
  approvalId : String
  patchSha256 : String
  baselineCommitSha : String
  targetRepoPath : String
deriving DecidableEq, Repr

def lowerString (s : String) : String := String.ofList (lower s.toList)

def artifactApplyOperationKey (apply : ArtifactApply) : String :=
  Digest.sha256 ("\x00".intercalate ["artifact_apply", apply.artifactId, apply.approvalId,
    apply.patchSha256, lowerString apply.baselineCommitSha, apply.targetRepoPath])

def repositoryResourceKey (targetRepoPath : String) : String := Digest.sha256 targetRepoPath

/-- The row that `reserve_artifact_apply` inserts. -/
def reservedRecord (apply : ArtifactApply) (ownerToken : String) (ownerPid : ℤ)
    (ownerStartToken : String) (now : ℕ) : OperationRecord where
  operationKey := artifactApplyOperationKey apply
  resourceKey := repositoryResourceKey apply.targetRepoPath
  artifactId := apply.artifactId
  approvalId := apply.approvalId
  patchSha256 := apply.patchSha256
  baselineCommitSha := apply.baselineCommitSha
  targetRepoPath := apply.targetRepoPath
  state := .reserved
  ownerToken := ownerToken
  ownerPid := ownerPid
  ownerStartToken := ownerStartToken
  createdAtUnix := now
  updatedAtUnix := now
  retryable := false
  result := none
  error := none

end Keys

/-- The lease that is inserted together with a reserved row. -/
def OperationRecord.lease (record : OperationRecord) : ResourceLease where
  resourceKey := record.resourceKey
  operationKey := record.operationKey
  ownerToken := record.ownerToken
  ownerPid := record.ownerPid
  ownerStartToken := record.ownerStartToken
  createdAtUnix := record.createdAtUnix

/-! ## Transactions -/

namespace Database

/-- `get` and `_read_operation`. -/
def readOperation (db : Database) (operationKey : String) : Option OperationRecord :=
  db.operations.selectOne fun row => row.operationKey = operationKey

def readLease (db : Database) (resourceKey : String) : Option ResourceLease :=
  db.leases.selectOne fun lease => lease.resourceKey = resourceKey

/-- What the transaction of `reserve_artifact_apply` did. -/
inductive ReserveOutcome where
  | replayed (record : OperationRecord)
  | inserted
  | refused (error : OperationError)
deriving DecidableEq, Repr

/-- Delete the lease and the row of a retryable failure. -/
def forget (db : Database) (operationKey : String) : Database where
  operations := db.operations.delete fun row => row.operationKey = operationKey
  leases := db.leases.delete fun lease => lease.operationKey = operationKey

def insertReservation (db : Database) (record : OperationRecord) : Database where
  operations := db.operations.insert record
  leases := db.leases.insert record.lease

/-- The tail of the reserving transaction: refuse when the repository is leased, else insert
the row and its lease. A refusal rolls the deletions back. -/
def claim (original db : Database) (active : ℤ → String → Bool) (record : OperationRecord) :
    ReserveOutcome × Database :=
  match db.readLease record.resourceKey with
  | some lease =>
    (.refused (if active lease.ownerPid lease.ownerStartToken then
        .conflict "Trusted repository is already owned by another active mutation."
      else
        .recoveryRequired "Trusted repository has a stale or ambiguous mutation lease."), original)
  | none => (.inserted, db.insertReservation record)

/-- The transaction of `reserve_artifact_apply` for the row to insert. `active` is
`process_identity_matches`, which only selects the error of a refusal. -/
def reserve (db : Database) (active : ℤ → String → Bool) (record : OperationRecord) :
    ReserveOutcome × Database :=
  match db.readOperation record.operationKey with
  | none => claim db db active record
  | some existing =>
    match existing.state with
    | .applied => (.replayed existing, db)
    | .failed =>
      if existing.retryable then claim db (db.forget record.operationKey) active record
      else (.refused (.terminal
        (existing.error.getD "Artifact application previously failed.")), db)
    | .reserved | .applying =>
      (.refused (if active existing.ownerPid existing.ownerStartToken then
          .conflict "Artifact application is already active in another process."
        else
          .recoveryRequired
            "An incomplete artifact application must be reconciled before retry."), db)

/-- The columns that a transition writes. -/
structure Transition where
  nextState : OperationState
  result : Option Value
  error : Option String
  retryable : Bool
deriving DecidableEq, Repr

def Transition.write (change : Transition) (now : ℕ) (row : OperationRecord) : OperationRecord :=
  { row with
    state := change.nextState
    updatedAtUnix := now
    result := change.result.map Value.jsonRoundTrip
    error := change.error
    retryable := change.retryable }

/-- The row that `_owned_transition` updates: same key, expected state, own token. -/
def ownedRow (record : OperationRecord) (expected : OperationState) (row : OperationRecord) : Bool :=
  row.operationKey = record.operationKey ∧ row.state = expected ∧ row.ownerToken = record.ownerToken

def ownedLease (record : OperationRecord) (lease : ResourceLease) : Bool :=
  lease.resourceKey = record.resourceKey ∧ lease.operationKey = record.operationKey ∧
    lease.ownerToken = record.ownerToken

def ownedTransition (db : Database) (record : OperationRecord) (expected : OperationState)
    (change : Transition) (releaseResource : Bool) (now : ℕ) : Except OperationError Database :=
  if db.operations.rowcount (ownedRow record expected) ≠ 1 then
    .error (.conflict "Operation ownership or state changed.")
  else
    .ok {
      operations := db.operations.update (ownedRow record expected) (change.write now)
      leases := if releaseResource then db.leases.delete (ownedLease record) else db.leases }

def applyingTransition : Transition := ⟨.applying, none, none, false⟩

def appliedTransition (result : Value) : Transition := ⟨.applied, some result, none, false⟩

def failedTransition (error : String) : Transition := ⟨.failed, none, some error, true⟩

/-- `mark_applying`. -/
def markApplying (db : Database) (record : OperationRecord) (now : ℕ) :
    Except OperationError Database :=
  db.ownedTransition record .reserved applyingTransition false now

/-- `mark_applied`. -/
def markApplied (db : Database) (record : OperationRecord) (result : Value) (now : ℕ) :
    Except OperationError Database :=
  db.ownedTransition record .applying (appliedTransition result) true now

/-- The transition of `fail_or_preserve_ambiguous`. -/
def releaseFailed (db : Database) (record : OperationRecord) (error : String) (now : ℕ) :
    Except OperationError Database :=
  db.ownedTransition record .applying (failedTransition error) true now

/-- The rows that `_recover_terminal` updates: the token is not compared. -/
def recoverableRow (operationKey : String) (row : OperationRecord) : Bool :=
  row.operationKey = operationKey ∧ row.incomplete

/-- `_recover_terminal`. -/
def recoverTerminal (db : Database) (record : OperationRecord) (change : Transition) (now : ℕ) :
    Except OperationError Database :=
  if db.operations.rowcount (recoverableRow record.operationKey) ≠ 1 then
    .error (.conflict "Operation changed during recovery.")
  else
    .ok {
      operations := db.operations.update (recoverableRow record.operationKey) (change.write now)
      leases := db.leases.delete fun lease => lease.operationKey = record.operationKey }

/-- `list_incomplete`: the oldest operation first. -/
def listIncomplete (db : Database) : List OperationRecord :=
  (db.operations.selectAll OperationRecord.incomplete).insertionSort
    fun r s => r.createdAtUnix ≤ s.createdAtUnix

end Database

/-- The result that recovery stores for a completed operation. -/
def recoveredResult (record : OperationRecord) : Value :=
  .dict [("outcome", .str "applied"), ("applied", .bool true),
    ("target_repo_path", .str record.targetRepoPath), ("patch_sha256", .str record.patchSha256),
    ("baseline_commit_sha", .str record.baselineCommitSha),
    ("approval_id", .str record.approvalId), ("artifact_id", .str record.artifactId),
    ("recovered", .bool true)]

/-- The transition that recovery applies to a stale operation, with and without evidence
that its patch was applied. -/
def recoveryTransition (record : OperationRecord) (hasApplyEvidence : Bool) : Database.Transition :=
  if hasApplyEvidence then Database.appliedTransition (recoveredResult record)
  else Database.failedTransition
    "Stale operation released because the trusted repository remained unmodified."

/-- What `inspect_repository_state` reports. -/
structure RepositoryState where
  head : String
  clean : Bool
deriving DecidableEq, Repr

/-- The trusted repository is clean at the baseline of the operation. -/
def RepositoryState.unmodified [UnicodeTables] (repository : RepositoryState)
    (record : OperationRecord) : Bool :=
  repository.head = lowerString record.baselineCommitSha ∧ repository.clean

end Rygnal.Operations
