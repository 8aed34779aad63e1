import Rygnal.Core.Exceptions
import Rygnal.Core.Value
import Rygnal.Library.PyText

/-! # The local review store

`internal/cli/local_review.go` and `decision.go`: the directory in which a run is persisted, the
record that is read back from it, and the decision that `rygnal approve` and `rygnal reject`
write there. A file that was cut off while it was written no longer decodes.
-/

namespace Rygnal.Cli
open Rygnal.Core Rygnal.Library

/-! ## Go errors and texts -/

/-- `if condition { return fmt.Errorf(message) }`. -/
def refuseIf (condition : Prop) [Decidable condition] (message : String) : Except String Unit :=
  if condition then .error message else .ok ()

@[simp] theorem refuseIf_eq_ok {condition : Prop} [Decidable condition] {message : String}
    {u : Unit} : refuseIf condition message = .ok u ↔ ¬ condition := by
  rw [refuseIf]
  split <;> simp_all

/-- `unicode.IsSpace`. -/
def isSpace (c : Char) : Bool :=
  (0x09 ≤ c.toNat && c.toNat ≤ 0x0D) || c.toNat == 0x20 || c.toNat == 0x85 || c.toNat == 0xA0 ||
    c.toNat == 0x1680 || (0x2000 ≤ c.toNat && c.toNat ≤ 0x200A) || c.toNat == 0x2028 ||
    c.toNat == 0x2029 || c.toNat == 0x202F || c.toNat == 0x205F || c.toNat == 0x3000

/-- `strings.TrimSpace`. -/
def trimSpace (text : String) : String :=
  String.ofList ((text.toList.rdropWhile isSpace).dropWhile isSpace)

/-- `shortValue`. -/
def shortValue (value : String) (maxLen : ℕ) : String := String.ofList (value.toList.take maxLen)

def valueOrDash (value : String) : String := if value = "" then "-" else value

/-- `sha256Hex`, `json.Marshal` of a structure, given by its fields, and the verb `%q`. -/
class GoEncoding where
  sha256Hex : String → String
  marshal : Dict → String
  quote : String → String

/-! ## Records -/

structure PatchInfo where
  generated : Bool
  sha256 : String
  raw : String
deriving DecidableEq, Repr

structure ApprovalInfo where
  required : Bool
  approvalId : String
  target : String
deriving DecidableEq, Repr

/-- The fields of `RunCompletedData` that the review commands read. -/
structure RunCompletedData where
  status : String
  runId : String
  baselineCommitSha : String
  patch : PatchInfo
  approval : ApprovalInfo
deriving DecidableEq, Repr

structure LocalDecisionRecord where
  schema : String
  runId : String
  approvalId : String
  status : String
  decidedAt : String
  decidedBy : String
  reason : String
  patchSha256 : String
  baselineCommitSha : String
  engineProtocolVersion : String
  rygnalVersion : String
  authority : String
  authoritySynchronized : Bool
  receiptSha256 : String
deriving DecidableEq, Repr

structure LocalApplyRecord where
  artifactSchema : String
  runId : String
  status : String
  patchSha256 : String
  baselineCommitSha : String
  appliedFromHead : String
  appliedAt : String
  appliedWith : String
  staged : Bool
deriving DecidableEq, Repr

structure RunReviewRecord where
  runId : String
  requestId : String
  status : String
  baseline : String
  patch : PatchInfo
  approval : ApprovalInfo
  patchDigest : String
  apply : Option LocalApplyRecord
  decision : Option LocalDecisionRecord
  decisionInvalidReason : String
deriving DecidableEq, Repr

/-! ## Files -/

/-- A JSON file of a run directory; `torn` holds the decoder's error. -/
inductive RecordFile (α : Type) where
  | missing
  | torn (error : String)
  | written (record : α)
deriving DecidableEq, Repr

/-- What a failed write leaves at a path where no file was. -/
inductive Leftover where
  | nothing
  | torn (error : String)
  | whole
deriving DecidableEq, Repr

inductive WriteOutcome where
  | written
  | failed (left : Leftover) (error : String)
deriving DecidableEq, Repr

/-- The file after a write to a new path. -/
def WriteOutcome.file {α : Type} (record : α) : WriteOutcome → RecordFile α
  | .written => .written record
  | .failed .nothing _ => .missing
  | .failed (.torn error) _ => .torn error
  | .failed .whole _ => .written record

def WriteOutcome.result (message : String) : WriteOutcome → Except String Unit
  | .written => .ok ()
  | .failed _ error => .error (message ++ ": " ++ error)

structure RunDirectory where
  path : String
  summary : Option RunReviewRecord
  patch : Option String
  decision : RecordFile LocalDecisionRecord
  applyRecord : RecordFile LocalApplyRecord
deriving DecidableEq, Repr

section Persist
variable [GoEncoding]

/-- The run identity of `persistRunReviewArtifactLocked`. -/
def persistedRunId (data : RunCompletedData) (requestId eventRequestId : String) : String :=
  if data.runId ≠ "" then data.runId else if requestId ≠ "" then requestId else eventRequestId

/-- The patch is written when one was generated and its text was returned. -/
def persistedPatch (data : RunCompletedData) : Option String :=
  if data.patch.generated ∧ data.patch.raw ≠ "" then some data.patch.raw else none

/-- The summary that `persistRunReviewArtifactLocked` writes. -/
def persistedRecord (data : RunCompletedData) (requestId eventRequestId : String) :
    RunReviewRecord where
  runId := persistedRunId data requestId eventRequestId
  requestId := eventRequestId
  status := data.status
  baseline := data.baselineCommitSha
  patch := { data.patch with raw := "" }
  approval := data.approval
  patchDigest := ((persistedPatch data).map GoEncoding.sha256Hex).getD ""
  apply := none
  decision := none
  decisionInvalidReason := ""

/-- `persistRunReviewArtifactLocked` into a new directory. -/
def persistRunReviewArtifact (path : String) (data : RunCompletedData)
    (requestId eventRequestId : String) : RunDirectory :=
  ⟨path, some (persistedRecord data requestId eventRequestId), persistedPatch data, .missing,
    .missing⟩

end Persist

/-- One directory in `listRunReviewRecords`. -/
def readRun (directory : RunDirectory) : Option RunReviewRecord :=
  directory.summary.map fun record =>
    { record with
      apply := match directory.applyRecord with
        | .written applied => some applied
        | _ => record.apply
      decision := match directory.decision with
        | .written decision => some decision
        | _ => record.decision
      decisionInvalidReason := match directory.decision with
        | .torn error => "decode decision record " ++ directory.path ++ "/decision.json: " ++ error
        | _ => record.decisionInvalidReason }

/-- `findRunReviewRecord` for a run identity that names this run. -/
def findRunReviewRecord [GoEncoding] (directory : RunDirectory) (runId : String) :
    Except String RunReviewRecord :=
  match readRun directory with
  | none => .error ("run " ++ GoEncoding.quote runId ++ " not found")
  | some record => .ok record

/-! ## Decisions -/

def protocolVersion : String := "rygnal.engine.v1"

def localDecisionSchemaV1 : String := "rygnal.local_decision.v1"

def localDecisionSchema : String := "rygnal.local_decision.v2"

structure DecisionOptions where
  yes : Bool
  reason : String
  decidedBy : String
  status : String
deriving DecidableEq, Repr

structure SharedApprovalSyncResult where
  authority : String
  synchronized : Bool
  decidedAt : String
  decidedBy : String
  reason : String
deriving DecidableEq, Repr

/-- What the surroundings answer to a decision command. `sharedApproval` is the answer of the
approval API, when one is configured. -/
structure DecisionAnswers where
  actor : String
  now : String
  version : String
  sharedApproval : Option (Except String SharedApprovalSyncResult)
  recordWrite : WriteOutcome
  auditAppend : Except String Unit
deriving DecidableEq

/-- `validateReviewBindingForDecision`. -/
def validateReviewBindingForDecision (record : RunReviewRecord) : Except String Unit := do
  refuseIf (record.patch.sha256 = "")
    ("run " ++ record.runId ++ " has no patch digest to bind a decision to")
  refuseIf (record.baseline = "")
    ("run " ++ record.runId ++ " has no baseline commit to bind a decision to")
  if record.approval.required then do
    refuseIf (record.approval.approvalId = "")
      ("run " ++ record.runId ++ " is missing the Python approval identity")
    refuseIf (record.approval.target = "")
      ("run " ++ record.runId ++ " is missing the approval target digest")
    refuseIf (record.approval.target ≠ record.patch.sha256)
      ("approval target does not match review patch digest for run " ++ record.runId)
  else .ok ()

/-- `sharedApprovalIDPattern`. -/
def isSharedApprovalId (approvalId : String) : Bool :=
  match approvalId.toList with
  | [] => false
  | c :: cs => c.isAlphanum && cs.length ≤ 127 &&
      cs.all fun d => d.isAlphanum || d ∈ ['.', '_', ':', '-']

/-- `synchronizeSharedApprovalDecision`. -/
def synchronizeSharedApprovalDecision (record : RunReviewRecord) (decision : LocalDecisionRecord)
    (sharedApproval : Option (Except String SharedApprovalSyncResult)) :
    Except String SharedApprovalSyncResult :=
  match sharedApproval with
  | none => .ok ⟨"local", false, "", "", ""⟩
  | some answer => do
    refuseIf (!record.approval.required)
      ("shared approval authority is configured, but run " ++ record.runId ++
        " has no approval requirement")
    refuseIf (decision.approvalId = "")
      ("run " ++ record.runId ++ " is missing the Python approval identity")
    refuseIf (!isSharedApprovalId decision.approvalId) "shared approval identity is invalid"
    refuseIf (record.approval.target ≠ record.patch.sha256)
      ("approval target does not match review patch digest for run " ++ record.runId)
    answer

section Decisions
variable [GoEncoding]

/-- `calculateLocalDecisionReceipt`. -/
def calculateLocalDecisionReceipt (decision : LocalDecisionRecord) : String :=
  GoEncoding.sha256Hex (GoEncoding.marshal
    [("schema", .str decision.schema), ("run_id", .str decision.runId),
      ("approval_id", .str decision.approvalId), ("status", .str decision.status),
      ("decided_at", .str decision.decidedAt), ("decided_by", .str decision.decidedBy),
      ("reason", .str decision.reason), ("patch_sha256", .str decision.patchSha256),
      ("baseline_commit_sha", .str decision.baselineCommitSha),
      ("engine_protocol_version", .str decision.engineProtocolVersion),
      ("rygnal_version", .str decision.rygnalVersion), ("authority", .str decision.authority),
      ("authority_synchronized", .bool decision.authoritySynchronized)])

/-- The part of `validateDecisionRecordForRun` after the check of the first schema. -/
def validateDecisionAuthority (record : RunReviewRecord) (decision : LocalDecisionRecord) :
    Except String Unit := do
  refuseIf (decision.engineProtocolVersion ≠ protocolVersion)
    ("decision record for run " ++ record.runId ++ " has unsupported engine protocol " ++
      GoEncoding.quote decision.engineProtocolVersion)
  refuseIf (decision.rygnalVersion = "")
    ("decision record for run " ++ record.runId ++ " is missing Rygnal version")
  refuseIf (record.approval.required ∧ decision.approvalId = "")
    ("decision record for run " ++ record.runId ++ " is missing approval identity")
  refuseIf (record.approval.required ∧ decision.approvalId ≠ record.approval.approvalId)
    ("decision approval identity does not match review approval for run " ++ record.runId)
  if decision.authority = "local" then
    refuseIf decision.authoritySynchronized
      ("local decision for run " ++ record.runId ++ " cannot claim shared synchronization")
  else if decision.authority = "shared_api" then do
    refuseIf (!record.approval.required)
      ("shared decision for run " ++ record.runId ++ " has no approval requirement")
    refuseIf (!decision.authoritySynchronized)
      ("shared decision for run " ++ record.runId ++ " is not synchronized")
  else .error ("decision record for run " ++ record.runId ++ " has unsupported authority " ++
    GoEncoding.quote decision.authority)
  refuseIf (decision.receiptSha256 = "")
    ("decision record for run " ++ record.runId ++ " is missing receipt digest")
  refuseIf (decision.receiptSha256 ≠ calculateLocalDecisionReceipt decision)
    ("decision receipt digest does not match record contents for run " ++ record.runId)

/-- `validateDecisionRecordForRun`. -/
def validateDecisionRecordForRun (record : RunReviewRecord) : Except String Unit := do
  refuseIf (record.decisionInvalidReason ≠ "")
    ("decision record for run " ++ record.runId ++ " is invalid or corrupt: " ++
      record.decisionInvalidReason)
  match record.decision with
  | none => .ok ()
  | some decision => do
    refuseIf (decision.schema ≠ localDecisionSchema ∧ decision.schema ≠ localDecisionSchemaV1)
      ("decision record for run " ++ record.runId ++ " has unsupported schema " ++
        GoEncoding.quote decision.schema)
    refuseIf (decision.runId ≠ record.runId)
      ("decision record run_id " ++ GoEncoding.quote decision.runId ++
        " does not match requested run " ++ record.runId)
    refuseIf (decision.status ≠ "approved" ∧ decision.status ≠ "rejected")
      ("decision record for run " ++ record.runId ++ " has unsupported status " ++
        GoEncoding.quote decision.status)
    refuseIf (decision.patchSha256 = "")
      ("decision record for run " ++ record.runId ++ " is missing patch digest")
    refuseIf (record.patch.sha256 ≠ "" ∧ decision.patchSha256 ≠ record.patch.sha256)
      ("decision patch digest does not match review patch digest for run " ++ record.runId)
    refuseIf (decision.baselineCommitSha = "")
      ("decision record for run " ++ record.runId ++ " is missing baseline commit")
    refuseIf (record.baseline ≠ "" ∧ decision.baselineCommitSha ≠ record.baseline)
      ("decision baseline does not match review baseline for run " ++ record.runId)
    if decision.schema = localDecisionSchemaV1 then .ok ()
    else validateDecisionAuthority record decision

/-- `decisionStatus`. -/
def decisionStatus (record : RunReviewRecord) : String :=
  if record.decisionInvalidReason ≠ "" then "invalid"
  else match record.decision with
    | none => "undecided"
    | some decision =>
      match validateDecisionRecordForRun record with
      | .error _ => "invalid"
      | .ok () => decision.status

/-- The decision that `runDecisionCommandLocked` builds, with the canonical values of a shared
decision where there are any. -/
def decisionRecord (record : RunReviewRecord) (opts : DecisionOptions) (answers : DecisionAnswers) :
    LocalDecisionRecord where
  schema := localDecisionSchema
  runId := record.runId
  approvalId := record.approval.approvalId
  status := opts.status
  decidedAt := answers.now
  decidedBy := if trimSpace opts.decidedBy = "" then answers.actor else trimSpace opts.decidedBy
  reason := trimSpace opts.reason
  patchSha256 := record.patch.sha256
  baselineCommitSha := record.baseline
  engineProtocolVersion := protocolVersion
  rygnalVersion := answers.version
  authority := ""
  authoritySynchronized := false
  receiptSha256 := ""

def synchronizedDecision (decision : LocalDecisionRecord)
    (synchronization : SharedApprovalSyncResult) : LocalDecisionRecord :=
  let canonical := { decision with
    authority := synchronization.authority
    authoritySynchronized := synchronization.synchronized
    decidedAt := if synchronization.decidedAt ≠ "" then synchronization.decidedAt
      else decision.decidedAt
    decidedBy := if synchronization.decidedBy ≠ "" then synchronization.decidedBy
      else decision.decidedBy
    reason := if synchronization.reason ≠ "" then synchronization.reason else decision.reason }
  { canonical with receiptSha256 := calculateLocalDecisionReceipt canonical }

/-- The checks of `runDecisionCommandLocked` before the decision record is written. -/
def admitDecision (directory : RunDirectory) (runId : String) (opts : DecisionOptions)
    (answers : DecisionAnswers) : Except String LocalDecisionRecord := do
  refuseIf (opts.status = "approved" ∧ !opts.yes)
    "refusing to approve without explicit --yes confirmation"
  refuseIf (opts.status = "rejected" ∧ trimSpace opts.reason = "") "reject requires --reason"
  let record ← findRunReviewRecord directory runId
  refuseIf record.apply.isSome
    ("run " ++ record.runId ++ " was already applied; refusing to change approval decision")
  refuseIf (record.decisionInvalidReason ≠ "")
    ("run " ++ record.runId ++ " has invalid decision state: " ++ record.decisionInvalidReason)
  refuseIf record.decision.isSome
    ("run " ++ record.runId ++ " already has a decision: " ++ decisionStatus record)
  validateReviewBindingForDecision record
  let decision := decisionRecord record opts answers
  let synchronization ← synchronizeSharedApprovalDecision record decision answers.sharedApproval
  return synchronizedDecision decision synchronization

/-- `writeLocalDecisionRecord`: the record is created exclusively. -/
def writeLocalDecisionRecord (directory : RunDirectory) (decision : LocalDecisionRecord)
    (outcome : WriteOutcome) : RunDirectory × Except String Unit :=
  if directory.decision = .missing then
    ({ directory with decision := outcome.file decision }, outcome.result "write decision record")
  else (directory, .error "decision record already exists")

/-- `runDecisionCommandLocked`. -/
def runDecisionCommand (directory : RunDirectory) (runId : String) (opts : DecisionOptions)
    (answers : DecisionAnswers) : RunDirectory × Except String Unit :=
  match admitDecision directory runId opts answers with
  | .error message => (directory, .error message)
  | .ok decision =>
    let (directory, result) := writeLocalDecisionRecord directory decision answers.recordWrite
    (directory, do
      result
      answers.auditAppend)

end Decisions

end Rygnal.Cli
