import Rygnal.Approval.Agreement
import Rygnal.Cli.LocalReview
import Rygnal.Service.DecisionReplay

/-! # A shared approval authority

`shared_approval.go` against the approval service: the command line submits a decision, and
records it locally when the answer shows the very decision it asked for. After a lost answer the
repeated command finds the decision by inspection.
-/

namespace Rygnal.Service
open Rygnal.Core Rygnal.Core.PyException Rygnal.Library Rygnal.Library.PyText Rygnal.Security
  Rygnal.Approval Rygnal.Artifact Rygnal.ChangeRisk Rygnal.Cli

/-! ## The client -/

/-- `sharedApprovalView`: what the client reads of an answer, where a null is an empty text. -/
structure SharedApprovalView where
  approvalId : String
  status : String
  decisionStatus : String
  decidedBy : String
  decidedAt : String
  decisionReason : String
  expired : Bool
  patchSha256 : String
  baselineCommitSha : String
deriving DecidableEq, Repr

/-- `canonicalSharedDecision`. -/
def canonicalSharedDecision (view : SharedApprovalView) (requested : LocalDecisionRecord) :
    Except String SharedApprovalSyncResult := do
  refuseIf (view.decisionStatus ≠ requested.status)
    "shared approval decision details are inconsistent"
  refuseIf (view.decidedBy = "" ∨ view.decidedAt = "" ∨ view.decisionReason = "")
    "shared approval decision details are incomplete"
  refuseIf (view.decidedBy ≠ requested.decidedBy ∨ view.decisionReason ≠ requested.reason)
    "shared approval already has different decision details"
  return ⟨"shared_api", true, view.decidedAt, view.decidedBy, view.decisionReason⟩

/-- `validateSharedApprovalBinding`. -/
def validateSharedApprovalBinding (view : SharedApprovalView) (record : RunReviewRecord) :
    Except String Unit := do
  refuseIf (view.approvalId ≠ record.approval.approvalId)
    "shared approval identity does not match the local review record"
  refuseIf (view.patchSha256 ≠ record.patch.sha256)
    "shared approval patch digest does not match the local review record"
  refuseIf (view.baselineCommitSha ≠ record.baseline)
    "shared approval baseline does not match the local review record"

/-- `synchronizeSharedApprovalDecision` after its local checks; `inspected` and `decided` are the
answers to its two requests. -/
def sharedDecision (record : RunReviewRecord) (decision : LocalDecisionRecord)
    (inspected decided : Except String SharedApprovalView) :
    Except String SharedApprovalSyncResult := do
  let current ← inspected
  validateSharedApprovalBinding current record
  if current.status = decision.status then canonicalSharedDecision current decision
  else do
    refuseIf (current.status ≠ "pending")
      ("shared approval " ++ decision.approvalId ++ " is already " ++ current.status)
    refuseIf (decision.status = "approved" ∧ current.expired = true)
      "shared approval artifact is expired"
    let updated ← decided
    validateSharedApprovalBinding updated record
    refuseIf (updated.status ≠ decision.status)
      "shared approval API returned an unexpected decision state"
    canonicalSharedDecision updated decision

/-! ## The service -/

section Service
variable [UnicodeTables]

/-- `ApprovalArtifactView.to_dict` as the client decodes it: no key of the payload is sensitive,
so that each text is redacted on its own. -/
def SharedApprovalView.ofView (view : ApprovalArtifactView) : SharedApprovalView where
  approvalId := redactSensitiveString view.approvalId
  status := redactSensitiveString view.approvalStatus
  decisionStatus := (view.decisionStatus.map redactSensitiveString).getD ""
  decidedBy := (view.decidedBy.map redactSensitiveString).getD ""
  decidedAt := (view.decidedAt.map redactSensitiveString).getD ""
  decisionReason := (view.decisionReason.map redactSensitiveString).getD ""
  expired := view.artifactExpired
  patchSha256 := redactSensitiveString view.patchSha256
  baselineCommitSha := redactSensitiveString view.baselineCommitSha

example : ["approval", "approval_id", "status", "created_at", "requested_by", "severity", "reason",
    "decision", "decided_by", "decided_at", "artifact", "artifact_id", "state", "expired",
    "expires_at", "patch_sha256", "patch_size_bytes", "baseline_commit_sha",
    "changed_file_count"].any isSensitiveKey = false := rfl

variable [IsoDateTime] [Digest] [BytesDigest] [FloatText] [Conversions]

/-- `GET /v1/patch-approvals/{approval_id}`; `failure` is the client's text for an error. -/
def inspectAnswer (repoIdentity : String → String) (directory : Directory)
    (failure : PyException → String) (now : ℤ) (rows : ApprovalTable) (approvalId : String) :
    Except String SharedApprovalView :=
  match SQLiteApprovalQueue.get rows approvalId with
  | .error error => .error (failure (queueException error))
  | .ok queued =>
    match viewForQueued repoIdentity directory now queued with
    | .error exc => .error (failure exc)
    | .ok view => .ok (.ofView view)

end Service

/-! ## The local command -/

section Command
variable [GoEncoding]

/-- The local checks of a decision command pass, up to the shared authority. -/
structure Undecided (runs : RunDirectory) (runId : String) (opts : DecisionOptions)
    (record : RunReviewRecord) : Prop where
  missing : runs.decision = .missing
  found : findRunReviewRecord runs runId = .ok record
  confirmed : ¬(opts.status = "approved" ∧ (!opts.yes) = true)
  reasoned : ¬(opts.status = "rejected" ∧ Cli.trimSpace opts.reason = "")
  unapplied : ¬record.apply.isSome = true
  valid : ¬record.decisionInvalidReason ≠ ""
  undecided : ¬record.decision.isSome = true
  bound : validateReviewBindingForDecision record = .ok ()
  required : ¬(!record.approval.required) = true
  identified : ¬record.approval.approvalId = ""
  wellFormed : ¬(!isSharedApprovalId record.approval.approvalId) = true
  target : ¬record.approval.target ≠ record.patch.sha256

/-- The run has a synchronized decision record that matches the requested decision. -/
def MatchingRecord (runs : RunDirectory) (requested : LocalDecisionRecord) : Prop :=
  ∃ recorded, runs.decision = .written recorded ∧ recorded.authoritySynchronized = true ∧
    recorded.status = requested.status ∧ recorded.decidedBy = requested.decidedBy ∧
    recorded.reason = requested.reason

variable {runs : RunDirectory} {runId : String} {opts : DecisionOptions}
  {record : RunReviewRecord} {answers : DecisionAnswers}

theorem admitDecision_of_undecided (h : Undecided runs runId opts record)
    {answer : Except String SharedApprovalSyncResult}
    (hanswer : answers.sharedApproval = some answer) :
    admitDecision runs runId opts answers =
      answer.map (synchronizedDecision (decisionRecord record opts answers)) := by
  have hpass : ∀ {condition : Prop} [Decidable condition] {message : String}, ¬condition →
      refuseIf condition message = .ok () := fun hc => refuseIf_eq_ok.mpr hc
  have hsync : synchronizeSharedApprovalDecision record (decisionRecord record opts answers)
      (some answer) = answer := by
    unfold synchronizeSharedApprovalDecision
    rw [hpass h.required, hpass (show ¬(decisionRecord record opts answers).approvalId = "" from
      h.identified), hpass (show ¬(!isSharedApprovalId (decisionRecord record opts
        answers).approvalId) = true from h.wellFormed), hpass h.target]
    rfl
  unfold admitDecision
  rw [hpass h.confirmed, hpass h.reasoned, h.found, hanswer]
  change (do
    refuseIf record.apply.isSome _
    refuseIf (record.decisionInvalidReason ≠ "") _
    refuseIf record.decision.isSome _
    validateReviewBindingForDecision record
    let synchronization ← synchronizeSharedApprovalDecision record
      (decisionRecord record opts answers) (some answer)
    pure (synchronizedDecision (decisionRecord record opts answers) synchronization)) = _
  rw [hpass h.unapplied, hpass h.valid, hpass h.undecided, h.bound, hsync]
  cases answer <;> rfl

/-- The command leaves a matching record exactly when the authority's answer is the requested
decision. -/
theorem matchingRecord_iff (h : Undecided runs runId opts record)
    {answer : Except String SharedApprovalSyncResult}
    (hanswer : answers.sharedApproval = some answer)
    (hwritten : answers.recordWrite = .written)
    (hcanonical : ∀ sync, answer = .ok sync → sync.synchronized = true ∧
      sync.decidedBy = (decisionRecord record opts answers).decidedBy ∧
      sync.reason = (decisionRecord record opts answers).reason) :
    MatchingRecord (runDecisionCommand runs runId opts answers).1
      (decisionRecord record opts answers) ↔ ∃ sync, answer = .ok sync := by
  unfold runDecisionCommand
  rw [admitDecision_of_undecided h hanswer]
  cases answer with
  | error message =>
    constructor
    · rintro ⟨recorded, hrecorded, -⟩
      change runs.decision = .written recorded at hrecorded
      rw [h.missing] at hrecorded
      cases hrecorded
    · rintro ⟨sync, hsync⟩
      cases hsync
  | ok sync =>
    refine ⟨fun _ => ⟨sync, rfl⟩, fun _ => ?_⟩
    obtain ⟨hsynchronized, hby, hreason⟩ := hcanonical sync rfl
    refine ⟨synchronizedDecision (decisionRecord record opts answers) sync, ?_, hsynchronized, rfl,
      ?_, ?_⟩
    · simp only [Except.map, writeLocalDecisionRecord, h.missing, if_true, hwritten,
        WriteOutcome.file]
    · simp only [synchronizedDecision, hby]
      split <;> rfl
    · simp only [synchronizedDecision, hreason]
      split <;> rfl

end Command

/-! ## The repeated command -/

/-- Redaction, made when the decision is built, when it is stored and when it is shown, leaves the
requested texts, and the texts that bind the answer to the run. -/
structure KeptForClient [UnicodeTables] (record : RunReviewRecord) (decidedBy reason : String) :
    Prop where
  decidedBy : redactSensitiveString (redactSensitiveString decidedBy) = decidedBy
  reason : redactSensitiveString (redactSensitiveString (redactSensitiveString reason)) = reason
  approvalId : redactSensitiveString record.approval.approvalId = record.approval.approvalId
  patch : redactSensitiveString record.patch.sha256 = record.patch.sha256
  baseline : redactSensitiveString record.baseline = record.baseline

theorem canonicalSharedDecision_eq_ok {view : SharedApprovalView} {requested : LocalDecisionRecord}
    {sync : SharedApprovalSyncResult} :
    canonicalSharedDecision view requested = .ok sync ↔
      view.decisionStatus = requested.status ∧
      (view.decidedBy ≠ "" ∧ view.decidedAt ≠ "" ∧ view.decisionReason ≠ "") ∧
      (view.decidedBy = requested.decidedBy ∧ view.decisionReason = requested.reason) ∧
      sync = ⟨"shared_api", true, view.decidedAt, view.decidedBy, view.decisionReason⟩ := by
  unfold canonicalSharedDecision
  simp only [bind_eq_ok, refuseIf_eq_ok, pure, Except.pure, Except.ok.injEq, exists_const, not_or,
    ne_eq, not_not]
  constructor
  · rintro ⟨hstatus, hfull, hsame, hsync⟩
    exact ⟨hstatus, hfull, hsame, hsync.symm⟩
  · rintro ⟨hstatus, hfull, hsame, hsync⟩
    exact ⟨hstatus, hfull, hsame, hsync.symm⟩

theorem validateSharedApprovalBinding_eq_ok {view : SharedApprovalView} {record : RunReviewRecord}
    {u : Unit} : validateSharedApprovalBinding view record = .ok u ↔
      view.approvalId = record.approval.approvalId ∧ view.patchSha256 = record.patch.sha256 ∧
        view.baselineCommitSha = record.baseline := by
  unfold validateSharedApprovalBinding
  simp only [bind_eq_ok, refuseIf_eq_ok, exists_const, ne_eq, not_not]

/-- An inspected decision of the requested status is compared at once. -/
theorem sharedDecision_of_decided {record : RunReviewRecord} {decision : LocalDecisionRecord}
    {view : SharedApprovalView} (hstatus : view.status = decision.status)
    (decided : Except String SharedApprovalView) {sync : SharedApprovalSyncResult} :
    sharedDecision record decision (.ok view) decided = .ok sync ↔
      validateSharedApprovalBinding view record = .ok () ∧
        canonicalSharedDecision view decision = .ok sync := by
  unfold sharedDecision
  simp only [bind_eq_ok, Except.ok.injEq, exists_eq_left', hstatus, if_true]
  exact ⟨fun ⟨_, h⟩ => h, fun h => ⟨(), h⟩⟩

section Repeated
variable [UnicodeTables] [IsoDateTime] [Digest] [BytesDigest] [FloatText] [Conversions]
  [GoEncoding]

omit [UnicodeTables] [IsoDateTime] [Digest] [BytesDigest] [FloatText] [Conversions] [GoEncoding] in
theorem get_of_selectRow {rows : ApprovalTable} (hunique : Table.Unique ApprovalRow.approvalId rows)
    (hkeyed : ∀ row ∈ rows, row.request.approvalId = row.approvalId) {approvalId : String}
    {row : ApprovalRow} (h : SQLiteApprovalQueue.selectRow rows approvalId = some row) :
    SQLiteApprovalQueue.get rows approvalId = .ok row.item := by
  unfold SQLiteApprovalQueue.get InMemoryApprovalQueue.get SQLiteApprovalQueue.loadItems
  rw [get_foldl_set hunique hkeyed, h]
  rfl

omit [GoEncoding] in
/-- What an inspection shows of a recorded decision. -/
theorem shown_of_recorded {approved : Bool} {engine : ApprovalAuthorizationEngine}
    {repoIdentity : String → String} {directory : Directory} {rows rows' later : ApprovalTable}
    {call : DecisionCall} {first : ApprovalDecision} {updated : QueuedApproval}
    (hunique : Table.Unique ApprovalRow.approvalId rows) {row : ApprovalRow}
    (hrow : SQLiteApprovalQueue.selectRow rows call.approvalId = some row)
    (hpending : row.status = .pending)
    (hprepared : preparedDecision repoIdentity directory rows call (!approved) (!approved)
      (buildDecision approved call) = .ok first)
    (hrecord : SQLiteApprovalQueue.recordDecision engine rows call.approvalId first =
      .ok (updated, rows'))
    (hlater : Table.Unique ApprovalRow.approvalId later)
    (hkeyed : ∀ row ∈ later, row.request.approvalId = row.approvalId)
    (hstays : SQLiteApprovalQueue.selectRow later call.approvalId =
      SQLiteApprovalQueue.selectRow rows' call.approvalId)
    {queued : QueuedApproval} (hqueued : SQLiteApprovalQueue.get later call.approvalId = .ok queued)
    {now : ℤ} {view : ApprovalArtifactView}
    (hview : viewForQueued repoIdentity directory now queued = .ok view) :
    view.approvalId = call.approvalId ∧
      view.approvalStatus = (if approved then "approved" else "rejected") ∧
      view.decisionStatus = some (if approved then "approved" else "rejected") ∧
      view.decidedBy = some (redactSensitiveString call.decidedBy) ∧
      view.decidedAt = some (redactSensitiveString call.clock.decided.text) ∧
      view.decisionReason = some (redactSensitiveString (redactSensitiveString call.reason)) := by
  have ⟨request, artifact, _, _, hbuild⟩ := preparedDecision_eq_ok.mp hprepared
  have ⟨_, hash, hhash, _, hdecision⟩ := buildDecision_eq_ok.mp hbuild
  have ⟨_, _, hs, _, hrow'⟩ := recordDecision_first hunique hrow hpending hrecord
  rw [hrow'] at hstays
  have hitem := get_of_selectRow hlater hkeyed hstays
  rw [hqueued, Except.ok.injEq] at hitem
  have ⟨hmem, hkey⟩ := SQLiteApprovalQueue.selectRow_mem hstays
  have hid := (hkeyed _ hmem).trans hkey
  have ⟨artifact', _, hview⟩ := bind_eq_ok.mp hview
  have ⟨patchDiff, _, hview⟩ := bind_eq_ok.mp hview
  have ⟨expires, _, hview⟩ := bind_eq_ok.mp hview
  rw [← Except.ok.inj hview, hitem]
  have hstatus : first.status.value = if approved then "approved" else "rejected" := by
    rw [hdecision, ← hhash]
    cases hash <;> rfl
  refine ⟨hid, hstatus, congrArg some hstatus, ?_, ?_, ?_⟩
  · change first.decidedBy.map redactSensitiveString = _
    rw [hdecision]
    rfl
  · change first.decidedAt.map redactSensitiveString = _
    rw [hdecision]
    rfl
  · change some (redactSensitiveString first.reason) = _
    rw [hdecision]
    rfl

end Repeated

/-! ## A rejected run -/

namespace SharedRejection
open Sample Rygnal.Artifact.Sample PyText.Ascii

/-- The digest of the one patch. -/
@[reducible]
def encoding : GoEncoding :=
  ⟨fun _ => "4a99557e4033c3539de2eb65472017cad5f9557f7a0625a09f1c3f6e2ba69c4c", fun _ => "", id⟩

def record : RunReviewRecord where
  runId := "run_1"
  requestId := "run_1"
  status := "approval_required"
  baseline := "4b825dc642cb6eb9a060e54bf8d69288fbee4904"
  patch := ⟨true, "4a99557e4033c3539de2eb65472017cad5f9557f7a0625a09f1c3f6e2ba69c4c", ""⟩
  approval := ⟨true, "apr_7d1f", "4a99557e4033c3539de2eb65472017cad5f9557f7a0625a09f1c3f6e2ba69c4c"⟩
  patchDigest := "4a99557e4033c3539de2eb65472017cad5f9557f7a0625a09f1c3f6e2ba69c4c"
  apply := none
  decision := none
  decisionInvalidReason := ""

def runs : RunDirectory where
  path := "runs/run_1"
  summary := some record
  patch := some "diff"
  decision := .missing
  applyRecord := .missing

def opts (reason : String) : DecisionOptions := ⟨false, reason, "lead-1", "rejected"⟩

def call (reason : String) : DecisionCall := { decisionCall "lead-1" with reason := reason }

/-- The rows after the service recorded the rejection. -/
def recordedRows (reason : String) : ApprovalTable :=
  (decideRows false submitted (call reason)).2

/-- The command that is repeated later: the answer of the first one was lost. -/
def answers (reason : String) : DecisionAnswers where
  actor := "lead-1"
  now := "2026-01-01T00:30:00Z"
  version := "1.0.0"
  sharedApproval := some (sharedDecision record
    (decisionRecord record (opts reason) ⟨"lead-1", "2026-01-01T00:30:00Z", "1.0.0", none, .written,
      .ok ()⟩)
    (inspectAnswer (fun _ => "identity") artifacts (fun _ => "") 1767225600000000
      (recordedRows reason) "apr_7d1f") (.error ""))
  recordWrite := .written
  auditAppend := .ok ()

theorem undecided : @Undecided encoding runs "run_1" (opts "reviewed.") record :=
  @Undecided.mk encoding _ _ _ _ rfl rfl (by decide +kernel) (by decide +kernel) (by decide)
    (by decide) (by decide) (by decide +kernel) (by decide) (by decide) (by decide +kernel)
    (by decide)

theorem kept : KeptForClient record "lead-1" "reviewed." := by
  have hreason : redactSensitiveString "reviewed." = "reviewed." :=
    redactSensitiveString_of_plain (by decide +kernel)
  have hby : redactSensitiveString "lead-1" = "lead-1" :=
    redactSensitiveString_of_plain (by decide +kernel)
  constructor
  · rw [hby, hby]
  · rw [hreason, hreason, hreason]
  · exact redactSensitiveString_of_plain (by decide +kernel)
  · exact redactSensitiveString_of_plain (by decide +kernel)
  · exact redactSensitiveString_of_plain (by decide +kernel)

end SharedRejection

end Rygnal.Service
