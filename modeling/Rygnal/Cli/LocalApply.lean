import Rygnal.Cli.LocalReview
import Rygnal.Library.Transition

/-! # Applying a reviewed run

`internal/cli/apply.go` and `assertDecisionAllowsApply`: `rygnal apply` on the directory of a run.
The trusted repository answers each command anew, so anything may happen to it in between. The
saved diff is applied first and recorded afterwards, and no check reads the status of the run.
-/

namespace Rygnal.Cli
open Rygnal.Core Rygnal.Library Transition

section Apply
variable [GoEncoding]

/-! ## The command -/

/-- `assertDecisionAllowsApply`. -/
def assertDecisionAllowsApply (record : RunReviewRecord) : Except String Unit := do
  validateDecisionRecordForRun record
  match record.decision with
  | none =>
    refuseIf record.approval.required
      ("run " ++ record.runId ++ " requires approval before apply; run `rygnal approve " ++
        record.runId ++ " --yes` or `rygnal reject " ++ record.runId ++ " --reason ...`")
  | some decision => do
    refuseIf (decision.status = "rejected")
      ("run " ++ record.runId ++ " was rejected: " ++ valueOrDash decision.reason)
    refuseIf (record.approval.required ∧ decision.status ≠ "approved")
      ("run " ++ record.runId ++ " requires an approved decision before apply; current decision: " ++
        decision.status)

/-- `assertPatchDigestMatches`. -/
def assertPatchDigestMatches (record : RunReviewRecord) (patch : String) : Except String Unit := do
  let actual := GoEncoding.sha256Hex patch
  refuseIf (record.patch.sha256 ≠ "" ∧ actual ≠ record.patch.sha256)
    ("review diff digest mismatch: expected " ++ shortValue record.patch.sha256 12 ++ ", got " ++
      shortValue actual 12)
  refuseIf (record.patchDigest ≠ "" ∧ actual ≠ record.patchDigest)
    ("review artifact digest mismatch: expected " ++ shortValue record.patchDigest 12 ++ ", got " ++
      shortValue actual 12)

/-- What the trusted repository and the file system answer to an apply command. -/
structure ApplyAnswers where
  applyRecordStat : Option String
  head : Except String String
  status : Except String String
  checkApply : Except String Unit
  gitApply : Except String Unit
  now : String
  recordWrite : WriteOutcome
deriving DecidableEq

/-- A patch that `git apply --index` accepted, with the record that was read for it. -/
structure Application where
  record : RunReviewRecord
  patch : String
  head : String
deriving DecidableEq, Repr

/-- `os.Stat` of the apply record; it may fail for another reason. -/
def checkApplyRecord (directory : RunDirectory) (record : RunReviewRecord)
    (answers : ApplyAnswers) : Except String Unit :=
  match answers.applyRecordStat with
  | some error => .error ("check apply record: " ++ error)
  | none => refuseIf (directory.applyRecord ≠ .missing)
      ("run " ++ record.runId ++ " was already applied; refusing to apply twice")

/-- `runApplyLocked` up to the second `git apply`. -/
def admitApply (directory : RunDirectory) (runId : String) (yes : Bool) (answers : ApplyAnswers) :
    Except String Application := do
  refuseIf (!yes) "refusing to apply without explicit --yes confirmation"
  let record ← findRunReviewRecord directory runId
  assertDecisionAllowsApply record
  match directory.patch with
  | none => .error ("no reviewable diff artifact found for run " ++ record.runId)
  | some patch => do
    refuseIf (trimSpace patch = "") ("review diff for run " ++ record.runId ++ " is empty")
    assertPatchDigestMatches record patch
    checkApplyRecord directory record answers
    let currentHead ← answers.head
    refuseIf (record.baseline ≠ "" ∧ currentHead ≠ record.baseline)
      ("saved diff was generated from baseline " ++ shortValue record.baseline 12 ++
        ", but current HEAD is " ++ shortValue currentHead 12)
    let status ← answers.status
    refuseIf (trimSpace status ≠ "")
      "working tree is not clean; apply requires a clean repository"
    answers.checkApply.mapError fun error => "saved diff does not apply cleanly: " ++ error
    answers.gitApply.mapError fun error => "apply saved diff: " ++ error
    return ⟨record, patch, currentHead⟩

/-- The record of an application. -/
def applyRecordOf (application : Application) (now : String) : LocalApplyRecord :=
  ⟨"rygnal.local_apply.v1", application.record.runId, "applied", application.record.patch.sha256,
    application.record.baseline, application.head, now, "git apply --index -", true⟩

/-- `os.WriteFile` of the apply record. -/
def writeApplyRecord (directory : RunDirectory) (application : Application)
    (answers : ApplyAnswers) : RunDirectory :=
  { directory with
    applyRecord := answers.recordWrite.file (applyRecordOf application answers.now) }

/-! ## Runs of commands -/

/-- The directory of a run and every application of its patch, the last one first. -/
structure LocalRun where
  directory : RunDirectory
  applied : List Application
deriving DecidableEq

inductive Command where
  | decide (runId : String) (opts : DecisionOptions) (answers : DecisionAnswers)
  | apply (runId : String) (yes : Bool) (answers : ApplyAnswers)

/-- `runApplyLocked`. -/
def runApply (run : LocalRun) (runId : String) (yes : Bool) (answers : ApplyAnswers) :
    LocalRun × Except String Unit :=
  match admitApply run.directory runId yes answers with
  | .error message => (run, .error message)
  | .ok application =>
    (⟨writeApplyRecord run.directory application answers, application :: run.applied⟩,
      answers.recordWrite.result "write apply record")

def commandStep (run : LocalRun) : Command → Option LocalRun
  | .decide runId opts answers =>
    some { run with directory := (runDecisionCommand run.directory runId opts answers).1 }
  | .apply runId yes answers => some (runApply run runId yes answers).1

/-- A run just after it was persisted. -/
def persistedRun (path : String) (data : RunCompletedData) (requestId eventRequestId : String) :
    LocalRun :=
  ⟨persistRunReviewArtifact path data requestId eventRequestId, []⟩

/-! ## What has to hold -/

/-- The statuses of runs whose changes may not be applied. -/
def refusedStatuses : List String := ["blocked", "command_failed", "timed_out"]

/-- A decision on the patch and the baseline of a persisted run. -/
structure Bound (data : RunCompletedData) (decision : LocalDecisionRecord) : Prop where
  digest : decision.patchSha256 = data.patch.sha256
  digest_ne : data.patch.sha256 ≠ ""
  baseline : decision.baselineCommitSha = data.baselineCommitSha
  baseline_ne : data.baselineCommitSha ≠ ""

/-- An application that the status and the approval of the run allow. -/
structure Permitted (data : RunCompletedData) (application : Application) : Prop where
  persisted : persistedPatch data = some application.patch
  status : data.status ∉ refusedStatuses
  approved : data.approval.required = true → ∃ decision,
    application.record.decision = some decision ∧ decision.status = "approved" ∧
      validateDecisionRecordForRun application.record = .ok () ∧ Bound data decision ∧
      GoEncoding.sha256Hex application.patch = data.patch.sha256
  notRejected : ∀ decision, application.record.decision = some decision →
    decision.status ≠ "rejected"

/-- The command leaves a file at the path of the apply record if it gets to write it. -/
def RecordsApply : Command → Prop
  | .decide .. => True
  | .apply _ _ answers => ∀ error, answers.recordWrite ≠ .failed .nothing error

/-! ## What the checks establish -/

variable {directory : RunDirectory} {data : RunCompletedData} {requestId eventRequestId : String}
  {record : RunReviewRecord}

/-- A record that is read from the directory of a persisted run. -/
structure ReadBack (directory : RunDirectory) (data : RunCompletedData)
    (record : RunReviewRecord) : Prop where
  sha256 : record.patch.sha256 = data.patch.sha256
  baseline : record.baseline = data.baselineCommitSha
  approval : record.approval = data.approval
  decision : ∀ decision, record.decision = some decision ↔ directory.decision = .written decision

theorem readBack_of_read {runId : String}
    (hsummary : directory.summary = some (persistedRecord data requestId eventRequestId))
    (h : findRunReviewRecord directory runId = .ok record) : ReadBack directory data record := by
  rw [findRunReviewRecord, readRun, hsummary] at h
  obtain rfl := Except.ok.inj h
  refine ⟨rfl, rfl, rfl, ?_⟩
  intro decision
  cases directory.decision with
  | missing => simp [persistedRecord]
  | torn error => simp [persistedRecord]
  | written d => simp

/-- A decision that is admitted is bound to the persisted patch and baseline. -/
theorem bound_of_admitted {runId : String} {opts : DecisionOptions} {answers : DecisionAnswers}
    {decision : LocalDecisionRecord}
    (hsummary : directory.summary = some (persistedRecord data requestId eventRequestId))
    (h : admitDecision directory runId opts answers = .ok decision) : Bound data decision := by
  simp only [admitDecision, bind_eq_ok] at h
  obtain ⟨_, _, _, _, record, hrecord, _, _, _, _, _, _, _, hbinding, synchronization, _, hdecision⟩
    := h
  have hread := readBack_of_read hsummary hrecord
  simp only [validateReviewBindingForDecision, bind_eq_ok, refuseIf_eq_ok] at hbinding
  obtain ⟨_, hdigest, _, hbaseline, _⟩ := hbinding
  obtain rfl := Except.ok.inj hdecision
  exact ⟨hread.sha256, hread.sha256 ▸ hdigest, hread.baseline, hread.baseline ▸ hbaseline⟩

/-- What the checks of an apply command establish. -/
structure Admitted (directory : RunDirectory) (data : RunCompletedData)
    (application : Application) : Prop where
  read : ReadBack directory data application.record
  patch : directory.patch = some application.patch
  fresh : directory.applyRecord = .missing
  valid : validateDecisionRecordForRun application.record = .ok ()
  notRejected : ∀ decision, application.record.decision = some decision →
    decision.status ≠ "rejected"
  approved : application.record.approval.required = true → ∃ decision,
    application.record.decision = some decision ∧ decision.status = "approved"
  digest : application.record.patch.sha256 ≠ "" →
    GoEncoding.sha256Hex application.patch = application.record.patch.sha256

theorem assertDecisionAllowsApply_eq_ok (h : assertDecisionAllowsApply record = .ok ()) :
    validateDecisionRecordForRun record = .ok () ∧
      (∀ decision, record.decision = some decision → decision.status ≠ "rejected") ∧
      (record.approval.required = true → ∃ decision,
        record.decision = some decision ∧ decision.status = "approved") := by
  rw [assertDecisionAllowsApply, bind_eq_ok] at h
  obtain ⟨_, hvalid, hdecision⟩ := h
  apply And.intro hvalid
  cases hrecord : record.decision with
  | none =>
    rw [hrecord] at hdecision
    have hrequired := refuseIf_eq_ok.mp hdecision
    constructor
    · intro decision h
      nomatch h
    · intro h
      exact absurd h hrequired
  | some decision =>
    rw [hrecord] at hdecision
    simp only [bind_eq_ok, refuseIf_eq_ok] at hdecision
    obtain ⟨_, hrejected, happroved⟩ := hdecision
    constructor
    · intro other h
      exact Option.some.inj h ▸ hrejected
    · intro hrequired
      refine ⟨decision, rfl, ?_⟩
      by_contra hne
      exact happroved ⟨hrequired, hne⟩

theorem admitApply_eq_ok {runId : String} {yes : Bool} {answers : ApplyAnswers}
    {application : Application}
    (hsummary : directory.summary = some (persistedRecord data requestId eventRequestId))
    (h : admitApply directory runId yes answers = .ok application) :
    Admitted directory data application := by
  simp only [admitApply, bind_eq_ok] at h
  obtain ⟨_, _, record, hrecord, _, hallows, h⟩ := h
  obtain ⟨hvalid, hrejected, happroved⟩ := assertDecisionAllowsApply_eq_ok hallows
  cases hpatch : directory.patch with
  | none =>
    rw [hpatch] at h
    cases h
  | some patch =>
    rw [hpatch] at h
    simp only [bind_eq_ok] at h
    obtain ⟨_, _, _, hdigest, _, hstat, head, _, _, _, _, _, _, _, _, _, _, _, h⟩ := h
    obtain rfl := Except.ok.inj h
    simp only [assertPatchDigestMatches, bind_eq_ok, refuseIf_eq_ok] at hdigest
    obtain ⟨_, hsha, _⟩ := hdigest
    have hfresh : directory.applyRecord = .missing := by
      rw [checkApplyRecord] at hstat
      split at hstat
      · cases hstat
      · exact not_not.mp (refuseIf_eq_ok.mp hstat)
    refine ⟨readBack_of_read hsummary hrecord, hpatch, hfresh, hvalid, hrejected, happroved, ?_⟩
    intro hne
    by_contra hmismatch
    exact hsha ⟨hne, hmismatch⟩

/-! ## Every run -/

/-- What holds after every command of a persisted run. -/
structure Sound (data : RunCompletedData) (requestId eventRequestId : String) (run : LocalRun) :
    Prop where
  summary : run.directory.summary = some (persistedRecord data requestId eventRequestId)
  patch : run.directory.patch = persistedPatch data
  bound : ∀ decision, run.directory.decision = .written decision → Bound data decision
  recorded : run.applied ≠ [] → run.directory.applyRecord ≠ .missing
  once : run.applied.length ≤ 1
  permitted : ∀ application ∈ run.applied, Permitted data application

namespace Sound
variable {run : LocalRun}

theorem initial (path : String) (data : RunCompletedData) (requestId eventRequestId : String) :
    Sound data requestId eventRequestId (persistedRun path data requestId eventRequestId) where
  summary := rfl
  patch := rfl
  bound _ h := nomatch h
  recorded h := absurd rfl h
  once := Nat.zero_le 1
  permitted _ h := nomatch h

/-- A decision command only writes a bound decision. -/
theorem decide (h : Sound data requestId eventRequestId run) (runId : String)
    (opts : DecisionOptions) (answers : DecisionAnswers) :
    Sound data requestId eventRequestId
      { run with directory := (runDecisionCommand run.directory runId opts answers).1 } := by
  rw [runDecisionCommand]
  cases hadmission : admitDecision run.directory runId opts answers with
  | error message => exact h
  | ok decision =>
    change Sound _ _ _
      { run with directory := (writeLocalDecisionRecord run.directory decision _).1 }
    rw [writeLocalDecisionRecord]
    split
    · refine ⟨h.summary, h.patch, ?_, h.recorded, h.once, h.permitted⟩
      intro written hwritten
      have hdecision : written = decision := by
        change answers.recordWrite.file decision = .written written at hwritten
        cases houtcome : answers.recordWrite with
        | written =>
          rw [houtcome] at hwritten
          exact (RecordFile.written.inj hwritten).symm
        | failed left error =>
          rw [houtcome] at hwritten
          cases left with
          | nothing => nomatch hwritten
          | torn error => nomatch hwritten
          | whole => exact (RecordFile.written.inj hwritten).symm
      exact hdecision ▸ bound_of_admitted h.summary hadmission
    · exact h

theorem permitted_of_admitted (h : Sound data requestId eventRequestId run)
    (hstatus : persistedPatch data ≠ none → data.status ∉ refusedStatuses)
    {application : Application} (hadmitted : Admitted run.directory data application) :
    Permitted data application := by
  have hpatch : persistedPatch data = some application.patch := h.patch ▸ hadmitted.patch
  refine ⟨hpatch, hstatus (by simp [hpatch]), ?_, hadmitted.notRejected⟩
  intro hrequired
  rw [← hadmitted.read.approval] at hrequired
  have ⟨decision, hdecision, happroved⟩ := hadmitted.approved hrequired
  have hbound := h.bound decision ((hadmitted.read.decision decision).mp hdecision)
  refine ⟨decision, hdecision, happroved, hadmitted.valid, hbound, ?_⟩
  rw [← hadmitted.read.sha256]
  exact hadmitted.digest (hadmitted.read.sha256 ▸ hbound.digest_ne)

/-- An apply command adds a first and permitted application. -/
theorem apply (h : Sound data requestId eventRequestId run)
    (hstatus : persistedPatch data ≠ none → data.status ∉ refusedStatuses)
    {runId : String} {yes : Bool} {answers : ApplyAnswers}
    (hrecords : RecordsApply (.apply runId yes answers)) :
    Sound data requestId eventRequestId (runApply run runId yes answers).1 := by
  rw [runApply]
  cases hadmission : admitApply run.directory runId yes answers with
  | error message => exact h
  | ok application =>
    have hadmitted := admitApply_eq_ok h.summary hadmission
    have hnone : run.applied = [] := by
      by_contra hne
      exact h.recorded hne hadmitted.fresh
    refine ⟨h.summary, h.patch, h.bound, ?_, by simp [hnone], ?_⟩
    · intro _ hmissing
      change answers.recordWrite.file _ = RecordFile.missing at hmissing
      cases houtcome : answers.recordWrite with
      | written =>
        rw [houtcome] at hmissing
        nomatch hmissing
      | failed left error =>
        cases left with
        | nothing => exact hrecords error houtcome
        | torn _ =>
          rw [houtcome] at hmissing
          nomatch hmissing
        | whole =>
          rw [houtcome] at hmissing
          nomatch hmissing
    · intro other hother
      change other ∈ application :: run.applied at hother
      rw [hnone, List.mem_singleton] at hother
      exact hother ▸ h.permitted_of_admitted hstatus hadmitted

theorem step (h : Sound data requestId eventRequestId run)
    (hstatus : persistedPatch data ≠ none → data.status ∉ refusedStatuses) {command : Command}
    {next : LocalRun} (hrecords : RecordsApply command) (hstep : commandStep run command = some next) :
    Sound data requestId eventRequestId next := by
  cases command with
  | decide runId opts answers => exact Option.some.inj hstep ▸ h.decide runId opts answers
  | apply runId yes answers => exact Option.some.inj hstep ▸ h.apply hstatus hrecords

end Sound

end Apply

/-! ## Concrete runs -/

namespace Sample

/-- Digests and encodings that tell no texts apart. -/
instance : GoEncoding := ⟨fun _ => "digest", fun _ => "", id⟩

/-- A run that finished with `status`. -/
def finished (status : String) (required : Bool) : RunCompletedData where
  status := status
  runId := "run"
  baselineCommitSha := "base"
  patch := ⟨true, "digest", "diff"⟩
  approval := ⟨required, "approval", "digest"⟩

/-- An apply command in a clean repository at the baseline. -/
def applyAt (recordWrite : WriteOutcome) : Command :=
  .apply "run" true ⟨none, .ok "base", .ok "", .ok (), .ok (), "now", recordWrite⟩

def approve : Command :=
  .decide "run" ⟨true, "Reviewed.", "", "approved"⟩ ⟨"user", "now", "1.0", none, .written, .ok ()⟩

def start (data : RunCompletedData) : LocalRun := persistedRun "runs/run" data "request" "request"

end Sample

end Rygnal.Cli
