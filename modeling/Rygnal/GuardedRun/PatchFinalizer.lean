import Rygnal.GuardedRun.SafeApply
import Rygnal.Intent.CapabilityMatcher

/-! # Finalizing a guarded patch

`guarded_patch_finalizer.py`: the one decision after a command whether its patch is applied to the
trusted repository, kept for an approval, or dropped.
-/

namespace Rygnal.GuardedRun
open Rygnal.Core Rygnal.Core.PyException Rygnal.Library Rygnal.Library.PyText Rygnal.ChangeRisk
  Rygnal.Approval Rygnal.Apply Rygnal.Artifact Rygnal.Intent

inductive GuardedPatchApplyOutcome where
  | notGenerated
  | notApplied
  | applied
  | pendingApproval
  | applyFailed
deriving DecidableEq, Repr

inductive GuardedPatchFinalStatus where
  | completed
  | failed
  | timedOut
  | blocked
  | approvalRequired
deriving DecidableEq, Repr

def GuardedPatchFinalStatus.value : GuardedPatchFinalStatus → String
  | .completed => "completed"
  | .failed => "failed"
  | .timedOut => "timed_out"
  | .blocked => "blocked"
  | .approvalRequired => "approval_required"

structure GuardedPatchFinalizationRequest where
  currentStatus : String
  trustedRepoPath : String
  commandExitCode : Option ℤ
  commandTimedOut : Bool
  patchDiff : Option PatchDiff
  riskReport : Option ChangeRiskReport
  intentFallbackEvaluation : Option IntentFallbackEvaluation
  hasLogger : Bool

structure GuardedPatchFinalizationResult where
  status : GuardedPatchFinalStatus
  applyOutcome : GuardedPatchApplyOutcome
  blockedReason : Option String
  approvalRequest : Option ApprovalRequest
  artifactId : Option String
  safeApplyResult : Option SafePatchApplyResult

/-- A result that neither asks for an approval nor tried to apply. -/
def finalResult (status : GuardedPatchFinalStatus) (applyOutcome : GuardedPatchApplyOutcome)
    (blockedReason : Option String) : GuardedPatchFinalizationResult :=
  ⟨status, applyOutcome, blockedReason, none, none, none⟩

/-- `_normalize_current_status`. -/
def normalizeCurrentStatus (value : String) : GuardedPatchFinalStatus :=
  ([GuardedPatchFinalStatus.completed, .failed, .timedOut, .blocked, .approvalRequired].find?
    fun status => status.value = value).getD .failed

def intentReason (text : String) (evaluation : IntentFallbackEvaluation) : String :=
  text ++ "match_state=" ++ evaluation.matchState.value ++ "; reasons=" ++
    ",".intercalate evaluation.reasonCodes

/-- What `_persist_pending_approval` is asked for besides the request. -/
structure PendingApproval where
  forcedReason : Option String
  forcedPolicyId : Option String
  safeApplyResult : Option SafePatchApplyResult

/-- What the environment answers: the persisted approval and the id of its artifact, and the
answers to an automatic application. -/
structure FinalizerAnswers where
  persist : PendingApproval → Except PyException (ApprovalRequest × String)
  safeApply : SafeApplyAnswers

def persistPendingApproval (answers : FinalizerAnswers) (pending : PendingApproval) :
    Except PyException GuardedPatchFinalizationResult :=
  match answers.persist pending with
  | .ok (approvalRequest, artifactId) =>
    .ok ⟨.approvalRequired, .pendingApproval, some approvalRequest.reason, some approvalRequest,
      some artifactId, pending.safeApplyResult⟩
  | .error exc =>
    if exc.isInstance [.exception] then
      .ok ⟨.failed, .applyFailed,
        some ("Pending approval persistence failed closed: " ++ exc.message), none, none,
        pending.safeApplyResult⟩
    else .error exc

/-- The pending approval of a patch that must be approved. -/
def requiredApproval (intentRequiresApproval required : Bool) : PendingApproval :=
  if intentRequiresApproval && !required then
    ⟨some "Intent enforcement requires approval before trusted apply.",
      some "guarded-workspace-intent-approval", none⟩
  else ⟨none, none, none⟩

/-- The pending approval of a patch that was not applied automatically. -/
def skippedApproval (safeApply : SafePatchApplyResult) : PendingApproval :=
  let codes := ", ".intercalate (safeApply.skipReasons.map (·.code))
  let skipCodes := if codes = "" then "unspecified-safe-apply-skip" else codes
  ⟨some ("Patch passed the final block decision but is not eligible for automatic apply (" ++
      skipCodes ++ "); explicit approval is required."),
    some "guarded-workspace-non-auto-apply-approval", some safeApply⟩

section Finalizing
variable [BytesDigest] {R : Type}

/-- The automatic application and what follows from its outcome. -/
def applyAutomatically (git : GitRepository R) (answers : FinalizerAnswers) (call : SafeApplyCall)
    (repo : R) : Except PyException GuardedPatchFinalizationResult × R :=
  match autoApplySafePatch git answers.safeApply call repo with
  | (.ok safeApply, repo) =>
    if safeApply.outcome = .applied then
      (.ok ⟨.completed, .applied, none, none, none, some safeApply⟩, repo)
    else (persistPendingApproval answers (skippedApproval safeApply), repo)
  | (.error exc, repo) =>
    -- a `SafePatchApplyError` is an `Exception`
    if exc.isInstance [.exception] = false then (.error exc, repo)
    else if exc.isInstance [.other "SafePatchApplyError"] then
      (.ok (finalResult .failed .applyFailed
        (some ("Automatic trusted apply failed closed: " ++ exc.message))), repo)
    else (.ok (finalResult .failed .applyFailed
      (some ("Unexpected automatic apply failure: " ++ exc.message))), repo)

/-- The decision for a patch with changed files and a report. -/
def finalizeReported (git : GitRepository R) (answers : FinalizerAnswers)
    (request : GuardedPatchFinalizationRequest) (patchDiff : PatchDiff)
    (riskReport : ChangeRiskReport) (repo : R) :
    Except PyException GuardedPatchFinalizationResult × R :=
  let requirement := evaluatePatchApprovalRequirement patchDiff riskReport
  let intentRequiresApproval :=
    request.intentFallbackEvaluation.any IntentFallbackEvaluation.requiresApproval
  if gateBlocked riskReport || riskReport.overallRiskLevel = .critical then
    (.ok (finalResult .blocked .notApplied (some ("Generated patch blocked before trusted " ++
      "mutation: critical risk or a dangerous change was detected."))), repo)
  else if requirement.required || intentRequiresApproval then
    (persistPendingApproval answers (requiredApproval intentRequiresApproval requirement.required),
      repo)
  else applyAutomatically git answers
    ⟨patchDiff, request.trustedRepoPath, riskReport, request.hasLogger⟩ repo

/-- The decision for the patch of a run that was not stopped. -/
def finalizePatch (git : GitRepository R) (answers : FinalizerAnswers)
    (request : GuardedPatchFinalizationRequest) (repo : R) :
    Except PyException GuardedPatchFinalizationResult × R :=
  match request.patchDiff.filter fun patchDiff => patchDiff.files ≠ [] with
  | none =>
    match request.intentFallbackEvaluation.filter IntentFallbackEvaluation.requiresApproval with
    | some intent => (.ok (finalResult .approvalRequired .notGenerated
        (some (intentReason "Intent enforcement requires human review: " intent))), repo)
    | none => (.ok (finalResult .completed .notGenerated none), repo)
  | some patchDiff =>
    match request.riskReport with
    | none => (.ok (finalResult .failed .applyFailed (some ("Generated patch had no verified " ++
        "risk report; trusted mutation failed closed."))), repo)
    | some riskReport => finalizeReported git answers request patchDiff riskReport repo

/-- `finalize_guarded_patch`. -/
def finalizeGuardedPatch (git : GitRepository R) (answers : FinalizerAnswers)
    (request : GuardedPatchFinalizationRequest) (repo : R) :
    Except PyException GuardedPatchFinalizationResult × R :=
  let currentStatus := normalizeCurrentStatus request.currentStatus
  if request.commandTimedOut || currentStatus = .timedOut then
    (.ok (finalResult .timedOut .notApplied
      (some "Timed-out commands never apply generated changes.")), repo)
  else if request.commandExitCode ∉ [none, some 0] || currentStatus = .failed then
    (.ok (finalResult .failed .notApplied
      (some "Failed commands never apply generated changes.")), repo)
  else if currentStatus = .blocked then
    (.ok (finalResult .blocked .notApplied
      (some "Blocked guarded runs never apply generated changes.")), repo)
  else match request.intentFallbackEvaluation.filter IntentFallbackEvaluation.shouldBlock with
    | some intent => (.ok (finalResult .blocked .notApplied
        (some (intentReason "Intent enforcement blocked the generated action: " intent))), repo)
    | none => finalizePatch git answers request repo

end Finalizing

/-! ## What a finalization that applies has checked -/

/-- The run may be applied: it ended well, and its intent neither blocks nor asks for approval. -/
structure MayApply (request : GuardedPatchFinalizationRequest) : Prop where
  notTimedOut : request.commandTimedOut = false ∧ request.currentStatus ≠ "timed_out"
  notFailed : request.commandExitCode ∈ [none, some 0] ∧ request.currentStatus ≠ "failed"
  notBlocked : request.currentStatus ≠ "blocked"
  intent : ∀ evaluation, request.intentFallbackEvaluation = some evaluation →
    evaluation.effectiveHint ≠ .block ∧ evaluation.effectiveHint ≠ .requireApproval

/-- The report is low, in the level of the report and in every reason. -/
structure LowReport (riskReport : ChangeRiskReport) : Prop where
  overall : riskReport.overallRiskLevel = .low
  reasons : ∀ reason ∈ riskReport.reasons, reason.riskLevel = .low

/-- The reported file is a text file of documentation or tests with a regular mode. -/
structure SafeReported (fileRisk : FileRiskClassification) : Prop where
  docsOrTests : fileRisk.reasons ≠ [] ∧
    ∀ reason ∈ fileRisk.reasons, reason.code ∈ ["documentation-change", "test-change"]
  text : fileRisk.binary = false
  mode : RegularMode fileRisk.oldMode fileRisk.newMode fileRisk.modeChanged

/-- The changed file is a text file of documentation or tests with a regular mode. -/
structure SafeChanged (riskReport : ChangeRiskReport) (file : PatchFileDiff) : Prop where
  docsOrTests : ∃ fileRisk ∈ riskReport.files, normalizeRepoRelativePath file.path =
    .ok fileRisk.path ∧ fileRisk.reasons ≠ [] ∧
      ∀ reason ∈ fileRisk.reasons, reason.code ∈ ["documentation-change", "test-change"]
  text : file.binary = false
  mode : RegularMode file.oldMode file.newMode file.modeChanged

/-- What holds of a request whose patch was applied. -/
structure AppliedOnly (answers : FinalizerAnswers) (request : GuardedPatchFinalizationRequest)
    (patchDiff : PatchDiff) (riskReport : ChangeRiskReport) : Prop where
  patch : request.patchDiff = some patchDiff
  report : request.riskReport = some riskReport
  run : MayApply request
  low : LowReport riskReport
  files : ∀ fileRisk ∈ riskReport.files, SafeReported fileRisk
  ignored : patchDiff.ignoredFiles = []
  verified : Verified answers.safeApply.regenerated patchDiff

/-- The rollback failure that a finalization reports. -/
def RollbackFailed (result : GuardedPatchFinalizationResult) : Prop :=
  ∃ text, result.blockedReason =
    some ("Automatic trusted apply failed closed: " ++ (rollbackFailedText ++ text))

/-- How a finalization can end. -/
inductive FinalizationEnds {R : Type} (answers : FinalizerAnswers)
    (request : GuardedPatchFinalizationRequest) (repo : R) :
    Except PyException GuardedPatchFinalizationResult × R → Prop
  | untouched (result : GuardedPatchFinalizationResult) (h : result.applyOutcome ≠ .applied) :
      FinalizationEnds answers request repo (.ok result, repo)
  | applied (result : GuardedPatchFinalizationResult) (repo' : R)
      (h : result.applyOutcome = .applied) (patchDiff : PatchDiff) (riskReport : ChangeRiskReport)
      (honly : AppliedOnly answers request patchDiff riskReport) :
      FinalizationEnds answers request repo (.ok result, repo')
  | rollbackFailed (result : GuardedPatchFinalizationResult) (repo' : R)
      (h : result.applyOutcome ≠ .applied) (hreport : RollbackFailed result) :
      FinalizationEnds answers request repo (.ok result, repo')
  | interrupted (exc : PyException) (repo' : R) (h : exc.isInstance [.exception] = false) :
      FinalizationEnds answers request repo (.error exc, repo')

section Ends
variable [BytesDigest] {R : Type} {git : GitRepository R} {answers : FinalizerAnswers}
  {request : GuardedPatchFinalizationRequest} {repo : R}

omit [BytesDigest] in
theorem persistPendingApproval_ends (pending : PendingApproval) :
    FinalizationEnds answers request repo (persistPendingApproval answers pending, repo) := by
  rw [persistPendingApproval]
  cases answers.persist pending with
  | ok persisted => exact .untouched _ nofun
  | error exc =>
    by_cases hordinary : exc.isInstance [.exception] = true
    · simp only [hordinary, if_true]
      exact .untouched _ nofun
    · simp only [hordinary, if_false, Bool.false_eq_true]
      exact .interrupted exc repo (by simpa using hordinary)

omit [BytesDigest] in
/-- A requirement that asks for nothing leaves only low reasons. -/
theorem low_of_not_required {patchDiff : PatchDiff} {riskReport : ChangeRiskReport}
    (hblocked : gateBlocked riskReport = false)
    (h : (evaluatePatchApprovalRequirement patchDiff riskReport).required = false) :
    ∀ reason ∈ riskReport.reasons, reason.riskLevel = .low := by
  have hcritical : ∀ reason ∈ riskReport.reasons, reason.riskLevel ≠ .critical := by
    intro reason hmem hlevel
    rw [gateBlocked_iff.mpr ⟨reason, hmem, hlevel⟩] at hblocked
    nomatch hblocked
  have hreasons : approvalReasons patchDiff riskReport = [] := by
    simpa [evaluatePatchApprovalRequirement, hblocked] using h
  have hdedupe : approvalReasons patchDiff riskReport = dedupeOn
    (fun kept reason => kept.code = reason.code ∧ kept.path = reason.path) _ := rfl
  rw [hdedupe, dedupeOn_eq_nil] at hreasons
  simp only [List.append_eq_nil_iff, List.map_eq_nil_iff, List.filter_eq_nil_iff,
    List.flatMap_eq_nil_iff] at hreasons
  obtain ⟨⟨_, hreport⟩, hfiles⟩ := hreasons
  have hlow : ∀ level : RiskLevel, level ≠ .critical → ¬ level ∈ [RiskLevel.medium, .high] →
      level = .low := by
    intro level
    cases level <;> decide
  intro reason hmem
  refine hlow _ (hcritical reason hmem) fun hraised => ?_
  rcases List.mem_append.mp hmem with hfile | hreason
  · obtain ⟨fileRisk, hfileRisk, hreason⟩ := List.mem_flatMap.mp hfile
    have hnone := hfiles fileRisk hfileRisk
    simp only [fileApprovalReasons, List.append_eq_nil_iff, List.map_eq_nil_iff,
      List.filter_eq_nil_iff] at hnone
    exact hnone.2 reason hreason (by simpa using hraised)
  · apply hreport reason hreason
    rcases List.mem_cons.mp hraised with hmedium | hhigh
    · simp [hmedium]
    · simp [List.mem_singleton.mp hhigh]

omit [BytesDigest] in
theorem safeReported_of_no_skip {patchDiff : PatchDiff} {riskReport : ChangeRiskReport}
    (h : autoApplySkipReasons patchDiff riskReport = []) :
    ∀ fileRisk ∈ riskReport.files, SafeReported fileRisk := by
  intro fileRisk hmem
  obtain ⟨hdocs, htext, hmode⟩ := (no_skip h).2.2 fileRisk hmem
  rw [isLowRiskDocsOrTests] at hdocs
  split at hdocs
  · nomatch hdocs
  · exact ⟨of_decide_eq_true hdocs, htext, hmode⟩

/-- The patch of a run that may be applied is applied only as documentation or tests. -/
theorem applyAutomatically_ends (hinverse : git.Inverse) {call : SafeApplyCall}
    (hpatch : request.patchDiff = some call.patchDiff)
    (hreport : request.riskReport = some call.riskReport) (hrun : MayApply request)
    (hreasons : ∀ reason ∈ call.riskReport.reasons, reason.riskLevel = .low) :
    FinalizationEnds answers request repo (applyAutomatically git answers call repo) := by
  rw [applyAutomatically]
  have hends : SafeApplyEnds answers.safeApply call repo
      (autoApplySafePatch git answers.safeApply call repo) := autoApplySafePatch_ends hinverse
  generalize autoApplySafePatch git answers.safeApply call repo = ended at hends
  cases hends with
  | skipped result hskipped =>
    simp only [hskipped, reduceCtorEq, if_false]
    exact persistPendingApproval_ends _
  | applied repo' hskip hverified =>
    have hlow := (no_skip hskip).2.1
    exact .applied _ repo' rfl call.patchDiff call.riskReport
      ⟨hpatch, hreport, hrun, ⟨hlow, hreasons⟩, safeReported_of_no_skip hskip, (no_skip hskip).1,
        hverified⟩
  | untouched exc =>
    simp only
    split
    · rename_i hinterrupt
      exact .interrupted exc repo hinterrupt
    split
    · exact .untouched _ nofun
    · exact .untouched _ nofun
  | rollbackFailed text repo' =>
    have hordinary : (safePatchApplyError (rollbackFailedText ++ text)).isInstance [.exception] =
        true := rfl
    have hclass : (safePatchApplyError (rollbackFailedText ++ text)).isInstance
        [.other "SafePatchApplyError"] = true := rfl
    simp only [hordinary, hclass, Bool.true_eq_false, if_true, if_false]
    exact .rollbackFailed _ repo' nofun ⟨text, rfl⟩
  | interrupted exc repo' hinterrupt =>
    simp only [hinterrupt, if_true]
    exact .interrupted exc repo' hinterrupt

theorem finalizeReported_ends (hinverse : git.Inverse) {patchDiff : PatchDiff}
    {riskReport : ChangeRiskReport} (hpatch : request.patchDiff = some patchDiff)
    (hreport : request.riskReport = some riskReport)
    (hrun : (request.intentFallbackEvaluation.any IntentFallbackEvaluation.requiresApproval = false) →
      MayApply request) :
    FinalizationEnds answers request repo
      (finalizeReported git answers request patchDiff riskReport repo) := by
  simp only [finalizeReported]
  split
  · exact .untouched _ nofun
  rename_i hopen
  split
  · exact persistPendingApproval_ends _
  rename_i hautomatic
  simp only [Bool.or_eq_true, not_or, Bool.not_eq_true] at hopen hautomatic
  exact applyAutomatically_ends hinverse hpatch hreport (hrun hautomatic.2)
    (low_of_not_required hopen.1 hautomatic.1)

theorem finalizePatch_ends (hinverse : git.Inverse)
    (hrun : (request.intentFallbackEvaluation.any IntentFallbackEvaluation.requiresApproval = false) →
      MayApply request) :
    FinalizationEnds answers request repo (finalizePatch git answers request repo) := by
  rw [finalizePatch]
  split
  · split
    · exact .untouched _ nofun
    · exact .untouched _ nofun
  · rename_i patchDiff hpatch
    split
    · exact .untouched _ nofun
    · rename_i riskReport hreport
      exact finalizeReported_ends hinverse (Option.filter_eq_some_iff.mp hpatch).1 hreport hrun

/-- Every way through `finalize_guarded_patch`. -/
theorem finalizeGuardedPatch_ends (hinverse : git.Inverse) :
    FinalizationEnds answers request repo (finalizeGuardedPatch git answers request repo) := by
  simp only [finalizeGuardedPatch]
  split
  · exact .untouched _ nofun
  rename_i htime
  split
  · exact .untouched _ nofun
  rename_i hfailed
  split
  · exact .untouched _ nofun
  rename_i hblocked
  split
  · exact .untouched _ nofun
  rename_i hintent
  apply finalizePatch_ends hinverse
  intro happroval
  simp only [Bool.or_eq_true, not_or, decide_eq_true_eq, Bool.not_eq_true] at htime hfailed
  refine ⟨⟨htime.1, ?_⟩, ⟨not_not.mp hfailed.1, ?_⟩, ?_, ?_⟩
  · intro h
    exact htime.2 (by rw [h]; decide)
  · intro h
    exact hfailed.2 (by rw [h]; decide)
  · intro h
    exact hblocked (by rw [h]; decide)
  · intro evaluation hevaluation
    rw [hevaluation] at happroval hintent
    constructor
    · intro h
      simp [Option.filter, IntentFallbackEvaluation.shouldBlock, h] at hintent
    · intro h
      simp [IntentFallbackEvaluation.requiresApproval, h] at happroval

/-- A finalization that returns has applied the patch, or reports a failed rollback, when the
repository is another one. -/
theorem finalizeGuardedPatch_changed (hinverse : git.Inverse)
    {finalization : GuardedPatchFinalizationResult} {repo' : R}
    (h : finalizeGuardedPatch git answers request repo = (.ok finalization, repo'))
    (hchanged : repo' ≠ repo) :
    finalization.applyOutcome = .applied ∨ RollbackFailed finalization := by
  have hends : FinalizationEnds answers request repo
      (finalizeGuardedPatch git answers request repo) := finalizeGuardedPatch_ends hinverse
  rw [h] at hends
  cases hends with
  | untouched _ => exact absurd rfl hchanged
  | applied _ _ happlied => exact .inl happlied
  | rollbackFailed _ _ _ hreport => exact .inr hreport

/-- What a finalization promises: a repository is changed only by an application, or by a rollback
that failed and is reported, and an application has checked everything; an exception that leaves
it is none that `except Exception` catches. -/
def FinalizedSoundly (answers : FinalizerAnswers) (request : GuardedPatchFinalizationRequest)
    (repo : R) : Except PyException GuardedPatchFinalizationResult × R → Prop
  | (.error exc, _) => exc.isInstance [.exception] = false
  | (.ok result, repo') =>
    (repo' ≠ repo → result.applyOutcome = .applied ∨ RollbackFailed result) ∧
    (result.applyOutcome = .applied → ∃ patchDiff riskReport,
      AppliedOnly answers request patchDiff riskReport ∧
      ∀ [UnicodeTables] analyses validationReasons policy,
        classifyPatchRisk analyses patchDiff validationReasons policy = .ok riskReport →
          ∀ file ∈ patchDiff.files, SafeChanged riskReport file)

omit [BytesDigest] in
/-- With the report of the patch itself, its changed files are those of the report. -/
theorem safeChanged_of_classified [UnicodeTables] {analyses : Analyses} {patchDiff : PatchDiff}
    {validationReasons : List ChangeRiskReason} {policy : DiffLimitPolicy}
    {riskReport : ChangeRiskReport}
    (h : classifyPatchRisk analyses patchDiff validationReasons policy = .ok riskReport)
    (hsafe : ∀ fileRisk ∈ riskReport.files, SafeReported fileRisk) :
    ∀ file ∈ patchDiff.files, SafeChanged riskReport file := by
  obtain ⟨addedLines, _, hfiles⟩ := classifyPatchRisk_eq_ok h
  intro file hfile
  obtain ⟨fileRisk, hmem, hclassified⟩ := exists_of_forall₂ hfiles file hfile
  obtain ⟨ownRisk, hown, hrisk⟩ := classifyChangedFile_eq_ok hclassified
  obtain ⟨path, hpath, heq⟩ := bind_eq_ok.mp hown
  obtain rfl := Except.ok.inj heq
  have hreported := hsafe fileRisk hmem
  subst hrisk
  exact ⟨⟨_, hmem, hpath, hreported.docsOrTests⟩, hreported.text, hreported.mode⟩

end Ends

/-! ## A report of another patch -/

namespace Sample

/-- The digest of the one patch of a run. -/
scoped instance patchDigest : BytesDigest :=
  ⟨fun _ => "5d21b500103d21e1feb9c39daf830bec59d56fa5c55899d3ab5ec1f4e4239448"⟩

/-- A repository without (`false`) or with (`true`) the patch. -/
def switch : GitRepository Bool where
  apply _ applied := if applied then none else some true
  reverse _ applied := if applied then some false else none

theorem switch_inverse : switch.Inverse := by
  intro patch before after restored happly hreverse
  cases before <;> cases after <;> cases restored <;> simp_all [switch]

def gitOutput (stdout : String) : GitAnswer := .completed ⟨0, stdout.toList, []⟩

/-- One line of the file is replaced. -/
def onePatch (path : String) : PatchDiff where
  workspacePath := "/work/ws"
  baselineCommitSha := "4b825dc642cb6eb9a060e54bf8d69288fbee4904"
  patch := Utf8.ofText ("--- a/" ++ path ++ "\n+++ b/" ++ path ++ "\n@@ -1 +1 @@\n-x\n+y\n").toList
  patchSha256 := "5d21b500103d21e1feb9c39daf830bec59d56fa5c55899d3ab5ec1f4e4239448"
  patchSizeBytes := 32 + 2 * path.length
  files := [⟨path, .modified, some 1, some 1, false, none, none, none, false⟩]
  ignoredFiles := []

def guideReport (path : String) : ChangeRiskReport where
  baselineCommitSha := (onePatch path).baselineCommitSha
  patchSha256 := (onePatch path).patchSha256
  files := [⟨path, .modified, .low, [⟨"documentation-change", .low, "Documentation changed.", []⟩],
    some 1, some 1, false, none, none, none, false, none⟩]
  reportReasons := []

/-- Everything answers, and the repository shows the patch after its application. -/
def smoothAnswers (patchDiff : PatchDiff) : FinalizerAnswers where
  persist _ := .error (safePatchApplyError "")
  safeApply := {
    targetExists := true
    showToplevel := gitOutput "/work/repo\n"
    toplevelIsTarget := fun text => text = "/work/repo".toList
    pathSafety := .safe
    pathAudit := none
    status := gitOutput ""
    head := gitOutput "4b825dc642cb6eb9a060e54bf8d69288fbee4904\n"
    checkApplies := gitOutput ""
    applyFault := none
    regenerated := .ok patchDiff
    auditFault := none
    reverseFault := none
    headRestored := gitOutput "4b825dc642cb6eb9a060e54bf8d69288fbee4904\n"
    statusRestored := gitOutput "" }

def completedRequest (patchDiff : PatchDiff) (riskReport : ChangeRiskReport) :
    GuardedPatchFinalizationRequest where
  currentStatus := "completed"
  trustedRepoPath := "/work/repo"
  commandExitCode := some 0
  commandTimedOut := false
  patchDiff := some patchDiff
  riskReport := some riskReport
  intentFallbackEvaluation := none
  hasLogger := true

def finalizeOnce (path : String) (riskReport : ChangeRiskReport) :
    Except PyException GuardedPatchFinalizationResult × Bool :=
  finalizeGuardedPatch switch (smoothAnswers (onePatch path))
    (completedRequest (onePatch path) riskReport) false

end Sample

open Sample

end Rygnal.GuardedRun
