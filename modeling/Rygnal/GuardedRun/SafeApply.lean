import Rygnal.Apply.ApprovedApply
import Rygnal.Artifact.PatchArtifact

/-! # Automatic application of a low-risk patch

`safe_apply.py`: the checks before the mutation, `git apply`, the verification of its result, and
the reverse application when the verification fails. What Git answers is an argument; its state is
an arbitrary type, on which `git apply` succeeds or changes nothing.
-/

namespace Rygnal.GuardedRun
open Rygnal.Core Rygnal.Core.PyException Rygnal.Library Rygnal.Library.PyText Rygnal.ChangeRisk
  Rygnal.Approval Rygnal.Apply Rygnal.Artifact

def safePatchApplyError (message : String) : PyException :=
  .runtime (.other "SafePatchApplyError") message

/-! ## Git -/

/-- `git apply` and `git apply --reverse` on the states of a repository. -/
structure GitRepository (R : Type) where
  apply : Utf8.DecodedText → R → Option R
  reverse : Utf8.DecodedText → R → Option R

/-- The reverse application takes an applied patch back. -/
def GitRepository.Inverse {R : Type} (git : GitRepository R) : Prop :=
  ∀ patch before after restored, git.apply patch before = some after →
    git.reverse patch after = some restored → restored = before

/-- `_run_git`. -/
def runSafeGit (command : String) : GitAnswer → Except PyException CompletedProcess
  | .missing => .error (safePatchApplyError "git executable not found on PATH.")
  | .raised exc => .error exc
  | .completed process =>
    if process.returncode ≠ 0 then
      .error (safePatchApplyError (gitFailureDetail command process))
    else .ok process

/-- A run that changes the repository: it raises, or `change` answers. -/
def mutate {R : Type} (command : String) (fault : Option PyException) (change : R → Option R)
    (repo : R) : Except PyException Unit × R :=
  match fault with
  | some exc => (.error exc, repo)
  | none =>
    match change repo with
    | some repo' => (.ok (), repo')
    | none => (.error (safePatchApplyError ("git " ++ command ++ " failed")), repo)

/-! ## Skip reasons -/

structure SafePatchSkipReason where
  code : String
  reason : String
  path : Option String
deriving DecidableEq, Repr

/-- The first of the items of each class stays. -/
def dedupeOn {α : Type} (same : α → α → Bool) (items : List α) : List α :=
  items.foldl (fun kept item => if kept.any (same · item) then kept else kept ++ [item]) []

/-- `_unsafe_mode_skip_reason`. -/
def unsafeModeSkipReason (fileRisk : FileRiskClassification) : Option SafePatchSkipReason :=
  let modes := (fileRisk.oldMode.toList ++ fileRisk.newMode.toList).filter (· ≠ "")
  if "120000" ∈ modes then
    some ⟨"symlink-mode", "Symlink metadata is not eligible for auto-apply.", some fileRisk.path⟩
  else if "100755" ∈ modes then
    some ⟨"executable-mode", "Executable file metadata is not eligible for auto-apply.",
      some fileRisk.path⟩
  else if fileRisk.modeChanged then
    some ⟨"mode-change", "File mode changes are not eligible for auto-apply.", some fileRisk.path⟩
  else if modes.any (· ≠ "100644") then
    some ⟨"unsupported-file-mode", "Unsupported file mode is not eligible for auto-apply.",
      some fileRisk.path⟩
  else none

def fileSkipReasons (fileRisk : FileRiskClassification) : List SafePatchSkipReason :=
  (if isLowRiskDocsOrTests fileRisk then []
  else [⟨"not-docs-or-tests-only",
    "Only documentation and test-only patches may be auto-applied.", some fileRisk.path⟩]) ++
  (if fileRisk.binary then
    [⟨"binary-file-change", "Binary changes are not eligible for auto-apply.",
      some fileRisk.path⟩]
  else []) ++ (unsafeModeSkipReason fileRisk).toList

/-- `report_reason.code.startswith(("large-diff-", "hard-diff-"))`. -/
def isDiffLimitCode (code : String) : Bool :=
  startsWith code.toList "large-diff-" || startsWith code.toList "hard-diff-"

def autoApplySkipReasons (patchDiff : PatchDiff) (riskReport : ChangeRiskReport) :
    List SafePatchSkipReason :=
  dedupeOn (fun kept reason => kept.code = reason.code && kept.path = reason.path)
    ((if gateBlocked riskReport then
      [⟨"blocked-by-change-gate", "Patch was blocked by the dangerous-change gate.", none⟩]
    else []) ++
    (if patchDiff.files = [] then
      [⟨"empty-patch", "Patch has no changed files to apply.", none⟩]
    else []) ++
    (if patchDiff.ignoredFiles ≠ [] then
      [⟨"ignored-workspace-changes",
        "Guarded workspace contains ignored changes outside the patch.", none⟩]
    else []) ++
    (if riskReport.overallRiskLevel ≠ .low then
      [⟨"not-low-risk", "Only low-risk patches may be auto-applied.", none⟩]
    else []) ++
    (riskReport.reportReasons.filter fun reason => isDiffLimitCode reason.code).map
      (fun reason => ⟨reason.code, reason.reason, none⟩) ++
    riskReport.files.flatMap fileSkipReasons)

/-! ## One application -/

inductive SafePatchApplyOutcome where
  | applied
  | skipped
deriving DecidableEq, Repr

structure SafePatchApplyResult where
  outcome : SafePatchApplyOutcome
  targetRepoPath : String
  patchSha256 : String
  baselineCommitSha : String
  files : List String
  riskReport : ChangeRiskReport
  skipReasons : List SafePatchSkipReason
deriving DecidableEq, Repr

/-- What the environment answers: the checks before the mutation, the two runs that change the
repository, the diff that is generated from its result, the audit event, and the checks after the
reverse application. -/
structure SafeApplyAnswers where
  targetExists : Bool
  showToplevel : GitAnswer
  toplevelIsTarget : Text → Bool
  pathSafety : PathSafety
  pathAudit : Option PyException
  status : GitAnswer
  head : GitAnswer
  checkApplies : GitAnswer
  applyFault : Option PyException
  regenerated : Except PyException PatchDiff
  auditFault : Option PyException
  reverseFault : Option PyException
  headRestored : GitAnswer
  statusRestored : GitAnswer

structure SafeApplyCall where
  patchDiff : PatchDiff
  targetRepo : String
  riskReport : ChangeRiskReport
  hasLogger : Bool

/-- `raise` for the exception that a step of the environment came to. -/
def raiseFault : Option PyException → Except PyException Unit
  | some exc => .error exc
  | none => .ok ()

def ensureSafeGitRepo (answers : SafeApplyAnswers) (targetRepo : String) :
    Except PyException Unit := do
  raiseIf (!answers.targetExists)
    (safePatchApplyError ("Target repository does not exist: " ++ targetRepo))
  let process ← runSafeGit "rev-parse --show-toplevel" answers.showToplevel
  raiseIf (!answers.toplevelIsTarget (strip process.stdout))
    (safePatchApplyError ("Target path is not the Git repository root: " ++ targetRepo))

/-- `ensure_patch_paths_safe`; the audit event of a violation may itself raise. -/
def ensureSafePaths (answers : SafeApplyAnswers) (hasLogger : Bool) : Except PyException Unit :=
  match answers.pathSafety with
  | .safe => .ok ()
  | .raised exc => .error exc
  | .violated _ => do
    if hasLogger then raiseFault answers.pathAudit
    .error (safePatchApplyError "Patch path safety validation failed.")

def ensureCleanTarget (status : GitAnswer) : Except PyException Unit := do
  let process ← runSafeGit "status --porcelain --untracked-files=all" status
  raiseIf (hasOutput process.stdout)
    (safePatchApplyError "Target repository must be clean before auto-apply.")

def ensureSafeTargetAtBaseline (head : GitAnswer) (baselineCommitSha : String) :
    Except PyException Unit := do
  let process ← runSafeGit "rev-parse HEAD" head
  raiseIf (strip process.stdout ≠ baselineCommitSha.toList)
    (safePatchApplyError "Target repository HEAD does not match the patch baseline.")

section Digests
variable [BytesDigest]

def ensurePatchIntegrity (patchDiff : PatchDiff) : Except PyException Unit :=
  match Utf8.encodeEscaped patchDiff.patch with
  | none => .error unicodeEncodeError
  | some bytes => do
    raiseIf (BytesDigest.sha256 bytes ≠ patchDiff.patchSha256)
      (safePatchApplyError "Patch content does not match its declared SHA-256.")
    raiseIf ((bytes.length : ℤ) ≠ patchDiff.patchSizeBytes)
      (safePatchApplyError "Patch content does not match its declared byte length.")

/-- The checks of `auto_apply_safe_patch` before it looks for reasons to skip. -/
def checkTarget (answers : SafeApplyAnswers) (call : SafeApplyCall) : Except PyException Unit := do
  ensureSafeGitRepo answers call.targetRepo
  ensureSafePaths answers call.hasLogger
  ensureCleanTarget answers.status
  ensurePatchIntegrity call.patchDiff
  ensureSafeTargetAtBaseline answers.head call.patchDiff.baselineCommitSha

/-- `_verify_applied_patch` for the regenerated diff. -/
def verifyAppliedPatch (regenerated : Except PyException PatchDiff) (expected : PatchDiff) :
    Except PyException Unit := do
  let actual ← regenerated
  raiseIf (actual.patchSha256 ≠ expected.patchSha256) (safePatchApplyError
    "Applied repository diff does not match the approved patch digest.")
  raiseIf (actual.patchSizeBytes ≠ expected.patchSizeBytes) (safePatchApplyError
    "Applied repository diff does not match the approved patch length.")
  raiseIf (actual.files ≠ expected.files) (safePatchApplyError
    "Applied repository file metadata does not match the approved patch.")
  raiseIf (actual.ignoredFiles ≠ expected.ignoredFiles) (safePatchApplyError
    "Applied repository contains ignored changes outside the patch.")

/-- The verification and the audit event, whose exceptions lead to the reverse application. -/
def confirmApplied (answers : SafeApplyAnswers) (call : SafeApplyCall) :
    Except PyException Unit := do
  verifyAppliedPatch answers.regenerated call.patchDiff
  if call.hasLogger then raiseFault answers.auditFault

def rollbackFailedText : String :=
  "Automatic apply failed and rollback could not restore the trusted repository: "

/-- The checks after the reverse application. -/
def checkRestored (answers : SafeApplyAnswers) (patchDiff : PatchDiff) : Except PyException Unit := do
  ensureSafeTargetAtBaseline answers.headRestored patchDiff.baselineCommitSha
  ensureCleanTarget answers.statusRestored

/-- `_rollback_after_failed_apply`, which always raises. -/
def rollbackAfterFailedApply {R : Type} (git : GitRepository R) (answers : SafeApplyAnswers)
    (patchDiff : PatchDiff) (failure : PyException) (repo : R) : PyException × R :=
  let rollbackFailed (exc : PyException) : PyException :=
    if exc.isInstance [.exception] then safePatchApplyError (rollbackFailedText ++ exc.message)
    else exc
  match mutate "apply --reverse --whitespace=error -" answers.reverseFault
      (git.reverse patchDiff.patch) repo with
  | (.error exc, repo) => (rollbackFailed exc, repo)
  | (.ok (), repo) =>
    match checkRestored answers patchDiff with
    | .error exc => (rollbackFailed exc, repo)
    | .ok () => (safePatchApplyError ("Automatic apply failed after mutation; " ++
        "the trusted repository was rolled back safely: " ++ failure.message), repo)

/-- `_result`. -/
def safeApplyResult (outcome : SafePatchApplyOutcome) (call : SafeApplyCall)
    (skipReasons : List SafePatchSkipReason) : SafePatchApplyResult where
  outcome := outcome
  targetRepoPath := call.targetRepo
  patchSha256 := call.patchDiff.patchSha256
  baselineCommitSha := call.patchDiff.baselineCommitSha
  files := call.patchDiff.files.map (·.path)
  riskReport := call.riskReport
  skipReasons := skipReasons

/-- From `git apply` on. -/
def applyAndVerify {R : Type} (git : GitRepository R) (answers : SafeApplyAnswers)
    (call : SafeApplyCall) (repo : R) : Except PyException SafePatchApplyResult × R :=
  match mutate "apply --whitespace=error -" answers.applyFault (git.apply call.patchDiff.patch)
      repo with
  | (.error exc, repo) => (.error exc, repo)
  | (.ok (), repo) =>
    match confirmApplied answers call with
    | .ok () => (.ok (safeApplyResult .applied call []), repo)
    | .error exc =>
      if exc.isInstance [.exception] then
        let (exc, repo) := rollbackAfterFailedApply git answers call.patchDiff exc repo
        (.error exc, repo)
      else (.error exc, repo)

/-- `auto_apply_safe_patch` for a given report. -/
def autoApplySafePatch {R : Type} (git : GitRepository R) (answers : SafeApplyAnswers)
    (call : SafeApplyCall) (repo : R) : Except PyException SafePatchApplyResult × R :=
  match checkTarget answers call with
  | .error exc => (.error exc, repo)
  | .ok () =>
    let skipReasons := autoApplySkipReasons call.patchDiff call.riskReport
    if skipReasons ≠ [] then (.ok (safeApplyResult .skipped call skipReasons), repo)
    else match runSafeGit "apply --check --whitespace=error -" answers.checkApplies with
      | .error exc => (.error exc, repo)
      | .ok _ => applyAndVerify git answers call repo

end Digests

/-! ## What an application leaves -/

section Ends
variable [BytesDigest] {R : Type} {git : GitRepository R} {answers : SafeApplyAnswers}
  {call : SafeApplyCall} {repo : R}

/-- The regenerated diff is the patch in digest, length, files and ignored files. -/
structure Verified (regenerated : Except PyException PatchDiff) (expected : PatchDiff) : Prop where
  matches_patch : ∃ actual, regenerated = .ok actual ∧ actual.patchSha256 = expected.patchSha256 ∧
    actual.patchSizeBytes = expected.patchSizeBytes ∧ actual.files = expected.files ∧
    actual.ignoredFiles = expected.ignoredFiles

/-- How an application can end: what it returns or raises, and the repository that it leaves. -/
inductive SafeApplyEnds (answers : SafeApplyAnswers) (call : SafeApplyCall) (repo : R) :
    Except PyException SafePatchApplyResult × R → Prop
  | skipped (result : SafePatchApplyResult) (h : result.outcome = .skipped) :
      SafeApplyEnds answers call repo (.ok result, repo)
  | applied (repo' : R) (hskip : autoApplySkipReasons call.patchDiff call.riskReport = [])
      (hverified : Verified answers.regenerated call.patchDiff) :
      SafeApplyEnds answers call repo (.ok (safeApplyResult .applied call []), repo')
  | untouched (exc : PyException) : SafeApplyEnds answers call repo (.error exc, repo)
  | rollbackFailed (text : String) (repo' : R) :
      SafeApplyEnds answers call repo
        (.error (safePatchApplyError (rollbackFailedText ++ text)), repo')
  | interrupted (exc : PyException) (repo' : R) (h : exc.isInstance [.exception] = false) :
      SafeApplyEnds answers call repo (.error exc, repo')

omit [BytesDigest] in
theorem verified_of_verifyAppliedPatch {regenerated : Except PyException PatchDiff}
    {expected : PatchDiff} {u : Unit} (h : verifyAppliedPatch regenerated expected = .ok u) :
    Verified regenerated expected := by
  simp only [verifyAppliedPatch, bind_eq_ok, raiseIf_eq_ok, decide_eq_false_iff_not, ne_eq,
    not_not] at h
  obtain ⟨actual, hactual, _, hsha, _, hsize, _, hfiles, hignored⟩ := h
  exact ⟨actual, hactual, hsha, hsize, hfiles, hignored⟩

omit [BytesDigest] in
/-- A run that changes the repository either did, or raised and left it. -/
theorem mutate_cases (command : String) (fault : Option PyException) (change : R → Option R)
    (repo : R) : (∃ exc, mutate command fault change repo = (.error exc, repo)) ∨
      ∃ repo', change repo = some repo' ∧ mutate command fault change repo = (.ok (), repo') := by
  cases fault with
  | some exc => exact .inl ⟨exc, rfl⟩
  | none =>
    cases hchange : change repo with
    | none =>
      refine .inl ⟨safePatchApplyError ("git " ++ command ++ " failed"), ?_⟩
      simp only [mutate, hchange]
    | some repo' => exact .inr ⟨repo', rfl, by simp only [mutate, hchange]⟩

omit [BytesDigest] in
/-- The reverse application ends where the application began, or reports that it failed. -/
theorem rollback_ends (hinverse : git.Inverse) {repo' : R} {failure : PyException}
    (happly : git.apply call.patchDiff.patch repo = some repo') :
    SafeApplyEnds answers call repo
      (.error (rollbackAfterFailedApply git answers call.patchDiff failure repo').1,
        (rollbackAfterFailedApply git answers call.patchDiff failure repo').2) := by
  have hfailed : ∀ (exc : PyException) (repo'' : R),
      SafeApplyEnds answers call repo (.error (if exc.isInstance [.exception] then
        safePatchApplyError (rollbackFailedText ++ exc.message) else exc), repo'') := by
    intro exc repo''
    split
    · exact .rollbackFailed exc.message repo''
    · rename_i hinterrupt
      exact .interrupted exc repo'' (by simpa using hinterrupt)
  rcases mutate_cases "apply --reverse --whitespace=error -" answers.reverseFault
    (git.reverse call.patchDiff.patch) repo' with ⟨exc, hmutate⟩ | ⟨restored, hreverse, hmutate⟩
  · simp only [rollbackAfterFailedApply, hmutate]
    exact hfailed exc repo'
  · have hrestored : restored = repo := hinverse _ _ _ _ happly hreverse
    simp only [rollbackAfterFailedApply, hmutate]
    cases checkRestored answers call.patchDiff with
    | error exc => exact hfailed exc restored
    | ok u =>
      rw [hrestored]
      exact .untouched _

omit [BytesDigest] in
theorem applyAndVerify_ends (hinverse : git.Inverse)
    (hskip : autoApplySkipReasons call.patchDiff call.riskReport = []) :
    SafeApplyEnds answers call repo (applyAndVerify git answers call repo) := by
  rcases mutate_cases "apply --whitespace=error -" answers.applyFault
    (git.apply call.patchDiff.patch) repo with ⟨exc, hmutate⟩ | ⟨repo', happly, hmutate⟩
  · simp only [applyAndVerify, hmutate]
    exact .untouched exc
  · simp only [applyAndVerify, hmutate]
    cases hconfirm : confirmApplied answers call with
    | ok u =>
      obtain ⟨_, hverify, _⟩ := bind_eq_ok.mp hconfirm
      exact .applied repo' hskip (verified_of_verifyAppliedPatch hverify)
    | error exc =>
      by_cases hordinary : exc.isInstance [.exception] = true
      · simp only [hordinary, if_true]
        exact rollback_ends hinverse happly
      · simp only [hordinary, if_false, Bool.false_eq_true]
        exact .interrupted exc repo' (by simpa using hordinary)

/-- Every way through `auto_apply_safe_patch`. -/
theorem autoApplySafePatch_ends (hinverse : git.Inverse) :
    SafeApplyEnds answers call repo (autoApplySafePatch git answers call repo) := by
  rw [autoApplySafePatch]
  cases checkTarget answers call with
  | error exc => exact .untouched exc
  | ok u =>
    by_cases hskip : autoApplySkipReasons call.patchDiff call.riskReport = []
    · simp only [hskip, ne_eq, not_true_eq_false, if_false]
      cases runSafeGit "apply --check --whitespace=error -" answers.checkApplies with
      | error exc => exact .untouched exc
      | ok process => exact applyAndVerify_ends hinverse hskip
    · simp only [ne_eq, hskip, not_false_eq_true, if_true]
      exact .skipped _ rfl

end Ends

/-! ## What the skip reasons exclude -/

theorem dedupeOn_eq_nil {α : Type} {same : α → α → Bool} {items : List α} :
    dedupeOn same items = [] ↔ items = [] := by
  have hkept : ∀ (items kept : List α), kept ≠ [] → items.foldl
      (fun kept item => if kept.any (same · item) then kept else kept ++ [item]) kept ≠ [] := by
    intro items
    induction items with
    | nil => exact fun _ h => h
    | cons item items ih =>
      intro kept hne
      rw [List.foldl_cons]
      apply ih
      split
      · exact hne
      · simp
  constructor
  · intro h
    cases items with
    | nil => rfl
    | cons item items =>
      rw [dedupeOn, List.foldl_cons] at h
      exact absurd h (hkept items _ (by simp))
  · rintro rfl
    rfl

/-- The known modes of a file are those of a regular file, and do not change. -/
structure RegularMode (oldMode newMode : Option String) (modeChanged : Bool) : Prop where
  kept : modeChanged = false
  regular : ∀ mode, oldMode = some mode ∨ newMode = some mode → mode = "" ∨ mode = "100644"

theorem regularMode_of_no_skip {fileRisk : FileRiskClassification}
    (h : unsafeModeSkipReason fileRisk = none) :
    RegularMode fileRisk.oldMode fileRisk.newMode fileRisk.modeChanged := by
  simp only [unsafeModeSkipReason] at h
  split_ifs at h with hsymlink hexecutable hchanged hother
  refine ⟨by simpa using hchanged, fun mode hmode => ?_⟩
  by_cases hempty : mode = ""
  · exact .inl hempty
  · right
    by_contra hmode'
    apply hother
    rw [List.any_eq_true]
    refine ⟨mode, List.mem_filter.mpr ⟨?_, by simpa using hempty⟩, by simpa using hmode'⟩
    rcases hmode with hmode | hmode
    · rw [hmode]
      exact List.mem_append_left _ List.mem_cons_self
    · rw [hmode]
      exact List.mem_append_right _ List.mem_cons_self

/-- What the absence of skip reasons says about patch and report. -/
theorem no_skip {patchDiff : PatchDiff} {riskReport : ChangeRiskReport}
    (h : autoApplySkipReasons patchDiff riskReport = []) :
    patchDiff.ignoredFiles = [] ∧ riskReport.overallRiskLevel = .low ∧
      ∀ fileRisk ∈ riskReport.files, isLowRiskDocsOrTests fileRisk = true ∧
        fileRisk.binary = false ∧
        RegularMode fileRisk.oldMode fileRisk.newMode fileRisk.modeChanged := by
  rw [autoApplySkipReasons, dedupeOn_eq_nil] at h
  simp only [List.append_eq_nil_iff, ite_eq_right_iff, List.cons_ne_nil, imp_false,
    ne_eq, not_not, List.flatMap_eq_nil_iff] at h
  obtain ⟨⟨⟨⟨⟨_, _⟩, hignored⟩, hlow⟩, _⟩, hfiles⟩ := h
  refine ⟨hignored, hlow, fun fileRisk hmem => ?_⟩
  have hfile := hfiles fileRisk hmem
  simp only [fileSkipReasons, List.append_eq_nil_iff, ite_eq_right_iff, ite_eq_left_iff,
    List.cons_ne_nil, imp_false, not_not, Option.toList_eq_nil_iff] at hfile
  obtain ⟨⟨hdocs, hbinary⟩, hmode⟩ := hfile
  exact ⟨hdocs, by simpa using hbinary, regularMode_of_no_skip hmode⟩

end Rygnal.GuardedRun
