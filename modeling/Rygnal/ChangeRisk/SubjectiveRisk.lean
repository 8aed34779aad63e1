import Rygnal.ChangeRisk.Classification

/-! # Lock markers and subjective risk

`subjective_risk.py` and `classify_and_decide_patch`: the contents that are searched for an
explicit lock marker are cut at a limit, and a file that cannot be collected replaces the reasons
of all other files by one high reason.
-/

namespace Rygnal.ChangeRisk
open Rygnal.Core Rygnal.Library Rygnal.Library.PyText Rygnal.Library.Utf8

/-! ## The guarded workspace -/

inductive WorkspaceFile where
  | content (bytes : List UInt8)
  | missing
  | notRegular
  | escapes
deriving DecidableEq, Repr

/-- `RustHumanContext` without the lock flag. -/
structure HumanHistory where
  daysSinceEdit : ℚ
  daysSinceBurst : ℚ
  lineOwnershipRatio : ℚ
deriving DecidableEq, Repr

/-- The workspace of a recovery session: the blobs of its baseline, its files, and what `git log`
and `git blame` say about a path. -/
structure GuardedWorkspace where
  path : String
  isDirectory : Bool
  gitFound : Bool
  baseline : String → Option (List UInt8)
  file : String → WorkspaceFile
  history : String → HumanHistory
  gitError : String → String

structure RustSubjectiveRiskInput where
  filePath : String
  actionType : String
  systemRisk : ℚ
  oldCode : DecodedText
  newCode : DecodedText
  history : HumanHistory
  isExplicitlyLocked : Bool
deriving DecidableEq, Repr

structure RustSubjectiveRiskAssessment where
  judgment : String
  totalCriticality : ℚ
  humanMultiplier : ℚ
  destructionPenalty : ℚ
  survivalRatio : ℚ
deriving DecidableEq, Repr

inductive KernelAnswer where
  /-- `RustKernelUnavailableError`. -/
  | unavailable
  /-- `RustKernelError`. -/
  | error (message : String)
  | assessment (assessment : RustSubjectiveRiskAssessment)
deriving DecidableEq, Repr

/-- The optional Rust kernel, and `round(x, 4)`. -/
class SubjectiveKernel where
  evaluate : RustSubjectiveRiskInput → KernelAnswer
  round4 : ℚ → ℚ

/-! ## Collecting a file -/

def maxCollectedSourceBytes : ℕ := 512 * 1024

def explicitLockMarkers : List String :=
  ["rygnal:lock", "@rygnal-lock", "RYGNAL_LOCK", "do-not-ai-edit", "DO NOT AI EDIT",
    "DO NOT AUTONOMOUSLY EDIT"]

/-- Why the reasons of a patch are not collected. -/
inductive SubjectiveFault where
  /-- `SubjectiveRiskCollectionError`. -/
  | collection (message : String)
  | raised (exc : PyException)
deriving DecidableEq, Repr

/-- `_decode_limited`. -/
def decodeLimited (bytes : List UInt8) : DecodedText :=
  Utf8.decode (if maxCollectedSourceBytes < bytes.length then bytes.take maxCollectedSourceBytes
    else bytes)

/-- `any(marker in text for marker in EXPLICIT_LOCK_MARKERS)`. -/
def hasLockMarker (text : DecodedText) : Bool :=
  explicitLockMarkers.any fun marker => containsText marker.toList (Utf8.visible text)

def normalizePath (path : String) : Except SubjectiveFault String :=
  (normalizeRepoRelativePath path).mapError .raised

/-- `_safe_git_object_path` of a normalized path. -/
def safeGitObjectPath (path : String) : Except SubjectiveFault Unit :=
  if ':' ∈ path.toList ∨ '\x00' ∈ path.toList then
    .error (.collection ("Unsafe Git object path: " ++ path))
  else .ok ()

/-- `_read_old_code`. -/
def readOldCode (workspace : GuardedWorkspace) (path : String) (kind : ChangedFileKind) :
    Except SubjectiveFault DecodedText :=
  if kind = .added ∨ kind = .untracked then .ok []
  else do
    safeGitObjectPath path
    if workspace.gitFound then
      match workspace.baseline path with
      | some bytes => .ok (decodeLimited bytes)
      | none =>
        if kind = .deleted then .ok (decodeLimited [])
        else .error (.collection (workspace.gitError path))
    else .error (.collection "Git executable was not found on PATH.")

/-- `_read_new_code`. -/
def readNewCode (workspace : GuardedWorkspace) (path : String) (kind : ChangedFileKind) :
    Except SubjectiveFault DecodedText :=
  if kind = .deleted then .ok []
  else
    match workspace.file path with
    | .escapes => .error (.collection ("Changed file escapes workspace: " ++ path))
    | .missing => .error (.collection ("Changed file does not exist in workspace: " ++ path))
    | .notRegular => .error (.collection ("Changed path is not a regular file: " ++ path))
    | .content bytes => .ok (decodeLimited bytes)

/-- `_is_explicitly_locked` without locked paths. -/
def isExplicitlyLocked (oldCode newCode : DecodedText) : Bool :=
  hasLockMarker (oldCode ++ DecodedChar.char '\n' :: newCode)

/-- `collect_subjective_risk_input`. The history is only read where git is found. -/
def collectSubjectiveRiskInput (workspace : GuardedWorkspace) (fileDiff : PatchFileDiff)
    (systemRisk : ℚ) : Except SubjectiveFault RustSubjectiveRiskInput := do
  if workspace.isDirectory then .ok ()
  else .error (.collection ("Guarded workspace does not exist: " ++ workspace.path))
  let path ← normalizePath fileDiff.path
  let oldPath ← normalizePath (fileDiff.oldPath.getD fileDiff.path)
  let oldCode ← readOldCode workspace oldPath fileDiff.kind
  let newCode ← readNewCode workspace path fileDiff.kind
  if workspace.gitFound then .ok ()
  else .error (.collection "Git executable was not found on PATH.")
  return ⟨path, fileDiff.kind.value, systemRisk, oldCode, newCode, workspace.history oldPath,
    isExplicitlyLocked oldCode newCode⟩

/-! ## The reasons of a patch -/

/-- `locked_file_change_to_reason`. -/
def lockedFileChangeReason (filePath : String) : ChangeRiskReason :=
  ⟨"subjective-human-context-risk", .critical,
    "Explicit Rygnal lock marker raised guarded patch risk for " ++ filePath ++ ".",
    [("path", .str filePath), ("judgment", .str "block"), ("total_criticality", .float 10),
      ("human_multiplier", .float 1), ("destruction_penalty", .float 0),
      ("semantic_survival_ratio", .float 1), ("explicitly_locked", .bool true),
      ("fallback", .str "deterministic-lock-marker")]⟩

/-- `_system_risk_score_for_level`. -/
def systemRiskScoreForLevel : RiskLevel → ℚ
  | .critical => 17 / 2
  | .high => 13 / 2
  | .medium => 4
  | .low => 2

section Collection
variable [SubjectiveKernel]

/-- `subjective_assessment_to_reason` with `critical_block=False`. -/
def subjectiveAssessmentReason (filePath : String) (assessment : RustSubjectiveRiskAssessment) :
    Option ChangeRiskReason :=
  if assessment.judgment = "allow" then none
  else some ⟨"subjective-human-context-risk", .high,
    "Human-context and semantic-survival analysis raised guarded patch risk for " ++ filePath ++
      ".",
    [("path", .str filePath), ("judgment", .str assessment.judgment),
      ("total_criticality", .float (SubjectiveKernel.round4 assessment.totalCriticality)),
      ("human_multiplier", .float (SubjectiveKernel.round4 assessment.humanMultiplier)),
      ("destruction_penalty", .float (SubjectiveKernel.round4 assessment.destructionPenalty)),
      ("semantic_survival_ratio", .float (SubjectiveKernel.round4 assessment.survivalRatio))]⟩

/-- The reasons of one file of the report. -/
def subjectiveFileReasons (workspace : GuardedWorkspace) (report : ChangeRiskReport)
    (fileDiff : PatchFileDiff) : Except SubjectiveFault (List ChangeRiskReason) := do
  let normalizedPath ← normalizePath fileDiff.path
  -- a dictionary built from the files keeps the last file of a path
  let fileRisk := report.files.reverse.find? fun file => file.path = normalizedPath
  let systemRisk := (fileRisk.map fun file => systemRiskScoreForLevel file.riskLevel).getD 0
  let riskInput ← collectSubjectiveRiskInput workspace fileDiff systemRisk
  if riskInput.isExplicitlyLocked then .ok [lockedFileChangeReason riskInput.filePath]
  else if fileRisk.any fun file => file.riskLevel = .low then .ok []
  else match SubjectiveKernel.evaluate riskInput with
    | .unavailable => .ok []
    | .error message => .error (.collection message)
    | .assessment assessment =>
      .ok (subjectiveAssessmentReason riskInput.filePath assessment).toList

/-- `collect_subjective_patch_reasons`. -/
def collectSubjectivePatchReasons (workspace : GuardedWorkspace) (report : ChangeRiskReport)
    (files : List PatchFileDiff) : Except SubjectiveFault (List ChangeRiskReason) :=
  (files.mapM (subjectiveFileReasons workspace report)).map List.flatten

def collectionFailedReason (message : String) : ChangeRiskReason :=
  ⟨"subjective-risk-collection-failed", .high,
    "Subjective human-context analysis could not complete; guarded patch requires human approval.",
    [("error", .str message)]⟩

/-- `_collect_subjective_validation_reasons`. -/
def collectSubjectiveValidationReasons (workspace : GuardedWorkspace) (patchDiff : PatchDiff)
    (report : ChangeRiskReport) : Except PyException (List ChangeRiskReason) :=
  match collectSubjectivePatchReasons workspace report patchDiff.files with
  | .ok reasons => .ok reasons
  | .error (.collection message) => .ok [collectionFailedReason message]
  | .error (.raised exc) => .error exc

structure PatchRiskDecision where
  allowed : Bool
  riskLevel : RiskLevel
  reason : String
  report : ChangeRiskReport
deriving DecidableEq, Repr

/-- The decision of `classify_and_decide_patch` for its report. -/
def patchRiskDecision (report : ChangeRiskReport) : PatchRiskDecision :=
  match report.overallRiskLevel with
  | .critical => ⟨false, .critical,
    "Guarded patch blocked before completion: critical risk change detected.", report⟩
  | .high => ⟨false, .high,
    "Guarded patch requires approval before completion: high risk change detected.", report⟩
  | level => ⟨true, level, "Guarded patch accepted by deterministic patch-risk gate.", report⟩

/-- The report with the subjective reasons, when there are any. -/
def subjectiveReport [UnicodeTables] (analyses : Analyses) (policy : DiffLimitPolicy)
    (patchDiff : PatchDiff) (report : ChangeRiskReport) (subjectiveReasons : List ChangeRiskReason) :
    Except PyException ChangeRiskReport :=
  if subjectiveReasons = [] then .ok report
  else classifyPatchRisk analyses patchDiff subjectiveReasons policy

/-- `classify_and_decide_patch`. -/
def classifyAndDecidePatch [UnicodeTables] (analyses : Analyses) (policy : DiffLimitPolicy)
    (workspace : GuardedWorkspace) (patchDiff : PatchDiff) :
    Except PyException PatchRiskDecision := do
  let report ← classifyPatchRisk analyses patchDiff [] policy
  let subjectiveReasons ← collectSubjectiveValidationReasons workspace patchDiff report
  let finalReport ← subjectiveReport analyses policy patchDiff report subjectiveReasons
  return patchRiskDecision finalReport

end Collection

/-! ## What has to hold -/

/-- The contents of a changed file: the baseline blob of its old path and the workspace file. -/
def changedContents (workspace : GuardedWorkspace) (fileDiff : PatchFileDiff) :
    List (List UInt8) :=
  let old := match normalizeRepoRelativePath (fileDiff.oldPath.getD fileDiff.path) with
    | .ok path => (workspace.baseline path).toList
    | .error _ => []
  let new := match (normalizeRepoRelativePath fileDiff.path).map workspace.file with
    | .ok (.content bytes) => [bytes]
    | _ => []
  (if fileDiff.kind = .added ∨ fileDiff.kind = .untracked then [] else old) ++
    (if fileDiff.kind = .deleted then [] else new)

/-- Some changed file contains a lock marker, wherever in its baseline or its new content. -/
def Marked (workspace : GuardedWorkspace) (patchDiff : PatchDiff) : Prop :=
  ∃ file ∈ patchDiff.files, ∃ bytes ∈ changedContents workspace file,
    hasLockMarker (Utf8.decode bytes) = true

def HasCritical (report : ChangeRiskReport) : Prop :=
  ∃ reason ∈ report.reasons, reason.riskLevel = .critical

/-- The report has a critical reason, and the change gate blocks the patch. -/
def Blocked (decision : PatchRiskDecision) : Prop :=
  HasCritical decision.report ∧ gateBlocked decision.report = true

section Blocking
variable [SubjectiveKernel]

/-- The risk of a file in the report, as the collection looks it up. -/
def fileRiskOf (report : ChangeRiskReport) (fileDiff : PatchFileDiff) :
    Option FileRiskClassification :=
  match normalizeRepoRelativePath fileDiff.path with
  | .ok path => report.files.reverse.find? fun file => file.path = path
  | .error _ => none

def systemRiskOf (report : ChangeRiskReport) (fileDiff : PatchFileDiff) : ℚ :=
  ((fileRiskOf report fileDiff).map fun file => systemRiskScoreForLevel file.riskLevel).getD 0

/-- The file is read, and the first part of its old and new content holds a marker. -/
def Locked (workspace : GuardedWorkspace) (report : ChangeRiskReport) (fileDiff : PatchFileDiff) :
    Prop :=
  ∃ riskInput, collectSubjectiveRiskInput workspace fileDiff (systemRiskOf report fileDiff) =
    .ok riskInput ∧ riskInput.isExplicitlyLocked = true

/-- The file is read, and the kernel is not asked or does not reject it. -/
def Collected (workspace : GuardedWorkspace) (report : ChangeRiskReport)
    (fileDiff : PatchFileDiff) : Prop :=
  ∃ riskInput, collectSubjectiveRiskInput workspace fileDiff (systemRiskOf report fileDiff) =
    .ok riskInput ∧ (riskInput.isExplicitlyLocked = true ∨
      (∃ file, fileRiskOf report fileDiff = some file ∧ file.riskLevel = .low) ∨
      ∀ message, SubjectiveKernel.evaluate riskInput ≠ .error message)

variable {workspace : GuardedWorkspace} {report : ChangeRiskReport} {fileDiff : PatchFileDiff}

theorem subjectiveFileReasons_eq (hpath : ∃ path, normalizeRepoRelativePath fileDiff.path = .ok path) :
    subjectiveFileReasons workspace report fileDiff =
      (collectSubjectiveRiskInput workspace fileDiff (systemRiskOf report fileDiff)).bind
        fun riskInput =>
          if riskInput.isExplicitlyLocked then .ok [lockedFileChangeReason riskInput.filePath]
          else if (fileRiskOf report fileDiff).any fun file => file.riskLevel = .low then .ok []
          else match SubjectiveKernel.evaluate riskInput with
            | .unavailable => .ok []
            | .error message => .error (.collection message)
            | .assessment assessment =>
              .ok (subjectiveAssessmentReason riskInput.filePath assessment).toList := by
  have ⟨path, hok⟩ := hpath
  simp only [subjectiveFileReasons, normalizePath, systemRiskOf, fileRiskOf, hok]
  rfl

/-- The reasons of a file are collected exactly when its context is, and one of them is critical
exactly when the file is locked. -/
theorem subjectiveFileReasons_spec
    (hpath : ∃ path, normalizeRepoRelativePath fileDiff.path = .ok path) :
    ((∃ reasons, subjectiveFileReasons workspace report fileDiff = .ok reasons) ↔
        Collected workspace report fileDiff) ∧
      ∀ reasons, subjectiveFileReasons workspace report fileDiff = .ok reasons →
        ((∃ reason ∈ reasons, reason.riskLevel = .critical) ↔
          Locked workspace report fileDiff) := by
  rw [subjectiveFileReasons_eq hpath, Collected, Locked]
  cases collectSubjectiveRiskInput workspace fileDiff (systemRiskOf report fileDiff) with
  | error fault =>
    simp [Except.bind]
  | ok riskInput =>
    simp only [Except.bind, Except.ok.injEq, exists_eq_left', Option.any_eq_true]
    by_cases hlocked : riskInput.isExplicitlyLocked = true
    · simp [hlocked, lockedFileChangeReason]
    · by_cases hlow : ∃ file, fileRiskOf report fileDiff = some file ∧ file.riskLevel = .low
      · simp [hlocked, hlow]
      · cases hkernel : SubjectiveKernel.evaluate riskInput with
        | unavailable => simp [hlocked, hlow]
        | error message => simp [hlocked, hlow]
        | assessment assessment =>
          by_cases hallow : assessment.judgment = "allow"
          · simp [hlocked, hlow, subjectiveAssessmentReason, hallow]
          · simp [hlocked, hlow, subjectiveAssessmentReason, hallow]

/-! ## The patch as a whole -/

omit [SubjectiveKernel] in
/-- Validation reasons are put before the reasons of the report. -/
theorem classifyPatchRisk_validation [UnicodeTables] (analyses : Analyses) (policy : DiffLimitPolicy)
    (patchDiff : PatchDiff) (validationReasons : List ChangeRiskReason) :
    classifyPatchRisk analyses patchDiff validationReasons policy =
      (classifyPatchRisk analyses patchDiff [] policy).map fun report =>
        { report with reportReasons := validationReasons ++ report.reportReasons } := by
  unfold classifyPatchRisk
  cases extractAddedLinesByPath (Utf8.visible patchDiff.patch) with
  | error exc => rfl
  | ok addedLines =>
    simp only [bind, Except.bind]
    cases patchDiff.files.mapM (classifyChangedFile analyses patchDiff addedLines) with
    | error exc => rfl
    | ok files => simp [pure, Except.pure, Except.map, List.append_assoc]

omit [SubjectiveKernel] in
theorem hasCritical_validation (report : ChangeRiskReport) (reasons : List ChangeRiskReason) :
    HasCritical { report with reportReasons := reasons ++ report.reportReasons } ↔
      HasCritical report ∨ ∃ reason ∈ reasons, reason.riskLevel = .critical := by
  simp only [HasCritical, ChangeRiskReport.reasons, List.mem_append, or_and_right, exists_or]
  rw [or_assoc]
  exact or_congr_right or_comm

omit [SubjectiveKernel] in
theorem blocked_iff_hasCritical {decision : PatchRiskDecision} :
    Blocked decision ↔ HasCritical decision.report := by
  rw [Blocked, gateBlocked_iff]
  exact and_self_iff

omit [SubjectiveKernel] in
@[simp] theorem patchRiskDecision_report (report : ChangeRiskReport) :
    (patchRiskDecision report).report = report := by
  rw [patchRiskDecision]
  split <;> rfl

omit [SubjectiveKernel] in
theorem exists_iff_of_forall₂ {α β : Type} {R : α → β → Prop} {P : α → Prop} {Q : β → Prop}
    {xs : List α} {ys : List β} (h : List.Forall₂ R xs ys)
    (hPQ : ∀ x ∈ xs, ∀ y, R x y → (Q y ↔ P x)) : (∃ y ∈ ys, Q y) ↔ ∃ x ∈ xs, P x := by
  induction h with
  | nil => simp
  | cons hxy _ ih =>
    have ⟨hhead, htail⟩ := List.forall_mem_cons.mp hPQ
    rw [List.exists_mem_cons_iff, List.exists_mem_cons_iff, hhead _ hxy, ih htail]

theorem collectSubjectiveValidationReasons_spec {patchDiff : PatchDiff}
    {reasons : List ChangeRiskReason}
    (hpaths : ∀ file ∈ patchDiff.files, ∃ path, normalizeRepoRelativePath file.path = .ok path)
    (h : collectSubjectiveValidationReasons workspace patchDiff report = .ok reasons) :
    (∃ reason ∈ reasons, reason.riskLevel = .critical) ↔
      (∀ file ∈ patchDiff.files, Collected workspace report file) ∧
        ∃ file ∈ patchDiff.files, Locked workspace report file := by
  have hcollected : (∃ ys, patchDiff.files.mapM (subjectiveFileReasons workspace report) = .ok ys) ↔
      ∀ file ∈ patchDiff.files, Collected workspace report file := by
    rw [mapM_eq_ok_iff]
    apply forall₂_congr
    intro file hfile
    exact (subjectiveFileReasons_spec (hpaths file hfile)).1
  rw [collectSubjectiveValidationReasons, collectSubjectivePatchReasons] at h
  cases hfiles : patchDiff.files.mapM (subjectiveFileReasons workspace report) with
  | error fault =>
    have hfails : ¬ ∀ file ∈ patchDiff.files, Collected workspace report file := by
      rw [← hcollected, hfiles]
      rintro ⟨_, hys⟩
      nomatch hys
    rw [hfiles] at h
    cases fault with
    | collection message =>
      obtain rfl := Except.ok.inj h
      simp [hfails, collectionFailedReason]
    | raised exc => nomatch h
  | ok lists =>
    rw [hfiles] at h
    obtain rfl := Except.ok.inj h
    have hall := hcollected.mp ⟨lists, hfiles⟩
    have hlists := exists_iff_of_forall₂ (forall₂_of_mapM_eq_ok hfiles) fun file hfile reasons =>
      (subjectiveFileReasons_spec (hpaths file hfile)).2 reasons
    rw [and_iff_right hall, ← hlists]
    simp only [List.mem_flatten]
    constructor
    · rintro ⟨reason, ⟨reasons, hreasons, hreason⟩, hcritical⟩
      exact ⟨reasons, hreasons, reason, hreason, hcritical⟩
    · rintro ⟨reasons, hreasons, reason, hreason, hcritical⟩
      exact ⟨reason, ⟨reasons, hreasons, hreason⟩, hcritical⟩

/-- A patch is blocked exactly when the deterministic report has a critical reason, or every file
was collected and one is locked. -/
theorem blocked_iff [UnicodeTables] {analyses : Analyses} {policy : DiffLimitPolicy}
    {patchDiff : PatchDiff} {decision : PatchRiskDecision}
    (h : classifyAndDecidePatch analyses policy workspace patchDiff = .ok decision) :
    ∃ report, classifyPatchRisk analyses patchDiff [] policy = .ok report ∧
      (Blocked decision ↔ HasCritical report ∨
        (∀ file ∈ patchDiff.files, Collected workspace report file) ∧
          ∃ file ∈ patchDiff.files, Locked workspace report file) := by
  simp only [classifyAndDecidePatch, bind_eq_ok] at h
  obtain ⟨report, hreport, reasons, hreasons, final, hfinal, hdecision⟩ := h
  have ⟨_, _, hfiles⟩ := classifyPatchRisk_eq_ok hreport
  have hpaths : ∀ file ∈ patchDiff.files,
      ∃ path, normalizeRepoRelativePath file.path = .ok path := by
    intro file hfile
    have ⟨_, _, hclassified⟩ := exists_of_forall₂ hfiles file hfile
    have ⟨_, hown, _⟩ := classifyChangedFile_eq_ok hclassified
    have ⟨path, hpath, _⟩ := classifyPatchFileRisk_eq_ok hown
    exact ⟨path, hpath⟩
  have hspec := collectSubjectiveValidationReasons_spec hpaths hreasons
  refine ⟨report, hreport, ?_⟩
  obtain rfl := Except.ok.inj hdecision
  rw [blocked_iff_hasCritical, patchRiskDecision_report, ← hspec]
  rw [subjectiveReport] at hfinal
  split at hfinal
  · rename_i hnil
    obtain rfl := Except.ok.inj hfinal
    simp [hnil]
  · rw [classifyPatchRisk_validation, hreport] at hfinal
    obtain rfl := Except.ok.inj hfinal
    exact hasCritical_validation report reasons

end Blocking

/-! ## A locked file and an unrelated one -/

namespace Sample

/-- A kernel that is not installed. -/
instance noKernel : SubjectiveKernel where
  evaluate _ := .unavailable
  round4 x := x

/-- The analyses of text files without added lines, without the Rust kernel. -/
def noAnalyses : Analyses where
  criticalityShadowForFile _ _ := {
    available := false
    criticalityIndex := none
    riskLevel := none
    reasons := []
    semanticMetrics := none
    pathCategory := none
    pathSeverity := none
    errorCode := some "rust-kernel-unavailable"
    errorReason := some "Rust kernel is not installed."
    criticalityBypassVerdict := none
    criticalityBypassReason := none }
  buildDependencyGovernancePlan _ := ⟨false, false, false, false, false, []⟩
  classifyActionIntent _ _ := []

/-- A session whose notes carry a lock marker in the baseline. -/
def lockedNotes : GuardedWorkspace where
  path := "/work"
  isDirectory := true
  gitFound := true
  baseline path := if path = "notes.txt" then some "# rygnal:lock\n".toUTF8.toList else some []
  file path := if path = "notes.txt" then .content "notes\n".toUTF8.toList else .content []
  history _ := ⟨1, 1, 1⟩
  gitError path := "Unable to read baseline content for " ++ path

def modified (path : String) : PatchFileDiff where
  path := path
  kind := .modified
  additions := some 0
  deletions := some 1
  binary := false
  oldPath := none
  oldMode := some "100644"
  newMode := some "100644"
  modeChanged := false

def modifiedPatch (paths : List String) : PatchDiff where
  workspacePath := "/work"
  baselineCommitSha := "3f786850e387550fdab836ed7e6dc881de23001b"
  patch := []
  patchSha256 := "e3b0c44298fc1c149afbf4c8996fb92427ae41e4649b934ca495991b7852b855"
  patchSizeBytes := 0
  files := paths.map modified
  ignoredFiles := []

end Sample

open PyText.Ascii Sample

instance (report : ChangeRiskReport) : Decidable (HasCritical report) :=
  inferInstanceAs (Decidable (∃ reason ∈ report.reasons, _))

instance (decision : PatchRiskDecision) : Decidable (Blocked decision) :=
  inferInstanceAs (Decidable (_ ∧ _))

end Rygnal.ChangeRisk
