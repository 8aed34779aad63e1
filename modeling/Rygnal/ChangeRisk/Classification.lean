import Rygnal.ChangeRisk.AddedLines

/-! # Classification of a patch and the change gate

`classify_patch_file_risk`, `classify_patch_risk` and `evaluate_guarded_change_gate`. The
dependency plan, the action intents and the Rust criticality of a file come from other
subsystems: `Analyses` holds their answers, and the reasons that the classifier makes of them
are computed here.
-/

namespace Rygnal.ChangeRisk
open Rygnal.Core Rygnal.Library Rygnal.Library.PyText Rygnal.Library.PosixPath

/-! ## Signals of one file -/

section File
variable [UnicodeTables]

def gitSymlinkMode : String := "120000"

def isSymlinkFile (fileDiff : PatchFileDiff) : Bool :=
  fileDiff.oldMode = some gitSymlinkMode || fileDiff.newMode = some gitSymlinkMode

def metadataRiskReasons (fileDiff : PatchFileDiff) : List ChangeRiskReason :=
  let path := ("path", Value.str fileDiff.path)
  (if fileDiff.binary then
    [changeRiskReason "binary-file-change" .high
      "Binary file changed and cannot be reviewed as plain text." [path]]
  else []) ++
  (if isSymlinkFile fileDiff then
    [changeRiskReason "symlink-change" .critical
      "Symlink changes can alter filesystem boundaries." [path]]
  else if fileDiff.modeChanged then
    [changeRiskReason "file-mode-change" .high
      "File mode changed, which may alter executability or access behavior."
      [path, ("old_mode", .str (fileDiff.oldMode.getD "")),
        ("new_mode", .str (fileDiff.newMode.getD ""))]]
  else []) ++
  (if extension (lower fileDiff.path.toList) ∈ binaryExtensions then
    [changeRiskReason "generated-executable-artifact" .high
      "Generated executable or compiled artifact changed." [path]]
  else [])

/-- The reasons that path, metadata and added lines give. -/
def signalReasons (fileDiff : PatchFileDiff) (path : String) (addedLines : List Text) :
    List ChangeRiskReason :=
  pathRiskReasons path ++ metadataRiskReasons fileDiff ++ contentRiskReasons path addedLines

/-- The reasons of `classify_patch_file_risk` for a normalized path. -/
def fileRiskReasons (fileDiff : PatchFileDiff) (path : String) (addedLines : List Text) :
    List ChangeRiskReason :=
  if signalReasons fileDiff path addedLines = [] then [baselinePathReason path]
  else signalReasons fileDiff path addedLines

def classifyPatchFileRisk (fileDiff : PatchFileDiff) (addedLinesByPath : AddedLines) :
    Except PyException FileRiskClassification := do
  let path ← normalizeRepoRelativePath fileDiff.path
  let reasons := fileRiskReasons fileDiff path ((addedLinesByPath.get path).getD [])
  return {
    path := path
    oldPath := fileDiff.oldPath
    kind := fileDiff.kind
    riskLevel := highestRisk (reasons.map (·.riskLevel)) .low
    reasons := reasons
    additions := fileDiff.additions
    deletions := fileDiff.deletions
    binary := fileDiff.binary
    oldMode := fileDiff.oldMode
    newMode := fileDiff.newMode
    modeChanged := fileDiff.modeChanged
    rustCriticality := none }

/-! ## Criticality shadow -/

def bypassReasonLockfileInvalidStructure : String := "lockfile-claim-invalid-structure"

/-- `RUST_CRITICALITY_ENFORCED_LEVELS`. -/
def rustCriticalityEnforcedLevels : List (String × RiskLevel) :=
  [("high", .high), ("critical", .high)]

def minEnforcedCriticalityIndex : ℚ := 5

def criticalityBypassRiskReason (shadow : RustCriticalityShadow) : Option ChangeRiskReason :=
  if shadow.criticalityBypassReason ≠ some bypassReasonLockfileInvalidStructure then none
  else some (changeRiskReason bypassReasonLockfileInvalidStructure .high
    "Lockfile bypass claim failed structural validation before Rust analysis."
    [("bypass_verdict", .str (shadow.criticalityBypassVerdict.getD "")),
      ("bypass_reason", .str (shadow.criticalityBypassReason.getD ""))])

/-- The level that an available Rust assessment enforces. -/
def rustRiskLevel (shadow : RustCriticalityShadow) : Option RiskLevel :=
  if !shadow.available then none
  else
    match shadow.riskLevel, shadow.criticalityIndex with
    | some level, some index =>
      if index < minEnforcedCriticalityIndex then none
      else rustCriticalityEnforcedLevels.lookup (String.ofList (lower (strip level.toList)))
    | _, _ => none

def rustCriticalityRiskReason (fileRisk : FileRiskClassification)
    (shadow : RustCriticalityShadow) : Option ChangeRiskReason :=
  match rustRiskLevel shadow with
  | none => none
  | some level =>
    if level ≤ fileRisk.riskLevel then none
    else some (changeRiskReason "rust-criticality-signal" level
      "Rust criticality analysis reported higher semantic or file risk."
      [("path", .str fileRisk.path),
        ("criticality_index", (shadow.criticalityIndex.map Value.float).getD .none),
        ("rust_risk_level", optionValue shadow.riskLevel),
        ("path_category", .str (shadow.pathCategory.getD "")),
        ("path_severity", .str (shadow.pathSeverity.getD ""))])

def attachCriticalityShadow (fileRisk : FileRiskClassification) (shadow : RustCriticalityShadow) :
    FileRiskClassification :=
  let reasons := fileRisk.reasons ++ (criticalityBypassRiskReason shadow).toList ++
    (rustCriticalityRiskReason fileRisk shadow).toList
  { fileRisk with
    riskLevel := highestRisk (reasons.map (·.riskLevel)) .low
    reasons := reasons
    rustCriticality := some shadow }

end File

/-! ## Size limits -/

structure DiffLimitPolicy where
  softMaxChangedFiles : ℤ
  softMaxTotalChangedLines : ℤ
  softMaxPatchSizeBytes : ℤ
  softMaxBinaryFiles : ℤ
  hardMaxChangedFiles : ℤ
  hardMaxTotalChangedLines : ℤ
  hardMaxPatchSizeBytes : ℤ
  hardMaxBinaryFiles : ℤ

def defaultDiffLimitPolicy : DiffLimitPolicy where
  softMaxChangedFiles := 25
  softMaxTotalChangedLines := 800
  softMaxPatchSizeBytes := 100000
  softMaxBinaryFiles := 0
  hardMaxChangedFiles := 250
  hardMaxTotalChangedLines := 10000
  hardMaxPatchSizeBytes := 1000000
  hardMaxBinaryFiles := 10

/-- `_limit_reason` and `_from_diff_limit_reason`. -/
def limitReason (metric : String) (observed softLimit hardLimit : ℤ) : Option ChangeRiskReason :=
  let words := String.ofList (replaceChar '_' ' ' metric.toList)
  let evidence (limit : ℤ) : Dict :=
    [("limit", .int limit), ("metric", .str metric), ("observed", .int observed)]
  if observed > hardLimit then
    some (changeRiskReason ("hard-diff-" ++ metric) .critical
      ("Patch exceeds hard " ++ words ++ " limit.") (evidence hardLimit))
  else if observed > softLimit then
    some (changeRiskReason ("large-diff-" ++ metric) .high
      ("Patch exceeds reviewable auto-apply " ++ words ++ " limit.") (evidence softLimit))
  else none

/-- The reasons of `evaluate_diff_limits`. -/
def diffLimitReasons (patchDiff : PatchDiff) (policy : DiffLimitPolicy) : List ChangeRiskReason :=
  [limitReason "changed_files" patchDiff.changedFileCount policy.softMaxChangedFiles
      policy.hardMaxChangedFiles,
    limitReason "total_changed_lines" (patchDiff.totalAdditions + patchDiff.totalDeletions)
      policy.softMaxTotalChangedLines policy.hardMaxTotalChangedLines,
    limitReason "patch_size_bytes" patchDiff.patchSizeBytes policy.softMaxPatchSizeBytes
      policy.hardMaxPatchSizeBytes,
    limitReason "binary_files" patchDiff.binaryFileCount policy.softMaxBinaryFiles
      policy.hardMaxBinaryFiles].filterMap id

/-! ## Other analyses -/

/-- What the classifier reads of a `DependencyGovernancePlan`. -/
structure DependencyGovernancePlan where
  dependencyChangesDetected : Bool
  vulnerabilityScanRequired : Bool
  networkResolutionRequiresApproval : Bool
  privateRegistryAccessRequiresApproval : Bool
  newDependencyTreeRequiresApproval : Bool
  evidence : Dict

def dependencyGovernanceRiskLevel (plan : DependencyGovernancePlan) : RiskLevel :=
  if plan.vulnerabilityScanRequired || plan.networkResolutionRequiresApproval ||
      plan.privateRegistryAccessRequiresApproval || plan.newDependencyTreeRequiresApproval then
    .high
  else .medium

def dependencyGovernanceReasons (plan : DependencyGovernancePlan) : List ChangeRiskReason :=
  if !plan.dependencyChangesDetected then []
  else [changeRiskReason "dependency-governance-required" (dependencyGovernanceRiskLevel plan)
    "Dependency governance checks are required before applying dependency-related changes."
    plan.evidence]

/-- What the classifier reads of an action intent; the severity is its risk level. -/
structure ActionIntent where
  code : String
  severity : RiskLevel
  reason : String
  evidence : Dict

def actionIntentReportReasons (intents : List ActionIntent) : List ChangeRiskReason :=
  (intents.filter fun intent => RiskLevel.high ≤ intent.severity).map fun intent =>
    changeRiskReason ("action-intent-" ++ intent.code) intent.severity intent.reason intent.evidence

/-- The answers of the subsystems that the classifier asks. -/
structure Analyses where
  criticalityShadowForFile : PatchDiff → PatchFileDiff → RustCriticalityShadow
  buildDependencyGovernancePlan : List String → DependencyGovernancePlan
  classifyActionIntent : List String → AddedLines → List ActionIntent

/-! ## Report and gate -/

section Report
variable [UnicodeTables]

def classifyChangedFile (analyses : Analyses) (patchDiff : PatchDiff)
    (addedLinesByPath : AddedLines) (fileDiff : PatchFileDiff) :
    Except PyException FileRiskClassification :=
  (classifyPatchFileRisk fileDiff addedLinesByPath).map fun fileRisk =>
    attachCriticalityShadow fileRisk (analyses.criticalityShadowForFile patchDiff fileDiff)

def classifyPatchRisk (analyses : Analyses) (patchDiff : PatchDiff)
    (validationReasons : List ChangeRiskReason) (policy : DiffLimitPolicy) :
    Except PyException ChangeRiskReport := do
  let addedLinesByPath ← extractAddedLinesByPath (Utf8.visible patchDiff.patch)
  let files ← patchDiff.files.mapM (classifyChangedFile analyses patchDiff addedLinesByPath)
  let paths := patchDiff.files.map (·.path)
  return {
    baselineCommitSha := patchDiff.baselineCommitSha
    patchSha256 := patchDiff.patchSha256
    files := files
    reportReasons := validationReasons ++ diffLimitReasons patchDiff policy ++
      dependencyGovernanceReasons (analyses.buildDependencyGovernancePlan paths) ++
      actionIntentReportReasons (analyses.classifyActionIntent paths addedLinesByPath) }

end Report

structure GuardedChangeBlockReason where
  code : String
  riskLevel : RiskLevel
  reason : String
  path : Option String
  evidence : Dict
deriving DecidableEq, Repr

def fromRiskReason (reason : ChangeRiskReason) (path : Option String) : GuardedChangeBlockReason :=
  ⟨reason.code, reason.riskLevel, reason.reason, path, reason.evidence⟩

def fileBlockReasons (fileRisk : FileRiskClassification) : List GuardedChangeBlockReason :=
  (fileRisk.reasons.filter fun reason => reason.riskLevel = .critical).map fun reason =>
    fromRiskReason reason (some fileRisk.path)

def collectBlockReasons (report : ChangeRiskReport) : List GuardedChangeBlockReason :=
  report.files.flatMap fileBlockReasons ++
    (report.reportReasons.filter fun reason => reason.riskLevel = .critical).map fun reason =>
      fromRiskReason reason none

/-- `evaluate_guarded_change_gate(..).blocked` for a given report. -/
def gateBlocked (report : ChangeRiskReport) : Bool := collectBlockReasons report ≠ []

/-! ## What the aggregation keeps -/

/-- The gate blocks exactly the reports with a critical reason. -/
theorem gateBlocked_iff {report : ChangeRiskReport} :
    gateBlocked report = true ↔ ∃ reason ∈ report.reasons, reason.riskLevel = .critical := by
  have hblock : ∀ block, block ∈ collectBlockReasons report →
      ∃ reason ∈ report.reasons, reason.riskLevel = .critical := by
    intro block hblock
    rcases List.mem_append.mp hblock with h | h
    · obtain ⟨file, hfile, hmem⟩ := List.mem_flatMap.mp h
      obtain ⟨reason, hreason, rfl⟩ := List.mem_map.mp hmem
      rw [List.mem_filter, decide_eq_true_eq] at hreason
      exact ⟨reason, List.mem_append_left _ (List.mem_flatMap.mpr ⟨file, hfile, hreason.1⟩),
        hreason.2⟩
    · obtain ⟨reason, hreason, rfl⟩ := List.mem_map.mp h
      rw [List.mem_filter, decide_eq_true_eq] at hreason
      exact ⟨reason, List.mem_append_right _ hreason.1, hreason.2⟩
  rw [gateBlocked, decide_eq_true_eq]
  constructor
  · intro h
    obtain ⟨block, hmem⟩ := List.exists_mem_of_ne_nil _ h
    exact hblock block hmem
  · rintro ⟨reason, hreason, hcritical⟩
    rcases List.mem_append.mp hreason with h | h
    · obtain ⟨file, hfile, hmem⟩ := List.mem_flatMap.mp h
      have hfiltered : fromRiskReason reason (some file.path) ∈ fileBlockReasons file :=
        List.mem_map_of_mem (List.mem_filter.mpr ⟨hmem, decide_eq_true hcritical⟩)
      have hall : fromRiskReason reason (some file.path) ∈ collectBlockReasons report :=
        List.mem_append_left _ (List.mem_flatMap.mpr ⟨file, hfile, hfiltered⟩)
      exact List.ne_nil_of_mem hall
    · have hall : fromRiskReason reason none ∈ collectBlockReasons report :=
        List.mem_append_right _
          (List.mem_map_of_mem (List.mem_filter.mpr ⟨h, decide_eq_true hcritical⟩))
      exact List.ne_nil_of_mem hall

section Lemmas
variable [UnicodeTables]

theorem classifyPatchFileRisk_eq_ok {fileDiff : PatchFileDiff} {addedLinesByPath : AddedLines}
    {fileRisk : FileRiskClassification}
    (h : classifyPatchFileRisk fileDiff addedLinesByPath = .ok fileRisk) :
    ∃ path, normalizeRepoRelativePath fileDiff.path = .ok path ∧ fileRisk.path = path ∧
      fileRisk.reasons =
        fileRiskReasons fileDiff path ((addedLinesByPath.get path).getD []) ∧
      fileRisk.riskLevel = highestRisk (fileRisk.reasons.map (·.riskLevel)) .low := by
  unfold classifyPatchFileRisk at h
  cases hpath : normalizeRepoRelativePath fileDiff.path with
  | error e =>
    rw [hpath] at h
    cases h
  | ok path =>
    rw [hpath] at h
    cases h
    exact ⟨path, rfl, rfl, rfl, rfl⟩

theorem classifyChangedFile_eq_ok {analyses : Analyses} {patchDiff : PatchDiff}
    {addedLinesByPath : AddedLines} {fileDiff : PatchFileDiff} {fileRisk : FileRiskClassification}
    (h : classifyChangedFile analyses patchDiff addedLinesByPath fileDiff = .ok fileRisk) :
    ∃ ownRisk, classifyPatchFileRisk fileDiff addedLinesByPath = .ok ownRisk ∧
      fileRisk = attachCriticalityShadow ownRisk
        (analyses.criticalityShadowForFile patchDiff fileDiff) := by
  unfold classifyChangedFile at h
  cases hown : classifyPatchFileRisk fileDiff addedLinesByPath with
  | error e =>
    rw [hown] at h
    cases h
  | ok ownRisk =>
    rw [hown] at h
    cases h
    exact ⟨ownRisk, rfl, rfl⟩

omit [UnicodeTables] in
/-- A loop that collects results classifies each element in order. -/
theorem forall₂_of_mapM_eq_ok {ε α β : Type} {f : α → Except ε β} {xs : List α}
    {ys : List β} (h : xs.mapM f = .ok ys) : List.Forall₂ (fun x y => f x = .ok y) xs ys := by
  induction xs generalizing ys with
  | nil =>
    cases h
    exact .nil
  | cons x xs ih =>
    rw [List.mapM_cons] at h
    cases hx : f x with
    | error e =>
      rw [hx] at h
      cases h
    | ok y =>
      cases hxs : xs.mapM f with
      | error e =>
        rw [hx, hxs] at h
        cases h
      | ok ys' =>
        rw [hx, hxs] at h
        cases h
        exact .cons hx (ih hxs)

omit [UnicodeTables] in
theorem exists_of_forall₂ {α β : Type} {R : α → β → Prop} {xs : List α} {ys : List β}
    (h : List.Forall₂ R xs ys) : ∀ x ∈ xs, ∃ y ∈ ys, R x y := by
  induction h with
  | nil => simp
  | cons hxy _ ih =>
    refine List.forall_mem_cons.mpr ⟨⟨_, List.mem_cons_self, hxy⟩, fun x hx => ?_⟩
    have ⟨y, hy, hR⟩ := ih x hx
    exact ⟨y, List.mem_cons_of_mem _ hy, hR⟩

/-- Each file of the patch is classified in the report, in the order of the patch. -/
theorem classifyPatchRisk_eq_ok {analyses : Analyses} {patchDiff : PatchDiff}
    {validationReasons : List ChangeRiskReason} {policy : DiffLimitPolicy}
    {report : ChangeRiskReport}
    (h : classifyPatchRisk analyses patchDiff validationReasons policy = .ok report) :
    ∃ addedLines, extractAddedLinesByPath (Utf8.visible patchDiff.patch) = .ok addedLines ∧
      List.Forall₂
        (fun fileDiff fileRisk =>
          classifyChangedFile analyses patchDiff addedLines fileDiff = .ok fileRisk)
        patchDiff.files report.files := by
  unfold classifyPatchRisk at h
  cases hlines : extractAddedLinesByPath (Utf8.visible patchDiff.patch) with
  | error e =>
    rw [hlines] at h
    cases h
  | ok addedLines =>
    rw [hlines] at h
    cases hfiles : patchDiff.files.mapM (classifyChangedFile analyses patchDiff addedLines) with
    | error e =>
      simp only [bind, Except.bind, hfiles] at h
      cases h
    | ok files =>
      simp only [bind, Except.bind, hfiles] at h
      cases h
      exact ⟨addedLines, rfl, forall₂_of_mapM_eq_ok hfiles⟩

end Lemmas

end Rygnal.ChangeRisk
