import Rygnal.ChangeRisk.Classification

/-! # Renamed files

A renamed file touches two repository paths, and the classifier examines the new one only.
`Signals` says from the inputs when a file is given a level; the report covers both paths of
every rename exactly when each renamed file signals by itself what its old path would.
-/

namespace Rygnal.ChangeRisk
open Rygnal.Core Rygnal.Library Rygnal.Library.PyText

section Covers
variable [UnicodeTables]

/-! ## When a file is given a level -/

/-- The change of a path without any metadata. -/
def pathOnly (path : String) : PatchFileDiff where
  path := path
  kind := .modified
  additions := none
  deletions := none
  binary := false
  oldPath := none
  oldMode := none
  newMode := none
  modeChanged := false

/-- The level that `classify_patch_file_risk` gives to a path taken alone. -/
def pathRisk (path : String) : Except PyException RiskLevel :=
  (classifyPatchFileRisk (pathOnly path) []).map (·.riskLevel)

/-- The path, metadata or added lines of a file call for a level. -/
inductive Signals (fileDiff : PatchFileDiff) (path : String) (addedLines : List Text)
    (level : RiskLevel) : Prop where
  | low (atMost : level ≤ .low)
  | path (check : PathCheck) (listed : check ∈ pathChecks)
      (applies : check.applies (lower path.toList) = true) (atMost : level ≤ check.riskLevel)
  | symlink (isSymlink : isSymlinkFile fileDiff = true)
  | metadata (present : fileDiff.binary = true ∨ fileDiff.modeChanged = true ∨
      extension (lower fileDiff.path.toList) ∈ binaryExtensions) (atMost : level ≤ .high)
  | secret (line : Text) (added : line ∈ addedLines)
      (found : ∃ entry ∈ secretAddedLinePatterns, entry.2.search line = true)
  | destructive (line : Text) (added : line ∈ addedLines)
      (found : ∃ entry ∈ destructiveAddedLinePatterns, entry.2.search line = true)
      (atMost : level ≤ if isScriptLikePath path.toList then .critical else .high)
  | ordinary (notDocumentation : isDocumentationPath (lower path.toList) = false)
      (notTest : isTestPath (lower path.toList) = false) (atMost : level ≤ .medium)

/-- A file calls for a level by itself or by its Rust criticality shadow. -/
inductive AssessedSignals (fileDiff : PatchFileDiff) (path : String) (addedLines : List Text)
    (shadow : RustCriticalityShadow) (level : RiskLevel) : Prop where
  | file (signals : Signals fileDiff path addedLines level)
  | bypass (invalid : shadow.criticalityBypassReason = some bypassReasonLockfileInvalidStructure)
      (atMost : level ≤ .high)
  | rust (enforced : RiskLevel) (assessed : rustRiskLevel shadow = some enforced)
      (atMost : level ≤ enforced)

/-- Some reason of the list reaches the level. -/
def Reaches (reasons : List ChangeRiskReason) (level : RiskLevel) : Prop :=
  ∃ reason ∈ reasons, level ≤ reason.riskLevel

omit [UnicodeTables] in
theorem reaches_append {reasons others : List ChangeRiskReason} {level : RiskLevel} :
    Reaches (reasons ++ others) level ↔ Reaches reasons level ∨ Reaches others level := by
  simp only [Reaches, List.mem_append, or_and_right, exists_or]

omit [UnicodeTables] in
theorem le_highestRisk_iff_reaches {reasons : List ChangeRiskReason} {level : RiskLevel} :
    level ≤ highestRisk (reasons.map (·.riskLevel)) .low ↔
      level ≤ .low ∨ Reaches reasons level := by
  rw [le_highestRisk]
  simp [Reaches]

theorem reaches_pathRiskReasons {path : String} {level : RiskLevel} :
    Reaches (pathRiskReasons path) level ↔ ∃ check ∈ pathChecks,
      check.applies (lower path.toList) = true ∧ level ≤ check.riskLevel := by
  simp [Reaches, pathRiskReasons, changeRiskReason, and_assoc]

theorem reaches_metadataRiskReasons {fileDiff : PatchFileDiff} {level : RiskLevel} :
    Reaches (metadataRiskReasons fileDiff) level ↔ isSymlinkFile fileDiff = true ∨
      (fileDiff.binary = true ∨ fileDiff.modeChanged = true ∨
        extension (lower fileDiff.path.toList) ∈ binaryExtensions) ∧ level ≤ .high := by
  have hcritical : level ≤ RiskLevel.critical := by cases level <;> decide
  unfold metadataRiskReasons
  simp only [reaches_append]
  split_ifs <;> simp_all [Reaches, changeRiskReason]

theorem reaches_contentRiskReasons {path : String} {addedLines : List Text} {level : RiskLevel} :
    Reaches (contentRiskReasons path addedLines) level ↔
      (∃ line ∈ addedLines, ∃ entry ∈ secretAddedLinePatterns, entry.2.search line = true) ∨
      (∃ line ∈ addedLines, ∃ entry ∈ destructiveAddedLinePatterns,
        entry.2.search line = true) ∧
        level ≤ if isScriptLikePath path.toList then .critical else .high := by
  have hcritical : level ≤ RiskLevel.critical := by cases level <;> decide
  constructor
  · rintro ⟨reason, hreason, hle⟩
    obtain ⟨check, hcheck, ⟨line, hline, hsearch⟩, rfl⟩ := mem_contentRiskReasons.mp hreason
    rcases List.mem_append.mp hcheck with h | h
    · obtain ⟨entry, hentry, rfl⟩ := List.mem_map.mp h
      exact .inl ⟨line, hline, entry, hentry, hsearch⟩
    · obtain ⟨entry, hentry, rfl⟩ := List.mem_map.mp h
      rw [destructiveCheck_riskLevel] at hle
      exact .inr ⟨⟨line, hline, entry, hentry, hsearch⟩, hle⟩
  · rintro (⟨line, hline, entry, hentry, hsearch⟩ | ⟨⟨line, hline, entry, hentry, hsearch⟩, hle⟩)
    · rw [← secretCheck_riskLevel path entry] at hcritical
      exact ⟨_, secretReason_mem hline hentry hsearch, hcritical⟩
    · rw [← destructiveCheck_riskLevel path entry] at hle
      exact ⟨_, destructiveReason_mem hline hentry hsearch, hle⟩

theorem high_le_of_mem_metadata {fileDiff : PatchFileDiff} {reason : ChangeRiskReason}
    (h : reason ∈ metadataRiskReasons fileDiff) : .high ≤ reason.riskLevel := by
  simp only [metadataRiskReasons, List.mem_append, List.mem_ite_nil_right,
    List.mem_singleton] at h
  rcases h with (⟨-, rfl⟩ | h) | ⟨-, rfl⟩
  · exact le_refl RiskLevel.high
  · split at h
    · rw [List.mem_singleton.mp h]
      exact le_of_lt (by decide : RiskLevel.high < .critical)
    · rw [List.mem_ite_nil_right, List.mem_singleton] at h
      rw [h.2]
      exact le_refl RiskLevel.high
  · exact le_refl RiskLevel.high

/-- No reason of a path, of metadata or of content is below high. -/
theorem high_le_of_mem_signalReasons {fileDiff : PatchFileDiff} {path : String}
    {addedLines : List Text} {reason : ChangeRiskReason}
    (h : reason ∈ signalReasons fileDiff path addedLines) : .high ≤ reason.riskLevel := by
  rcases List.mem_append.mp h with h | h
  · rcases List.mem_append.mp h with h | h
    · have hchecks : ∀ check ∈ pathChecks, RiskLevel.high ≤ check.riskLevel := by
        simp only [pathChecks, List.forall_mem_cons]
        decide
      obtain ⟨check, hcheck, rfl⟩ := List.mem_map.mp h
      exact hchecks check (List.mem_filter.mp hcheck).1
    · exact high_le_of_mem_metadata h
  · obtain ⟨check, hcheck, -, rfl⟩ := mem_contentRiskReasons.mp h
    rcases List.mem_append.mp hcheck with hcheck | hcheck
    · obtain ⟨entry, -, rfl⟩ := List.mem_map.mp hcheck
      rw [secretCheck_riskLevel]
      decide
    · obtain ⟨entry, -, rfl⟩ := List.mem_map.mp hcheck
      rw [destructiveCheck_riskLevel]
      split <;> decide

theorem le_baselinePathReason {path : String} {level : RiskLevel} :
    level ≤ (baselinePathReason path).riskLevel ↔ level ≤ .low ∨
      isDocumentationPath (lower path.toList) = false ∧ isTestPath (lower path.toList) = false ∧
        level ≤ .medium := by
  have hlow : level ≤ .low → level ≤ .medium := fun h => h.trans (by decide)
  simp only [baselinePathReason]
  split_ifs <;> simp_all [changeRiskReason]

theorem Signals.of_reaches {fileDiff : PatchFileDiff} {path : String} {addedLines : List Text}
    {level : RiskLevel} (h : Reaches (signalReasons fileDiff path addedLines) level) :
    Signals fileDiff path addedLines level := by
  rw [signalReasons, reaches_append, reaches_append, reaches_pathRiskReasons,
    reaches_metadataRiskReasons, reaches_contentRiskReasons] at h
  rcases h with (⟨check, hcheck, happlies, hle⟩ | hsymlink | ⟨hpresent, hle⟩) |
    ⟨line, hline, hfound⟩ | ⟨⟨line, hline, hfound⟩, hle⟩
  · exact .path check hcheck happlies hle
  · exact .symlink hsymlink
  · exact .metadata hpresent hle
  · exact .secret line hline hfound
  · exact .destructive line hline hfound hle

/-- A signal has its reason, unless it only asks for what any path without reasons is given. -/
theorem Signals.reaches {fileDiff : PatchFileDiff} {path : String} {addedLines : List Text}
    {level : RiskLevel} (h : Signals fileDiff path addedLines level) :
    Reaches (signalReasons fileDiff path addedLines) level ∨
      level ≤ (baselinePathReason path).riskLevel := by
  rw [signalReasons, reaches_append, reaches_append, reaches_pathRiskReasons,
    reaches_metadataRiskReasons, reaches_contentRiskReasons, le_baselinePathReason]
  cases h with
  | low hlow => exact .inr (.inl hlow)
  | path check hcheck happlies hle => exact .inl (.inl (.inl ⟨check, hcheck, happlies, hle⟩))
  | symlink hsymlink => exact .inl (.inl (.inr (.inl hsymlink)))
  | metadata hpresent hle => exact .inl (.inl (.inr (.inr ⟨hpresent, hle⟩)))
  | secret line hline hfound => exact .inl (.inr (.inl ⟨line, hline, hfound⟩))
  | destructive line hline hfound hle => exact .inl (.inr (.inr ⟨⟨line, hline, hfound⟩, hle⟩))
  | ordinary hdoc htest hle => exact .inr (.inr ⟨hdoc, htest, hle⟩)

/-- The reasons of a file reach exactly the levels that its inputs call for. -/
theorem le_highestRisk_fileRiskReasons {fileDiff : PatchFileDiff} {path : String}
    {addedLines : List Text} {level : RiskLevel} :
    level ≤ highestRisk ((fileRiskReasons fileDiff path addedLines).map (·.riskLevel)) .low ↔
      Signals fileDiff path addedLines level := by
  have hmedium : (baselinePathReason path).riskLevel ≤ .medium := by
    have hself : (baselinePathReason path).riskLevel ≤ (baselinePathReason path).riskLevel := le_rfl
    exact (le_baselinePathReason.mp hself).elim (fun h => h.trans (by decide)) fun h => h.2.2
  rw [le_highestRisk_iff_reaches, fileRiskReasons]
  split_ifs with hnil
  · constructor
    · rintro (hlow | ⟨reason, hmem, hle⟩)
      · exact .low hlow
      · rw [List.mem_singleton.mp hmem] at hle
        rcases le_baselinePathReason.mp hle with hlow | ⟨hdoc, htest, hle⟩
        · exact .low hlow
        · exact .ordinary hdoc htest hle
    · intro h
      rcases h.reaches with ⟨reason, hmem, -⟩ | hle
      · rw [hnil] at hmem
        cases hmem
      · exact .inr ⟨_, List.mem_cons_self, hle⟩
  · constructor
    · rintro (hlow | hreaches)
      · exact .low hlow
      · exact .of_reaches hreaches
    · intro h
      rcases h.reaches with hreaches | hle
      · exact .inr hreaches
      · obtain ⟨reason, hmem⟩ := List.exists_mem_of_ne_nil _ hnil
        have hhigh : RiskLevel.high ≤ reason.riskLevel := high_le_of_mem_signalReasons hmem
        exact .inr ⟨reason, hmem, (hle.trans hmedium).trans (le_trans (by decide) hhigh)⟩

omit [UnicodeTables] in
theorem reaches_criticalityBypassRiskReason {shadow : RustCriticalityShadow} {level : RiskLevel} :
    Reaches (criticalityBypassRiskReason shadow).toList level ↔
      shadow.criticalityBypassReason = some bypassReasonLockfileInvalidStructure ∧
        level ≤ .high := by
  unfold criticalityBypassRiskReason
  split_ifs with h <;> simp_all [Reaches, changeRiskReason]

theorem reaches_rustCriticalityRiskReason {fileRisk : FileRiskClassification}
    {shadow : RustCriticalityShadow} {level : RiskLevel} :
    Reaches (rustCriticalityRiskReason fileRisk shadow).toList level ↔
      ∃ enforced, rustRiskLevel shadow = some enforced ∧ ¬ enforced ≤ fileRisk.riskLevel ∧
        level ≤ enforced := by
  unfold rustCriticalityRiskReason
  cases rustRiskLevel shadow with
  | none => simp [Reaches]
  | some enforced =>
    by_cases h : enforced ≤ fileRisk.riskLevel
    · simp [Reaches, h]
    · simp [Reaches, changeRiskReason, h, not_le.mp h]

/-- The level that a file keeps in the report is the highest that its inputs and its shadow
call for. -/
theorem le_attachCriticalityShadow {fileDiff : PatchFileDiff} {addedLinesByPath : AddedLines}
    {path : String} {fileRisk : FileRiskClassification} {shadow : RustCriticalityShadow}
    {level : RiskLevel} (hpath : normalizeRepoRelativePath fileDiff.path = .ok path)
    (h : classifyPatchFileRisk fileDiff addedLinesByPath = .ok fileRisk) :
    level ≤ (attachCriticalityShadow fileRisk shadow).riskLevel ↔
      AssessedSignals fileDiff path ((addedLinesByPath.get path).getD []) shadow level := by
  obtain ⟨path', hpath', -, hreasons, hlevel⟩ := classifyPatchFileRisk_eq_ok h
  rw [hpath, Except.ok.injEq] at hpath'
  subst hpath'
  have hfile : ∀ l, l ≤ fileRisk.riskLevel ↔
      Signals fileDiff path ((addedLinesByPath.get path).getD []) l := by
    intro l
    rw [hlevel, hreasons, le_highestRisk_fileRiskReasons]
  have hkept : level ≤ (attachCriticalityShadow fileRisk shadow).riskLevel ↔
      level ≤ fileRisk.riskLevel ∨ Reaches (criticalityBypassRiskReason shadow).toList level ∨
        Reaches (rustCriticalityRiskReason fileRisk shadow).toList level := by
    rw [attachCriticalityShadow, le_highestRisk_iff_reaches, reaches_append, reaches_append, hlevel,
      le_highestRisk_iff_reaches, or_assoc, or_assoc]
  rw [hkept, hfile, reaches_criticalityBypassRiskReason, reaches_rustCriticalityRiskReason]
  constructor
  · rintro (hsignals | ⟨hinvalid, hle⟩ | ⟨enforced, hassessed, -, hle⟩)
    · exact .file hsignals
    · exact .bypass hinvalid hle
    · exact .rust enforced hassessed hle
  · intro h
    cases h with
    | file hsignals => exact .inl hsignals
    | bypass hinvalid hle => exact .inr (.inl ⟨hinvalid, hle⟩)
    | rust enforced hassessed hle =>
      -- A level that the file already has gives no reason of its own.
      by_cases hbelow : enforced ≤ fileRisk.riskLevel
      · exact .inl ((hfile level).mp (hle.trans hbelow))
      · exact .inr (.inr ⟨enforced, hassessed, hbelow, hle⟩)

/-! ## Both paths of a rename -/

/-- The new path of a file, and the old path that a rename removes. -/
def touchedPaths (fileDiff : PatchFileDiff) : List String :=
  fileDiff.path :: if fileDiff.kind = .renamed then fileDiff.oldPath.toList else []

/-- The path, normalized and in lower case, matches a security-sensitive pattern. -/
def SensitivePath (path : String) : Prop :=
  ∃ normalized, normalizeRepoRelativePath path = .ok normalized ∧
    isSecuritySensitive (lower normalized.toList) = true

/-- The report answers for every path that the patch touches. -/
structure CoversTouchedPaths (patchDiff : PatchDiff) (report : ChangeRiskReport) : Prop where
  sensitive : ∀ fileDiff ∈ patchDiff.files, ∀ path ∈ touchedPaths fileDiff, SensitivePath path →
    (∃ reason ∈ report.reasons, reason.riskLevel = .critical) ∧ gateBlocked report = true
  renamed : ∀ entry ∈ patchDiff.files.zip report.files, entry.1.kind = .renamed →
    ∀ path ∈ touchedPaths entry.1, ∀ level, pathRisk path = .ok level →
      level ≤ entry.2.riskLevel

/-- The lines that the classifier has for a path. -/
def addedLinesOf (patchDiff : PatchDiff) (path : String) : List Text :=
  match extractAddedLinesByPath (Utf8.visible patchDiff.patch) with
  | .ok addedLines => (addedLines.get path).getD []
  | .error _ => []

/-- Every renamed file calls by itself for each level that its old path calls for. -/
def RenamesSignalled (analyses : Analyses) (patchDiff : PatchDiff) : Prop :=
  ∀ fileDiff ∈ patchDiff.files, fileDiff.kind = .renamed → ∀ old ∈ fileDiff.oldPath,
    ∀ oldPath path, normalizeRepoRelativePath old = .ok oldPath →
      normalizeRepoRelativePath fileDiff.path = .ok path →
      ∀ level, Signals (pathOnly old) oldPath [] level →
        AssessedSignals fileDiff path (addedLinesOf patchDiff path)
          (analyses.criticalityShadowForFile patchDiff fileDiff) level

theorem pathRisk_eq_ok {path : String} {level : RiskLevel} (h : pathRisk path = .ok level) :
    ∃ normalized, normalizeRepoRelativePath path = .ok normalized ∧
      ∀ l, l ≤ level ↔ Signals (pathOnly path) normalized [] l := by
  unfold pathRisk at h
  cases hclassified : classifyPatchFileRisk (pathOnly path) [] with
  | error e =>
    rw [hclassified] at h
    cases h
  | ok fileRisk =>
    obtain ⟨normalized, hpath, -, hreasons, hlevel⟩ := classifyPatchFileRisk_eq_ok hclassified
    rw [hclassified] at h
    cases h
    refine ⟨normalized, hpath, fun l => ?_⟩
    change l ≤ fileRisk.riskLevel ↔ _
    rw [hlevel, hreasons, le_highestRisk_fileRiskReasons]
    rfl

/-- A path that normalizes is given the level that it signals. -/
theorem pathRisk_of_ok {path normalized : String}
    (h : normalizeRepoRelativePath path = .ok normalized) : ∃ level, pathRisk path = .ok level := by
  simp [pathRisk, classifyPatchFileRisk, pathOnly, h, Except.map, bind, Except.bind, pure,
    Except.pure]

/-- What a path calls for alone, the file that has it as its new path calls for too. -/
theorem Signals.of_pathOnly {fileDiff : PatchFileDiff} {path : String} {addedLines : List Text}
    {level : RiskLevel} (h : Signals (pathOnly fileDiff.path) path [] level) :
    Signals fileDiff path addedLines level := by
  cases h with
  | low hlow => exact .low hlow
  | path check hcheck happlies hle => exact .path check hcheck happlies hle
  | symlink hsymlink => exact absurd hsymlink (by simp [isSymlinkFile, pathOnly])
  | metadata hpresent hle =>
    rcases hpresent with hbinary | hmode | hextension
    · cases hbinary
    · cases hmode
    · exact .metadata (.inr (.inr hextension)) hle
  | secret line hline => cases hline
  | destructive line hline => cases hline
  | ordinary hdoc htest hle => exact .ordinary hdoc htest hle

theorem SensitivePath.pathRisk {path : String} (h : SensitivePath path) :
    pathRisk path = .ok .critical := by
  obtain ⟨normalized, hpath, hsensitive⟩ := h
  obtain ⟨level, hlevel⟩ := pathRisk_of_ok hpath
  obtain ⟨normalized', hpath', hsignals⟩ := pathRisk_eq_ok hlevel
  rw [hpath, Except.ok.injEq] at hpath'
  subst hpath'
  have hcritical : RiskLevel.critical ≤ level :=
    (hsignals .critical).mpr (.path _ List.mem_cons_self hsensitive le_rfl)
  rw [hlevel, RiskLevel.critical_le.mp hcritical]

section Report
variable {analyses : Analyses} {patchDiff : PatchDiff} {validationReasons : List ChangeRiskReason}
  {policy : DiffLimitPolicy} {report : ChangeRiskReport}

/-- A file of the report has exactly the levels that its inputs and its shadow call for. -/
theorem le_reported (h : classifyPatchRisk analyses patchDiff validationReasons policy = .ok report)
    {fileDiff : PatchFileDiff} {fileRisk : FileRiskClassification}
    (hentry : (fileDiff, fileRisk) ∈ patchDiff.files.zip report.files) :
    ∃ path, normalizeRepoRelativePath fileDiff.path = .ok path ∧ ∀ level,
      level ≤ fileRisk.riskLevel ↔ AssessedSignals fileDiff path (addedLinesOf patchDiff path)
        (analyses.criticalityShadowForFile patchDiff fileDiff) level := by
  obtain ⟨addedLines, hlines, hfiles⟩ := classifyPatchRisk_eq_ok h
  obtain ⟨ownRisk, hown, rfl⟩ :=
    classifyChangedFile_eq_ok ((List.forall₂_iff_zip.mp hfiles).2 hentry)
  obtain ⟨path, hpath, -⟩ := classifyPatchFileRisk_eq_ok hown
  refine ⟨path, hpath, fun level => ?_⟩
  have hkept : addedLinesOf patchDiff path = (addedLines.get path).getD [] := by
    rw [addedLinesOf, hlines]
  rw [hkept]
  exact le_attachCriticalityShadow hpath hown

/-- Every file of the patch has its entry in the report. -/
theorem exists_reported
    (h : classifyPatchRisk analyses patchDiff validationReasons policy = .ok report)
    {fileDiff : PatchFileDiff} (hfile : fileDiff ∈ patchDiff.files) :
    ∃ fileRisk, (fileDiff, fileRisk) ∈ patchDiff.files.zip report.files := by
  obtain ⟨addedLines, -, hfiles⟩ := classifyPatchRisk_eq_ok h
  obtain ⟨i, hi, rfl⟩ := List.mem_iff_getElem.mp hfile
  have hi' : i < report.files.length := hfiles.length_eq ▸ hi
  exact ⟨report.files[i], List.mem_iff_getElem.mpr ⟨i, by simp [hi, hi'], by simp⟩⟩

/-- A critical file has a critical reason, which blocks the patch. -/
theorem blocked_of_critical
    (h : classifyPatchRisk analyses patchDiff validationReasons policy = .ok report)
    {fileDiff : PatchFileDiff} {fileRisk : FileRiskClassification}
    (hentry : (fileDiff, fileRisk) ∈ patchDiff.files.zip report.files)
    (hlevel : .critical ≤ fileRisk.riskLevel) :
    (∃ reason ∈ report.reasons, reason.riskLevel = .critical) ∧ gateBlocked report = true := by
  obtain ⟨addedLines, -, hfiles⟩ := classifyPatchRisk_eq_ok h
  obtain ⟨ownRisk, -, rfl⟩ :=
    classifyChangedFile_eq_ok ((List.forall₂_iff_zip.mp hfiles).2 hentry)
  rw [attachCriticalityShadow, le_highestRisk_iff_reaches] at hlevel
  obtain ⟨reason, hmem, hle⟩ := hlevel.resolve_left (by decide)
  have hreason : reason ∈ report.reasons :=
    List.mem_append_left _ (List.mem_flatMap.mpr ⟨_, (List.of_mem_zip hentry).2, hmem⟩)
  have hcritical : ∃ r ∈ report.reasons, r.riskLevel = .critical :=
    ⟨reason, hreason, RiskLevel.critical_le.mp hle⟩
  exact ⟨hcritical, gateBlocked_iff.mpr hcritical⟩

/-- The report answers for every touched path exactly when each renamed file calls by itself
for the levels of its old path. -/
theorem coversTouchedPaths_iff
    (h : classifyPatchRisk analyses patchDiff validationReasons policy = .ok report) :
    CoversTouchedPaths patchDiff report ↔ RenamesSignalled analyses patchDiff := by
  constructor
  · intro hcovers fileDiff hfile hkind old hold oldPath path hnorm hpath level hsignals
    obtain ⟨fileRisk, hentry⟩ := exists_reported h hfile
    obtain ⟨path', hpath', hlevels⟩ := le_reported h hentry
    rw [hpath, Except.ok.injEq] at hpath'
    subst hpath'
    obtain ⟨oldLevel, hrisk⟩ := pathRisk_of_ok hnorm
    obtain ⟨oldPath', hnorm', hold'⟩ := pathRisk_eq_ok hrisk
    rw [hnorm, Except.ok.injEq] at hnorm'
    subst hnorm'
    have htouched : old ∈ touchedPaths fileDiff := by
      rw [touchedPaths, if_pos hkind]
      exact List.mem_cons_of_mem _ (Option.mem_toList.mpr hold)
    have hle : oldLevel ≤ fileRisk.riskLevel :=
      hcovers.renamed _ hentry hkind old htouched oldLevel hrisk
    exact (hlevels level).mp (((hold' level).mpr hsignals).trans hle)
  · intro hsignalled
    have hrisk : ∀ fileDiff fileRisk, (fileDiff, fileRisk) ∈ patchDiff.files.zip report.files →
        ∀ path ∈ touchedPaths fileDiff, ∀ level, pathRisk path = .ok level →
          level ≤ fileRisk.riskLevel := by
      intro fileDiff fileRisk hentry path htouched level hlevel
      obtain ⟨newPath, hnew, hlevels⟩ := le_reported h hentry
      obtain ⟨normalized, hnorm, hsignals⟩ := pathRisk_eq_ok hlevel
      have hself : Signals (pathOnly path) normalized [] level := (hsignals level).mp le_rfl
      rw [hlevels]
      rcases List.mem_cons.mp htouched with rfl | hold
      · rw [hnew, Except.ok.injEq] at hnorm
        subst hnorm
        exact .file hself.of_pathOnly
      · split_ifs at hold with hkind
        · exact hsignalled fileDiff (List.of_mem_zip hentry).1 hkind path
            (Option.mem_toList.mp hold) normalized newPath hnorm hnew level hself
        · cases hold
    refine ⟨fun fileDiff hfile path htouched hsensitive => ?_,
      fun entry hentry _ => hrisk entry.1 entry.2 hentry⟩
    obtain ⟨fileRisk, hentry⟩ := exists_reported h hfile
    exact blocked_of_critical h hentry
      (hrisk fileDiff fileRisk hentry path htouched .critical hsensitive.pathRisk)

end Report

end Covers

/-! ## Sample renames -/

namespace Sample

/-- The analyses of a text file without added lines: no plan, no intent, and no Rust kernel. -/
def analyses : Analyses where
  criticalityShadowForFile _ _ := {
    available := false
    criticalityIndex := none
    riskLevel := none
    reasons := []
    semanticMetrics := none
    pathCategory := none
    pathSeverity := none
    errorCode := some "rust-kernel-unavailable"
    errorReason := some "Rust kernel is not installed."
    criticalityBypassVerdict := none
    criticalityBypassReason := none }
  buildDependencyGovernancePlan _ := ⟨false, false, false, false, false, []⟩
  classifyActionIntent _ _ := []

/-- The patch of a rename without any other change. The digest and size are those of the
rename of `.env` to `notes.txt`. -/
def rename (old new : String) : PatchDiff where
  workspacePath := "/work"
  baselineCommitSha := "3f786850e387550fdab836ed7e6dc881de23001b"
  patch := Utf8.ofText ("diff --git a/" ++ old ++ " b/" ++ new ++
    "\nsimilarity index 100%\nrename from " ++ old ++ "\nrename to " ++ new ++ "\n").toList
  patchSha256 := "38b427e754caf8f0e385a6c80e8255ef66aad4e09df64e5b4c4906fc6718dd99"
  patchSizeBytes := 89
  files := [{
    path := new
    kind := .renamed
    additions := some 0
    deletions := some 0
    binary := false
    oldPath := some old
    oldMode := some "100644"
    newMode := some "100644"
    modeChanged := false }]
  ignoredFiles := []

end Sample

open PyText.Ascii

/-- A documentation file that becomes source code keeps its report complete. -/
theorem renamed_notes_covers_iff :
    ∃ report, classifyPatchRisk Sample.analyses (Sample.rename "docs/notes.md" "src/notes.py") []
        defaultDiffLimitPolicy = .ok report ∧
      (CoversTouchedPaths (Sample.rename "docs/notes.md" "src/notes.py") report ↔
        RenamesSignalled Sample.analyses (Sample.rename "docs/notes.md" "src/notes.py")) := by
  have hok : (classifyPatchRisk Sample.analyses (Sample.rename "docs/notes.md" "src/notes.py") []
      defaultDiffLimitPolicy).isOk = true := by decide +kernel
  cases hreport : classifyPatchRisk Sample.analyses
      (Sample.rename "docs/notes.md" "src/notes.py") [] defaultDiffLimitPolicy with
  | error e =>
    rw [hreport] at hok
    cases hok
  | ok report => exact ⟨report, rfl, coversTouchedPaths_iff hreport⟩

/-- Renaming `.env` to `notes.txt` passes the gate with a low risk. -/
theorem renamed_env_uncovered :
    ∃ report, classifyPatchRisk Sample.analyses (Sample.rename ".env" "notes.txt") []
        defaultDiffLimitPolicy = .ok report ∧ report.overallRiskLevel = .low ∧
      ¬ CoversTouchedPaths (Sample.rename ".env" "notes.txt") report := by
  have hok : (classifyPatchRisk Sample.analyses (Sample.rename ".env" "notes.txt") []
      defaultDiffLimitPolicy).toOption.map (fun r => (r.overallRiskLevel, gateBlocked r)) =
        some (.low, false) := by decide +kernel
  cases hreport : classifyPatchRisk Sample.analyses (Sample.rename ".env" "notes.txt") []
      defaultDiffLimitPolicy with
  | error e =>
    rw [hreport] at hok
    cases hok
  | ok report =>
    rw [hreport, Except.toOption, Option.map_some, Option.some.injEq, Prod.mk.injEq] at hok
    refine ⟨report, rfl, hok.1, fun hcovers => ?_⟩
    have hsensitive : SensitivePath ".env" := ⟨".env", by decide, by decide⟩
    have hblocked : gateBlocked report = true :=
      (hcovers.sensitive _ List.mem_cons_self ".env" (List.mem_cons_of_mem _ List.mem_cons_self)
        hsensitive).2
    rw [hok.2] at hblocked
    cases hblocked

end Rygnal.ChangeRisk
