import Rygnal.ChangeRisk.SubjectiveRisk
import Rygnal.GuardedRun.PatchFinalizer

/-! # More evidence is judged more strictly

What the change gate and the finalizer choose for two reports of one patch when one of them has
all reasons of the other, and what the layers of `classify_and_decide_patch` add to the reasons of
the file classifier.
-/

namespace Rygnal.GuardedRun
open Rygnal.Core Rygnal.Core.PyException Rygnal.Library Rygnal.Library.PyText Rygnal.ChangeRisk
  Rygnal.Approval Rygnal.Apply Rygnal.Artifact Rygnal.Intent

/-! ## The choice of the finalizer -/

inductive FinalizerChoice where
  | tryAutomaticApply
  | askForApproval
  | block
deriving DecidableEq, Repr

namespace FinalizerChoice

def order : FinalizerChoice → ℕ
  | .tryAutomaticApply => 0
  | .askForApproval => 1
  | .block => 2

theorem order_injective : Function.Injective order := by
  intro a b h
  cases a <;> cases b <;> first | rfl | cases h

instance : LinearOrder FinalizerChoice := LinearOrder.lift' order order_injective

theorem tryAutomaticApply_le (choice : FinalizerChoice) : tryAutomaticApply ≤ choice :=
  Nat.zero_le _

theorem le_block (choice : FinalizerChoice) : choice ≤ block := by
  cases choice <;> decide

end FinalizerChoice

/-- The tests of `finalize_guarded_patch` on the report of a patch. -/
def finalizerChoice (request : GuardedPatchFinalizationRequest) (patchDiff : PatchDiff)
    (riskReport : ChangeRiskReport) : FinalizerChoice :=
  if gateBlocked riskReport || riskReport.overallRiskLevel = .critical then .block
  else if (evaluatePatchApprovalRequirement patchDiff riskReport).required ||
      request.intentFallbackEvaluation.any IntentFallbackEvaluation.requiresApproval then
    .askForApproval
  else .tryAutomaticApply

section Choice
variable [BytesDigest] {R : Type}

/-- What the finalizer does for its choice. -/
def carryOut (git : GitRepository R) (answers : FinalizerAnswers)
    (request : GuardedPatchFinalizationRequest) (patchDiff : PatchDiff)
    (riskReport : ChangeRiskReport) (repo : R) :
    FinalizerChoice → Except PyException GuardedPatchFinalizationResult × R
  | .block => (.ok (finalResult .blocked .notApplied (some ("Generated patch blocked before " ++
      "trusted mutation: critical risk or a dangerous change was detected."))), repo)
  | .askForApproval => (persistPendingApproval answers (requiredApproval
      (request.intentFallbackEvaluation.any IntentFallbackEvaluation.requiresApproval)
      (evaluatePatchApprovalRequirement patchDiff riskReport).required), repo)
  | .tryAutomaticApply => applyAutomatically git answers
      ⟨patchDiff, request.trustedRepoPath, riskReport, request.hasLogger⟩ repo

theorem finalizeReported_eq_carryOut (git : GitRepository R) (answers : FinalizerAnswers)
    (request : GuardedPatchFinalizationRequest) (patchDiff : PatchDiff)
    (riskReport : ChangeRiskReport) (repo : R) :
    finalizeReported git answers request patchDiff riskReport repo =
      carryOut git answers request patchDiff riskReport repo
        (finalizerChoice request patchDiff riskReport) := by
  rw [finalizeReported, finalizerChoice]
  split
  · rfl
  · split
    · rfl
    · rfl

/-- A request is decided without its report, or by the choice for its report. -/
theorem finalizeGuardedPatch_choice (git : GitRepository R) (answers : FinalizerAnswers)
    (request : GuardedPatchFinalizationRequest) (repo : R) :
    (∃ ended, ∀ riskReport, finalizeGuardedPatch git answers
      { request with riskReport := some riskReport } repo = ended) ∨
    ∃ patchDiff, request.patchDiff = some patchDiff ∧ ∀ riskReport,
      finalizeGuardedPatch git answers { request with riskReport := some riskReport } repo =
        carryOut git answers request patchDiff riskReport repo
          (finalizerChoice request patchDiff riskReport) := by
  by_cases htimed : (request.commandTimedOut ||
      decide (normalizeCurrentStatus request.currentStatus = .timedOut)) = true
  · exact .inl ⟨_, fun _ => if_pos htimed⟩
  by_cases hfailed : (decide (request.commandExitCode ∉ [none, some 0]) ||
      decide (normalizeCurrentStatus request.currentStatus = .failed)) = true
  · exact .inl ⟨_, fun _ => (if_neg htimed).trans (if_pos hfailed)⟩
  by_cases hblocked : normalizeCurrentStatus request.currentStatus = .blocked
  · exact .inl ⟨_, fun _ => (if_neg htimed).trans ((if_neg hfailed).trans (if_pos hblocked))⟩
  have hfinalize : ∀ riskReport, finalizeGuardedPatch git answers
      { request with riskReport := some riskReport } repo = _ :=
    fun _ => (if_neg htimed).trans ((if_neg hfailed).trans (if_neg hblocked))
  simp only at hfinalize
  cases hintent : request.intentFallbackEvaluation.filter IntentFallbackEvaluation.shouldBlock with
  | some intent =>
    simp only [hintent] at hfinalize
    exact .inl ⟨_, hfinalize⟩
  | none =>
    simp only [hintent, finalizePatch] at hfinalize
    cases hpatch : request.patchDiff.filter fun patchDiff => patchDiff.files ≠ [] with
    | none =>
      simp only [hpatch] at hfinalize
      exact .inl ⟨_, hfinalize⟩
    | some patchDiff =>
      simp only [hpatch] at hfinalize
      refine .inr ⟨patchDiff, (Option.filter_eq_some_iff.mp hpatch).1, ?_⟩
      intro riskReport
      rw [hfinalize, finalizeReported_eq_carryOut]
      rfl

end Choice

/-! ## Reports with more reasons -/

/-- Every reason of a file, and of the report, stays. -/
structure Extends (r r' : ChangeRiskReport) : Prop where
  files : ∀ file ∈ r.files, ∃ file' ∈ r'.files, file'.path = file.path ∧
    file.reasons ⊆ file'.reasons
  reportReasons : r.reportReasons ⊆ r'.reportReasons

/-- The level of each file is the highest of its reasons. -/
def Levelled (report : ChangeRiskReport) : Prop :=
  ∀ file ∈ report.files, file.riskLevel = highestRisk (file.reasons.map (·.riskLevel)) .low

/-- Each file has a reason. -/
def Reasoned (report : ChangeRiskReport) : Prop := ∀ file ∈ report.files, file.reasons ≠ []

instance (report : ChangeRiskReport) : Decidable (Levelled report) :=
  inferInstanceAs (Decidable (∀ file ∈ report.files, _))

instance (report : ChangeRiskReport) : Decidable (Reasoned report) :=
  inferInstanceAs (Decidable (∀ file ∈ report.files, _))

theorem highestRisk_mono {levels levels' : List RiskLevel} {default : RiskLevel}
    (h : ∀ level ∈ levels, ∃ level' ∈ levels', level ≤ level') :
    highestRisk levels default ≤ highestRisk levels' default := by
  apply le_highestRisk.mpr
  rcases le_highestRisk.mp (le_refl (highestRisk levels default)) with hdefault | ⟨level, hmem, hle⟩
  · exact .inl hdefault
  · have ⟨level', hmem', hle'⟩ := h level hmem
    exact .inr ⟨level', hmem', hle.trans hle'⟩

/-- The highest level of some reasons is not above that of more reasons. -/
theorem reasonsLevel_mono {reasons reasons' : List ChangeRiskReason} (h : reasons ⊆ reasons') :
    highestRisk (reasons.map (·.riskLevel)) .low ≤ highestRisk (reasons'.map (·.riskLevel)) .low := by
  apply highestRisk_mono
  intro level hlevel
  exact ⟨level, List.map_subset _ h hlevel, le_refl level⟩

section Monotone
variable {r r' : ChangeRiskReport}

theorem Extends.reasons (h : Extends r r') : r.reasons ⊆ r'.reasons := by
  intro reason hreason
  rcases List.mem_append.mp hreason with hfile | hreport
  · have ⟨file, hmem, hreason⟩ := List.mem_flatMap.mp hfile
    have ⟨file', hmem', _, hsubset⟩ := h.files file hmem
    exact List.mem_append_left _ (List.mem_flatMap.mpr ⟨file', hmem', hsubset hreason⟩)
  · exact List.mem_append_right _ (h.reportReasons hreport)

theorem Extends.overallRiskLevel (h : Extends r r') (hr : Levelled r) (hr' : Levelled r') :
    r.overallRiskLevel ≤ r'.overallRiskLevel := by
  apply highestRisk_mono
  intro level hlevel
  rcases List.mem_append.mp hlevel with hfile | hreport
  · obtain ⟨file, hmem, rfl⟩ := List.mem_map.mp hfile
    have ⟨file', hmem', _, hsubset⟩ := h.files file hmem
    refine ⟨file'.riskLevel, List.mem_append_left _ (List.mem_map_of_mem hmem'), ?_⟩
    rw [hr file hmem, hr' file' hmem']
    exact reasonsLevel_mono hsubset
  · exact ⟨level, List.mem_append_right _ (List.map_subset _ h.reportReasons hreport), le_refl level⟩

theorem Extends.gateBlocked (h : Extends r r') (hblocked : gateBlocked r = true) :
    ChangeRisk.gateBlocked r' = true := by
  have ⟨reason, hreason, hcritical⟩ := gateBlocked_iff.mp hblocked
  exact gateBlocked_iff.mpr ⟨reason, h.reasons hreason, hcritical⟩

theorem fileApprovalReasons_eq_nil {file : FileRiskClassification} :
    fileApprovalReasons file = [] ↔ isLowRiskDocsOrTests file = true ∧
      ∀ reason ∈ file.reasons, reason.riskLevel ∉ [RiskLevel.medium, .high] := by
  simp [fileApprovalReasons]

/-- When nothing of a patch must be approved. -/
theorem approvalReasons_eq_nil {patchDiff : PatchDiff} :
    approvalReasons patchDiff r = [] ↔ patchDiff.ignoredFiles = [] ∧ r.overallRiskLevel = .low ∧
      (∀ reason ∈ r.reportReasons, reason.riskLevel ∉ [RiskLevel.medium, .high, .critical]) ∧
      ∀ file ∈ r.files, fileApprovalReasons file = [] := by
  have hdedupe : approvalReasons patchDiff r = dedupeOn
    (fun kept reason => kept.code = reason.code ∧ kept.path = reason.path) _ := rfl
  rw [hdedupe, dedupeOn_eq_nil]
  simp only [List.append_eq_nil_iff, List.map_eq_nil_iff, List.filter_eq_nil_iff,
    List.flatMap_eq_nil_iff, and_assoc]
  simp

/-- A file of documentation or tests is one with fewer reasons too, as long as it has one. -/
theorem isLowRiskDocsOrTests_of_subset {file file' : FileRiskClassification}
    (hsubset : file.reasons ⊆ file'.reasons) (hreasoned : file.reasons ≠ [])
    (hlevel : file.riskLevel ≤ file'.riskLevel) (h : isLowRiskDocsOrTests file' = true) :
    isLowRiskDocsOrTests file = true := by
  rw [isLowRiskDocsOrTests] at h ⊢
  split at h
  · cases h
  · rename_i hlow
    obtain ⟨_, hcodes⟩ := of_decide_eq_true h
    rw [not_not.mp hlow] at hlevel
    have hfileLow : file.riskLevel = .low := le_antisymm hlevel (RiskLevel.low_le _)
    rw [if_neg (not_not.mpr hfileLow)]
    exact decide_eq_true ⟨hreasoned, fun reason hreason => hcodes reason (hsubset hreason)⟩

/-- What more reasons do not ask for, fewer do not. -/
theorem Extends.approvalReasons (h : Extends r r') (hr : Levelled r) (hr' : Levelled r')
    (hreasoned : Reasoned r) {patchDiff : PatchDiff}
    (hnone : Approval.approvalReasons patchDiff r' = []) :
    Approval.approvalReasons patchDiff r = [] := by
  have ⟨hignored, hoverall, hreports, hfiles⟩ := approvalReasons_eq_nil.mp hnone
  have hlow : r.overallRiskLevel = .low := by
    have hle := h.overallRiskLevel hr hr'
    rw [hoverall] at hle
    exact le_antisymm hle (RiskLevel.low_le _)
  refine approvalReasons_eq_nil.mpr ⟨hignored, hlow, ?_, ?_⟩
  · exact fun reason hreason => hreports reason (h.reportReasons hreason)
  · intro file hmem
    have ⟨file', hmem', _, hsubset⟩ := h.files file hmem
    have ⟨hdocs, hraised⟩ := fileApprovalReasons_eq_nil.mp (hfiles file' hmem')
    have hlevel : file.riskLevel ≤ file'.riskLevel := by
      rw [hr file hmem, hr' file' hmem']
      exact reasonsLevel_mono hsubset
    have hfile := isLowRiskDocsOrTests_of_subset hsubset (hreasoned file hmem) hlevel hdocs
    exact fileApprovalReasons_eq_nil.mpr
      ⟨hfile, fun reason hreason => hraised reason (hsubset hreason)⟩

theorem Extends.finalizerChoice (h : Extends r r') (hr : Levelled r) (hr' : Levelled r')
    (hreasoned : Reasoned r) (request : GuardedPatchFinalizationRequest) (patchDiff : PatchDiff) :
    finalizerChoice request patchDiff r ≤ GuardedRun.finalizerChoice request patchDiff r' := by
  have hoverall := h.overallRiskLevel hr hr'
  cases hblocked' : ChangeRisk.gateBlocked r' || decide (r'.overallRiskLevel = .critical) with
  | true =>
    have hblock : GuardedRun.finalizerChoice request patchDiff r' = .block := by
      rw [GuardedRun.finalizerChoice, hblocked', if_pos rfl]
    rw [hblock]
    exact FinalizerChoice.le_block _
  | false =>
    have ⟨hgate', hcritical'⟩ := Bool.or_eq_false_iff.mp hblocked'
    have hgate : ChangeRisk.gateBlocked r = false := by
      rw [← Bool.not_eq_true]
      intro hgate
      rw [h.gateBlocked hgate] at hgate'
      cases hgate'
    have hcritical : decide (r.overallRiskLevel = .critical) = false := by
      rw [decide_eq_false_iff_not] at hcritical' ⊢
      intro hcritical
      rw [hcritical] at hoverall
      exact hcritical' (RiskLevel.critical_le.mp hoverall)
    rw [GuardedRun.finalizerChoice, GuardedRun.finalizerChoice, hblocked', hgate, hcritical]
    simp only [Bool.or_self, Bool.false_eq_true, if_false, evaluatePatchApprovalRequirement, hgate,
      hgate']
    by_cases hnone : Approval.approvalReasons patchDiff r' = []
    · have hnone' := h.approvalReasons hr hr' hreasoned hnone
      rw [hnone, hnone']
    · simp only [ne_eq, hnone, not_false_eq_true, decide_true, Bool.true_or, if_true]
      split
      · exact le_refl _
      · exact FinalizerChoice.tryAutomaticApply_le _

end Monotone

/-! ## The layers of the classifier -/

section Layers
variable [UnicodeTables] {analyses : Analyses} {patchDiff : PatchDiff}
  {policy : DiffLimitPolicy}

theorem fileRiskReasons_ne_nil (fileDiff : PatchFileDiff) (path : String) (addedLines : List Text) :
    fileRiskReasons fileDiff path addedLines ≠ [] := by
  rw [fileRiskReasons]
  split
  · simp
  · assumption

/-- What the report holds of a file that the file classifier classified. -/
theorem classifyChangedFile_adds {addedLines : AddedLines} {fileDiff : PatchFileDiff}
    {file : FileRiskClassification}
    (h : classifyChangedFile analyses patchDiff addedLines fileDiff = .ok file) :
    ∃ own, classifyPatchFileRisk fileDiff addedLines = .ok own ∧ file.path = own.path ∧
      own.reasons ⊆ file.reasons ∧ file.reasons ≠ [] ∧
      file.riskLevel = highestRisk (file.reasons.map (·.riskLevel)) .low := by
  obtain ⟨own, hown, rfl⟩ := classifyChangedFile_eq_ok h
  have ⟨path, _, _, hreasons, _⟩ := classifyPatchFileRisk_eq_ok hown
  have hsubset : own.reasons ⊆ (attachCriticalityShadow own
      (analyses.criticalityShadowForFile patchDiff fileDiff)).reasons := by
    intro reason hreason
    exact List.mem_append_left _ (List.mem_append_left _ hreason)
  have hnonempty : own.reasons ≠ [] := by
    rw [hreasons]
    exact fileRiskReasons_ne_nil _ _ _
  refine ⟨own, hown, rfl, hsubset, ?_, rfl⟩
  intro hnil
  rw [hnil] at hsubset
  exact hnonempty (List.subset_nil.mp hsubset)

/-- The classifier gives every file a reason, and the level of its reasons. -/
theorem classifyPatchRisk_levelled {validationReasons : List ChangeRiskReason}
    {report : ChangeRiskReport}
    (h : classifyPatchRisk analyses patchDiff validationReasons policy = .ok report) :
    Levelled report ∧ Reasoned report := by
  have ⟨addedLines, _, hfiles⟩ := classifyPatchRisk_eq_ok h
  have hclassified : ∀ file ∈ report.files,
      ∃ fileDiff ∈ patchDiff.files,
        classifyChangedFile analyses patchDiff addedLines fileDiff = .ok file :=
    exists_of_forall₂ (R := fun file fileDiff =>
      classifyChangedFile analyses patchDiff addedLines fileDiff = .ok file) hfiles.flip
  constructor
  · intro file hfile
    have ⟨_, _, hok⟩ := hclassified file hfile
    have ⟨_, _, _, _, _, hlevel⟩ := classifyChangedFile_adds hok
    exact hlevel
  · intro file hfile
    have ⟨_, _, hok⟩ := hclassified file hfile
    have ⟨_, _, _, _, hreasons, _⟩ := classifyChangedFile_adds hok
    exact hreasons

/-- The decision keeps the reasons of the base report, and of the file classifier. -/
structure OnlyAdds (analyses : Analyses) (policy : DiffLimitPolicy) (patchDiff : PatchDiff)
    (decided : ChangeRiskReport) : Prop where
  base : ∃ report, classifyPatchRisk analyses patchDiff [] policy = .ok report ∧
    Extends report decided
  files : ∃ addedLines, extractAddedLinesByPath (Utf8.visible patchDiff.patch) = .ok addedLines ∧
    ∀ fileDiff ∈ patchDiff.files, ∃ own, classifyPatchFileRisk fileDiff addedLines = .ok own ∧
      ∃ file ∈ decided.files, file.path = own.path ∧ own.reasons ⊆ file.reasons
  levelled : Levelled decided
  reasoned : Reasoned decided

theorem classifyAndDecidePatch_onlyAdds [SubjectiveKernel] {workspace : GuardedWorkspace}
    {decision : PatchRiskDecision}
    (h : classifyAndDecidePatch analyses policy workspace patchDiff = .ok decision) :
    OnlyAdds analyses policy patchDiff decision.report := by
  simp only [classifyAndDecidePatch, bind_eq_ok] at h
  obtain ⟨report, hreport, reasons, _, final, hfinal, hdecision⟩ := h
  obtain rfl := Except.ok.inj hdecision
  rw [patchRiskDecision_report]
  have hadded : ∃ added, final = { report with reportReasons := added ++ report.reportReasons } := by
    rw [subjectiveReport] at hfinal
    split at hfinal
    · obtain rfl := Except.ok.inj hfinal
      exact ⟨[], rfl⟩
    · rw [classifyPatchRisk_validation, hreport] at hfinal
      exact ⟨reasons, (Except.ok.inj hfinal).symm⟩
  obtain ⟨added, rfl⟩ := hadded
  obtain ⟨hlevelled, hreasoned⟩ := classifyPatchRisk_levelled hreport
  obtain ⟨addedLines, hlines, hfiles⟩ := classifyPatchRisk_eq_ok hreport
  refine ⟨⟨report, hreport, ?_⟩, ⟨addedLines, hlines, ?_⟩, hlevelled, hreasoned⟩
  · refine ⟨fun file hfile => ⟨file, hfile, rfl, List.Subset.refl _⟩, ?_⟩
    exact List.subset_append_right _ _
  · intro fileDiff hmem
    obtain ⟨file, hfile, hok⟩ := exists_of_forall₂ hfiles fileDiff hmem
    obtain ⟨own, hown, hpath, hsubset, _⟩ := classifyChangedFile_adds hok
    exact ⟨own, hown, file, hfile, hpath, hsubset⟩

end Layers

/-! ## The gate as a whole -/

/-- The second report is judged at least as strictly as the first. -/
structure AsStrict (request : GuardedPatchFinalizationRequest) (patchDiff : PatchDiff)
    (r r' : ChangeRiskReport) : Prop where
  overall : r.overallRiskLevel ≤ r'.overallRiskLevel
  gate : gateBlocked r = true → gateBlocked r' = true
  choice : finalizerChoice request patchDiff r ≤ finalizerChoice request patchDiff r'

/-- More reasons are judged at least as strictly where every file has one already, as each file of
the classifier has, and the layers of the classifier only add reasons. -/
theorem evidence_monotone [UnicodeTables] [SubjectiveKernel] :
    (∀ request patchDiff (r r' : ChangeRiskReport), Levelled r → Levelled r' → Reasoned r →
      Extends r r' → AsStrict request patchDiff r r') ∧
    ∀ analyses policy workspace patchDiff decision,
      classifyAndDecidePatch analyses policy workspace patchDiff = .ok decision →
        OnlyAdds analyses policy patchDiff decision.report := by
  constructor
  · intro request patchDiff r r' hr hr' hreasoned h
    exact ⟨h.overallRiskLevel hr hr', h.gateBlocked,
      h.finalizerChoice hr hr' hreasoned request patchDiff⟩
  · intro analyses policy workspace patchDiff decision h
    exact classifyAndDecidePatch_onlyAdds h

namespace Unreasoned
open Sample

/-- A file without a reason. -/
def bareReport : ChangeRiskReport where
  baselineCommitSha := (onePatch "docs/a.md").baselineCommitSha
  patchSha256 := (onePatch "docs/a.md").patchSha256
  files := [⟨"docs/a.md", .modified, .low, [], some 1, some 1, false, none, none, none, false,
    none⟩]
  reportReasons := []

def request (riskReport : ChangeRiskReport) : GuardedPatchFinalizationRequest :=
  completedRequest (onePatch "docs/a.md") riskReport

end Unreasoned

open Unreasoned Sample PyText.Ascii

/-- With the reason that it is documentation, a file without a reason is no longer approved but
applied. -/
theorem bare_file_relaxed : Levelled bareReport ∧ Levelled (guideReport "docs/a.md") ∧
    Extends bareReport (guideReport "docs/a.md") ∧
    ¬ AsStrict (request bareReport) (onePatch "docs/a.md") bareReport
      (guideReport "docs/a.md") := by
  refine ⟨?_, ?_, ⟨?_, ?_⟩, ?_⟩
  · decide
  · decide
  · intro file hfile
    rw [bareReport, List.mem_singleton] at hfile
    subst hfile
    exact ⟨_, List.mem_cons_self, rfl, List.nil_subset _⟩
  · exact List.nil_subset _
  · intro h
    exact absurd h.choice (by decide)

/-- A guide with a further reason is judged as strictly, and the layers add to the reasons of the
locked notes. -/
theorem guide_asStrict : AsStrict (request (guideReport "docs/a.md")) (onePatch "docs/a.md")
      (guideReport "docs/a.md") { guideReport "docs/a.md" with
        reportReasons := [collectionFailedReason "Git executable was not found on PATH."] } ∧
    ∃ decision, classifyAndDecidePatch noAnalyses defaultDiffLimitPolicy lockedNotes
      (modifiedPatch ["notes.txt"]) = .ok decision ∧ OnlyAdds noAnalyses defaultDiffLimitPolicy
        (modifiedPatch ["notes.txt"]) decision.report := by
  constructor
  · apply evidence_monotone.1
    · decide
    · decide
    · decide
    · exact ⟨fun file hfile => ⟨file, hfile, rfl, List.Subset.refl _⟩, List.nil_subset _⟩
  · have hok : (classifyAndDecidePatch noAnalyses defaultDiffLimitPolicy lockedNotes
        (modifiedPatch ["notes.txt"])).toBool = true := by decide +kernel
    cases hdecision : classifyAndDecidePatch noAnalyses defaultDiffLimitPolicy lockedNotes
        (modifiedPatch ["notes.txt"]) with
    | error exc =>
      rw [hdecision] at hok
      cases hok
    | ok decision => exact ⟨decision, rfl, evidence_monotone.2 _ _ _ _ _ hdecision⟩

end Rygnal.GuardedRun
