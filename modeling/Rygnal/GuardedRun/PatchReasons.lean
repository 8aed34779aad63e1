import Rygnal.GuardedRun.RiskMonotone
import Rygnal.Apply.ApplyApproved
import Rygnal.ChangeRisk.DependencyGovernance

/-! # What the reasons of a whole patch enforce

A patch beyond a hard size limit is stopped by the change gate, which both the finalizer and the
application of an approved patch ask first. Beyond a soft limit, or with a changed dependency file,
it is not applied automatically.
-/

namespace Rygnal.GuardedRun
open Rygnal.Core Rygnal.Core.PyException Rygnal.Library Rygnal.Library.PyText Rygnal.ChangeRisk
  Rygnal.Approval Rygnal.Apply Rygnal.Artifact Rygnal.Intent Rygnal.Interceptor

/-! ## Limits -/

def validateLimitPair (metric : String) (softLimit hardLimit : ℤ) (allowZeroSoft : Bool) :
    Except PyException Unit := do
  let minSoft : ℤ := if allowZeroSoft then 0 else 1
  raiseIf (softLimit < minSoft)
    (valueError (metric ++ " soft limit must be at least " ++ toString minSoft ++ "."))
  raiseIf (hardLimit < 1) (valueError (metric ++ " hard limit must be at least 1."))
  raiseIf (softLimit > hardLimit) (valueError (metric ++ " soft limit must be <= hard limit."))

/-- `__post_init__` of `DiffLimitPolicy`. -/
def postInit (policy : DiffLimitPolicy) : Except PyException Unit := do
  validateLimitPair "changed_files" policy.softMaxChangedFiles policy.hardMaxChangedFiles false
  validateLimitPair "total_changed_lines" policy.softMaxTotalChangedLines
    policy.hardMaxTotalChangedLines false
  validateLimitPair "patch_size_bytes" policy.softMaxPatchSizeBytes policy.hardMaxPatchSizeBytes
    false
  validateLimitPair "binary_files" policy.softMaxBinaryFiles policy.hardMaxBinaryFiles true

/-- A size of a patch with its limits. -/
structure LimitedMetric where
  name : String
  observed : ℤ
  softLimit : ℤ
  hardLimit : ℤ

def limitedMetrics (policy : DiffLimitPolicy) (patchDiff : PatchDiff) : List LimitedMetric :=
  [⟨"changed_files", patchDiff.changedFileCount, policy.softMaxChangedFiles,
      policy.hardMaxChangedFiles⟩,
    ⟨"total_changed_lines", patchDiff.totalAdditions + patchDiff.totalDeletions,
      policy.softMaxTotalChangedLines, policy.hardMaxTotalChangedLines⟩,
    ⟨"patch_size_bytes", patchDiff.patchSizeBytes, policy.softMaxPatchSizeBytes,
      policy.hardMaxPatchSizeBytes⟩,
    ⟨"binary_files", patchDiff.binaryFileCount, policy.softMaxBinaryFiles,
      policy.hardMaxBinaryFiles⟩]

def ExceedsSoft (policy : DiffLimitPolicy) (patchDiff : PatchDiff) : Prop :=
  ∃ metric ∈ limitedMetrics policy patchDiff, metric.softLimit < metric.observed

def ExceedsHard (policy : DiffLimitPolicy) (patchDiff : PatchDiff) : Prop :=
  ∃ metric ∈ limitedMetrics policy patchDiff, metric.hardLimit < metric.observed

section Limits
variable {policy : DiffLimitPolicy} {patchDiff : PatchDiff}

theorem validateLimitPair_eq_ok {metric : String} {softLimit hardLimit : ℤ} {allowZeroSoft : Bool}
    (h : validateLimitPair metric softLimit hardLimit allowZeroSoft = .ok ()) :
    softLimit ≤ hardLimit := by
  obtain ⟨-, -, h⟩ := bind_eq_ok.mp h
  obtain ⟨-, -, h⟩ := bind_eq_ok.mp h
  exact not_lt.mp (of_decide_eq_false (raiseIf_eq_ok.mp h))

/-- A policy that is constructed has its soft limits below the hard ones. -/
theorem softLimit_le_hardLimit (h : postInit policy = .ok ()) :
    ∀ metric ∈ limitedMetrics policy patchDiff, metric.softLimit ≤ metric.hardLimit := by
  obtain ⟨_, hfiles, h⟩ := bind_eq_ok.mp h
  obtain ⟨_, hlines, h⟩ := bind_eq_ok.mp h
  obtain ⟨_, hbytes, hbinary⟩ := bind_eq_ok.mp h
  intro metric hmetric
  simp only [limitedMetrics, List.mem_cons, List.not_mem_nil, or_false] at hmetric
  rcases hmetric with rfl | rfl | rfl | rfl
  · exact validateLimitPair_eq_ok hfiles
  · exact validateLimitPair_eq_ok hlines
  · exact validateLimitPair_eq_ok hbytes
  · exact validateLimitPair_eq_ok hbinary

theorem mem_diffLimitReasons {reason : ChangeRiskReason} :
    reason ∈ diffLimitReasons patchDiff policy ↔
      ∃ metric ∈ limitedMetrics policy patchDiff,
        limitReason metric.name metric.observed metric.softLimit metric.hardLimit = some reason := by
  simp [diffLimitReasons, limitedMetrics, eq_comm]

theorem exists_critical_of_exceedsHard (h : ExceedsHard policy patchDiff) :
    ∃ reason ∈ diffLimitReasons patchDiff policy, reason.riskLevel = .critical := by
  obtain ⟨metric, hmetric, hexceeds⟩ := h
  have hreason : ∃ reason, limitReason metric.name metric.observed metric.softLimit
      metric.hardLimit = some reason ∧ reason.riskLevel = .critical := by
    rw [limitReason, if_pos hexceeds]
    exact ⟨_, rfl, rfl⟩
  obtain ⟨reason, hreason, hlevel⟩ := hreason
  exact ⟨reason, mem_diffLimitReasons.mpr ⟨metric, hmetric, hreason⟩, hlevel⟩

theorem exists_raised_of_exceedsSoft (h : ExceedsSoft policy patchDiff) :
    ∃ reason ∈ diffLimitReasons patchDiff policy, reason.riskLevel ≠ .low := by
  obtain ⟨metric, hmetric, hexceeds⟩ := h
  have hreason : ∃ reason, limitReason metric.name metric.observed metric.softLimit
      metric.hardLimit = some reason ∧ reason.riskLevel ≠ .low := by
    rw [limitReason]
    by_cases hhard : metric.observed > metric.hardLimit
    · rw [if_pos hhard]
      exact ⟨_, rfl, (by decide : RiskLevel.critical ≠ RiskLevel.low)⟩
    · rw [if_neg hhard, if_pos hexceeds]
      exact ⟨_, rfl, (by decide : RiskLevel.high ≠ RiskLevel.low)⟩
  obtain ⟨reason, hreason, hlevel⟩ := hreason
  exact ⟨reason, mem_diffLimitReasons.mpr ⟨metric, hmetric, hreason⟩, hlevel⟩

theorem diffLimitReasons_eq_nil (hpolicy : postInit policy = .ok ())
    (h : ¬ ExceedsSoft policy patchDiff) : diffLimitReasons patchDiff policy = [] := by
  refine List.eq_nil_iff_forall_not_mem.mpr ?_
  intro reason hreason
  obtain ⟨metric, hmetric, hreason⟩ := mem_diffLimitReasons.mp hreason
  have hsoft : ¬ metric.softLimit < metric.observed := fun hlt => h ⟨metric, hmetric, hlt⟩
  have hhard : ¬ metric.observed > metric.hardLimit := fun hgt =>
    hsoft ((softLimit_le_hardLimit hpolicy metric hmetric).trans_lt hgt)
  rw [limitReason, if_neg hhard, if_neg hsoft] at hreason
  cases hreason

end Limits

/-! ## Reports -/

section Reports
variable [UnicodeTables] {policy : DiffLimitPolicy} {patchDiff : PatchDiff} {analyses : Analyses}
  {validationReasons : List ChangeRiskReason} {report : ChangeRiskReport}

theorem mem_reasons_of_classified
    (h : classifyPatchRisk analyses patchDiff validationReasons policy = .ok report)
    {reason : ChangeRiskReason} (hreason : reason ∈ diffLimitReasons patchDiff policy ∨
      reason ∈ dependencyGovernanceReasons
        (analyses.buildDependencyGovernancePlan (patchDiff.files.map (·.path)))) :
    reason ∈ report.reasons := by
  obtain ⟨addedLines, -, h⟩ := bind_eq_ok.mp h
  obtain ⟨files, -, h⟩ := bind_eq_ok.mp h
  obtain rfl := Except.ok.inj h
  refine List.mem_append_right _ (List.mem_append_left _ ?_)
  rcases hreason with hlimit | hdependency
  · exact List.mem_append_left _ (List.mem_append_right _ hlimit)
  · exact List.mem_append_right _ hdependency

omit [UnicodeTables] in
/-- A reason that is not low keeps the finalizer from an automatic application. -/
theorem finalizerChoice_of_raised {reason : ChangeRiskReason} (hreason : reason ∈ report.reasons)
    (hlevel : reason.riskLevel ≠ .low) (request : GuardedPatchFinalizationRequest) :
    finalizerChoice request patchDiff report ≠ .tryAutomaticApply := by
  rw [finalizerChoice]
  by_cases hblocked : gateBlocked report = true
  · simp [hblocked]
  · have hrequired : (evaluatePatchApprovalRequirement patchDiff report).required = true := by
      by_contra hnot
      exact hlevel (low_of_not_required (by simpa using hblocked) (by simpa using hnot) reason
        hreason)
    rw [hrequired, Bool.true_or, if_pos rfl]
    split
    · intro h
      cases h
    · intro h
      cases h

theorem gateBlocked_of_exceedsHard
    (h : classifyPatchRisk analyses patchDiff validationReasons policy = .ok report)
    (hexceeds : ExceedsHard policy patchDiff) : gateBlocked report = true := by
  obtain ⟨reason, hreason, hlevel⟩ := exists_critical_of_exceedsHard hexceeds
  exact gateBlocked_iff.mpr ⟨reason, mem_reasons_of_classified h (.inl hreason), hlevel⟩

/-- Within the soft limits the report does not depend on the limits. -/
theorem classifyPatchRisk_of_within {policy' : DiffLimitPolicy}
    (h : classifyPatchRisk analyses patchDiff validationReasons policy = .ok report)
    (hpolicy : postInit policy = .ok ()) (hwithin : ¬ ExceedsSoft policy patchDiff)
    (hpolicy' : postInit policy' = .ok ()) (hwithin' : ¬ ExceedsSoft policy' patchDiff) :
    classifyPatchRisk analyses patchDiff validationReasons policy' = .ok report := by
  rw [← h, classifyPatchRisk, classifyPatchRisk, diffLimitReasons_eq_nil hpolicy hwithin,
    diffLimitReasons_eq_nil hpolicy' hwithin']

end Reports

/-! ## Finalization -/

section Finalization
variable [BytesDigest] {R : Type} {git : GitRepository R} {answers : FinalizerAnswers}
  {request : GuardedPatchFinalizationRequest} {repo : R} {patchDiff : PatchDiff}
  {report : ChangeRiskReport}

/-- The finalization of a reported patch stops before its report, or carries out its choice. -/
theorem finalizeGuardedPatch_reported
    {P : Except PyException GuardedPatchFinalizationResult × R → Prop}
    (hpatch : request.patchDiff = some patchDiff) (hreport : request.riskReport = some report)
    (hstopped : ∀ status outcome reason, outcome ∈ [.notApplied, .notGenerated] →
      P (.ok (finalResult status outcome reason), repo))
    (hchosen : P (carryOut git answers request patchDiff report repo
      (finalizerChoice request patchDiff report))) :
    P (finalizeGuardedPatch git answers request repo) := by
  simp only [finalizeGuardedPatch]
  split
  · exact hstopped _ _ _ (by decide)
  split
  · exact hstopped _ _ _ (by decide)
  split
  · exact hstopped _ _ _ (by decide)
  split
  · exact hstopped _ _ _ (by decide)
  rw [finalizePatch, hpatch, hreport]
  by_cases hfiles : patchDiff.files = []
  · simp only [Option.filter, hfiles, ne_eq, not_true_eq_false, decide_false, if_false,
      Bool.false_eq_true]
    split
    · exact hstopped _ _ _ (by decide)
    · exact hstopped _ _ _ (by decide)
  · simp only [Option.filter, hfiles, ne_eq, not_false_eq_true, decide_true, if_true]
    rw [finalizeReported_eq_carryOut]
    exact hchosen

/-- The finalization ends without touching the repository and without an approval to wait for. -/
def Dropped (repo : R) (ended : Except PyException GuardedPatchFinalizationResult × R) : Prop :=
  ∃ result, ended = (.ok result, repo) ∧ result.applyOutcome ∈ [.notApplied, .notGenerated] ∧
    result.approvalRequest = none

/-- The finalization leaves the repository as it is. -/
def Untouched (repo : R) (ended : Except PyException GuardedPatchFinalizationResult × R) : Prop :=
  ended.2 = repo ∧ ∀ result, ended.1 = .ok result → result.applyOutcome ≠ .applied

theorem finalizeGuardedPatch_dropped (hpatch : request.patchDiff = some patchDiff)
    (hreport : request.riskReport = some report) (hblocked : gateBlocked report = true) :
    Dropped repo (finalizeGuardedPatch git answers request repo) := by
  refine finalizeGuardedPatch_reported hpatch hreport ?_ ?_
  · intro status outcome reason houtcome
    exact ⟨_, rfl, houtcome, rfl⟩
  · rw [finalizerChoice, hblocked, Bool.true_or, if_pos rfl]
    exact ⟨_, rfl, by decide, rfl⟩

theorem finalizeGuardedPatch_untouched (hpatch : request.patchDiff = some patchDiff)
    (hreport : request.riskReport = some report)
    (hchoice : finalizerChoice request patchDiff report ≠ .tryAutomaticApply) :
    Untouched repo (finalizeGuardedPatch git answers request repo) := by
  refine finalizeGuardedPatch_reported hpatch hreport ?_ ?_
  · intro status outcome reason houtcome
    refine ⟨rfl, ?_⟩
    intro result hresult happlied
    cases hresult
    rw [show outcome = .applied from happlied] at houtcome
    exact absurd houtcome (by decide)
  · cases hchosen : finalizerChoice request patchDiff report with
    | tryAutomaticApply => exact absurd hchosen hchoice
    | block =>
      refine ⟨rfl, ?_⟩
      intro result hresult
      cases hresult
      intro h
      cases h
    | askForApproval =>
      refine ⟨rfl, ?_⟩
      intro result hresult
      simp only [carryOut, persistPendingApproval] at hresult
      split at hresult
      · cases hresult
        intro h
        cases h
      · split at hresult
        · cases hresult
          intro h
          cases h
        · cases hresult

end Finalization

/-! ## Approved patches -/

section Approved
variable [UnicodeTables] [Digest] [IsoTime]

/-- The gate is open for the report of a patch that may be applied with its approval. -/
theorem gateOpen_of_admitApply {used : List ApprovalUseKey} {stores : ℕ → List AuditEvent}
    {answers : PatchAnswers} {call : ApplyCall} {report : ChangeRiskReport}
    (h : admitApply used stores answers call = .ok report) :
    riskReportOf answers.checks call = .ok report ∧ gateBlocked report = false := by
  obtain ⟨checked, hchecked, h⟩ := bind_eq_ok.mp h
  obtain ⟨-, -, h⟩ := bind_eq_ok.mp h
  obtain ⟨-, -, h⟩ := bind_eq_ok.mp h
  obtain rfl := Except.ok.inj h
  rw [checkCall] at hchecked
  split at hchecked
  · cases hchecked
  split at hchecked
  · cases hchecked
  obtain ⟨reported, hreported, hchecked⟩ := bind_eq_ok.mp hchecked
  obtain ⟨_, hauthorized, hchecked⟩ := bind_eq_ok.mp hchecked
  obtain ⟨-, -, hchecked⟩ := bind_eq_ok.mp hchecked
  obtain ⟨-, -, hchecked⟩ := bind_eq_ok.mp hchecked
  obtain rfl := Except.ok.inj hchecked
  obtain ⟨_, hgate, -⟩ := bind_eq_ok.mp hauthorized
  exact ⟨hreported, by simpa using raiseIf_eq_ok.mp hgate⟩

end Approved

/-- Every patch that is classified under constructed limits: beyond a hard one it is neither applied
nor queued for an approval, and no approval applies it; beyond a soft one it is never applied
automatically; and below all of them the limits leave no trace in its report. -/
theorem size_limits_enforced [UnicodeTables] [BytesDigest] [Digest] [IsoTime]
    (policy : DiffLimitPolicy) (hpolicy : postInit policy = .ok ()) (analyses : Analyses)
    (patchDiff : PatchDiff) (validationReasons : List ChangeRiskReason) (report : ChangeRiskReport)
    (hclassified : classifyPatchRisk analyses patchDiff validationReasons policy = .ok report) :
    (ExceedsHard policy patchDiff →
      (∀ (R : Type) (git : GitRepository R) (answers : FinalizerAnswers)
        (request : GuardedPatchFinalizationRequest) (repo : R),
        request.patchDiff = some patchDiff → request.riskReport = some report →
        Dropped repo (finalizeGuardedPatch git answers request repo)) ∧
      ∀ used stores answers (call : ApplyCall), riskReportOf answers.checks call = .ok report →
        ∃ exc, admitApply used stores answers call = .error exc ∧
          applyApprovedPatch used stores answers call = .error exc) ∧
    (ExceedsSoft policy patchDiff →
      ∀ (R : Type) (git : GitRepository R) (answers : FinalizerAnswers)
        (request : GuardedPatchFinalizationRequest) (repo : R),
        request.patchDiff = some patchDiff → request.riskReport = some report →
        Untouched repo (finalizeGuardedPatch git answers request repo)) ∧
    (¬ ExceedsSoft policy patchDiff → ∀ policy', postInit policy' = .ok () →
      ¬ ExceedsSoft policy' patchDiff →
      classifyPatchRisk analyses patchDiff validationReasons policy' = .ok report) := by
  refine ⟨?_, ?_, ?_⟩
  · intro hexceeds
    have hblocked := gateBlocked_of_exceedsHard hclassified hexceeds
    refine ⟨fun R git answers request repo hpatch hreport =>
      finalizeGuardedPatch_dropped hpatch hreport hblocked, ?_⟩
    intro used stores answers call hreport
    cases hadmit : admitApply used stores answers call with
    | error exc =>
      refine ⟨exc, rfl, ?_⟩
      rw [applyApprovedPatch, hadmit]
      rfl
    | ok admitted =>
      obtain ⟨hread, hopen⟩ := gateOpen_of_admitApply hadmit
      rw [hreport] at hread
      cases hread
      rw [hblocked] at hopen
      cases hopen
  · intro hexceeds R git answers request repo hpatch hreport
    obtain ⟨reason, hreason, hlevel⟩ := exists_raised_of_exceedsSoft hexceeds
    exact finalizeGuardedPatch_untouched hpatch hreport (finalizerChoice_of_raised
      (mem_reasons_of_classified hclassified (.inl hreason)) hlevel request)
  · intro hwithin policy' hpolicy' hwithin'
    exact classifyPatchRisk_of_within hclassified hpolicy hwithin hpolicy' hwithin'

open Rygnal.GuardedRun.Sample Rygnal.Library.PyText.Ascii
/-- Two changed lines where one is the most. -/
theorem size_limits_enforced_sample : ∃ report,
    classifyPatchRisk ChangeRisk.Sample.noAnalyses (onePatch "docs/a.md") []
      ⟨1, 1, 1, 0, 1, 1, 1, 1⟩ = .ok report ∧
    Dropped false (finalizeGuardedPatch switch (smoothAnswers (onePatch "docs/a.md"))
      (completedRequest (onePatch "docs/a.md") report) false) := by
  have hok : (classifyPatchRisk ChangeRisk.Sample.noAnalyses (onePatch "docs/a.md") []
      ⟨1, 1, 1, 0, 1, 1, 1, 1⟩).toBool = true := by decide +kernel
  cases hreport : classifyPatchRisk ChangeRisk.Sample.noAnalyses (onePatch "docs/a.md") []
      ⟨1, 1, 1, 0, 1, 1, 1, 1⟩ with
  | error exc =>
    rw [hreport] at hok
    cases hok
  | ok report =>
    have hlimits := @size_limits_enforced _ _ ⟨fun _ => ""⟩ ⟨fun _ => none⟩ _ rfl _ _ _ report hreport
    have hexceeds : ExceedsHard ⟨1, 1, 1, 0, 1, 1, 1, 1⟩ (onePatch "docs/a.md") :=
      ⟨_, List.mem_cons_of_mem _ List.mem_cons_self, by decide⟩
    exact ⟨report, rfl, (hlimits.1 hexceeds).1 Bool switch _ _ false rfl rfl⟩

/-! ## Dependency files -/

/-- The analyses of the classifier with the plan of its dependency governance. -/
def withDependencyPlan (analyses : Analyses) : Analyses where
  criticalityShadowForFile := analyses.criticalityShadowForFile
  buildDependencyGovernancePlan paths := (Dependency.buildDependencyGovernancePlan paths).forClassifier
  classifyActionIntent := analyses.classifyActionIntent

/-- A patch with a changed dependency file, of any ecosystem and kind, is never applied
automatically, however small and harmless its files are; without one, the dependency governance
leaves no trace in its report. -/
theorem dependency_changes_reviewed [UnicodeTables] [BytesDigest] (policy : DiffLimitPolicy)
    (analyses : Analyses) (patchDiff : PatchDiff) (validationReasons : List ChangeRiskReason)
    (report : ChangeRiskReport)
    (hclassified : classifyPatchRisk (withDependencyPlan analyses) patchDiff validationReasons
      policy = .ok report) :
    ((∃ file ∈ patchDiff.files, (Dependency.classifyDependencyFileChange file.path).isSome = true) →
      (∃ reason ∈ report.reasons, reason.riskLevel = .high) ∧
      ∀ (R : Type) (git : GitRepository R) (answers : FinalizerAnswers)
        (request : GuardedPatchFinalizationRequest) (repo : R),
        request.patchDiff = some patchDiff → request.riskReport = some report →
        Untouched repo (finalizeGuardedPatch git answers request repo)) ∧
    ((¬ ∃ file ∈ patchDiff.files,
        (Dependency.classifyDependencyFileChange file.path).isSome = true) →
      classifyPatchRisk { analyses with
        buildDependencyGovernancePlan := fun _ => ⟨false, false, false, false, false, []⟩ }
        patchDiff validationReasons policy = .ok report) := by
  have hpaths : (∃ path ∈ patchDiff.files.map (·.path),
      (Dependency.classifyDependencyFileChange path).isSome = true) ↔
        ∃ file ∈ patchDiff.files,
          (Dependency.classifyDependencyFileChange file.path).isSome = true := by
    simp only [List.mem_map, exists_exists_and_eq_and]
  have hplan := Dependency.dependencyGovernanceReasons_plan (patchDiff.files.map (·.path))
  rw [hpaths] at hplan
  constructor
  · intro hexists
    rcases hplan with ⟨-, reason, hreasons, hlevel⟩ | ⟨hnone, -⟩
    · have hmem : reason ∈ report.reasons := by
        refine mem_reasons_of_classified hclassified (.inr ?_)
        exact List.mem_of_mem_head? (congrArg List.head? hreasons)
      refine ⟨⟨reason, hmem, hlevel⟩, fun R git answers request repo hpatch hreport => ?_⟩
      exact finalizeGuardedPatch_untouched hpatch hreport
        (finalizerChoice_of_raised hmem (by rw [hlevel]; decide) request)
    · exact absurd hexists hnone
  · intro hnone
    rcases hplan with ⟨hexists, -⟩ | ⟨-, hreasons⟩
    · exact absurd hexists hnone
    · rw [← hclassified, classifyPatchRisk, classifyPatchRisk]
      simp only [withDependencyPlan, hreasons]
      rfl

/-- One changed line of a manifest. -/
theorem dependency_changes_reviewed_sample : ∃ report,
    classifyPatchRisk (withDependencyPlan ChangeRisk.Sample.noAnalyses) (onePatch "web/package.json")
      [] defaultDiffLimitPolicy = .ok report ∧
    Untouched false (finalizeGuardedPatch switch (smoothAnswers (onePatch "web/package.json"))
      (completedRequest (onePatch "web/package.json") report) false) := by
  have hok : (classifyPatchRisk (withDependencyPlan ChangeRisk.Sample.noAnalyses)
      (onePatch "web/package.json") [] defaultDiffLimitPolicy).toBool = true := by decide +kernel
  cases hreport : classifyPatchRisk (withDependencyPlan ChangeRisk.Sample.noAnalyses)
      (onePatch "web/package.json") [] defaultDiffLimitPolicy with
  | error exc =>
    rw [hreport] at hok
    cases hok
  | ok report =>
    have hreviewed := dependency_changes_reviewed _ _ _ _ report hreport
    have hmanifest : ∃ file ∈ (onePatch "web/package.json").files,
        (Dependency.classifyDependencyFileChange file.path).isSome = true :=
      ⟨_, List.mem_cons_self, by decide⟩
    exact ⟨report, rfl, (hreviewed.1 hmanifest).2 Bool switch _ _ false rfl rfl⟩

end Rygnal.GuardedRun
