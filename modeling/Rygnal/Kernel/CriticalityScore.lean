import Rygnal.Kernel.DestructiveSinks
import Rygnal.Kernel.PathSafety
import Rygnal.Kernel.PythonSurvival

/-! # The criticality of a changed file

`evaluate_criticality` of the kernel from its path, its action, what survives of its code and the
destructive calls in it. The texts of the reasons are left out, and the scores are rationals.
-/

namespace Rygnal.Kernel.Scoring
open Rygnal.Core Rygnal.Library.PyText Rygnal.Kernel.Python

inductive PathSensitivityCategory where
  | secret
  | ci
  | policy
  | dependency
  | config
  | generated
  | test
  | documentation
  | normal
deriving DecidableEq, Repr

inductive PathSensitivitySeverity where
  | low
  | medium
  | high
  | critical
deriving DecidableEq, Repr

inductive CriticalityRiskLevel where
  | low
  | medium
  | high
  | critical
deriving DecidableEq, Repr

inductive CriticalityError where
  | pathSafety (error : PathSafetyError)
  | ast (error : AstError)
  | invalidPathCategory (category : String)
  | invalidPathSeverity (severity : String)
deriving DecidableEq, Repr

structure CriticalityInput where
  filePath : Text
  actionType : FileActionType
  oldCode : Text
  newCode : Text
  elevated : Option Bool

structure CriticalityAssessment where
  criticalityIndex : ℚ
  riskLevel : CriticalityRiskLevel
  semanticMetrics : SemanticMetrics
  pathCategory : PathSensitivityCategory
  pathSeverity : PathSensitivitySeverity

def maxCriticality : ℚ := 10

/-- What `parse_elevated_risk_weight` can return. -/
structure ElevatedRiskWeight where
  weight : ℚ
  positive : 0 < weight
  bounded : weight ≤ maxCriticality

def pathCategoryFromStr (category : String) : Except CriticalityError PathSensitivityCategory :=
  match category with
  | "secret" => .ok .secret
  | "ci" => .ok .ci
  | "policy" => .ok .policy
  | "dependency" => .ok .dependency
  | "config" => .ok .config
  | "generated" => .ok .generated
  | "test" => .ok .test
  | "documentation" => .ok .documentation
  | "normal" => .ok .normal
  | other => .error (.invalidPathCategory other)

def pathSeverityFromStr (severity : String) : Except CriticalityError PathSensitivitySeverity :=
  match severity with
  | "low" => .ok .low
  | "medium" => .ok .medium
  | "high" => .ok .high
  | "critical" => .ok .critical
  | other => .error (.invalidPathSeverity other)

def isPythonPath (path : Text) : Bool := [".py", ".pyi"].any (endsWith path)

def pathBaseScore : PathSensitivityCategory → ℚ
  | .secret => 9
  | .ci => 13 / 2
  | .policy => 13 / 2
  | .dependency => 6
  | .config => 9 / 2
  | .normal => 3
  | .test => 3 / 2
  | .documentation => 1
  | .generated => 1

def actionModifier : FileActionType → ℚ
  | .deleted => 3
  | .renamed => 1
  | .modeChanged => 1
  | .added => 1 / 2
  | .untracked => 1 / 2
  | .modified => 0

def elevatedRiskModifier (weight : ElevatedRiskWeight) (input : CriticalityInput) : ℚ :=
  if input.elevated ≠ some true then 0 else weight.weight

/-- `ast_guard_fallback.map_or(0.0, risk_modifier)`. -/
def guardModifier (fallback : Option AstGuardFallback) : ℚ := if fallback.isSome then 2 else 0

def clampCriticality (value : ℚ) : ℚ := max 0 (min value maxCriticality)

def riskLevelForScore (score : ℚ) : CriticalityRiskLevel :=
  if 15 / 2 ≤ score then .critical
  else if 5 ≤ score then .high
  else if 5 / 2 ≤ score then .medium
  else .low

/-- The sum that `clamp_criticality` clamps. -/
def criticalityScore (weight : ElevatedRiskWeight) (input : CriticalityInput)
    (category : PathSensitivityCategory) (survivalRatio : ℚ) (fallback : Option AstGuardFallback)
    (sinks : List DestructiveSinkMatch) : ℚ :=
  pathBaseScore category + actionModifier input.actionType +
    semanticModifier input.actionType survivalRatio input.oldCode +
    elevatedRiskModifier weight input + destructiveSinkScoreModifier sinks + guardModifier fallback

def evaluateCriticality (parser : PythonParser) (weight : ElevatedRiskWeight)
    (input : CriticalityInput) : Except CriticalityError CriticalityAssessment := do
  let normalizedPath ← (normalizeRepoRelativePath input.filePath).mapError .pathSafety
  let sensitivity ← (classifyPathSensitivity normalizedPath).mapError .pathSafety
  let pathCategory ← pathCategoryFromStr sensitivity.category
  let pathSeverity ← pathSeverityFromStr sensitivity.severity
  let semantic ← (semanticMetricsForInput parser (isPythonPath normalizedPath) input.oldCode
    input.newCode).mapError .ast
  let criticalityIndex := clampCriticality (criticalityScore weight input pathCategory
    semantic.1.survivalRatio semantic.2 (detectDestructiveSinks normalizedPath input.newCode))
  return ⟨criticalityIndex, riskLevelForScore criticalityIndex, semantic.1, pathCategory,
    pathSeverity⟩

/-! ## Levels and scores -/

namespace CriticalityRiskLevel

def order : CriticalityRiskLevel → ℕ
  | .low => 0
  | .medium => 1
  | .high => 2
  | .critical => 3

theorem order_injective : Function.Injective order := by
  intro a b h
  cases a <;> cases b <;> first | rfl | cases h

instance : LinearOrder CriticalityRiskLevel := LinearOrder.lift' order order_injective

end CriticalityRiskLevel

section Scores
variable {weight : ElevatedRiskWeight} {input input' : CriticalityInput}
  {category : PathSensitivityCategory} {ratio ratio' : ℚ}
  {fallback fallback' : Option AstGuardFallback} {sinks sinks' : List DestructiveSinkMatch}

theorem riskLevelForScore_mono {score score' : ℚ} (h : score ≤ score') :
    riskLevelForScore score ≤ riskLevelForScore score' := by
  rw [riskLevelForScore, riskLevelForScore]
  split_ifs <;> first | decide | linarith

theorem clampCriticality_mono {score score' : ℚ} (h : score ≤ score') :
    clampCriticality score ≤ clampCriticality score' :=
  max_le_max_left 0 (min_le_min_right maxCriticality h)

theorem le_clampCriticality {bound score : ℚ} (h : bound ≤ score) (hbound : bound ≤ maxCriticality) :
    bound ≤ clampCriticality score :=
  (le_min h hbound).trans (le_max_right _ _)

theorem clampCriticality_bounds (score : ℚ) :
    0 ≤ clampCriticality score ∧ clampCriticality score ≤ maxCriticality :=
  ⟨le_max_left _ _, max_le (by rw [maxCriticality]; norm_num) (min_le_right _ _)⟩

theorem le_pathBaseScore_of_code (h : category ∉ [.documentation, .generated]) :
    3 / 2 ≤ pathBaseScore category := by
  revert h
  cases category <;> norm_num [pathBaseScore]

theorem le_pathBaseScore_of_shipped (h : category ∉ [.test, .documentation, .generated]) :
    3 ≤ pathBaseScore category := by
  revert h
  cases category <;> norm_num [pathBaseScore]

theorem actionModifier_nonneg (action : FileActionType) : 0 ≤ actionModifier action := by
  cases action <;> norm_num [actionModifier]

theorem semanticModifier_nonneg (action : FileActionType) (survivalRatio : ℚ) (oldCode : Text) :
    0 ≤ semanticModifier action survivalRatio oldCode := by
  simp only [semanticModifier]
  split_ifs <;> norm_num

theorem elevatedRiskModifier_nonneg (weight : ElevatedRiskWeight) (input : CriticalityInput) :
    0 ≤ elevatedRiskModifier weight input := by
  rw [elevatedRiskModifier]
  split
  · exact le_refl 0
  · exact weight.positive.le

theorem guardModifier_nonneg (fallback : Option AstGuardFallback) : 0 ≤ guardModifier fallback := by
  rw [guardModifier]
  split <;> norm_num

/-- What is known of some parts of a score bounds the whole, since no part lowers it. -/
theorem le_criticalityScore {semantic sink : ℚ}
    (hsemantic : semantic ≤ semanticModifier input.actionType ratio input.oldCode)
    (hsink : sink ≤ destructiveSinkScoreModifier sinks) :
    pathBaseScore category + actionModifier input.actionType + semantic + sink ≤
      criticalityScore weight input category ratio fallback sinks := by
  have helevated := elevatedRiskModifier_nonneg weight input
  have hguard := guardModifier_nonneg fallback
  rw [criticalityScore]
  linarith

theorem criticalityScore_mono (haction : input'.actionType = input.actionType)
    (hold : input'.oldCode = input.oldCode)
    (helevated : input.elevated = some true → input'.elevated = some true)
    (hratio : ratio' ≤ ratio) (hfallback : fallback.isSome = true → fallback'.isSome = true)
    (hsinks : sinks ⊆ sinks') : criticalityScore weight input category ratio fallback sinks ≤
      criticalityScore weight input' category ratio' fallback' sinks' := by
  have hsemantic := semanticModifier_antitone input.actionType input.oldCode hratio
  have hsink := destructiveSinkScoreModifier_mono hsinks
  have hraised : elevatedRiskModifier weight input ≤ elevatedRiskModifier weight input' := by
    by_cases h : input.elevated = some true
    · rw [elevatedRiskModifier, elevatedRiskModifier, h, helevated h]
    · rw [elevatedRiskModifier, if_pos h]
      exact elevatedRiskModifier_nonneg weight input'
  have hguard : guardModifier fallback ≤ guardModifier fallback' := by
    by_cases h : fallback.isSome = true
    · rw [guardModifier, guardModifier, h, hfallback h]
    · rw [guardModifier, if_neg h]
      exact guardModifier_nonneg fallback'
  rw [criticalityScore, criticalityScore, haction, hold]
  linarith

end Scores

/-! ## Assessments -/

section Assessments
variable {parser : PythonParser} {weight : ElevatedRiskWeight} {input : CriticalityInput}
  {assessment : CriticalityAssessment}

/-- What an assessment has read. -/
theorem evaluateCriticality_eq_ok (h : evaluateCriticality parser weight input = .ok assessment) :
    ∃ normalizedPath sensitivity fallback,
      normalizeRepoRelativePath input.filePath = .ok normalizedPath ∧
      classifyPathSensitivity normalizedPath = .ok sensitivity ∧
      pathCategoryFromStr sensitivity.category = .ok assessment.pathCategory ∧
      semanticMetricsForInput parser (isPythonPath normalizedPath) input.oldCode input.newCode =
        .ok (assessment.semanticMetrics, fallback) ∧
      assessment.criticalityIndex = clampCriticality (criticalityScore weight input
        assessment.pathCategory assessment.semanticMetrics.survivalRatio fallback
          (detectDestructiveSinks normalizedPath input.newCode)) ∧
      assessment.riskLevel = riskLevelForScore assessment.criticalityIndex := by
  obtain ⟨normalizedPath, hpath, h⟩ := bind_eq_ok.mp h
  obtain ⟨sensitivity, hsensitivity, h⟩ := bind_eq_ok.mp h
  obtain ⟨pathCategory, hcategory, h⟩ := bind_eq_ok.mp h
  obtain ⟨pathSeverity, -, h⟩ := bind_eq_ok.mp h
  obtain ⟨⟨metrics, fallback⟩, hsemantic, h⟩ := bind_eq_ok.mp h
  obtain rfl := Except.ok.inj h
  exact ⟨normalizedPath, sensitivity, fallback, mapError_eq_ok.mp hpath,
    mapError_eq_ok.mp hsensitivity, hcategory, mapError_eq_ok.mp hsemantic, rfl, rfl⟩

/-- The tables of the kernel name no category or severity that the assessment does not know. -/
theorem sensitivityOf_known (lowered : Text) :
    (∃ category, pathCategoryFromStr (sensitivityOf lowered).category = .ok category) ∧
      ∃ severity, pathSeverityFromStr (sensitivityOf lowered).severity = .ok severity := by
  simp only [sensitivityOf]
  split_ifs <;> exact ⟨⟨_, rfl⟩, ⟨_, rfl⟩⟩

theorem semanticMetrics_error {python : Bool} {oldCode newCode : Text} {e : AstError}
    (h : semanticMetricsForInput parser python oldCode newCode = .error e) :
    (∃ message, e = .languageLoad message) ∨ ∃ message, e = .invalidUtf8 message := by
  simp only [semanticMetricsForInput] at h
  split at h
  · cases h
  · split at h
    · cases hanalyze : analyzePythonSurvival parser oldCode newCode with
      | ok metrics =>
        rw [hanalyze] at h
        cases h
      | error error =>
        rw [hanalyze] at h
        cases error with
        | languageLoad message =>
          cases h
          exact .inl ⟨message, rfl⟩
        | invalidUtf8 message =>
          cases h
          exact .inr ⟨message, rfl⟩
        | _ => cases h
    · cases h

theorem evaluateCriticality_eq_error {error : CriticalityError}
    (h : evaluateCriticality parser weight input = .error error) :
    (∃ e, error = .pathSafety e) ∨ ∃ e, error = .ast e ∧ ∃ normalizedPath,
      semanticMetricsForInput parser (isPythonPath normalizedPath) input.oldCode input.newCode =
        .error e := by
  have hmap : ∀ {ε α : Type} {first : Except ε α} {f : ε → CriticalityError},
      first.mapError f = .error error → ∃ e, first = .error e ∧ error = f e := by
    intro ε α first f hfirst
    cases first with
    | error e => exact ⟨e, rfl, (Except.error.inj hfirst).symm⟩
    | ok a => cases hfirst
  rcases bind_eq_error.mp h with hpath | ⟨normalizedPath, hpath, h⟩
  · obtain ⟨e, -, rfl⟩ := hmap hpath
    exact .inl ⟨e, rfl⟩
  rcases bind_eq_error.mp h with hsensitivity | ⟨sensitivity, hsensitivity, h⟩
  · obtain ⟨e, -, rfl⟩ := hmap hsensitivity
    exact .inl ⟨e, rfl⟩
  obtain ⟨normal, -, rfl⟩ := map_eq_ok.mp (mapError_eq_ok.mp hsensitivity)
  obtain ⟨⟨category, hcategory⟩, severity, hseverity⟩ :=
    sensitivityOf_known (normal.map Char.toLower)
  rcases bind_eq_error.mp h with hunknown | ⟨_, _, h⟩
  · rw [hcategory] at hunknown
    cases hunknown
  rcases bind_eq_error.mp h with hunknown | ⟨_, _, h⟩
  · rw [hseverity] at hunknown
    cases hunknown
  rcases bind_eq_error.mp h with hsemantic | ⟨_, _, h⟩
  · obtain ⟨e, he, rfl⟩ := hmap hsemantic
    exact .inr ⟨e, rfl, normalizedPath, he⟩
  · cases h

theorem le_criticalityIndex {bound : ℚ} {normalizedPath : Text}
    (h : evaluateCriticality parser weight input = .ok assessment)
    (hpath : normalizeRepoRelativePath input.filePath = .ok normalizedPath)
    (hbound : bound ≤ maxCriticality) {semantic sink : ℚ}
    (hsemantic : semantic ≤ semanticModifier input.actionType
      assessment.semanticMetrics.survivalRatio input.oldCode)
    (hsink : sink ≤ destructiveSinkScoreModifier (detectDestructiveSinks normalizedPath input.newCode))
    (hsum : bound ≤ pathBaseScore assessment.pathCategory + actionModifier input.actionType +
      semantic + sink) : bound ≤ assessment.criticalityIndex := by
  obtain ⟨path, -, fallback, hnormalized, -, -, -, hindex, -⟩ := evaluateCriticality_eq_ok h
  obtain rfl := Except.ok.inj (hnormalized.symm.trans hpath)
  rw [hindex]
  exact le_clampCriticality (hsum.trans (le_criticalityScore hsemantic hsink)) hbound

theorem riskLevel_of_le (h : evaluateCriticality parser weight input = .ok assessment) {score : ℚ}
    (hscore : score ≤ assessment.criticalityIndex) :
    riskLevelForScore score ≤ assessment.riskLevel := by
  obtain ⟨-, -, -, -, -, -, -, -, hlevel⟩ := evaluateCriticality_eq_ok h
  rw [hlevel]
  exact riskLevelForScore_mono hscore

end Assessments

/-- Every answer of the evaluation. A score is between the base of its path and ten. A secret file is
critical whatever is done to it, and so is the deletion of a file with code in it unless it is
documentation or generated; a critical sink makes a file at least high unless it is a test,
documentation or generated. It fails only for the path, or where the parser cannot be loaded or
answers a broken span. -/
theorem criticality_assessed (parser : PythonParser) (weight : ElevatedRiskWeight)
    (input : CriticalityInput) :
    match evaluateCriticality parser weight input with
    | .ok assessment =>
      pathBaseScore assessment.pathCategory ≤ assessment.criticalityIndex ∧
      assessment.criticalityIndex ≤ maxCriticality ∧
      (assessment.pathCategory = .secret → assessment.riskLevel = .critical) ∧
      (input.actionType = .deleted → trim input.oldCode ≠ [] →
        assessment.pathCategory ∉ [.documentation, .generated] →
        assessment.riskLevel = .critical) ∧
      ((∃ normalizedPath, normalizeRepoRelativePath input.filePath = .ok normalizedPath ∧
          ∃ sink ∈ detectDestructiveSinks normalizedPath input.newCode, sink.severity = .critical) →
        assessment.pathCategory ∉ [.test, .documentation, .generated] →
        .high ≤ assessment.riskLevel)
    | .error error => (∃ e, error = .pathSafety e) ∨ ∃ e, error = .ast e ∧
        ((∃ message, e = .languageLoad message) ∨ ∃ message, e = .invalidUtf8 message) := by
  cases h : evaluateCriticality parser weight input with
  | error error =>
    rcases evaluateCriticality_eq_error h with hpath | ⟨e, rfl, normalizedPath, hsemantic⟩
    · exact .inl hpath
    · exact .inr ⟨e, rfl, semanticMetrics_error hsemantic⟩
  | ok assessment =>
    obtain ⟨path, _, _, hpath, -, -, -, hindex, -⟩ := evaluateCriticality_eq_ok h
    have hsemantic := semanticModifier_nonneg input.actionType
      assessment.semanticMetrics.survivalRatio input.oldCode
    have hsink := destructiveSinkScoreModifier_nonneg (detectDestructiveSinks path input.newCode)
    have haction := actionModifier_nonneg input.actionType
    have htop : ∀ level : CriticalityRiskLevel, .critical ≤ level → level = .critical := by
      intro level
      cases level <;> decide
    refine ⟨?_, ?_, ?_, ?_, ?_⟩
    · refine le_criticalityIndex h hpath ?_ hsemantic hsink (by linarith)
      cases assessment.pathCategory <;> norm_num [pathBaseScore, maxCriticality]
    · rw [hindex]
      exact (clampCriticality_bounds _).2
    · intro hcategory
      have hnine : (9 : ℚ) ≤ assessment.criticalityIndex := by
        refine le_criticalityIndex h hpath (by norm_num [maxCriticality]) hsemantic hsink ?_
        rw [hcategory, pathBaseScore]
        linarith
      exact htop _ ((show CriticalityRiskLevel.critical = riskLevelForScore 9 by
        norm_num [riskLevelForScore]).le.trans (riskLevel_of_le h hnine))
    · intro hdeleted hcode hcategory
      have hthree : (3 : ℚ) ≤ semanticModifier input.actionType
          assessment.semanticMetrics.survivalRatio input.oldCode := by
        simp [semanticModifier, hdeleted, hcode]
      have hscore : (15 / 2 : ℚ) ≤ assessment.criticalityIndex := by
        refine le_criticalityIndex h hpath (by norm_num [maxCriticality]) hthree hsink ?_
        have hbase := le_pathBaseScore_of_code hcategory
        rw [hdeleted, actionModifier]
        linarith
      exact htop _ ((show CriticalityRiskLevel.critical = riskLevelForScore (15 / 2) by
        norm_num [riskLevelForScore]).le.trans (riskLevel_of_le h hscore))
    · rintro ⟨normalizedPath, hnormalized, sink, hmem, hsevere⟩ hcategory
      have hthree : (3 : ℚ) ≤ destructiveSinkScoreModifier
          (detectDestructiveSinks normalizedPath input.newCode) := by
        refine le_trans ?_ (scoreModifier_le hmem)
        rw [hsevere, DestructiveSeverity.scoreModifier]
      have hscore : (5 : ℚ) ≤ assessment.criticalityIndex := by
        refine le_criticalityIndex h hnormalized (by norm_num [maxCriticality]) hsemantic hthree ?_
        have hbase := le_pathBaseScore_of_shipped hcategory
        linarith
      exact (show CriticalityRiskLevel.high = riskLevelForScore 5 by
        norm_num [riskLevelForScore]).le.trans (riskLevel_of_le h hscore)

/-- The less of a file survives, and the more destructive calls, elevation and parser fallbacks come
with the change, the higher are its score and its level. -/
theorem criticality_monotone (parser : PythonParser) (weight : ElevatedRiskWeight)
    (input input' : CriticalityInput) (assessment assessment' : CriticalityAssessment)
    (normalizedPath : Text) (h : evaluateCriticality parser weight input = .ok assessment)
    (h' : evaluateCriticality parser weight input' = .ok assessment')
    (hpath : normalizeRepoRelativePath input.filePath = .ok normalizedPath)
    (hsame : input'.filePath = input.filePath ∧ input'.actionType = input.actionType ∧
      input'.oldCode = input.oldCode)
    (helevated : input.elevated = some true → input'.elevated = some true)
    (hfallback : ∀ metrics fallback, semanticMetricsForInput parser (isPythonPath normalizedPath)
      input.oldCode input.newCode = .ok (metrics, some fallback) →
      ∃ metrics' fallback', semanticMetricsForInput parser (isPythonPath normalizedPath)
        input'.oldCode input'.newCode = .ok (metrics', some fallback'))
    (hsinks : detectDestructiveSinks normalizedPath input.newCode ⊆
      detectDestructiveSinks normalizedPath input'.newCode)
    (hsurvival : assessment'.semanticMetrics.survivalRatio ≤
      assessment.semanticMetrics.survivalRatio) :
    assessment.criticalityIndex ≤ assessment'.criticalityIndex ∧
      assessment.riskLevel ≤ assessment'.riskLevel := by
  obtain ⟨hfile, haction, hold⟩ := hsame
  obtain ⟨path, sensitivity, fallback, hnormalized, hclassified, hcategory, hsemantic, hindex,
    hlevel⟩ := evaluateCriticality_eq_ok h
  obtain ⟨path', sensitivity', fallback', hnormalized', hclassified', hcategory', hsemantic',
    hindex', hlevel'⟩ := evaluateCriticality_eq_ok h'
  rw [hfile] at hnormalized'
  obtain rfl := Except.ok.inj (hnormalized.symm.trans hpath)
  obtain rfl := Except.ok.inj (hnormalized'.symm.trans hpath)
  obtain rfl := Except.ok.inj (hclassified.symm.trans hclassified')
  have hsameCategory := Except.ok.inj (hcategory.symm.trans hcategory')
  have hguard : fallback.isSome = true → fallback'.isSome = true := by
    intro hsome
    obtain ⟨value, rfl⟩ := Option.isSome_iff_exists.mp hsome
    obtain ⟨metrics', value', hother⟩ := hfallback _ value hsemantic
    rw [hsemantic'] at hother
    cases hother
    rfl
  have hscore : assessment.criticalityIndex ≤ assessment'.criticalityIndex := by
    rw [hindex, hindex', hsameCategory]
    exact clampCriticality_mono (criticalityScore_mono haction hold helevated hsurvival hguard hsinks)
  refine ⟨hscore, ?_⟩
  rw [hlevel, hlevel']
  exact riskLevelForScore_mono hscore

namespace Sample

/-- A script of one line, changed to the given one. -/
def script (newLine : String) : CriticalityInput :=
  ⟨"tools/run.sh".toList, .modified, "ls".toList, newLine.toList, none⟩

def weight : ElevatedRiskWeight := ⟨2, by norm_num, by norm_num [maxCriticality]⟩

end Sample

theorem criticality_monotone_sample : ∃ listed removed,
    evaluateCriticality Python.Sample.parser Sample.weight (Sample.script "ls -l") = .ok listed ∧
    evaluateCriticality Python.Sample.parser Sample.weight (Sample.script "rm -rf /srv") =
      .ok removed ∧ listed.riskLevel ≤ removed.riskLevel := by
  refine ⟨_, _, rfl, rfl, ?_⟩
  refine (criticality_monotone Python.Sample.parser Sample.weight (Sample.script "ls -l")
    (Sample.script "rm -rf /srv") _ _ "tools/run.sh".toList rfl rfl rfl ⟨rfl, rfl, rfl⟩ ?_ ?_ ?_ ?_).2
  · decide
  · intro metrics fallback h
    cases h
  · exact List.nil_subset _
  · exact le_refl _

end Rygnal.Kernel.Scoring
