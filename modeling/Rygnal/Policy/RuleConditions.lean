import Rygnal.Policy.FirstMatch

/-! # The conditions that a rule sets

A rule matches when the request meets every condition that the rule sets to something. A text
condition that is set to the empty text is skipped, in the matching and in the list of the
conditions.
-/

namespace Rygnal.Policy
open Rygnal.Core Rygnal.Library

/-! ## What a condition asks -/

section Conditions
variable [PatternSearch] [ValueText] (limits : RegexLimits)

/-- The request and the risk context meet every condition that the rule sets. -/
structure RequestMeets (rule : PolicyRule) (request : ToolRequest) (riskContext : Dict) :
    Prop where
  toolName : ∀ name, rule.toolName = some name → name = request.toolName
  action : ∀ action, rule.action = some action → some action = request.action
  environment : ∀ environment, rule.environment = some environment →
    environment = request.environment
  targetEquals : ∀ text, rule.targetEquals = some text → text = request.target.getD ""
  targetContains : ∀ text, rule.targetContains = some text →
    isIn text (request.target.getD "") = true
  targetMatches : ∀ pattern, rule.targetMatches = some pattern →
    safePolicyRegexSearch limits "target_matches" pattern (request.target.getD "") = .ok true
  targetNotMatches : ∀ pattern, rule.targetNotMatches = some pattern →
    safePolicyRegexSearch limits "target_not_matches" pattern (request.target.getD "") = .ok false
  inputEquals : ∀ input, rule.inputEquals = some input → input.pyEq request.input = true
  inputContains : ∀ text, rule.inputContains = some text →
    isIn text (stringify request.input) = true
  metadataEquals : metadataEqual request.metadata rule.metadataEquals = true
  metadataContains : metadataContain request.metadata rule.metadataContains = true
  riskLevel : ∀ level, rule.riskLevel = some level →
    (riskContext.get "risk_level").getD .none = .str level
  riskScoreMin : ∀ minimum, rule.riskScoreMin = some minimum →
    riskScoreReaches riskContext minimum = .ok true

/-- The request meets the conditions that the rule sets to the empty text; every text contains
the empty one. -/
structure MeetsEmpty (rule : PolicyRule) (request : ToolRequest) (riskContext : Dict) :
    Prop where
  toolName : rule.toolName = some "" → request.toolName = ""
  action : rule.action = some "" → request.action = some ""
  environment : rule.environment = some "" → request.environment = ""
  targetEquals : rule.targetEquals = some "" → request.target.getD "" = ""
  targetMatches : rule.targetMatches = some "" →
    safePolicyRegexSearch limits "target_matches" "" (request.target.getD "") = .ok true
  targetNotMatches : rule.targetNotMatches = some "" →
    safePolicyRegexSearch limits "target_not_matches" "" (request.target.getD "") = .ok false
  riskLevel : rule.riskLevel = some "" → (riskContext.get "risk_level").getD .none = .str ""

end Conditions

/-- The rule sets no condition. -/
structure SetsNothing (rule : PolicyRule) : Prop where
  toolName : rule.toolName = none
  action : rule.action = none
  environment : rule.environment = none
  targetEquals : rule.targetEquals = none
  targetContains : rule.targetContains = none
  targetMatches : rule.targetMatches = none
  targetNotMatches : rule.targetNotMatches = none
  inputEquals : rule.inputEquals = none
  inputContains : rule.inputContains = none
  metadataEquals : rule.metadataEquals = []
  metadataContains : rule.metadataContains = []
  riskLevel : rule.riskLevel = none
  riskScoreMin : rule.riskScoreMin = none

/-- The rule without the conditions that it sets to the empty text. -/
def PolicyRule.withoutEmpty (rule : PolicyRule) : PolicyRule :=
  { rule with
    toolName := configured rule.toolName
    action := configured rule.action
    environment := configured rule.environment
    targetEquals := configured rule.targetEquals
    targetContains := configured rule.targetContains
    targetMatches := configured rule.targetMatches
    targetNotMatches := configured rule.targetNotMatches
    inputContains := configured rule.inputContains
    riskLevel := configured rule.riskLevel }

/-! ## Conditions set to the empty text -/

/-- A set condition holds when it holds of a non-empty text and of an empty one. -/
theorem forall_condition_iff {condition : Option String} {P : String → Prop} :
    (∀ text, condition = some text → P text) ↔
      (∀ text, configured condition = some text → P text) ∧ (condition = some "" → P "") := by
  cases condition with
  | none => simp [configured]
  | some text =>
    by_cases hempty : text = ""
    · subst hempty
      simp [configured]
    · simp [configured, hempty]

/-- A check of a configured condition. -/
theorem all_configured_iff {condition : Option String} {p : String → Bool} :
    (configured condition).all p = true ↔
      ∀ text, configured condition = some text → p text = true := by
  cases configured condition <;> simp

theorem isIn_empty (text : String) : isIn "" text = true := by
  rw [isIn, PyText.containsText, List.any_eq_true]
  exact ⟨text.toList, (List.mem_tails _ _).mpr List.suffix_rfl, rfl⟩

section Matching
variable [PatternSearch] [ValueText] {limits : RegexLimits}

omit [ValueText] in
theorem regexCondition_iff {condition : Option String} {fieldName value : String}
    {expected : Bool} : regexCondition limits condition fieldName value expected = .ok true ↔
      ∀ pattern, configured condition = some pattern →
        safePolicyRegexSearch limits fieldName pattern value = .ok expected := by
  rw [regexCondition]
  cases configured condition with
  | none => simp
  | some pattern =>
    cases hsearch : safePolicyRegexSearch limits fieldName pattern value with
    | error abort => simp [hsearch, Except.map]
    | ok found => simp [hsearch, Except.map]

variable {rule : PolicyRule} {request : ToolRequest} {riskContext : Dict}

/-- `_matches` asks for the conditions that are not set to the empty text. -/
theorem ruleMatches_iff : ruleMatches limits rule request riskContext = .ok true ↔
    RequestMeets limits rule.withoutEmpty request riskContext := by
  have hinput : (rule.inputEquals.all fun input => input.pyEq request.input) = true ↔
      ∀ input, rule.inputEquals = some input → input.pyEq request.input = true := by
    cases rule.inputEquals <;> simp
  rw [ruleMatches, allHold_eq_true, conditions]
  simp only [List.forall_mem_cons, List.not_mem_nil, false_imp_iff, forall_const, and_true,
    Except.ok.injEq, regexCondition_iff, all_configured_iff, decide_eq_true_eq, hinput]
  constructor
  · rintro ⟨htool, haction, henv, hequals, hcontains, hmatches, hnot, hinput, hinputContains,
      hmetadata, hmetadataContains, hlevel, hscore⟩
    refine ⟨htool, haction, henv, hequals, hcontains, hmatches, hnot, hinput, hinputContains,
      hmetadata, hmetadataContains, hlevel, ?_⟩
    intro minimum hset
    change rule.riskScoreMin = some minimum at hset
    simpa only [hset] using hscore
  · intro h
    refine ⟨h.toolName, h.action, h.environment, h.targetEquals, h.targetContains,
      h.targetMatches, h.targetNotMatches, h.inputEquals, h.inputContains, h.metadataEquals,
      h.metadataContains, h.riskLevel, ?_⟩
    cases hset : rule.riskScoreMin with
    | none => rfl
    | some minimum => exact h.riskScoreMin minimum hset

/-- The conditions of a rule are those of the rule without the empty texts, and the empty ones. -/
theorem requestMeets_iff : RequestMeets limits rule request riskContext ↔
    RequestMeets limits rule.withoutEmpty request riskContext ∧
      MeetsEmpty limits rule request riskContext := by
  constructor
  · intro h
    have htool := forall_condition_iff.mp h.toolName
    have haction := forall_condition_iff.mp h.action
    have henv := forall_condition_iff.mp h.environment
    have hequals := forall_condition_iff.mp h.targetEquals
    have hmatches := forall_condition_iff.mp h.targetMatches
    have hnot := forall_condition_iff.mp h.targetNotMatches
    have hlevel := forall_condition_iff.mp h.riskLevel
    constructor
    · exact ⟨htool.1, haction.1, henv.1, hequals.1, (forall_condition_iff.mp h.targetContains).1,
        hmatches.1, hnot.1, h.inputEquals, (forall_condition_iff.mp h.inputContains).1,
        h.metadataEquals, h.metadataContains, hlevel.1, h.riskScoreMin⟩
    · exact ⟨fun hempty => (htool.2 hempty).symm, fun hempty => (haction.2 hempty).symm,
        fun hempty => (henv.2 hempty).symm, fun hempty => (hequals.2 hempty).symm, hmatches.2,
        hnot.2, hlevel.2⟩
  · rintro ⟨h, hempty⟩
    exact ⟨forall_condition_iff.mpr ⟨h.toolName, fun hset => (hempty.toolName hset).symm⟩,
      forall_condition_iff.mpr ⟨h.action, fun hset => (hempty.action hset).symm⟩,
      forall_condition_iff.mpr ⟨h.environment, fun hset => (hempty.environment hset).symm⟩,
      forall_condition_iff.mpr ⟨h.targetEquals, fun hset => (hempty.targetEquals hset).symm⟩,
      forall_condition_iff.mpr ⟨h.targetContains, fun _ => isIn_empty _⟩,
      forall_condition_iff.mpr ⟨h.targetMatches, hempty.targetMatches⟩,
      forall_condition_iff.mpr ⟨h.targetNotMatches, hempty.targetNotMatches⟩, h.inputEquals,
      forall_condition_iff.mpr ⟨h.inputContains, fun _ => isIn_empty _⟩, h.metadataEquals,
      h.metadataContains, forall_condition_iff.mpr ⟨h.riskLevel, hempty.riskLevel⟩,
      h.riskScoreMin⟩

end Matching

/-- `_matched_conditions` lists nothing when all that the rule sets is the empty text. -/
theorem isTerminalCatchAllRule_iff {rule : PolicyRule} :
    isTerminalCatchAllRule rule = true ↔ SetsNothing rule.withoutEmpty := by
  rw [isTerminalCatchAllRule, decide_eq_true_eq, matchedConditions, List.map_eq_nil_iff,
    List.filter_eq_nil_iff]
  simp only [List.forall_mem_cons, List.not_mem_nil, false_imp_iff, forall_const, and_true,
    Bool.not_eq_true, Bool.not_eq_false', List.isEmpty_iff, Option.isSome_eq_false_iff,
    Option.isNone_iff_eq_none]
  constructor
  · rintro ⟨htool, haction, henv, hequals, hcontains, hmatches, hnot, hinput, hinputContains,
      hmetadata, hmetadataContains, hlevel, hscore⟩
    exact ⟨htool, haction, henv, hequals, hcontains, hmatches, hnot, hinput, hinputContains,
      hmetadata, hmetadataContains, hlevel, hscore⟩
  · intro h
    exact ⟨h.toolName, h.action, h.environment, h.targetEquals, h.targetContains,
      h.targetMatches, h.targetNotMatches, h.inputEquals, h.inputContains, h.metadataEquals,
      h.metadataContains, h.riskLevel, h.riskScoreMin⟩

theorem SetsNothing.withoutEmpty {rule : PolicyRule} (h : SetsNothing rule) :
    SetsNothing rule.withoutEmpty := by
  have hnone : configured none = none := rfl
  constructor <;> simp only [PolicyRule.withoutEmpty, h.toolName, h.action, h.environment,
    h.targetEquals, h.targetContains, h.targetMatches, h.targetNotMatches, h.inputEquals,
    h.inputContains, h.metadataEquals, h.metadataContains, h.riskLevel, h.riskScoreMin, hnone]

/-- A rule matches exactly the requests that meet its conditions, and is a catch-all exactly when
it sets none, when the empty texts among its conditions ask nothing more of the request than the
others and are not all that it sets. -/
theorem matches_exactly_iff [PatternSearch] [ValueText] (limits : RegexLimits)
    (rule : PolicyRule) (request : ToolRequest) (riskContext : Dict) :
    ((ruleMatches limits rule request riskContext = .ok true ↔
        RequestMeets limits rule request riskContext) ∧
      (isTerminalCatchAllRule rule = true ↔ SetsNothing rule)) ↔
    (RequestMeets limits rule.withoutEmpty request riskContext →
        MeetsEmpty limits rule request riskContext) ∧
      (SetsNothing rule.withoutEmpty → SetsNothing rule) := by
  have hsplit : RequestMeets limits rule request riskContext ↔ _ := requestMeets_iff
  rw [ruleMatches_iff, isTerminalCatchAllRule_iff]
  constructor
  · rintro ⟨hmatches, hcatch⟩
    exact ⟨fun h => (hsplit.mp (hmatches.mp h)).2, hcatch.mp⟩
  · rintro ⟨hempty, hcatch⟩
    exact ⟨⟨fun h => hsplit.mpr ⟨h, hempty h⟩, fun h => (hsplit.mp h).1⟩, hcatch,
      SetsNothing.withoutEmpty⟩

/-! ## A rule for the tool without a name -/

namespace Sample

def namelessRule : PolicyRule := { deployRule with toolName := some "", targetMatches := none }

end Sample

/-- A rule for the tool without a name matches a request for another one, and is a catch-all. -/
theorem nameless_matches : ruleMatches Sample.limits Sample.namelessRule Sample.writeRequest [] =
      .ok true ∧
    ¬ RequestMeets Sample.limits Sample.namelessRule Sample.writeRequest [] ∧
    isTerminalCatchAllRule Sample.namelessRule = true ∧ ¬ SetsNothing Sample.namelessRule := by
  refine ⟨by decide, ?_, by decide, ?_⟩
  · intro h
    exact absurd (h.toolName "" rfl) (by decide)
  · intro h
    nomatch h.toolName

end Rygnal.Policy
