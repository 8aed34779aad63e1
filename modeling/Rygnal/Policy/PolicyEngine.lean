import Rygnal.Core.Exceptions
import Rygnal.Core.Models
import Rygnal.Library.StableSort

/-! # The policy engine

`policy_engine.py`: the validation of a parsed policy under a profile, and `evaluate`, which
takes the first matching rule in the order of priority. The YAML text is already parsed, and
`re` enters as an instance argument.
-/

namespace Rygnal.Policy
open Rygnal.Core Rygnal.Core.PyException Rygnal.Library Rygnal.Library.StableSort

/-! ## Rules -/

structure PolicyRule where
  id : String
  decision : Decision
  severity : Severity
  reason : String
  priority : ℕ
  toolName : Option String
  action : Option String
  environment : Option String
  targetEquals : Option String
  targetContains : Option String
  targetMatches : Option String
  targetNotMatches : Option String
  inputEquals : Option Value
  inputContains : Option String
  metadataEquals : Dict
  metadataContains : List (String × String)
  riskLevel : Option String
  riskScoreMin : Option ℚ
  priority_le : priority ≤ 1000
deriving DecidableEq, Repr

structure PolicySchema where
  policyVersion : String
  defaultDecision : Decision
  rules : List PolicyRule

/-- `re.compile`, with the text of its error, and `re.search`. -/
class PatternSearch where
  compileError : String → Option String
  search : String → String → Bool

/-- `str(value)` of a value that is no text, and `repr(text)`. -/
class ValueText where
  str : Value → String
  repr : String → String

/-- The configured limits in bytes. -/
structure RegexLimits where
  maxPatternBytes : ℕ
  maxTargetBytes : ℕ

/-- A string condition counts when it is neither `None` nor empty. -/
def configured (condition : Option String) : Option String := condition.filter (· ≠ "")

/-- `_matched_conditions`. -/
def matchedConditions (rule : PolicyRule) : List String :=
  ([("tool_name", (configured rule.toolName).isSome), ("action", (configured rule.action).isSome),
    ("environment", (configured rule.environment).isSome),
    ("target_equals", (configured rule.targetEquals).isSome),
    ("target_contains", (configured rule.targetContains).isSome),
    ("target_matches", (configured rule.targetMatches).isSome),
    ("target_not_matches", (configured rule.targetNotMatches).isSome),
    ("input_equals", rule.inputEquals.isSome),
    ("input_contains", (configured rule.inputContains).isSome),
    ("metadata_equals", !rule.metadataEquals.isEmpty),
    ("metadata_contains", !rule.metadataContains.isEmpty),
    ("risk_level", (configured rule.riskLevel).isSome),
    ("risk_score_min", rule.riskScoreMin.isSome)].filter (·.2)).map (·.1)

/-- `_is_terminal_catch_all_rule`. -/
def isTerminalCatchAllRule (rule : PolicyRule) : Bool := matchedConditions rule = []

/-! ## Matching -/

/-- Why the matching of a rule ends without an answer. -/
inductive MatchAbort where
  /-- `PolicyRuntimeGuardError`. -/
  | guard (fieldName : String) (valueBytes limit : ℕ)
  | raised (exc : PyException)
deriving DecidableEq, Repr

/-- The conditions of a rule in their order; the first that does not hold ends the list. -/
def allHold : List (Except MatchAbort Bool) → Except MatchAbort Bool
  | [] => .ok true
  | check :: checks =>
    match check with
    | .error abort => .error abort
    | .ok false => .ok false
    | .ok true => allHold checks

section Matching
variable [PatternSearch] [ValueText] (limits : RegexLimits)

/-- `_stringify`. -/
def stringify : Value → String
  | .none => ""
  | .str s => s
  | v => ValueText.str v

/-- `needle in text`. -/
def isIn (needle text : String) : Bool := PyText.containsText needle.toList text.toList

/-- `_safe_policy_regex_search`. -/
def safePolicyRegexSearch (fieldName pattern value : String) : Except MatchAbort Bool :=
  if limits.maxTargetBytes < value.utf8ByteSize then
    .error (.guard fieldName value.utf8ByteSize limits.maxTargetBytes)
  else .ok (PatternSearch.search pattern value)

/-- A regex condition whose search has to answer `expected`. -/
def regexCondition (condition : Option String) (fieldName value : String) (expected : Bool) :
    Except MatchAbort Bool :=
  match configured condition with
  | none => .ok true
  | some pattern =>
    (safePolicyRegexSearch limits fieldName pattern value).map fun found => found == expected

def metadataEqual (metadata expected : Dict) : Bool :=
  expected.all fun e => ((metadata.get e.1).getD .none).pyEq e.2

def metadataContain (metadata : Dict) (expected : List (String × String)) : Bool :=
  expected.all fun e => isIn e.2 (stringify ((metadata.get e.1).getD .none))

def unorderedError : PyException :=
  ⟨[.other "TypeError", .exception, .baseException],
    "'<' not supported between instances of these types"⟩

/-- `risk_score is None or risk_score < rule.risk_score_min`, negated. -/
def riskScoreReaches (riskContext : Dict) (minimum : ℚ) : Except MatchAbort Bool :=
  match (riskContext.get "risk_score").getD .none with
  | .none => .ok false
  | score =>
    match score.number? with
    | some q => .ok (minimum ≤ q)
    | none => .error (.raised unorderedError)

/-- The conditions of `_matches`. -/
def conditions (rule : PolicyRule) (request : ToolRequest) (riskContext : Dict) :
    List (Except MatchAbort Bool) :=
  let target := request.target.getD ""
  [.ok ((configured rule.toolName).all fun name => name = request.toolName),
    .ok ((configured rule.action).all fun action => some action = request.action),
    .ok ((configured rule.environment).all fun environment => environment = request.environment),
    .ok ((configured rule.targetEquals).all fun text => text = target),
    .ok ((configured rule.targetContains).all fun text => isIn text target),
    regexCondition limits rule.targetMatches "target_matches" target true,
    regexCondition limits rule.targetNotMatches "target_not_matches" target false,
    .ok (rule.inputEquals.all fun input => input.pyEq request.input),
    .ok ((configured rule.inputContains).all fun text => isIn text (stringify request.input)),
    .ok (metadataEqual request.metadata rule.metadataEquals),
    .ok (metadataContain request.metadata rule.metadataContains),
    .ok ((configured rule.riskLevel).all fun level =>
      (riskContext.get "risk_level").getD .none = .str level),
    match rule.riskScoreMin with
    | none => .ok true
    | some minimum => riskScoreReaches riskContext minimum]

/-- `_matches`. -/
def ruleMatches (rule : PolicyRule) (request : ToolRequest) (riskContext : Dict) :
    Except MatchAbort Bool :=
  allHold (conditions limits rule request riskContext)

/-! ## Evaluation -/

structure PolicyEngine where
  rules : List PolicyRule
  policyVersion : String
  defaultDecision : Decision
deriving DecidableEq

/-- `PolicyEngine.__init__`. -/
def policyEngine (rules : List PolicyRule) (policyVersion : String) (defaultDecision : Decision) :
    PolicyEngine :=
  ⟨sortBy PolicyRule.priority rules, policyVersion, defaultDecision⟩

/-- The engine of a parsed policy. -/
def PolicySchema.engine (schema : PolicySchema) : PolicyEngine :=
  policyEngine schema.rules schema.policyVersion schema.defaultDecision

structure PolicyExplanation where
  policyVersion : String
  isMatched : Bool
  matchedRuleId : Option String
  matchedRulePriority : Option ℕ
  matchedConditions : List String
  evaluatedRuleIds : List String
  defaultDecision : Bool

def PolicyExplanation.dump (explanation : PolicyExplanation) : Dict :=
  [("policy_version", .str explanation.policyVersion), ("matched", .bool explanation.isMatched),
    ("matched_rule_id", optionValue explanation.matchedRuleId),
    ("matched_rule_priority", (explanation.matchedRulePriority.map fun n => Value.int n).getD .none),
    ("matched_conditions", .list (explanation.matchedConditions.map .str)),
    ("evaluated_rule_ids", .list (explanation.evaluatedRuleIds.map .str)),
    ("default_decision", .bool explanation.defaultDecision)]

omit [PatternSearch] [ValueText] in
@[simp] theorem PolicyExplanation.get_default (explanation : PolicyExplanation) :
    explanation.dump.get "default_decision" = some (.bool explanation.defaultDecision) := by
  simp [dump, PyDict.get_cons]

/-- `_is_allowed`. -/
def isAllowed (decision : Decision) : Bool := decision = .allow ∨ decision = .simulate

/-- The text of a `PolicyRuntimeGuardError`. -/
def guardReason (ruleId fieldName : String) (valueBytes limit : ℕ) : String :=
  "policy_regex_target_too_large: policy rule " ++ ValueText.repr ruleId ++ " field " ++
    ValueText.repr fieldName ++ " target is " ++ toString valueBytes ++
    " bytes, exceeding limit " ++ toString limit

namespace PolicyEngine

/-- The decision of a rule whose guard tripped. -/
def guardDecision (engine : PolicyEngine) (rule : PolicyRule) (evaluated : List String)
    (fieldName : String) (valueBytes limit : ℕ) : PolicyDecision where
  decision := .block
  allowed := false
  severity := .high
  reason := guardReason rule.id fieldName valueBytes limit
  policyId := some rule.id
  explanation := some (PolicyExplanation.dump ⟨engine.policyVersion, false, some rule.id,
    some rule.priority, ["policy_regex_target_too_large", fieldName], evaluated, false⟩)

/-- The decision of a rule that matched. -/
def ruleDecision (engine : PolicyEngine) (rule : PolicyRule) (evaluated : List String) :
    PolicyDecision where
  decision := rule.decision
  allowed := isAllowed rule.decision
  severity := rule.severity
  reason := rule.reason
  policyId := some rule.id
  explanation := some (PolicyExplanation.dump ⟨engine.policyVersion, true, some rule.id,
    some rule.priority, Policy.matchedConditions rule, evaluated, false⟩)

/-- `_default_reason`. -/
def defaultReason (engine : PolicyEngine) : String :=
  if engine.defaultDecision = .allow then "No matching policy rule. Default allow."
  else "No matching policy rule. Default decision: " ++ engine.defaultDecision.value ++ "."

/-- The decision when no rule matched. -/
def unmatchedDecision (engine : PolicyEngine) (evaluated : List String) : PolicyDecision where
  decision := engine.defaultDecision
  allowed := isAllowed engine.defaultDecision
  severity := .low
  reason := engine.defaultReason
  policyId := none
  explanation := some (PolicyExplanation.dump
    ⟨engine.policyVersion, false, none, none, [], evaluated, true⟩)

/-- The loop of `evaluate`; `evaluated` holds the ids of the rules that were tried. -/
def evaluateRules (engine : PolicyEngine) (request : ToolRequest) (riskContext : Dict)
    (evaluated : List String) : List PolicyRule → Except PyException PolicyDecision
  | [] => .ok (engine.unmatchedDecision evaluated)
  | rule :: rules =>
    let evaluated := evaluated ++ [rule.id]
    match ruleMatches limits rule request riskContext with
    | .error (.guard fieldName valueBytes limit) =>
      .ok (engine.guardDecision rule evaluated fieldName valueBytes limit)
    | .error (.raised exc) => .error exc
    | .ok true => .ok (engine.ruleDecision rule evaluated)
    | .ok false => evaluateRules engine request riskContext evaluated rules

/-- `evaluate`, with the risk assessment as a dictionary. -/
def evaluate (engine : PolicyEngine) (request : ToolRequest) (riskContext : Dict) :
    Except PyException PolicyDecision :=
  engine.evaluateRules limits request riskContext [] engine.rules

end PolicyEngine

/-! ## Validation -/

structure PolicyValidationProfile where
  name : String
  failClosedDefault : Bool
  requireTerminalCatchAll : Bool
  terminalDisallowedDecisions : List Decision

def productionSafePolicyProfile : PolicyValidationProfile :=
  ⟨"production-safe", true, true, [.allow, .simulate]⟩

def policyLoadError (message : String) : PyException := .value (.other "PolicyLoadError") message

/-- `_validate_policy_regex_pattern`. -/
def validatePolicyRegexPattern (ruleId fieldName : String) (pattern : Option String) :
    Except PyException Unit :=
  match pattern with
  | none => .ok ()
  | some pattern => do
    raiseIf (limits.maxPatternBytes < pattern.utf8ByteSize)
      (policyLoadError ("policy_regex_pattern_too_large: policy rule " ++ ValueText.repr ruleId ++
        " field " ++ ValueText.repr fieldName ++ " regex is " ++ toString pattern.utf8ByteSize ++
        " bytes, exceeding limit " ++ toString limits.maxPatternBytes))
    match PatternSearch.compileError pattern with
    | none => .ok ()
    | some message => .error (policyLoadError ("Invalid regex in policy rule '" ++ ruleId ++
        "' field '" ++ fieldName ++ "': " ++ message))

/-- The loop of `_validate_policy_schema`. -/
def validateRules : List String → List PolicyRule → Except PyException Unit
  | _, [] => .ok ()
  | seen, rule :: rules => do
    raiseIf (rule.id ∈ seen)
      ⟨[.valueError, .exception, .baseException], "Duplicate policy rule id: " ++ rule.id⟩
    validatePolicyRegexPattern limits rule.id "target_matches" rule.targetMatches
    validatePolicyRegexPattern limits rule.id "target_not_matches" rule.targetNotMatches
    validateRules (rule.id :: seen) rules

omit [PatternSearch] [ValueText] in
/-- `_validate_profile_default`. -/
def validateProfileDefault (schema : PolicySchema) (profile : PolicyValidationProfile) :
    Except PyException Unit :=
  raiseIf (profile.failClosedDefault ∧ isAllowed schema.defaultDecision)
    (policyLoadError (profile.name ++ " policy must be fail-closed. default_decision must not " ++
      "allow or simulate unmatched actions."))

omit [PatternSearch] [ValueText] in
/-- `_validate_terminal_catch_all`. -/
def validateTerminalCatchAll (schema : PolicySchema) (profile : PolicyValidationProfile) :
    Except PyException Unit :=
  match schema.rules.filter isTerminalCatchAllRule with
  | [] => .error (policyLoadError
      (profile.name ++ " policy must define an explicit terminal catch-all rule."))
  | [terminal] => do
    raiseIf (terminal.decision ∈ profile.terminalDisallowedDecisions)
      (policyLoadError (profile.name ++
        " terminal catch-all rule must not allow or simulate unmatched actions."))
    raiseIf (schema.rules.any fun rule =>
        rule.id ≠ terminal.id ∧ terminal.priority ≤ rule.priority)
      (policyLoadError (profile.name ++ " terminal catch-all rule must have lowest precedence."))
  | _ => .error (policyLoadError
      (profile.name ++ " policy must define exactly one terminal catch-all rule."))

/-- `_validate_policy_schema`. -/
def validatePolicySchema (schema : PolicySchema) (profile : Option PolicyValidationProfile) :
    Except PyException Unit := do
  validateRules limits [] schema.rules
  match profile with
  | none => return ()
  | some profile =>
    validateProfileDefault schema profile
    if profile.requireTerminalCatchAll then validateTerminalCatchAll schema profile else .ok ()

/-- `from_yaml_text` for a parsed policy. -/
def loadPolicy (schema : PolicySchema) (profile : Option PolicyValidationProfile) :
    Except PyException PolicyEngine := do
  validatePolicySchema limits schema profile
  return schema.engine

end Matching

end Rygnal.Policy
