import Rygnal.Policy.PolicyEngine

/-! # The first matching rule decides

The rules are tried in the order of priority and then of the file. A policy that passes the
production-safe profile always has a rule that answers.
-/

namespace Rygnal.Policy
open Rygnal.Core Rygnal.Core.PyException Rygnal.Library Rygnal.Library.StableSort

/-! ## A rule without conditions matches everything -/

theorem allHold_eq_true {checks : List (Except MatchAbort Bool)} :
    allHold checks = .ok true ↔ ∀ check ∈ checks, check = .ok true := by
  induction checks with
  | nil => simp [allHold]
  | cons check checks ih =>
    rw [List.forall_mem_cons, ← ih]
    rcases check with abort | _ | _
    · simp [allHold]
    · simp [allHold]
    · simp [allHold]

section Evaluation
variable [PatternSearch] [ValueText] {limits : RegexLimits}

theorem ruleMatches_of_catchAll {rule : PolicyRule} (h : isTerminalCatchAllRule rule = true)
    (request : ToolRequest) (riskContext : Dict) :
    ruleMatches limits rule request riskContext = .ok true := by
  rw [isTerminalCatchAllRule, decide_eq_true_eq, matchedConditions, List.map_eq_nil_iff,
    List.filter_eq_nil_iff] at h
  simp only [List.forall_mem_cons, Bool.not_eq_true, Bool.not_eq_false',
    List.isEmpty_iff, Option.isSome_eq_false_iff, Option.isNone_iff_eq_none] at h
  obtain ⟨htool, haction, henv, hequals, hcontains, hmatches, hnot, hinput, hinputContains,
    hmetadata, hmetadataContains, hlevel, hscore, _⟩ := h
  rw [ruleMatches, allHold_eq_true]
  simp [conditions, regexCondition, metadataEqual, metadataContain, htool, haction, henv, hequals,
    hcontains, hmatches, hnot, hinput, hinputContains, hmetadata, hmetadataContains, hlevel, hscore]

/-! ## The rule that answers first -/

variable (limits) in
/-- The rule at `position` of the file is the first in the order of priority, and then of the
file, whose matching does not answer `False`. -/
structure FirstAnswer (rules : List PolicyRule) (request : ToolRequest) (riskContext : Dict)
    (rule : PolicyRule) (position : ℕ) : Prop where
  listed : (rule, position) ∈ rules.zipIdx
  answers : ruleMatches limits rule request riskContext ≠ .ok false
  earlier : ∀ other ∈ rules.zipIdx, Precedes PolicyRule.priority other (rule, position) →
    ruleMatches limits other.1 request riskContext = .ok false

namespace PolicyEngine
variable {engine : PolicyEngine} {request : ToolRequest} {riskContext : Dict}

/-- Rules that do not match are skipped. -/
theorem evaluateRules_skip {before : List PolicyRule}
    (h : ∀ rule ∈ before, ruleMatches limits rule request riskContext = .ok false)
    (evaluated : List String) (rest : List PolicyRule) :
    engine.evaluateRules limits request riskContext evaluated (before ++ rest) =
      engine.evaluateRules limits request riskContext (evaluated ++ before.map PolicyRule.id)
        rest := by
  induction before generalizing evaluated with
  | nil => simp
  | cons rule before ih =>
    have ⟨hrule, hbefore⟩ := List.forall_mem_cons.mp h
    rw [List.cons_append, evaluateRules]
    simp only [hrule]
    rw [ih hbefore, List.map_cons, List.append_assoc, List.singleton_append]

/-- The explanation says that the default decision was taken. -/
def TookDefault (decision : PolicyDecision) : Prop :=
  (decision.explanation.getD []).get "default_decision" = some (.bool true)

/-- What `evaluate` does when the matching of `rule` ends in `answer`. -/
def Follows (result : Except PyException PolicyDecision) (rule : PolicyRule) :
    Except MatchAbort Bool → Prop
  | .ok true => ∃ decision, result = .ok decision ∧ decision.decision = rule.decision ∧
      ¬ TookDefault decision
  | .ok false => False
  | .error (.guard ..) => ∃ decision, result = .ok decision ∧ decision.decision = .block ∧
      ¬ TookDefault decision
  | .error (.raised exc) => result = .error exc

/-- No rule answered, and the default decision is taken. -/
def UsesDefault (engine : PolicyEngine) (result : Except PyException PolicyDecision) : Prop :=
  ∃ decision, result = .ok decision ∧ decision.decision = engine.defaultDecision ∧
    TookDefault decision

theorem evaluateRules_cons {rule : PolicyRule}
    (h : ruleMatches limits rule request riskContext ≠ .ok false) (evaluated : List String)
    (rules : List PolicyRule) :
    Follows (engine.evaluateRules limits request riskContext evaluated (rule :: rules)) rule
      (ruleMatches limits rule request riskContext) := by
  rw [evaluateRules]
  cases hmatch : ruleMatches limits rule request riskContext with
  | error abort =>
    cases abort with
    | guard fieldName valueBytes limit =>
      exact ⟨_, rfl, rfl, by simp [TookDefault, guardDecision]⟩
    | raised exc => rfl
  | ok found =>
    cases found with
    | false => exact absurd hmatch h
    | true => exact ⟨_, rfl, rfl, by simp [TookDefault, ruleDecision]⟩

omit [PatternSearch] [ValueText] in
theorem Follows.not_tookDefault {result : Except PyException PolicyDecision} {rule : PolicyRule}
    {answer : Except MatchAbort Bool} (h : Follows result rule answer) {decision : PolicyDecision}
    (hresult : result = .ok decision) : ¬ TookDefault decision := by
  subst hresult
  rcases answer with (_ | exc) | _ | _
  · have ⟨_, hdecision, _, hdefault⟩ := h
    exact Except.ok.inj hdecision ▸ hdefault
  · nomatch h
  · exact h.elim
  · have ⟨_, hdecision, _, hdefault⟩ := h
    exact Except.ok.inj hdecision ▸ hdefault

end PolicyEngine

variable {rules : List PolicyRule} {request : ToolRequest} {riskContext : Dict}

/-- At most one rule is first. -/
theorem FirstAnswer.unique {rule other : PolicyRule} {i j : ℕ}
    (h : FirstAnswer limits rules request riskContext rule i)
    (h' : FirstAnswer limits rules request riskContext other j) : rule = other := by
  have hbefore := mt (h.earlier (other, j) h'.listed) h'.answers
  have hafter := mt (h'.earlier (rule, i) h.listed) h.answers
  simp only [Precedes, not_or, not_lt, not_and] at hbefore hafter
  have hpriority : rule.priority = other.priority := le_antisymm hbefore.1 hafter.1
  have hposition : i = j :=
    le_antisymm (hbefore.2 hpriority.symm) (hafter.2 hpriority)
  have hi := List.mem_zipIdx_iff_getElem?.mp h.listed
  have hj := List.mem_zipIdx_iff_getElem?.mp h'.listed
  rw [hposition] at hi
  exact Option.some_injective _ (hi.symm.trans hj)

variable (limits) in
/-- Either some rule answers first or none of them matches. -/
theorem firstAnswer_or_none (rules : List PolicyRule) (request : ToolRequest)
    (riskContext : Dict) :
    (∃ rule i before after, sortBy PolicyRule.priority rules = before ++ rule :: after ∧
      (∀ earlier ∈ before, ruleMatches limits earlier request riskContext = .ok false) ∧
      FirstAnswer limits rules request riskContext rule i) ∨
    ∀ rule ∈ sortBy PolicyRule.priority rules,
      ruleMatches limits rule request riskContext = .ok false := by
  classical
  let silent (rule : PolicyRule) : Bool :=
    !decide (ruleMatches limits rule request riskContext = .ok false)
  cases hfind : (sortBy PolicyRule.priority rules).find? silent with
  | none =>
    right
    intro rule hrule
    simpa [silent] using List.find?_eq_none.mp hfind rule hrule
  | some rule =>
    left
    have ⟨hanswers, before, after, hsplit, hbefore⟩ := List.find?_eq_some_iff_append.mp hfind
    have ⟨i, hlisted, hearlier⟩ := sortBy_split hsplit
    have hsilent : ∀ earlier ∈ before,
        ruleMatches limits earlier request riskContext = .ok false := by
      intro earlier hmem
      simpa [silent] using hbefore earlier hmem
    refine ⟨rule, i, before, after, hsplit, hsilent, hlisted, ?_, ?_⟩
    · simpa [silent] using hanswers
    · intro other hother hprecedes
      exact hsilent other.1 ((hearlier other.1).mpr ⟨other.2, hother, hprecedes⟩)

namespace PolicyEngine
variable {version : String} {defaultDecision : Decision}

/-- `evaluate` follows the rule that answers first. -/
theorem evaluate_follows {rule : PolicyRule} {i : ℕ}
    (h : FirstAnswer limits rules request riskContext rule i) :
    Follows ((policyEngine rules version defaultDecision).evaluate limits request riskContext) rule
      (ruleMatches limits rule request riskContext) := by
  rcases firstAnswer_or_none limits rules request riskContext with
    ⟨first, j, before, after, hsplit, hbefore, hfirst⟩ | hnone
  · rw [h.unique hfirst, evaluate]
    change Follows (evaluateRules _ _ _ _ _ (sortBy PolicyRule.priority rules)) _ _
    rw [hsplit, evaluateRules_skip hbefore]
    exact evaluateRules_cons hfirst.answers _ _
  · have hmem : rule ∈ rules := List.mem_of_getElem? (List.mem_zipIdx_iff_getElem?.mp h.listed)
    exact absurd (hnone rule (mem_sortBy.mpr hmem)) h.answers

/-- Without a matching rule the default decision is taken. -/
theorem evaluate_default
    (h : ∀ rule ∈ rules, ruleMatches limits rule request riskContext = .ok false) :
    (policyEngine rules version defaultDecision).UsesDefault
      ((policyEngine rules version defaultDecision).evaluate limits request riskContext) := by
  have hsorted : ∀ rule ∈ sortBy PolicyRule.priority rules,
      ruleMatches limits rule request riskContext = .ok false :=
    fun rule hrule => h rule (mem_sortBy.mp hrule)
  have hskip : (policyEngine rules version defaultDecision).evaluateRules limits request
      riskContext [] (sortBy PolicyRule.priority rules ++ []) = _ := evaluateRules_skip hsorted [] []
  rw [List.append_nil] at hskip
  rw [evaluate]
  change UsesDefault _ (evaluateRules _ _ _ _ _ (sortBy PolicyRule.priority rules))
  rw [hskip]
  exact ⟨_, rfl, rfl, rfl⟩

end PolicyEngine

/-! ## Accepted production-safe policies -/

/-- A policy that the production-safe profile accepts has one rule without conditions. It ranks
after every other rule and neither allows nor simulates. -/
structure SafeTerminal (rules : List PolicyRule) (terminal : PolicyRule) : Prop where
  listed : terminal ∈ rules
  catchAll : matchedConditions terminal = []
  notAllow : terminal.decision ≠ .allow
  notSimulate : terminal.decision ≠ .simulate
  only : ∀ rule ∈ rules, matchedConditions rule = [] → rule = terminal
  last : ∀ rule ∈ rules, rule ≠ terminal → rule.priority < terminal.priority

omit [PatternSearch] [ValueText] in
theorem not_mem_of_validateRules [PatternSearch] [ValueText] {seen : List String}
    {rules : List PolicyRule} (h : validateRules limits seen rules = .ok ()) :
    (rules.map PolicyRule.id).Nodup ∧ ∀ rule ∈ rules, rule.id ∉ seen := by
  induction rules generalizing seen with
  | nil => simp
  | cons rule rules ih =>
    simp only [validateRules, bind_eq_ok, raiseIf_eq_ok] at h
    obtain ⟨_, hfresh, _, _, _, _, hrest⟩ := h
    obtain ⟨hnodup, hseen⟩ := ih hrest
    constructor
    · rw [List.map_cons, List.nodup_cons]
      apply And.intro _ hnodup
      intro hmem
      obtain ⟨other, hother, hid⟩ := List.mem_map.mp hmem
      exact hseen other hother (hid ▸ List.mem_cons_self)
    · intro other hother
      rcases List.mem_cons.mp hother with rfl | hother
      · exact of_decide_eq_false hfresh
      · exact fun hmem => hseen other hother (List.mem_cons_of_mem _ hmem)

theorem loadPolicy_eq_ok {schema : PolicySchema} {engine : PolicyEngine}
    (h : loadPolicy limits schema (some productionSafePolicyProfile) = .ok engine) :
    engine = policyEngine schema.rules schema.policyVersion schema.defaultDecision ∧
      ∃ terminal, SafeTerminal schema.rules terminal := by
  simp only [loadPolicy, validatePolicySchema, bind_eq_ok] at h
  obtain ⟨_, ⟨_, hrules, _, hdefault, hterminal⟩, hengine⟩ := h
  have hnodup := (not_mem_of_validateRules hrules).1
  refine ⟨(Except.ok.inj hengine).symm, ?_⟩
  change validateTerminalCatchAll _ _ = _ at hterminal
  rw [validateTerminalCatchAll] at hterminal
  split at hterminal
  · cases hterminal
  · rename_i terminal hfilter
    simp only [bind_eq_ok, raiseIf_eq_ok] at hterminal
    obtain ⟨_, hdecision, hlast⟩ := hterminal
    have hmem : ∀ rule, rule ∈ schema.rules ∧ isTerminalCatchAllRule rule = true ↔
        rule = terminal := by
      intro rule
      rw [← List.mem_filter, hfilter, List.mem_singleton]
    obtain ⟨hlisted, hcatch⟩ := (hmem terminal).mpr rfl
    refine ⟨terminal, hlisted, of_decide_eq_true hcatch, ?_, ?_, ?_, ?_⟩
    · intro hallow
      simp [productionSafePolicyProfile, hallow] at hdecision
    · intro hsimulate
      simp [productionSafePolicyProfile, hsimulate] at hdecision
    · intro rule hrule hconditions
      exact (hmem rule).mp ⟨hrule, decide_eq_true hconditions⟩
    · intro rule hrule hne
      by_contra hge
      apply List.any_eq_false.mp hlast rule hrule
      apply decide_eq_true
      apply And.intro _ (not_lt.mp hge)
      intro hid
      exact hne (List.inj_on_of_nodup_map hnodup hrule hlisted hid)
  · cases hterminal

theorem SafeTerminal.matches {terminal : PolicyRule} (h : SafeTerminal rules terminal) :
    ruleMatches limits terminal request riskContext = .ok true :=
  ruleMatches_of_catchAll (decide_eq_true h.catchAll) request riskContext

/-- The rule that answers first decides: with its decision when it matches, with a block when its
guard trips, with the exception of its matching otherwise. Without one the default decides; an
accepted production-safe policy never gets there, and its terminal rule decides when no rule with
a condition answers. -/
theorem evaluate_decides (schema : PolicySchema) (request : ToolRequest) (riskContext : Dict)
    (loadLimits limits : RegexLimits) :
    ((∃ rule position, FirstAnswer limits schema.rules request riskContext rule position ∧
          PolicyEngine.Follows (schema.engine.evaluate limits request riskContext) rule
            (ruleMatches limits rule request riskContext)) ∨
        (∀ rule ∈ schema.rules, ruleMatches limits rule request riskContext = .ok false) ∧
          schema.engine.UsesDefault (schema.engine.evaluate limits request riskContext)) ∧
      ∀ engine, loadPolicy loadLimits schema (some productionSafePolicyProfile) = .ok engine →
        engine = schema.engine ∧
          (∀ decision, engine.evaluate limits request riskContext = .ok decision →
            ¬ PolicyEngine.TookDefault decision) ∧
          ∃ terminal, SafeTerminal schema.rules terminal ∧
            ((∀ rule ∈ schema.rules, matchedConditions rule ≠ [] →
                ruleMatches limits rule request riskContext = .ok false) →
              ∃ decision, engine.evaluate limits request riskContext = .ok decision ∧
                decision.decision = terminal.decision) := by
  have hfirst : (∃ rule position, FirstAnswer limits schema.rules request riskContext rule
        position ∧ PolicyEngine.Follows (schema.engine.evaluate limits request riskContext) rule
          (ruleMatches limits rule request riskContext)) ∨
      (∀ rule ∈ schema.rules, ruleMatches limits rule request riskContext = .ok false) ∧
        schema.engine.UsesDefault (schema.engine.evaluate limits request riskContext) := by
    rcases firstAnswer_or_none limits schema.rules request riskContext with
      ⟨rule, position, _, _, _, _, hanswer⟩ | hnone
    · exact .inl ⟨rule, position, hanswer, PolicyEngine.evaluate_follows hanswer⟩
    · have hsilent := fun rule hrule => hnone rule (mem_sortBy.mpr hrule)
      exact .inr ⟨hsilent, PolicyEngine.evaluate_default hsilent⟩
  apply And.intro hfirst
  intro engine hload
  have ⟨hengine, terminal, hterminal⟩ := loadPolicy_eq_ok hload
  change engine = schema.engine at hengine
  subst hengine
  have hmatches : ruleMatches limits terminal request riskContext = .ok true := hterminal.matches
  rcases hfirst with ⟨rule, position, hanswer, hfollows⟩ | ⟨hnone, -⟩
  · refine ⟨rfl, ?_, terminal, hterminal, ?_⟩
    · intro decision hdecision
      exact hfollows.not_tookDefault hdecision
    · intro hsilent
      have hrule : rule ∈ schema.rules :=
        List.mem_of_getElem? (List.mem_zipIdx_iff_getElem?.mp hanswer.listed)
      have hcatch : matchedConditions rule = [] := by
        by_contra hconditions
        exact hanswer.answers (hsilent rule hrule hconditions)
      rw [hterminal.only rule hrule hcatch, hmatches] at hfollows
      have ⟨decision, hdecision, hvalue, _⟩ := hfollows
      exact ⟨decision, hdecision, hvalue⟩
  · have hfalse := hnone terminal hterminal.listed
    rw [hmatches] at hfalse
    nomatch hfalse

end Evaluation

/-! ## A policy whose guard trips -/

namespace Sample

/-- Patterns are searched as texts. -/
instance : PatternSearch := ⟨fun _ => none, isIn⟩

instance : ValueText := ⟨fun _ => "", fun text => "'" ++ text ++ "'"⟩

def deployRule : PolicyRule where
  id := "allow_deploy"
  decision := .allow
  severity := .low
  reason := "Deployments are allowed."
  priority := 10
  toolName := none
  action := none
  environment := none
  targetEquals := none
  targetContains := none
  targetMatches := some "deploy"
  targetNotMatches := none
  inputEquals := none
  inputContains := none
  metadataEquals := []
  metadataContains := []
  riskLevel := none
  riskScoreMin := none
  priority_le := by decide

def reviewRule : PolicyRule :=
  { deployRule with id := "review_rest", decision := .requireApproval, priority := 1000,
                    targetMatches := none, priority_le := le_refl _ }

def policy : PolicySchema := ⟨"policy.v1", .block, [deployRule, reviewRule]⟩

def writeRequest : ToolRequest :=
  ⟨"filesystem", some "write", some "notes", .none, "user", "agent", "test", []⟩

def limits : RegexLimits := ⟨2048, 4⟩

end Sample

/-- Under the defaults the terminal rule decides the sample request. -/
theorem reviewed_by_terminal :
    ∃ decision, Sample.policy.engine.evaluate ⟨2048, 8192⟩ Sample.writeRequest [] = .ok decision ∧
      decision.decision = .requireApproval := by
  have ⟨_, haccepted⟩ := evaluate_decides Sample.policy Sample.writeRequest [] Sample.limits
    ⟨2048, 8192⟩
  have hload : loadPolicy Sample.limits Sample.policy (some productionSafePolicyProfile) =
      .ok Sample.policy.engine := by decide
  have ⟨_, _, terminal, hterminal, hdecides⟩ := haccepted _ hload
  have hreview := hterminal.only Sample.reviewRule (by decide) (by decide)
  rw [← hreview] at hdecides
  exact hdecides (by decide)

/-- Where a guard trips no rule with a condition matches, and the request is blocked although the
terminal rule asks for approval. -/
theorem guard_before_terminal :
    (loadPolicy Sample.limits Sample.policy (some productionSafePolicyProfile)).isOk = true ∧
      (∀ rule ∈ Sample.policy.rules, matchedConditions rule ≠ [] →
        ruleMatches Sample.limits rule Sample.writeRequest [] ≠ .ok true) ∧
      matchedConditions Sample.reviewRule = [] ∧ Sample.reviewRule.decision = .requireApproval ∧
      (Sample.policy.engine.evaluate Sample.limits Sample.writeRequest []).toOption.map
        PolicyDecision.decision = some .block := by
  decide

end Rygnal.Policy
