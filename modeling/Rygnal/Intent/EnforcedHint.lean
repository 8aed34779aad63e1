import Rygnal.Intent.CapabilityMatcher

/-! # The hint of an enforced contract

The hint of a list of actions is the highest hint of its members. What it says about their paths
holds for the resource kind of the action, which is the dominant one of all its paths.
-/

namespace Rygnal.Intent
open Rygnal.Core Rygnal.Library Rygnal.Library.PyText Rygnal.Library.PosixPath Rygnal.ChangeRisk

/-! ## The highest hint -/

/-- The hint that the fallback policy takes from one match state. -/
def stateHint : IntentMatchState → IntentDecisionHint
  | .exactMatch => .allow
  | .partialMatch => .audit
  | .drift | .conflict | .unknown => .requireApproval
  | .hardSensitive => .block

theorem hasState_eq_true {results : List IntentMatchResult} {state : IntentMatchState} :
    hasState results state = true ↔ ∃ result ∈ results, result.matchState = state := by
  simp [hasState]

theorem hasState_eq_false {results : List IntentMatchResult} {state : IntentMatchState} :
    ¬ hasState results state = true ↔ ∀ result ∈ results, result.matchState ≠ state := by
  simp [hasState]

/-- Some result has the hint, and none has a higher one. -/
structure Highest (results : List IntentMatchResult) (hint : IntentDecisionHint) : Prop where
  attained : ∃ result ∈ results, stateHint result.matchState = hint
  bound : ∀ result ∈ results, (stateHint result.matchState).order ≤ hint.order

theorem highest_of_state {results : List IntentMatchResult} {state : IntentMatchState}
    (h : hasState results state = true)
    (hbound : ∀ result ∈ results, (stateHint result.matchState).order ≤ (stateHint state).order) :
    Highest results (stateHint state) := by
  obtain ⟨result, hmem, hstate⟩ := hasState_eq_true.mp h
  exact ⟨⟨result, hmem, congrArg stateHint hstate⟩, hbound⟩

theorem recommendedFallback_highest {results : List IntentMatchResult} (h : results ≠ []) :
    Highest results (recommendedFallback results).2.1 := by
  rw [recommendedFallback, if_neg h]
  split_ifs with hhard hunknown hconflict hdrift hpartial hexact
  · apply highest_of_state hhard
    intro result _
    cases result.matchState <;> decide
  · apply highest_of_state hunknown
    intro result hmem
    have hstate := hasState_eq_false.mp hhard result hmem
    cases hresult : result.matchState <;> first | decide | exact absurd hresult hstate
  · apply highest_of_state hconflict
    intro result hmem
    have hstate := hasState_eq_false.mp hhard result hmem
    cases hresult : result.matchState <;> first | decide | exact absurd hresult hstate
  · apply highest_of_state hdrift
    intro result hmem
    have hstate := hasState_eq_false.mp hhard result hmem
    cases hresult : result.matchState <;> first | decide | exact absurd hresult hstate
  · apply highest_of_state hpartial
    intro result hmem
    have hhard' := hasState_eq_false.mp hhard result hmem
    have hunknown' := hasState_eq_false.mp hunknown result hmem
    have hconflict' := hasState_eq_false.mp hconflict result hmem
    have hdrift' := hasState_eq_false.mp hdrift result hmem
    cases hresult : result.matchState <;> first | decide | contradiction
  · obtain ⟨result, hmem⟩ := List.exists_mem_of_ne_nil results h
    have hall : ∀ result ∈ results, result.matchState = .exactMatch := by simpa using hexact
    have hstate : hasState results .exactMatch = true :=
      hasState_eq_true.mpr ⟨result, hmem, hall result hmem⟩
    apply highest_of_state hstate
    intro other hother
    rw [hall other hother]
  · exfalso
    apply hexact
    rw [List.all_eq_true]
    intro result hmem
    have hhard' := hasState_eq_false.mp hhard result hmem
    have hunknown' := hasState_eq_false.mp hunknown result hmem
    have hconflict' := hasState_eq_false.mp hconflict result hmem
    have hdrift' := hasState_eq_false.mp hdrift result hmem
    have hpartial' := hasState_eq_false.mp hpartial result hmem
    cases hresult : result.matchState <;> first | rfl | contradiction

theorem Highest.mono {results results' : List IntentMatchResult} {hint hint' : IntentDecisionHint}
    (h : Highest results hint) (h' : Highest results' hint') (hsub : results ⊆ results') :
    hint.order ≤ hint'.order := by
  obtain ⟨result, hmem, rfl⟩ := h.attained
  exact h'.bound result (hsub hmem)

/-! ## Scopes and single paths -/

section Scopes
variable [UnicodeTables] {scope : ResourceScope} {kind : ResourceKind} {paths : List String}
  {path : String} {graph own : ResourceGraph}

omit [UnicodeTables] in
theorem matchesExactPath_mono {scopeValue : String} (hpath : path ∈ paths)
    (h : matchesExactPath scopeValue [path] = true) : matchesExactPath scopeValue paths = true := by
  rw [matchesExactPath] at h ⊢
  cases hnormal : normalizeRepoRelativePath scopeValue with
  | error exc =>
    rw [hnormal] at h
    nomatch h
  | ok expected =>
    rw [hnormal] at h
    simp only [List.mem_singleton, decide_eq_true_eq] at h ⊢
    rw [h]
    exact hpath

omit [UnicodeTables] in
theorem any_mono {p : String → Bool} (hpath : path ∈ paths) (h : [path].any p = true) :
    paths.any p = true := by
  rw [List.any_cons, List.any_nil, Bool.or_false] at h
  exact List.any_eq_true.mpr ⟨path, hpath, h⟩

theorem matchesSymbol_mono {scopeValue : String}
    (hgraph : buildResourceGraphFromPaths paths = .ok graph)
    (hown : buildResourceGraphFromPaths [path] = .ok own) (hpath : path ∈ paths)
    (h : matchesSymbol scopeValue own = true) : matchesSymbol scopeValue graph = true := by
  simp only [matchesSymbol] at h ⊢
  split at h
  · nomatch h
  · rename_i hexpected
    obtain ⟨node, hnode, hmatches⟩ := List.any_eq_true.mp h
    obtain ⟨hnodes, hids⟩ := buildResourceGraph_spec hgraph
    obtain ⟨other, hother, hid⟩ := hids path hpath own hown node hnode
    have ⟨hkind, hname⟩ :=
      (hnodes other hother).eq_of_nodeId ((buildResourceGraph_spec hown).1 node hnode) hid
    rw [if_neg hexpected, List.any_eq_true]
    refine ⟨other, hother, ?_⟩
    rw [nodeMatches, hkind, hname, hid]
    exact hmatches

/-- A scope that matches one path alone matches an action that has the path. -/
theorem scopeMatches_mono (hgraph : buildResourceGraphFromPaths paths = .ok graph)
    (hown : buildResourceGraphFromPaths [path] = .ok own) (hpath : path ∈ paths)
    (h : scopeMatches scope kind [path] own = true) : scopeMatches scope kind paths graph = true := by
  rw [scopeMatches] at h ⊢
  split at h
  · nomatch h
  · rename_i hkind
    rw [if_neg hkind]
    cases htype : scope.type with
    | exactPath =>
      rw [htype] at h
      exact matchesExactPath_mono hpath h
    | pathGlob =>
      rw [htype] at h
      exact any_mono hpath h
    | fileType =>
      rw [htype] at h
      simp only [matchesFileType] at h ⊢
      split at h
      · nomatch h
      · rename_i hsuffix
        rw [if_neg hsuffix]
        exact any_mono hpath h
    | resourceKind =>
      rw [htype] at h
      exact h
    | symbol =>
      rw [htype] at h
      exact matchesSymbol_mono hgraph hown hpath h

/-- Without a scope that looks at paths or symbols, every path is matched like the action. -/
theorem scopeMatches_of_kind {scopes : List ResourceScope}
    (hscopes : requiresPathOrGraphScope scopes = false) (hscope : scope ∈ scopes)
    (h : scopeMatches scope kind paths graph = true) : scopeMatches scope kind [path] graph = true := by
  have htypes := List.any_eq_false.mp hscopes scope hscope
  rw [scopeMatches] at h ⊢
  split at h
  · nomatch h
  · rename_i hkind
    rw [if_neg hkind]
    cases htype : scope.type <;> simp only [htype] at h htypes ⊢ <;>
      first | exact h | exact absurd (by decide) htypes

end Scopes

/-! ## What a result says -/

section Results
variable [UnicodeTables] {action : NormalizedAction} {contract : IntentContract}
  {result : IntentMatchResult}

def actionPaths (action : NormalizedAction) : List String := (normalizedActionPaths action).1

theorem matchActionToContract_eq_ok (h : matchActionToContract action contract = .ok result) :
    ∃ graph, safeGraphForPaths (actionPaths action) = .ok graph ∧
      (result.matchState = .hardSensitive ∨ result.matchState = .unknown ∨
        result = matchScopes action contract (actionPaths action) graph) := by
  simp only [matchActionToContract, bind_eq_ok] at h
  obtain ⟨graph, hgraph, h⟩ := h
  refine ⟨graph, hgraph, ?_⟩
  split_ifs at h
  · obtain rfl := Except.ok.inj h
    exact .inl rfl
  · obtain rfl := Except.ok.inj h
    exact .inr (.inl rfl)
  · obtain rfl := Except.ok.inj h
    exact .inr (.inr rfl)

theorem matchingScopes_eq_nil {scopes : List ResourceScope} {kind : ResourceKind}
    {paths : List String} {graph : ResourceGraph} :
    matchingScopes scopes kind paths graph = [] ↔
      ∀ scope ∈ scopes, ¬ scopeMatches scope kind paths graph = true := by
  rw [matchingScopes, List.filter_eq_nil_iff]

omit [UnicodeTables] in
theorem operationAllowed_exact (h : (operationAllowed action contract).exact = true) :
    action.operation ∈ contract.allowedActions := by
  rw [operationAllowed] at h
  split at h
  · assumption
  · split at h
    · nomatch h
    · nomatch h

/-- Every path of an exact match against target scopes is in one of them. -/
theorem exactMatch_of_matchTargetScopes {operationMatch : OperationMatch} {paths : List String}
    {graph : ResourceGraph} (h : (matchTargetScopes action contract operationMatch paths
      graph).matchState = .exactMatch) :
    operationMatch.exact = true ∧ ∀ path ∈ paths, ∃ scope ∈ contract.targetScopes,
      scopeMatches scope action.resourceKind [path] graph = true := by
  simp only [matchTargetScopes] at h
  split at h
  · nomatch h
  split at h
  · nomatch h
  rename_i hmatched
  split at h
  · nomatch h
  rename_i houtside
  split at h
  · rename_i hexact
    refine ⟨hexact, fun path hpath => ?_⟩
    rw [not_not, actionPathsOutsideTargetScopes] at houtside
    split at houtside
    · rename_i hkinds
      have hscopes : requiresPathOrGraphScope contract.targetScopes = false := by
        rcases hkinds with hnone | hkinds
        · rw [hnone] at hpath
          nomatch hpath
        · simpa using hkinds
      obtain ⟨scope, hscope⟩ := List.exists_mem_of_ne_nil _ hmatched
      obtain ⟨hmem, hmatches⟩ := List.mem_filter.mp hscope
      exact ⟨scope, hmem, scopeMatches_of_kind hscopes hmem hmatches⟩
    · have hany := List.filter_eq_nil_iff.mp houtside path hpath
      simpa using hany
  · nomatch h

/-- An exact match has its operation allowed, no excluded scope, and every path in some target
scope. -/
theorem exactMatch_of_matchScopes {paths : List String} {graph : ResourceGraph}
    (h : (matchScopes action contract paths graph).matchState = .exactMatch) :
    action.operation ∈ contract.allowedActions ∧
      (∀ scope ∈ contract.excludedScopes,
        ¬ scopeMatches scope action.resourceKind paths graph = true) ∧
      (contract.targetScopes ≠ [] → ∀ path ∈ paths, ∃ scope ∈ contract.targetScopes,
        scopeMatches scope action.resourceKind [path] graph = true) := by
  simp only [matchScopes] at h
  split at h
  · nomatch h
  rename_i hexcluded
  rw [not_not] at hexcluded
  split at h
  · split at h
    · nomatch h
    · nomatch h
  split at h
  · rename_i htargets
    split at h
    · rename_i hexact
      exact ⟨operationAllowed_exact hexact, matchingScopes_eq_nil.mp hexcluded,
        fun hne => absurd htargets hne⟩
    · nomatch h
  · have ⟨hexact, hpaths⟩ := exactMatch_of_matchTargetScopes h
    exact ⟨operationAllowed_exact hexact, matchingScopes_eq_nil.mp hexcluded, fun _ => hpaths⟩

/-- An excluded scope makes the result a conflict. -/
theorem conflict_of_excluded {paths : List String} {graph : ResourceGraph} {scope : ResourceScope}
    (hscope : scope ∈ contract.excludedScopes)
    (h : scopeMatches scope action.resourceKind paths graph = true) :
    (matchScopes action contract paths graph).matchState = .conflict := by
  have hexcluded : matchingScopes contract.excludedScopes action.resourceKind paths graph ≠ [] := by
    intro hnone
    exact matchingScopes_eq_nil.mp hnone scope hscope h
  simp only [matchScopes]
  rw [if_pos hexcluded]

end Results

/-! ## What the hint of an enforced contract says -/

section Enforced
variable [UnicodeTables]

/-- The scope matches a path that is evaluated alone, as a resource of the given kind. -/
def MatchesAlone (scope : ResourceScope) (kind : ResourceKind) (path : String) : Prop :=
  ∃ graph, buildResourceGraphFromPaths [path] = .ok graph ∧
    scopeMatches scope kind [path] graph = true

/-- The scope matches a path of the action, with the kind and the graph of the action. -/
def MatchesIn (action : NormalizedAction) (scope : ResourceScope) (path : String) : Prop :=
  ∃ graph, safeGraphForPaths (actionPaths action) = .ok graph ∧
    scopeMatches scope action.resourceKind [path] graph = true

/-- What the hint of a list of actions says, where `inTarget` and `inExcluded` are how a path of an
action is matched against target and excluded scopes. -/
structure HintSays (contract : IntentContract)
    (inTarget inExcluded : NormalizedAction → ResourceScope → String → Prop)
    (actions : List NormalizedAction) (hint : IntentDecisionHint) : Prop where
  allowed : hint = .allow → ∀ action ∈ actions, action.operation ∈ contract.allowedActions ∧
    ∀ path ∈ actionPaths action,
      (contract.targetScopes ≠ [] → ∃ scope ∈ contract.targetScopes, inTarget action scope path) ∧
      ∀ scope ∈ contract.excludedScopes, ¬ inExcluded action scope path
  excluded : ∀ action ∈ actions, ∀ path ∈ actionPaths action, ∀ scope ∈ contract.excludedScopes,
    inExcluded action scope path → hint = .requireApproval ∨ hint = .block
  monotone : ∀ before after action, actions = before ++ action :: after → before ++ after ≠ [] →
    ∀ evaluation, evaluateActions (before ++ after) contract = .ok evaluation →
      evaluation.effectiveHint.order ≤ hint.order

variable {contract : IntentContract} {actions : List NormalizedAction}
  {evaluation : IntentFallbackEvaluation}

/-- The hint of an enforced contract is the highest hint of the results. -/
theorem evaluateActions_highest (hmode : contract.enforcementMode = .enforce)
    (hactions : actions ≠ []) (h : evaluateActions actions contract = .ok evaluation) :
    ∃ results, actions.mapM (fun action => matchActionToContract action contract) = .ok results ∧
      Highest results evaluation.effectiveHint := by
  obtain ⟨results, hresults, heq⟩ := map_eq_ok.mp h
  refine ⟨results, hresults, ?_⟩
  have hne : results ≠ [] := by
    rintro rfl
    obtain ⟨action, hmem⟩ := List.exists_mem_of_ne_nil actions hactions
    obtain ⟨result, hresult⟩ := (mapM_eq_ok_mem hresults).2 action hmem
    nomatch ((mapM_eq_ok_mem hresults).1 result).mpr ⟨action, hmem, hresult⟩
  rw [← heq]
  simp only [evaluateIntentFallback, hmode, effectiveHint]
  exact recommendedFallback_highest hne

omit [UnicodeTables] in
theorem requireApproval_or_block {hint : IntentDecisionHint}
    (h : IntentDecisionHint.requireApproval.order ≤ hint.order) :
    hint = .requireApproval ∨ hint = .block := by
  cases hint <;> first | exact .inl rfl | exact .inr rfl | exact absurd h (by decide)

omit [UnicodeTables] in
theorem exactMatch_of_stateHint {state : IntentMatchState}
    (h : (stateHint state).order ≤ IntentDecisionHint.allow.order) : state = .exactMatch := by
  cases state <;> first | rfl | exact absurd h (by decide)

theorem MatchesAlone.in_action {action : NormalizedAction} {scope : ResourceScope} {path : String}
    {graph : ResourceGraph} (h : MatchesAlone scope action.resourceKind path)
    (hgraph : safeGraphForPaths (actionPaths action) = .ok graph)
    (hpath : path ∈ actionPaths action) :
    scopeMatches scope action.resourceKind (actionPaths action) graph = true := by
  obtain ⟨own, hown, hmatches⟩ := h
  rw [safeGraphForPaths, if_neg (List.ne_nil_of_mem hpath)] at hgraph
  exact scopeMatches_mono hgraph hown hpath hmatches

/-- What an allowed list says about one of its actions. -/
theorem allowed_of_exactMatch {action : NormalizedAction} {result : IntentMatchResult}
    (hresult : matchActionToContract action contract = .ok result)
    (hexact : result.matchState = .exactMatch) :
    action.operation ∈ contract.allowedActions ∧ ∀ path ∈ actionPaths action,
      (contract.targetScopes ≠ [] → ∃ scope ∈ contract.targetScopes, MatchesIn action scope path) ∧
      ∀ scope ∈ contract.excludedScopes, ¬ MatchesAlone scope action.resourceKind path := by
  obtain ⟨graph, hgraph, hstate | hstate | hscopes⟩ := matchActionToContract_eq_ok hresult
  · rw [hstate] at hexact
    nomatch hexact
  · rw [hstate] at hexact
    nomatch hexact
  · rw [hscopes] at hexact
    have ⟨hoperation, hexcluded, htargets⟩ := exactMatch_of_matchScopes hexact
    refine ⟨hoperation, fun path hpath => ⟨fun hne => ?_, fun scope hscope halone => ?_⟩⟩
    · have ⟨scope, hscope, hmatches⟩ := htargets hne path hpath
      exact ⟨scope, hscope, graph, hgraph, hmatches⟩
    · exact hexcluded scope hscope (halone.in_action hgraph hpath)

/-- A path that an excluded scope matches alone keeps its action from being allowed. -/
theorem stateHint_of_excluded {action : NormalizedAction} {result : IntentMatchResult}
    (hresult : matchActionToContract action contract = .ok result) {path : String}
    (hpath : path ∈ actionPaths action) {scope : ResourceScope}
    (hscope : scope ∈ contract.excludedScopes)
    (halone : MatchesAlone scope action.resourceKind path) :
    IntentDecisionHint.requireApproval.order ≤ (stateHint result.matchState).order := by
  obtain ⟨graph, hgraph, hstate | hstate | hscopes⟩ := matchActionToContract_eq_ok hresult
  · rw [hstate]
    decide
  · rw [hstate]
    decide
  · rw [hscopes, conflict_of_excluded hscope (halone.in_action hgraph hpath)]
    decide

end Enforced

/-! ## A command with paths of two kinds -/

namespace Sample

def scope (type : ResourceScopeType) (value : String) (h : isPlain value = true) : ResourceScope :=
  ⟨type, value, none, h⟩

/-- Files may be deleted, but no documentation. -/
def deletions : IntentContract where
  contractId := "intent_5f0c"
  allowedActions := [.deleteFile]
  targetScopes := [scope .pathGlob "*" (by decide)]
  excludedScopes := [scope .resourceKind "documentation" (by decide)]
  enforcementMode := .enforce
  allows_some := by decide
  targets_some := by decide

end Sample

open Sample PyText.Ascii

end Rygnal.Intent
