import Rygnal.Intent.ResourceGraph
import Rygnal.Library.Glob

/-! # Matching actions against a contract

`capability_matcher.py`: an action is matched with all its paths, its one resource kind and the
graph of its paths against the scopes of a contract.
-/

namespace Rygnal.Intent
open Rygnal.Core Rygnal.Library Rygnal.Library.PyText Rygnal.Library.PosixPath Rygnal.ChangeRisk

abbrev ResourceGraph := List ResourceGraphNode

/-! ## Scopes -/

def configResourceKinds : List ResourceKind := [.config, .ciWorkflow, .policy]

def dependencyResourceKinds : List ResourceKind := [.dependencyManifest, .lockfile]

def mutatingOperations : List IntentOperation :=
  [.create, .modify, .deleteFile, .deleteFolder, .rename, .move]

def resourceKindMatches (expected kind : ResourceKind) : Bool :=
  kind = expected || (expected = .config && kind ∈ configResourceKinds) ||
    (expected = .dependencyManifest && kind ∈ dependencyResourceKinds)

def matchesExactPath (scopeValue : String) (actionPaths : List String) : Bool :=
  match normalizeRepoRelativePath scopeValue with
  | .ok expected => expected ∈ actionPaths
  | .error _ => false

def matchesPathGlob (scopeValue : String) (actionPaths : List String) : Bool :=
  let pattern := (replaceChar '\\' '/' (strip scopeValue.toList)).dropWhile (· = '/')
  actionPaths.any fun path => Glob.fnmatchcase path.toList pattern

/-- The kinds of the nodes that a symbol scope looks at. -/
def symbolKinds : List ResourceKind := [.pythonModule, .pythonSymbol, .rustModule, .rustSymbol]

def nodeMatches (expected : String) (node : ResourceGraphNode) : Bool :=
  node.kind ∈ symbolKinds ∧ (node.name = expected ∨ node.nodeId = expected)

def matchesSymbol (scopeValue : String) (graph : ResourceGraph) : Bool :=
  let expected := stripString scopeValue
  if expected = "" then false else graph.any (nodeMatches expected)

section Matcher
variable [UnicodeTables]

def matchesFileType (scopeValue : String) (actionPaths : List String) : Bool :=
  let suffix := lower (strip scopeValue.toList)
  let suffix := if startsWith suffix "." then suffix else '.' :: suffix
  if strip scopeValue.toList = [] then false
  else actionPaths.any fun path => suffix.isSuffixOf (lower (PosixPath.name path.toList))

def matchesResourceKindScope (scope : ResourceScope) (kind : ResourceKind) : Bool :=
  match scope.resourceKind with
  | some expected => resourceKindMatches expected kind
  | none =>
    match ResourceKind.ofValue? (String.ofList (lower (strip scope.value.toList))) with
    | some expected => resourceKindMatches expected kind
    | none => false

/-- `_scope_matches`; of the action only its resource kind is read. -/
def scopeMatches (scope : ResourceScope) (kind : ResourceKind) (actionPaths : List String)
    (graph : ResourceGraph) : Bool :=
  if scope.resourceKind.any fun expected => !resourceKindMatches expected kind then false
  else match scope.type with
    | .exactPath => matchesExactPath scope.value actionPaths
    | .pathGlob => matchesPathGlob scope.value actionPaths
    | .fileType => matchesFileType scope.value actionPaths
    | .resourceKind => matchesResourceKindScope scope kind
    | .symbol => matchesSymbol scope.value graph

/-! ## Actions -/

/-- The paths of an action and whether one of them is invalid. -/
def normalizedActionPaths (action : NormalizedAction) : List String × List String :=
  let rawPaths := action.affectedPaths ++ action.oldPath.toList ++ action.newPath.toList
  let normalized := rawPaths.filterMap fun path => (normalizeRepoRelativePath path).toOption
  (uniqueItems normalized,
    if normalized.length < rawPaths.length then ["invalid-action-path"] else [])

def safeGraphForPaths (paths : List String) : Except PyException ResourceGraph :=
  if paths = [] then .ok [] else buildResourceGraphFromPaths paths

structure OperationMatch where
  allowed : Bool
  exact : Bool
  reasonCodes : List String
deriving DecidableEq, Repr

omit [UnicodeTables] in
def semanticOperationReason (action : NormalizedAction) (contract : IntentContract) :
    Option String :=
  if .configChange ∈ contract.allowedActions ∧ action.operation ∈ mutatingOperations ∧
      action.resourceKind ∈ configResourceKinds then
    some "operation-semantic-match:config_change"
  else if .dependencyChange ∈ contract.allowedActions ∧ action.operation ∈ mutatingOperations ∧
      action.resourceKind ∈ dependencyResourceKinds then
    some "operation-semantic-match:dependency_change"
  else none

omit [UnicodeTables] in
/-- `_operation_allowed`. -/
def operationAllowed (action : NormalizedAction) (contract : IntentContract) : OperationMatch :=
  if action.operation ∈ contract.allowedActions then
    ⟨true, true, ["operation-exact:" ++ action.operation.value]⟩
  else match semanticOperationReason action contract with
    | some reason => ⟨true, false, [reason]⟩
    | none => ⟨false, false, ["operation-not-allowed",
      "action_operation:" ++ action.operation.value,
      "allowed_actions:" ++ ",".intercalate (contract.allowedActions.map (·.value))]⟩

/-- `_requires_path_or_graph_scope`. -/
def requiresPathOrGraphScope (scopes : List ResourceScope) : Bool :=
  scopes.any fun scope => scope.type ∈ [ResourceScopeType.exactPath, .pathGlob, .fileType, .symbol]

def matchingScopes (scopes : List ResourceScope) (kind : ResourceKind) (actionPaths : List String)
    (graph : ResourceGraph) : List ResourceScope :=
  scopes.filter fun scope => scopeMatches scope kind actionPaths graph

def actionPathsOutsideTargetScopes (scopes : List ResourceScope) (kind : ResourceKind)
    (actionPaths : List String) (graph : ResourceGraph) : List String :=
  if actionPaths = [] ∨ !requiresPathOrGraphScope scopes then []
  else actionPaths.filter fun path => !scopes.any fun scope => scopeMatches scope kind [path] graph

/-- The result for an action whose operation is allowed, where there are target scopes. -/
def matchTargetScopes (action : NormalizedAction) (contract : IntentContract)
    (operationMatch : OperationMatch) (actionPaths : List String) (graph : ResourceGraph) :
    IntentMatchResult :=
  let matched := matchingScopes contract.targetScopes action.resourceKind actionPaths graph
  if actionPaths = [] ∧ requiresPathOrGraphScope contract.targetScopes then
    ⟨.unknown, [], contract.targetScopes, ["scope-unknown:no-affected-paths"], .requireApproval⟩
  else if matched = [] then
    ⟨.drift, [], contract.targetScopes, ["target-scope-drift"], .requireApproval⟩
  else if actionPathsOutsideTargetScopes contract.targetScopes action.resourceKind actionPaths
      graph ≠ [] then
    ⟨.partialMatch, matched, contract.targetScopes.filter (· ∉ matched),
      uniqueItems ("target-scope-partial" :: operationMatch.reasonCodes), .audit⟩
  else if operationMatch.exact then ⟨.exactMatch, matched, [], [], .allow⟩
  else ⟨.partialMatch, matched, [], operationMatch.reasonCodes, .audit⟩

/-- The result for an action with valid paths that is not sensitive. -/
def matchScopes (action : NormalizedAction) (contract : IntentContract) (actionPaths : List String)
    (graph : ResourceGraph) : IntentMatchResult :=
  let excluded := matchingScopes contract.excludedScopes action.resourceKind actionPaths graph
  let operationMatch := operationAllowed action contract
  if excluded ≠ [] then
    ⟨.conflict, excluded, [], ["excluded-scope-match"], .requireApproval⟩
  else if !operationMatch.allowed then
    ⟨if action.operation = .unknown then .unknown else .conflict, [], [],
      operationMatch.reasonCodes, .requireApproval⟩
  else if contract.targetScopes = [] then
    if operationMatch.exact then ⟨.exactMatch, [], [], [], .allow⟩
    else ⟨.partialMatch, [], [], operationMatch.reasonCodes, .audit⟩
  else matchTargetScopes action contract operationMatch actionPaths graph

def matchActionToContract (action : NormalizedAction) (contract : IntentContract) :
    Except PyException IntentMatchResult := do
  let (actionPaths, pathReasonCodes) := normalizedActionPaths action
  let graph ← safeGraphForPaths actionPaths
  if action.resourceKind = .sensitive then
    return ⟨.hardSensitive, [], [],
      ["hard-sensitive-resource", "resource_kind:" ++ action.resourceKind.value], .block⟩
  else if pathReasonCodes ≠ [] then
    return ⟨.unknown, [], [], pathReasonCodes, .requireApproval⟩
  else return matchScopes action contract actionPaths graph

def matchActionsToContract (actions : List NormalizedAction) (contract : IntentContract) :
    Except PyException (List IntentMatchResult) :=
  actions.mapM fun action => matchActionToContract action contract

end Matcher

/-! ## The fallback policy -/

structure IntentFallbackEvaluation where
  matchState : IntentMatchState
  recommendedHint : IntentDecisionHint
  effectiveHint : IntentDecisionHint
  reasonCodes : List String
  resultCount : ℕ
deriving DecidableEq, Repr

namespace IntentFallbackEvaluation

def shouldBlock (evaluation : IntentFallbackEvaluation) : Bool :=
  evaluation.effectiveHint = .block

def requiresApproval (evaluation : IntentFallbackEvaluation) : Bool :=
  evaluation.effectiveHint = .requireApproval

end IntentFallbackEvaluation

def hasState (results : List IntentMatchResult) (state : IntentMatchState) : Bool :=
  results.any fun result => result.matchState = state

/-- `_recommended_fallback`. -/
def recommendedFallback (results : List IntentMatchResult) :
    IntentMatchState × IntentDecisionHint × String :=
  if results = [] then (.unknown, .requireApproval, "fallback:no-match-results")
  else if hasState results .hardSensitive then
    (.hardSensitive, .block, "fallback:hard-sensitive-boundary")
  else if hasState results .unknown then
    (.unknown, .requireApproval, "fallback:unknown-resource-or-operation")
  else if hasState results .conflict then
    (.conflict, .requireApproval, "fallback:capability-conflict")
  else if hasState results .drift then (.drift, .requireApproval, "fallback:scope-drift")
  else if hasState results .partialMatch then
    (.partialMatch, .audit, "fallback:partial-semantic-match")
  else if results.all fun result => result.matchState = .exactMatch then
    (.exactMatch, .allow, "fallback:exact-match")
  else (.unknown, .requireApproval, "fallback:unhandled-match-state")

def effectiveHint (recommendedHint : IntentDecisionHint) :
    IntentEnforcementMode → IntentDecisionHint
  | .disabled => .none
  | .shadow => if recommendedHint ∈ [.block, .requireApproval] then .audit else recommendedHint
  | .enforce => recommendedHint

def evaluateIntentFallback (results : List IntentMatchResult) (contract : IntentContract) :
    IntentFallbackEvaluation :=
  let (matchState, recommendedHint, fallbackReason) := recommendedFallback results
  { matchState := matchState
    recommendedHint := recommendedHint
    effectiveHint := effectiveHint recommendedHint contract.enforcementMode
    reasonCodes := uniqueItems (fallbackReason :: results.flatMap (·.reasonCodes))
    resultCount := results.length }

/-- The evaluation of the actions of a run. -/
def evaluateActions [UnicodeTables] (actions : List NormalizedAction) (contract : IntentContract) :
    Except PyException IntentFallbackEvaluation :=
  (matchActionsToContract actions contract).map fun results =>
    evaluateIntentFallback results contract

end Rygnal.Intent
