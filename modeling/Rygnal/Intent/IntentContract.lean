import Rygnal.Core.Exceptions
import Rygnal.Library.PyText

/-! # Intent contracts

The contracts, scopes and actions of `intent_contract.py`, with the checks of their validators as
fields. Texts that no decision reads are left out.
-/

namespace Rygnal.Intent
open Rygnal.Core Rygnal.Library Rygnal.Library.PyText

inductive IntentEnforcementMode where
  | disabled
  | shadow
  | enforce
deriving DecidableEq, Repr

inductive IntentOperation where
  | read
  | create
  | modify
  | deleteFile
  | deleteFolder
  | rename
  | move
  | command
  | dependencyChange
  | configChange
  | test
  | build
  | unknown
deriving DecidableEq, Repr

def IntentOperation.value : IntentOperation → String
  | .read => "read"
  | .create => "create"
  | .modify => "modify"
  | .deleteFile => "delete_file"
  | .deleteFolder => "delete_folder"
  | .rename => "rename"
  | .move => "move"
  | .command => "command"
  | .dependencyChange => "dependency_change"
  | .configChange => "config_change"
  | .test => "test"
  | .build => "build"
  | .unknown => "unknown"

inductive ResourceScopeType where
  | exactPath
  | pathGlob
  | fileType
  | resourceKind
  | symbol
deriving DecidableEq, Repr

inductive ResourceKind where
  | file
  | directory
  | pythonModule
  | pythonSymbol
  | rustModule
  | rustSymbol
  | config
  | dependencyManifest
  | lockfile
  | ciWorkflow
  | sensitive
  | test
  | generated
  | databaseMigration
  | policy
  | documentation
  | unknown
deriving DecidableEq, Repr

namespace ResourceKind

def value : ResourceKind → String
  | .file => "file"
  | .directory => "directory"
  | .pythonModule => "python_module"
  | .pythonSymbol => "python_symbol"
  | .rustModule => "rust_module"
  | .rustSymbol => "rust_symbol"
  | .config => "config"
  | .dependencyManifest => "dependency_manifest"
  | .lockfile => "lockfile"
  | .ciWorkflow => "ci_workflow"
  | .sensitive => "sensitive"
  | .test => "test"
  | .generated => "generated"
  | .databaseMigration => "database_migration"
  | .policy => "policy"
  | .documentation => "documentation"
  | .unknown => "unknown"

def all : List ResourceKind :=
  [.file, .directory, .pythonModule, .pythonSymbol, .rustModule, .rustSymbol, .config,
    .dependencyManifest, .lockfile, .ciWorkflow, .sensitive, .test, .generated,
    .databaseMigration, .policy, .documentation, .unknown]

/-- `ResourceKind(text)`. -/
def ofValue? (text : String) : Option ResourceKind := all.find? fun kind => kind.value = text

end ResourceKind

inductive NormalizedActionSource where
  | command
  | filesystem
deriving DecidableEq, Repr

inductive IntentMatchState where
  | exactMatch
  | partialMatch
  | drift
  | conflict
  | unknown
  | hardSensitive
deriving DecidableEq, Repr

def IntentMatchState.value : IntentMatchState → String
  | .exactMatch => "exact_match"
  | .partialMatch => "partial_match"
  | .drift => "drift"
  | .conflict => "conflict"
  | .unknown => "unknown"
  | .hardSensitive => "hard_sensitive"

inductive IntentDecisionHint where
  | none
  | allow
  | audit
  | requireApproval
  | block
deriving DecidableEq, Repr

/-- The order of the hints. -/
def IntentDecisionHint.order : IntentDecisionHint → ℕ
  | .none => 0
  | .allow => 1
  | .audit => 2
  | .requireApproval => 3
  | .block => 4

theorem IntentDecisionHint.order_injective : Function.Injective IntentDecisionHint.order := by
  intro a b h
  cases a <;> cases b <;> first | rfl | cases h

/-- The text is stripped and not empty. -/
def isPlain (text : String) : Bool := strip text.toList = text.toList ∧ text ≠ ""

structure ResourceScope where
  type : ResourceScopeType
  value : String
  resourceKind : Option ResourceKind
  /-- `_reject_blank_value`. -/
  plain : isPlain value = true
deriving DecidableEq, Repr

/-- The operations that `_require_scope_for_mutating_actions` names. -/
def scopedOperations : List IntentOperation :=
  [.create, .modify, .deleteFile, .deleteFolder, .rename, .move, .dependencyChange, .configChange]

structure IntentContract where
  contractId : String
  allowedActions : List IntentOperation
  targetScopes : List ResourceScope
  excludedScopes : List ResourceScope
  enforcementMode : IntentEnforcementMode
  allows_some : allowedActions ≠ []
  /-- `_require_scope_for_mutating_actions`. -/
  targets_some : (∃ operation ∈ allowedActions, operation ∈ scopedOperations) → targetScopes ≠ []

structure NormalizedAction where
  source : NormalizedActionSource
  operation : IntentOperation
  affectedPaths : List String
  oldPath : Option String
  newPath : Option String
  resourceKind : ResourceKind
  /-- `_reject_blank_tuple_values` and `_reject_blank_optional_strings`. -/
  plain : ∀ path ∈ affectedPaths ++ oldPath.toList ++ newPath.toList, isPlain path = true
  /-- `_require_rename_boundaries`. -/
  bounded : operation = .rename → oldPath.isSome = true ∧ newPath.isSome = true
deriving DecidableEq, Repr

def stripString (text : String) : String := String.ofList (strip text.toList)

def validationError (message : String) : PyException :=
  .value (.other "ValidationError") message

/-- The longest path that an action takes as its old or new path. -/
def maxPathLength : ℕ := 4096

/-- The constructor of `NormalizedAction`, with its validators. -/
def normalizedAction (source : NormalizedActionSource) (operation : IntentOperation)
    (affectedPaths : List String) (oldPath newPath : Option String) (resourceKind : ResourceKind) :
    Except PyException NormalizedAction :=
  let affectedPaths := affectedPaths.map stripString
  let tooLong := (oldPath.toList ++ newPath.toList).any fun path => maxPathLength < path.length
  let oldPath := oldPath.map stripString
  let newPath := newPath.map stripString
  if tooLong then .error (validationError "String should have at most 4096 characters")
  else if h : (∀ path ∈ affectedPaths ++ oldPath.toList ++ newPath.toList, isPlain path = true) ∧
      (operation = .rename → oldPath.isSome = true ∧ newPath.isSome = true) then
    .ok ⟨source, operation, affectedPaths, oldPath, newPath, resourceKind, h.1, h.2⟩
  else .error (validationError "Normalized action fields must not be blank.")

structure IntentMatchResult where
  matchState : IntentMatchState
  matchedScopes : List ResourceScope
  unmatchedScopes : List ResourceScope
  reasonCodes : List String
  decisionHint : IntentDecisionHint
deriving DecidableEq, Repr

end Rygnal.Intent
