import Mathlib.Data.Prod.Lex
import Mathlib.Data.String.Basic
import Rygnal.Library.PosixPath
import Rygnal.Library.SortedSet
import Rygnal.ChangeRisk.Classification

/-! # Dependency governance

Which changed paths are dependency files, and how the plan groups them into workspaces.
-/

namespace Rygnal.ChangeRisk.Dependency
open Rygnal.Core Rygnal.Core.PyException Rygnal.Library.PyText Rygnal.Library.PosixPath
  Rygnal.Library.SortedSet

/-! ## Dependency files -/

inductive DependencyFileKind where
  | manifest
  | lockfile
  | privateRegistryConfig
deriving DecidableEq, Repr

inductive EcosystemKind where
  | python
  | node
deriving DecidableEq, Repr

def EcosystemKind.value : EcosystemKind → String
  | .python => "python"
  | .node => "node"

inductive ToolchainKind where
  | pythonPyproject
  | pythonRequirements
  | pythonPipenv
  | nodeNpm
  | nodeYarn
  | nodePnpm
deriving DecidableEq, Repr

def ToolchainKind.value : ToolchainKind → String
  | .pythonPyproject => "python_pyproject"
  | .pythonRequirements => "python_requirements"
  | .pythonPipenv => "python_pipenv"
  | .nodeNpm => "node_npm"
  | .nodeYarn => "node_yarn"
  | .nodePnpm => "node_pnpm"

/-- What a workspace is grouped and sorted by. -/
structure WorkspaceKey where
  directory : String
  ecosystem : EcosystemKind
  toolchain : ToolchainKind
deriving Repr

/-- The tuple of strings that Python compares. -/
def WorkspaceKey.order (key : WorkspaceKey) : String ×ₗ String ×ₗ String :=
  toLex (key.directory, toLex (key.ecosystem.value, key.toolchain.value))

theorem WorkspaceKey.order_injective : Function.Injective WorkspaceKey.order := by
  rintro ⟨directory, ecosystem, toolchain⟩ ⟨directory', ecosystem', toolchain'⟩ h
  simp only [WorkspaceKey.order, EmbeddingLike.apply_eq_iff_eq, Prod.mk.injEq] at h
  obtain ⟨rfl, hecosystem, htoolchain⟩ := h
  have he : ecosystem = ecosystem' := by
    cases ecosystem <;> cases ecosystem' <;> first | rfl | exact absurd hecosystem (by decide)
  have ht : toolchain = toolchain' := by
    cases toolchain <;> cases toolchain' <;> first | rfl | exact absurd htoolchain (by decide)
  rw [he, ht]

instance : LinearOrder WorkspaceKey := LinearOrder.lift' WorkspaceKey.order
  WorkspaceKey.order_injective

@[ext] structure DependencyFileChange where
  path : String
  directory : String
  ecosystem : EcosystemKind
  toolchain : ToolchainKind
  kind : DependencyFileKind
deriving DecidableEq, Repr

def DependencyFileChange.key (change : DependencyFileChange) : WorkspaceKey :=
  ⟨change.directory, change.ecosystem, change.toolchain⟩

def dependencyGovernanceError (message : String) : PyException :=
  .value (.other "DependencyGovernanceError") message

def normalizeRepoRelativePath (path : String) : Except PyException String := do
  let normalized := strip (replaceChar '\\' '/' path.toList)
  raiseIf (isAbsolute normalized)
    (dependencyGovernanceError ("Dependency path must be repo-relative, got absolute: " ++ path))
  raiseIf (parts normalized = []) (dependencyGovernanceError "Dependency path must not be empty.")
  raiseIf ("..".toList ∈ parts normalized)
    (dependencyGovernanceError ("Dependency path must not traverse outside repository: " ++ path))
  let cleanParts := (parts normalized).filter fun part => part ≠ [] ∧ part ≠ ['.']
  raiseIf (cleanParts = []) (dependencyGovernanceError "Dependency path must not be empty.")
  return String.ofList (joinWith '/' cleanParts)

/-- `PurePosixPath(path).parent.as_posix()` of a relative path. -/
def parentDirectory (path : Text) : String :=
  let above := (parts path).dropLast
  if above = [] then "." else String.ofList (joinWith '/' above)

/-- `PurePosixPath(path).parent.name`. -/
def parentName (path : Text) : Text := (parts path).dropLast.getLastD []

def requirementsExact : List String :=
  ["requirements.txt", "requirements-dev.txt", "requirements.prod.txt", "requirements.in", "reqs.txt"]

def isPythonRequirementsFile (path : Text) : Bool :=
  String.ofList (name path) ∈ requirementsExact ||
    (String.ofList (parentName path) ∈ ["requirements", "reqs"] &&
      String.ofList (suffix path) ∈ [".txt", ".in"])

def classifyDependencyFileChange (path : String) : Option DependencyFileChange :=
  match normalizeRepoRelativePath path with
  | .error _ => none
  | .ok normalizedPath =>
    let filename := String.ofList (name normalizedPath.toList)
    let change (ecosystem : EcosystemKind) (toolchain : ToolchainKind) (kind : DependencyFileKind) :=
      some (DependencyFileChange.mk normalizedPath (parentDirectory normalizedPath.toList) ecosystem
        toolchain kind)
    if filename = "package.json" then change .node .nodeNpm .manifest
    else if filename ∈ ["package-lock.json", "npm-shrinkwrap.json"] then
      change .node .nodeNpm .lockfile
    else if filename = "yarn.lock" then change .node .nodeYarn .lockfile
    else if filename = "pnpm-lock.yaml" then change .node .nodePnpm .lockfile
    else if filename = ".npmrc" then change .node .nodeNpm .privateRegistryConfig
    else if filename ∈ ["pyproject.toml", "setup.py", "setup.cfg"] then
      change .python .pythonPyproject .manifest
    else if filename ∈ ["poetry.lock", "uv.lock"] then change .python .pythonPyproject .lockfile
    else if filename = "Pipfile" then change .python .pythonPipenv .manifest
    else if filename = "Pipfile.lock" then change .python .pythonPipenv .lockfile
    else if filename ∈ ["pip.conf", "pip.ini", ".pypirc"] then
      change .python .pythonRequirements .privateRegistryConfig
    else if isPythonRequirementsFile normalizedPath.toList then
      change .python .pythonRequirements .manifest
    else none

/-! ## The plan -/

structure WorkspaceDependencyTarget where
  directory : String
  ecosystem : EcosystemKind
  toolchain : ToolchainKind
  manifests : List String
  lockfiles : List String
  privateRegistryConfigs : List String
deriving DecidableEq, Repr

namespace WorkspaceDependencyTarget

def key (target : WorkspaceDependencyTarget) : WorkspaceKey :=
  ⟨target.directory, target.ecosystem, target.toolchain⟩

def files (target : WorkspaceDependencyTarget) : DependencyFileKind → List String
  | .manifest => target.manifests
  | .lockfile => target.lockfiles
  | .privateRegistryConfig => target.privateRegistryConfigs

/-- Also `requires_manifest_lock_sync_check` and `has_possible_manifest_lock_desync`. -/
def requiresTreeDeltaAnalysis (target : WorkspaceDependencyTarget) : Bool :=
  target.manifests ≠ [] || target.lockfiles ≠ []

def requiresPrivateRegistryApproval (target : WorkspaceDependencyTarget) : Bool :=
  target.privateRegistryConfigs ≠ [] || target.manifests ≠ []

/-- `_dependency_workspace_target_id`. -/
def targetId (target : WorkspaceDependencyTarget) : String :=
  (if target.directory = "" then "." else target.directory) ++ ":" ++ target.ecosystem.value ++ ":" ++
    target.toolchain.value

end WorkspaceDependencyTarget

structure DependencyGovernancePlan where
  workspaces : List WorkspaceDependencyTarget
deriving DecidableEq, Repr

namespace DependencyGovernancePlan

def dependencyChangesDetected (plan : DependencyGovernancePlan) : Bool := plan.workspaces ≠ []

/-- Also the properties of the plan that are this one under another name. -/
def resolverEnvironmentRequired (plan : DependencyGovernancePlan) : Bool :=
  plan.workspaces.any (·.requiresTreeDeltaAnalysis)

def privateRegistryAccessRequiresApproval (plan : DependencyGovernancePlan) : Bool :=
  plan.workspaces.any (·.requiresPrivateRegistryApproval)

/-- `_dependency_governance_evidence`. -/
def evidence (plan : DependencyGovernancePlan) : Dict :=
  let count (files : WorkspaceDependencyTarget → List String) : Value :=
    .int (plan.workspaces.map fun target => ((files target).length : ℤ)).sum
  let resolver := Value.bool plan.resolverEnvironmentRequired
  let detected := Value.bool plan.dependencyChangesDetected
  [("workspace_count", .int plan.workspaces.length),
    ("workspace_targets", .tuple (plan.workspaces.map fun target => .str target.targetId)),
    ("manifest_count", count (·.manifests)), ("lockfile_count", count (·.lockfiles)),
    ("private_registry_config_count", count (·.privateRegistryConfigs)),
    ("resolver_environment_required", resolver),
    ("resolver_environment_must_be_separate_from_host", detected),
    ("resolver_environment_must_be_separate_from_runtime_workspace", detected),
    ("shared_writable_cache_allowed", .bool false), ("per_run_writable_cache_allowed", detected),
    ("shared_readonly_cache_requires_hash_verification", detected),
    ("transitive_dependency_delta_required", resolver), ("vulnerability_scan_required", resolver),
    ("network_resolution_requires_approval", resolver),
    ("private_registry_access_requires_approval",
      .bool plan.privateRegistryAccessRequiresApproval),
    ("new_dependency_tree_requires_approval", resolver),
    ("audit_secret_redaction_required", detected),
    ("has_possible_manifest_lock_desync", resolver)]

/-- What the classifier reads of the plan. -/
def forClassifier (plan : DependencyGovernancePlan) : ChangeRisk.DependencyGovernancePlan where
  dependencyChangesDetected := plan.dependencyChangesDetected
  vulnerabilityScanRequired := plan.resolverEnvironmentRequired
  networkResolutionRequiresApproval := plan.resolverEnvironmentRequired
  privateRegistryAccessRequiresApproval := plan.privateRegistryAccessRequiresApproval
  newDependencyTreeRequiresApproval := plan.resolverEnvironmentRequired
  evidence := plan.evidence

end DependencyGovernancePlan

def pathsOfKind (kind : DependencyFileKind) (changes : List DependencyFileChange) : List String :=
  (changes.filter fun change => change.kind = kind).map (·.path)

def workspaceTarget (group : WorkspaceKey × List DependencyFileChange) : WorkspaceDependencyTarget where
  directory := group.1.directory
  ecosystem := group.1.ecosystem
  toolchain := group.1.toolchain
  manifests := pathsOfKind .manifest group.2
  lockfiles := pathsOfKind .lockfile group.2
  privateRegistryConfigs := pathsOfKind .privateRegistryConfig group.2

/-- The dependency files among the paths, in their order. -/
def dependencyChanges (changedPaths : List String) : List DependencyFileChange :=
  (sortedSet changedPaths).filterMap classifyDependencyFileChange

def buildDependencyGovernancePlan (changedPaths : List String) : DependencyGovernancePlan :=
  ⟨(sortedGroups DependencyFileChange.key (dependencyChanges changedPaths)).map workspaceTarget⟩

/-! ## What the plan holds -/

section Plan
variable {changedPaths : List String} {target : WorkspaceDependencyTarget}
  {change : DependencyFileChange}

theorem mem_dependencyChanges : change ∈ dependencyChanges changedPaths ↔
    ∃ path ∈ changedPaths, classifyDependencyFileChange path = some change := by
  simp only [dependencyChanges, List.mem_filterMap, mem_sortedSet]

theorem files_workspaceTarget (group : WorkspaceKey × List DependencyFileChange)
    (kind : DependencyFileKind) : (workspaceTarget group).files kind = pathsOfKind kind group.2 := by
  cases kind <;> rfl

/-- The files of a workspace are the changes with its key. -/
theorem mem_workspaces : target ∈ (buildDependencyGovernancePlan changedPaths).workspaces ↔
    ∃ group, target = workspaceTarget (target.key, group) ∧ group ≠ [] ∧
      group = (dependencyChanges changedPaths).filter fun change => change.key = target.key := by
  rw [buildDependencyGovernancePlan, List.mem_map]
  constructor
  · rintro ⟨⟨k, group⟩, hgroup, rfl⟩
    obtain ⟨hgroup, hne⟩ := mem_sortedGroups.mp hgroup
    exact ⟨group, rfl, hne, hgroup⟩
  · rintro ⟨group, htarget, hne, hgroup⟩
    exact ⟨(target.key, group), mem_sortedGroups.mpr ⟨hgroup, hne⟩, htarget.symm⟩

theorem keys_workspaces (changedPaths : List String) :
    (buildDependencyGovernancePlan changedPaths).workspaces.map (·.key) =
      sortedSet ((dependencyChanges changedPaths).map (·.key)) := by
  rw [← keys_sortedGroups, buildDependencyGovernancePlan, List.map_map]
  rfl

/-- A change is filed in the workspace of its key, under its kind, and nothing else is. -/
theorem filed_iff : change ∈ dependencyChanges changedPaths ↔
    ∃ target ∈ (buildDependencyGovernancePlan changedPaths).workspaces,
      target.key = change.key ∧ change.path ∈ target.files change.kind := by
  constructor
  · intro hchange
    have hmem : change ∈ (dependencyChanges changedPaths).filter fun other =>
        other.key = change.key := List.mem_filter.mpr ⟨hchange, by simp⟩
    refine ⟨workspaceTarget (change.key, _), mem_workspaces.mpr
      ⟨_, rfl, List.ne_nil_of_mem hmem, rfl⟩, rfl, ?_⟩
    rw [files_workspaceTarget]
    exact List.mem_map.mpr ⟨change, List.mem_filter.mpr ⟨hmem, by simp⟩, rfl⟩
  · rintro ⟨target, htarget, hkey, hfile⟩
    obtain ⟨group, htarget, -, hgroup⟩ := mem_workspaces.mp htarget
    rw [htarget, files_workspaceTarget] at hfile
    obtain ⟨other, hother, hpath⟩ := List.mem_map.mp hfile
    obtain ⟨hmem, hkind⟩ := List.mem_filter.mp hother
    rw [hgroup] at hmem
    obtain ⟨hmem, hsame⟩ := List.mem_filter.mp hmem
    have heq : other.key = change.key := (of_decide_eq_true hsame).trans hkey
    simp only [DependencyFileChange.key, WorkspaceKey.mk.injEq] at heq
    obtain ⟨hdirectory, hecosystem, htoolchain⟩ := heq
    have hchange : other = change := DependencyFileChange.ext hpath hdirectory hecosystem htoolchain
      (of_decide_eq_true hkind)
    rwa [← hchange]

theorem exists_file_of_workspace
    (h : target ∈ (buildDependencyGovernancePlan changedPaths).workspaces) :
    ∃ kind, target.files kind ≠ [] := by
  obtain ⟨group, htarget, hne, -⟩ := mem_workspaces.mp h
  obtain ⟨change, hchange⟩ := List.exists_mem_of_ne_nil group hne
  refine ⟨change.kind, ?_⟩
  rw [htarget, files_workspaceTarget]
  exact List.ne_nil_of_mem (List.mem_map.mpr ⟨change, List.mem_filter.mpr ⟨hchange, by simp⟩, rfl⟩)

/-- Whatever kind of file it has, a workspace asks for an approval. -/
theorem requires_of_files {kind : DependencyFileKind} (h : target.files kind ≠ []) :
    target.requiresTreeDeltaAnalysis = true ∨ target.requiresPrivateRegistryApproval = true := by
  cases kind with
  | manifest =>
    refine .inl ?_
    have hfiles : target.manifests ≠ [] := h
    simp [WorkspaceDependencyTarget.requiresTreeDeltaAnalysis, hfiles]
  | lockfile =>
    refine .inl ?_
    have hfiles : target.lockfiles ≠ [] := h
    simp [WorkspaceDependencyTarget.requiresTreeDeltaAnalysis, hfiles]
  | privateRegistryConfig =>
    refine .inr ?_
    have hfiles : target.privateRegistryConfigs ≠ [] := h
    simp [WorkspaceDependencyTarget.requiresPrivateRegistryApproval, hfiles]

theorem detected_iff :
    (buildDependencyGovernancePlan changedPaths).dependencyChangesDetected = true ↔
      ∃ path ∈ changedPaths, (classifyDependencyFileChange path).isSome = true := by
  rw [DependencyGovernancePlan.dependencyChangesDetected, decide_eq_true_iff]
  constructor
  · intro hne
    obtain ⟨target, htarget⟩ := List.exists_mem_of_ne_nil _ hne
    obtain ⟨group, -, hgroup, hfilter⟩ := mem_workspaces.mp htarget
    obtain ⟨change, hchange⟩ := List.exists_mem_of_ne_nil group hgroup
    rw [hfilter] at hchange
    obtain ⟨path, hpath, hclassified⟩ := mem_dependencyChanges.mp (List.mem_filter.mp hchange).1
    exact ⟨path, hpath, by rw [hclassified]; rfl⟩
  · rintro ⟨path, hpath, hsome⟩
    obtain ⟨change, hchange⟩ := Option.isSome_iff_exists.mp hsome
    obtain ⟨target, htarget, -⟩ := filed_iff.mp (mem_dependencyChanges.mpr ⟨path, hpath, hchange⟩)
    exact List.ne_nil_of_mem htarget

/-- The reason that the classifier makes of the plan is high. -/
theorem dependencyGovernanceReasons_plan (changedPaths : List String) :
    (∃ path ∈ changedPaths, (classifyDependencyFileChange path).isSome = true) ∧
        (∃ reason, dependencyGovernanceReasons
          (buildDependencyGovernancePlan changedPaths).forClassifier = [reason] ∧
            reason.riskLevel = .high) ∨
      (¬ ∃ path ∈ changedPaths, (classifyDependencyFileChange path).isSome = true) ∧
        dependencyGovernanceReasons (buildDependencyGovernancePlan changedPaths).forClassifier = [] := by
  by_cases hdetected : (buildDependencyGovernancePlan changedPaths).dependencyChangesDetected = true
  · refine .inl ⟨detected_iff.mp hdetected, ?_⟩
    have hlevel : dependencyGovernanceRiskLevel
        (buildDependencyGovernancePlan changedPaths).forClassifier = .high := by
      rw [DependencyGovernancePlan.dependencyChangesDetected, decide_eq_true_iff] at hdetected
      obtain ⟨target, htarget⟩ := List.exists_mem_of_ne_nil _ hdetected
      obtain ⟨kind, hfiles⟩ := exists_file_of_workspace htarget
      rw [dependencyGovernanceRiskLevel, if_pos]
      rcases requires_of_files hfiles with htree | hregistry
      · have hresolver : (buildDependencyGovernancePlan changedPaths).resolverEnvironmentRequired =
            true := List.any_eq_true.mpr ⟨target, htarget, htree⟩
        simp [DependencyGovernancePlan.forClassifier, hresolver]
      · have haccess : (buildDependencyGovernancePlan
            changedPaths).privateRegistryAccessRequiresApproval = true :=
          List.any_eq_true.mpr ⟨target, htarget, hregistry⟩
        simp [DependencyGovernancePlan.forClassifier, haccess]
    have hread : (buildDependencyGovernancePlan
        changedPaths).forClassifier.dependencyChangesDetected = true := hdetected
    rw [dependencyGovernanceReasons, hread, hlevel]
    exact ⟨_, rfl, rfl⟩
  · refine .inr ⟨fun hexists => hdetected (detected_iff.mpr hexists), ?_⟩
    have hread : (buildDependencyGovernancePlan
        changedPaths).forClassifier.dependencyChangesDetected = false := by
      simpa [DependencyGovernancePlan.forClassifier] using hdetected
    rw [dependencyGovernanceReasons, hread]
    rfl

end Plan

/-- The plan files every dependency file among the paths in the one workspace of its directory,
ecosystem and toolchain, and files nothing else; its workspaces are sorted, distinct and not empty;
and it does not depend on the order or the repetitions of the paths. -/
theorem plan_partitions (changedPaths : List String) :
    (∀ change, (∃ path ∈ changedPaths, classifyDependencyFileChange path = some change) ↔
      ∃ target ∈ (buildDependencyGovernancePlan changedPaths).workspaces,
        target.key = change.key ∧ change.path ∈ target.files change.kind) ∧
    ((buildDependencyGovernancePlan changedPaths).workspaces.map (·.key)).Pairwise (· < ·) ∧
    (∀ target ∈ (buildDependencyGovernancePlan changedPaths).workspaces,
      ∃ kind, target.files kind ≠ []) ∧
    ∀ changedPaths', (∀ path, path ∈ changedPaths ↔ path ∈ changedPaths') →
      buildDependencyGovernancePlan changedPaths = buildDependencyGovernancePlan changedPaths' := by
  refine ⟨?_, ?_, fun target => exists_file_of_workspace, ?_⟩
  · intro change
    rw [← mem_dependencyChanges, filed_iff]
  · rw [keys_workspaces]
    exact pairwise_lt_sortedSet _
  · intro changedPaths' hsame
    rw [buildDependencyGovernancePlan, buildDependencyGovernancePlan, dependencyChanges,
      dependencyChanges, sortedSet_congr hsame]

end Rygnal.ChangeRisk.Dependency
