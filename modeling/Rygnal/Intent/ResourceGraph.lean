import Mathlib.Data.List.Sort
import Rygnal.ChangeRisk.Paths
import Rygnal.Intent.ActionNormalizer

/-! # The resource graph of paths

The nodes of `resource_graph.py`: one for each file, and one for the module that a Python or Rust
file declares. Its edges are left out, since nothing matches against them.
-/

namespace Rygnal.Intent
open Rygnal.Core Rygnal.Library Rygnal.Library.PyText Rygnal.Library.PosixPath Rygnal.ChangeRisk

structure ResourceGraphNode where
  nodeId : String
  kind : ResourceKind
  path : String
  name : String
deriving DecidableEq, Repr

/-- `_node_id`. -/
def nodeIdOf (space value : String) : String := "resource:" ++ space ++ ":" ++ value

def pythonSourceRoots : List String := ["src", "lib", "tests", "test"]

/-- `path.removesuffix(ending)`. -/
def removeSuffix (ending : String) (path : Text) : Text :=
  path.take (path.length - ending.toList.length)

/-- `parts[1:]` when the first part is one of the roots. -/
def dropRoot (roots : List String) (parts : List Text) : List Text :=
  match parts with
  | root :: rest => if String.ofList root ∈ roots then rest else parts
  | [] => []

/-- `parts[:-1]` when the last part is the given one. -/
def dropLastPart (last : String) (parts : List Text) : List Text :=
  if parts.getLast? = some last.toList then parts.dropLast else parts

def pythonModuleNameForPath (path : String) : Except PyException (Option String) := do
  let normalized ← normalizeRepoRelativePath path
  if endsWith normalized.toList ".py" then
    let moduleParts := dropLastPart "__init__"
      (dropRoot pythonSourceRoots (parts (removeSuffix ".py" normalized.toList)))
    if moduleParts = [] then return none
    else return some (String.ofList (joinWith '.' moduleParts))
  else return none

def rustModuleNameForPath (path : String) : Except PyException (Option String) := do
  let normalized ← normalizeRepoRelativePath path
  if endsWith normalized.toList ".rs" then
    let moduleParts := dropRoot ["src"] (parts (removeSuffix ".rs" normalized.toList))
    if moduleParts = [] then return none
    else if moduleParts = ["lib".toList] then return some "crate"
    else if moduleParts = ["main".toList] then return some "crate::main"
    else
      let inner := dropLastPart "mod" moduleParts
      if inner = [] then return some "crate"
      else return some (String.ofList ([':', ':'].intercalate inner))
  else return none

section Graph
variable [UnicodeTables]

def classifyResourcePath (path : String) : Except PyException ResourceKind :=
  (normalizeRepoRelativePath path).map fun normalized => kindOfNormalized normalized.toList

def fileNode (path : String) : Except PyException ResourceGraphNode := do
  let normalized ← normalizeRepoRelativePath path
  let kind ← classifyResourcePath normalized
  return ⟨nodeIdOf "file" normalized, kind, normalized,
    String.ofList (PosixPath.name normalized.toList)⟩

/-- The node of a module, unless its name is missing or empty. -/
def moduleNodes (space : String) (kind : ResourceKind) (path : String) (moduleName : Option String) :
    List ResourceGraphNode :=
  match moduleName with
  | some name => if name = "" then [] else [⟨nodeIdOf space name, kind, path, name⟩]
  | none => []

def nodesForPath (path : String) : Except PyException (List ResourceGraphNode) := do
  let file ← fileNode path
  let pythonModule ← pythonModuleNameForPath path
  let rustModule ← rustModuleNameForPath path
  return file :: moduleNodes "python_module" .pythonModule path pythonModule ++
    moduleNodes "rust_module" .rustModule path rustModule

/-- `nodes_by_id.setdefault(node.node_id, node)`. -/
def setDefault (byId : List ResourceGraphNode) (node : ResourceGraphNode) :
    List ResourceGraphNode :=
  if byId.any (·.nodeId = node.nodeId) then byId else byId ++ [node]

def setDefaults (nodes : List ResourceGraphNode) : List ResourceGraphNode :=
  nodes.foldl setDefault []

/-- The nodes of `build_resource_graph_from_paths`, sorted by their ids. -/
def buildResourceGraphFromPaths (paths : List String) :
    Except PyException (List ResourceGraphNode) := do
  let nodes ← paths.mapM fun rawPath => do
    let path ← normalizeRepoRelativePath rawPath
    nodesForPath path
  return (setDefaults nodes.flatten).insertionSort fun a b => a.nodeId ≤ b.nodeId

/-! ## Ids determine nodes -/

/-- The nodes that paths come to. -/
inductive Node : ResourceGraphNode → Prop
  | file (path : String) (kind : ResourceKind) (h : classifyResourcePath path = .ok kind) :
      Node ⟨nodeIdOf "file" path, kind, path, String.ofList (PosixPath.name path.toList)⟩
  | pythonModule (path name : String) :
      Node ⟨nodeIdOf "python_module" name, .pythonModule, path, name⟩
  | rustModule (path name : String) : Node ⟨nodeIdOf "rust_module" name, .rustModule, path, name⟩

omit [UnicodeTables] in
theorem nodeIdOf_inj {space space' value value' : String} (hspace : ':' ∉ space.toList)
    (hspace' : ':' ∉ space'.toList) (h : nodeIdOf space value = nodeIdOf space' value') :
    space = space' ∧ value = value' := by
  have hlist := congrArg String.toList h
  simp only [nodeIdOf, String.toList_append, List.append_assoc, List.append_cancel_left_eq] at hlist
  change space.toList ++ ':' :: value.toList = space'.toList ++ ':' :: value'.toList at hlist
  have hbefore : ∀ {s : String} {rest : Text}, ':' ∉ s.toList →
      (s.toList ++ ':' :: rest).takeWhile (· ≠ ':') = s.toList := by
    intro s rest hs
    rw [List.takeWhile_append_of_pos]
    · simp
    · intro c hc
      exact decide_eq_true fun h => hs (h ▸ hc)
  have hspaces : space.toList = space'.toList := by
    rw [← hbefore hspace, hlist, hbefore hspace']
  rw [hspaces, List.append_cancel_left_eq, List.cons.injEq] at hlist
  exact ⟨String.toList_inj.mp hspaces, String.toList_inj.mp hlist.2⟩

/-- Two nodes of one id agree in what a symbol is compared with. -/
theorem Node.eq_of_nodeId {a b : ResourceGraphNode} (ha : Node a) (hb : Node b)
    (h : a.nodeId = b.nodeId) : a.kind = b.kind ∧ a.name = b.name := by
  have hfile : ':' ∉ "file".toList := by decide
  have hpython : ':' ∉ "python_module".toList := by decide
  have hrust : ':' ∉ "rust_module".toList := by decide
  cases ha with
  | file path kind hkind =>
    cases hb with
    | file path' kind' hkind' =>
      obtain ⟨-, rfl⟩ := nodeIdOf_inj hfile hfile h
      rw [hkind, Except.ok.injEq] at hkind'
      exact ⟨hkind', rfl⟩
    | pythonModule path' name =>
      exact absurd (nodeIdOf_inj hfile hpython h).1 (by decide)
    | rustModule path' name =>
      exact absurd (nodeIdOf_inj hfile hrust h).1 (by decide)
  | pythonModule path name =>
    cases hb with
    | file path' kind' hkind' => exact absurd (nodeIdOf_inj hpython hfile h).1 (by decide)
    | pythonModule path' name' => exact ⟨rfl, (nodeIdOf_inj hpython hpython h).2⟩
    | rustModule path' name' => exact absurd (nodeIdOf_inj hpython hrust h).1 (by decide)
  | rustModule path name =>
    cases hb with
    | file path' kind' hkind' => exact absurd (nodeIdOf_inj hrust hfile h).1 (by decide)
    | pythonModule path' name' => exact absurd (nodeIdOf_inj hrust hpython h).1 (by decide)
    | rustModule path' name' => exact ⟨rfl, (nodeIdOf_inj hrust hrust h).2⟩

theorem fileNode_node {path : String} {node : ResourceGraphNode} (h : fileNode path = .ok node) :
    Node node := by
  simp only [fileNode, bind_eq_ok] at h
  obtain ⟨normalized, _, kind, hkind, heq⟩ := h
  obtain rfl := Except.ok.inj heq
  exact .file normalized kind hkind

theorem nodesForPath_node {path : String} {nodes : List ResourceGraphNode}
    (h : nodesForPath path = .ok nodes) : ∀ node ∈ nodes, Node node := by
  have hmodule : ∀ {space : String} {kind : ResourceKind} {moduleName : Option String},
      (∀ name, Node ⟨nodeIdOf space name, kind, path, name⟩) →
      ∀ node ∈ moduleNodes space kind path moduleName, Node node := by
    intro space kind moduleName hnode node hmem
    cases moduleName with
    | none => nomatch hmem
    | some name =>
      simp only [moduleNodes] at hmem
      split at hmem
      · nomatch hmem
      · rw [List.mem_singleton.mp hmem]
        exact hnode name
  simp only [nodesForPath, bind_eq_ok] at h
  obtain ⟨file, hfile, pythonModule, _, rustModule, _, heq⟩ := h
  obtain rfl := Except.ok.inj heq
  intro node hmem
  rcases List.mem_append.mp hmem with hmem | hmem
  · rcases List.mem_cons.mp hmem with rfl | hmem
    · exact fileNode_node hfile
    · exact hmodule (.pythonModule path) node hmem
  · exact hmodule (.rustModule path) node hmem

omit [UnicodeTables] in
/-- The defaults are some of the nodes, one for each id. -/
theorem setDefaults_spec (nodes : List ResourceGraphNode) :
    (∀ node ∈ setDefaults nodes, node ∈ nodes) ∧
      ∀ node ∈ nodes, ∃ other ∈ setDefaults nodes, other.nodeId = node.nodeId := by
  rw [setDefaults]
  induction nodes using List.reverseRecOn with
  | nil => simp
  | append_singleton nodes last ih =>
    obtain ⟨hsub, hall⟩ := ih
    rw [List.foldl_append, List.foldl_cons, List.foldl_nil]
    generalize nodes.foldl setDefault [] = byId at hsub hall ⊢
    rw [setDefault]
    split
    · rename_i hany
      simp only [List.any_eq_true, decide_eq_true_eq] at hany
      refine ⟨fun node hmem => List.mem_append_left _ (hsub node hmem), ?_⟩
      intro node hmem
      rcases List.mem_append.mp hmem with hmem | hmem
      · exact hall node hmem
      · rw [List.mem_singleton.mp hmem]
        exact hany
    · constructor
      · intro node hmem
        rcases List.mem_append.mp hmem with hmem | hmem
        · exact List.mem_append_left _ (hsub node hmem)
        · exact List.mem_append_right _ hmem
      · intro node hmem
        rcases List.mem_append.mp hmem with hmem | hmem
        · have ⟨other, hother, hid⟩ := hall node hmem
          exact ⟨other, List.mem_append_left _ hother, hid⟩
        · exact ⟨node, List.mem_append_right _ hmem, rfl⟩

/-- The nodes of a graph come from its paths, with one for each of their ids. -/
theorem buildResourceGraph_spec {paths : List String} {graph : List ResourceGraphNode}
    (h : buildResourceGraphFromPaths paths = .ok graph) :
    (∀ node ∈ graph, Node node) ∧ ∀ path ∈ paths, ∀ own,
      buildResourceGraphFromPaths [path] = .ok own →
        ∀ node ∈ own, ∃ other ∈ graph, other.nodeId = node.nodeId := by
  simp only [buildResourceGraphFromPaths, bind_eq_ok] at h
  obtain ⟨lists, hlists, heq⟩ := h
  obtain rfl := Except.ok.inj heq
  have ⟨hmem, _⟩ := mapM_eq_ok_mem hlists
  constructor
  · intro node hnode
    have hflat := (setDefaults_spec _).1 node ((List.mem_insertionSort _).mp hnode)
    obtain ⟨nodes, hnodes, hnode⟩ := List.mem_flatten.mp hflat
    obtain ⟨path, _, hpath⟩ := (hmem nodes).mp hnodes
    obtain ⟨normalized, _, hok⟩ := bind_eq_ok.mp hpath
    exact nodesForPath_node hok node hnode
  · intro path hpath own hown node hnode
    obtain ⟨ownLists, hownLists, hownEq⟩ := bind_eq_ok.mp hown
    obtain rfl := Except.ok.inj hownEq
    have hflat := (setDefaults_spec _).1 node ((List.mem_insertionSort _).mp hnode)
    obtain ⟨nodes, hnodes, hnode⟩ := List.mem_flatten.mp hflat
    obtain ⟨path', hpath', hok⟩ := ((mapM_eq_ok_mem hownLists).1 nodes).mp hnodes
    rw [List.mem_singleton.mp hpath'] at hok
    have hall : node ∈ lists.flatten :=
      List.mem_flatten.mpr ⟨nodes, (hmem nodes).mpr ⟨path, hpath, hok⟩, hnode⟩
    have ⟨other, hother, hid⟩ := (setDefaults_spec _).2 node hall
    exact ⟨other, (List.mem_insertionSort _).mpr hother, hid⟩

end Graph

end Rygnal.Intent
