import Mathlib.Algebra.Order.Group.Multiset
import Mathlib.Data.Multiset.UnionInter
import Mathlib.Tactic.Linarith
import Rygnal.Kernel.TextSurvival

/-! # Survival of Python code

The survival of a Python file by its syntax trees: the named nodes that are counted, the names of
functions, classes, variables and imports that are collected, and how many of the old names the new
code still has. The parser is a parameter, and its trees carry what the kernel reads of a node.
-/

namespace Rygnal.Kernel
open Rygnal.Core Rygnal.Library.PyText

namespace Python

/-! ## Syntax trees -/

/-- What is read of a node. The text is an error where its span is no UTF-8. -/
structure NodeInfo where
  kind : String
  isNamed : Bool
  isError : Bool
  isMissing : Bool
  utf8Text : Except String Text

mutual

inductive SyntaxNode where
  | node (info : NodeInfo) (children : SyntaxChildren)

/-- The children of a node with their field names. -/
inductive SyntaxChildren where
  | nil
  | cons (field : Option String) (child : SyntaxNode) (rest : SyntaxChildren)

end

def SyntaxNode.info : SyntaxNode → NodeInfo
  | .node info _ => info

def SyntaxNode.kind (n : SyntaxNode) : String := n.info.kind

/-- `child_by_field_name`. -/
def SyntaxChildren.byFieldName (field : String) : SyntaxChildren → Option SyntaxNode
  | .nil => none
  | .cons name child rest => if name = some field then some child else rest.byFieldName field

inductive AstError where
  | languageLoad (message : String)
  | parseFailed
  | parseTimedOut (timeoutMicros : ℕ)
  | sourceTooLarge (sourceBytes limit : ℕ)
  | syntaxErrorNodes (errorNodeCount limit : ℕ)
  | astTooLarge (namedNodeCount limit : ℕ)
  | invalidUtf8 (message : String)
deriving DecidableEq, Repr

def maxAstNamedNodes : ℕ := 50000

def maxTrustedAstErrorNodes : ℕ := 0

/-! ## Counting -/

mutual

/-- `count_named_nodes_inner`, from the count so far. -/
def countNamedNodesInner : SyntaxNode → ℕ → Except AstError ℕ
  | .node info children, count =>
    if info.kind = "comment" then .ok count
    else if info.isNamed then
      if maxAstNamedNodes < count + 1 then .error (.astTooLarge (count + 1) maxAstNamedNodes)
      else countNamedChildren children (count + 1)
    else countNamedChildren children count

def countNamedChildren : SyntaxChildren → ℕ → Except AstError ℕ
  | .nil, count => .ok count
  | .cons _ child rest, count => countNamedNodesInner child count >>= countNamedChildren rest

end

mutual

def countUntrustedSyntaxNodes : SyntaxNode → ℕ
  | .node info children =>
    (if info.isError || info.isMissing || info.kind = "ERROR" then 1 else 0) +
      countUntrustedChildren children

def countUntrustedChildren : SyntaxChildren → ℕ
  | .nil => 0
  | .cons _ child rest => countUntrustedSyntaxNodes child + countUntrustedChildren rest

end

/-! ## Names -/

/-- `BTreeMap<String, usize>`; its order matters nowhere. -/
abbrev SemanticTokens := List (Text × ℕ)

def SemanticTokens.increment (key : Text) : SemanticTokens → SemanticTokens
  | [] => [(key, 1)]
  | (k, count) :: tokens =>
    if k = key then (k, count + 1) :: tokens else (k, count) :: increment key tokens

def addToken (category : String) (value : Text) (tokens : SemanticTokens) : SemanticTokens :=
  if trim value = [] then tokens
  else tokens.increment (category.toList ++ ':' :: trim value)

def nodeText (n : SyntaxNode) : Except AstError Text :=
  match n.info.utf8Text with
  | .ok text => .ok (trim text)
  | .error message => .error (.invalidUtf8 message)

/-- The token of a node that stands for a name. -/
def addNode (category : String) (n : SyntaxNode) (tokens : SemanticTokens) :
    Except AstError SemanticTokens :=
  (nodeText n).map fun name => addToken category name tokens

/-- The token of the child with the name, if there is one. -/
def addNamed (category : String) (name : Option SyntaxNode) (tokens : SemanticTokens) :
    Except AstError SemanticTokens :=
  match name with
  | none => .ok tokens
  | some n => addNode category n tokens

mutual

def collectAssignmentIdentifiers : SyntaxNode → SemanticTokens → Except AstError SemanticTokens
  | .node info children, tokens =>
    if info.kind = "identifier" then addNode "variable" (.node info children) tokens
    else if info.kind ∈ ["tuple", "list", "pattern_list"] then
      collectAssignmentChildren children tokens
    else .ok tokens

def collectAssignmentChildren : SyntaxChildren → SemanticTokens → Except AstError SemanticTokens
  | .nil, tokens => .ok tokens
  | .cons _ child rest, tokens =>
    collectAssignmentIdentifiers child tokens >>= collectAssignmentChildren rest

end

mutual

def collectImportIdentifiers : SyntaxNode → SemanticTokens → Except AstError SemanticTokens
  | .node info children, tokens =>
    if info.kind ∈ ["identifier", "dotted_name"] then addNode "import" (.node info children) tokens
    else collectImportChildren children tokens

def collectImportChildren : SyntaxChildren → SemanticTokens → Except AstError SemanticTokens
  | .nil, tokens => .ok tokens
  | .cons _ child rest, tokens =>
    collectImportIdentifiers child tokens >>= collectImportChildren rest

end

/-- The tokens that a node itself gives, by its kind. -/
def collectOwn (info : NodeInfo) (children : SyntaxChildren) (tokens : SemanticTokens) :
    Except AstError SemanticTokens :=
  if info.kind = "function_definition" then
    addNamed "function" (children.byFieldName "name") tokens
  else if info.kind = "class_definition" then
    addNamed "class" (children.byFieldName "name") tokens
  else if info.kind = "assignment" then
    match children.byFieldName "left" with
    | none => .ok tokens
    | some left => collectAssignmentIdentifiers left tokens
  else if info.kind ∈ ["import_statement", "import_from_statement"] then
    collectImportIdentifiers (.node info children) tokens
  else .ok tokens

mutual

def collectSemanticTokens : SyntaxNode → SemanticTokens → Except AstError SemanticTokens
  | .node info children, tokens =>
    if info.kind = "comment" then .ok tokens
    else collectOwn info children tokens >>= collectSemanticChildren children

def collectSemanticChildren : SyntaxChildren → SemanticTokens → Except AstError SemanticTokens
  | .nil, tokens => .ok tokens
  | .cons _ child rest, tokens =>
    collectSemanticTokens child tokens >>= collectSemanticChildren rest

end

/-! ## Survival -/

structure SyntaxFeatures where
  namedNodeCount : ℕ
  semanticTokens : SemanticTokens

/-- The environment of the analysis: the limits that it configures and the parser, which answers
with the root and its `has_error`, or with what it fails with. -/
structure PythonParser where
  maxSourceBytes : ℕ
  parse : Text → Except AstError (SyntaxNode × Bool)

def sourceBytes (code : Text) : ℕ := (code.flatMap String.utf8EncodeChar).length

/-- `extract_python_features` behind the parser. -/
def treeFeatures (root : SyntaxNode) (hasError : Bool) : Except AstError SyntaxFeatures :=
  if maxTrustedAstErrorNodes < countUntrustedSyntaxNodes root then
    .error (.syntaxErrorNodes (countUntrustedSyntaxNodes root) maxTrustedAstErrorNodes)
  else if hasError then .error .parseFailed
  else
    countNamedNodesInner root 0 >>= fun namedNodeCount =>
      (collectSemanticTokens root []).map fun semanticTokens => ⟨namedNodeCount, semanticTokens⟩

def extractPythonFeatures (parser : PythonParser) (code : Text) : Except AstError SyntaxFeatures :=
  if parser.maxSourceBytes < sourceBytes code then
    .error (.sourceTooLarge (sourceBytes code) parser.maxSourceBytes)
  else parser.parse code >>= fun tree => treeFeatures tree.1 tree.2

def tokenCount (tokens : SemanticTokens) : ℕ :=
  tokens.foldl (fun total entry => total + entry.2) 0

/-- `new_tokens.get(token).copied().unwrap_or(0)`. -/
def countOf (token : Text) (tokens : SemanticTokens) : ℕ := (tokens.lookup token).getD 0

def countMultisetIntersection (oldTokens newTokens : SemanticTokens) : ℕ :=
  oldTokens.foldl (fun total entry => total + min entry.2 (countOf entry.1 newTokens)) 0

def survivalMetrics (old new : SyntaxFeatures) : SemanticMetrics :=
  let oldTokenCount := tokenCount old.semanticTokens
  let matched := countMultisetIntersection old.semanticTokens new.semanticTokens
  { oldNodeCount := old.namedNodeCount
    newNodeCount := new.namedNodeCount
    oldTokenCount := oldTokenCount
    newTokenCount := tokenCount new.semanticTokens
    matchedNodeCount := matched
    survivalRatio := clampUnit (if oldTokenCount = 0 then 1 else (matched : ℚ) / oldTokenCount) }

def analyzePythonSurvival (parser : PythonParser) (oldCode newCode : Text) :
    Except AstError SemanticMetrics :=
  extractPythonFeatures parser oldCode >>= fun old =>
    (extractPythonFeatures parser newCode).map fun new => survivalMetrics old new

/-! ## Tokens as multisets -/

/-- The tokens with their multiplicities. -/
def SemanticTokens.bag (tokens : SemanticTokens) : Multiset Text :=
  tokens.foldr (fun entry bag => Multiset.replicate entry.2 entry.1 + bag) 0

theorem bag_nil : SemanticTokens.bag [] = 0 := rfl

theorem bag_cons (k : Text) (count : ℕ) (tokens : SemanticTokens) :
    SemanticTokens.bag ((k, count) :: tokens) = Multiset.replicate count k + tokens.bag := rfl

/-- Every token has one entry. -/
def SemanticTokens.Keyed (tokens : SemanticTokens) : Prop := (tokens.map Prod.fst).Nodup

theorem bag_increment (key : Text) (tokens : SemanticTokens) :
    (tokens.increment key).bag = key ::ₘ tokens.bag := by
  induction tokens with
  | nil => simp [SemanticTokens.increment, bag_cons, bag_nil]
  | cons entry tokens ih =>
    obtain ⟨k, count⟩ := entry
    rw [SemanticTokens.increment]
    by_cases h : k = key
    · subst h
      rw [if_pos rfl, bag_cons, bag_cons, Multiset.replicate_succ, Multiset.cons_add]
    · rw [if_neg h, bag_cons, bag_cons, ih, Multiset.add_cons]

theorem mem_keys_increment {key k : Text} {tokens : SemanticTokens} :
    k ∈ (tokens.increment key).map Prod.fst ↔ k = key ∨ k ∈ tokens.map Prod.fst := by
  induction tokens with
  | nil => simp [SemanticTokens.increment]
  | cons entry tokens ih =>
    obtain ⟨k', count⟩ := entry
    rw [SemanticTokens.increment]
    by_cases h : k' = key
    · subst h
      simp
    · rw [if_neg h, List.map_cons, List.mem_cons, ih, List.map_cons, List.mem_cons]
      exact or_left_comm

theorem keyed_increment {key : Text} {tokens : SemanticTokens} (h : tokens.Keyed) :
    (tokens.increment key).Keyed := by
  induction tokens with
  | nil => simp [SemanticTokens.increment, SemanticTokens.Keyed]
  | cons entry tokens ih =>
    obtain ⟨k, count⟩ := entry
    rw [SemanticTokens.Keyed, List.map_cons, List.nodup_cons] at h
    rw [SemanticTokens.increment]
    by_cases hk : k = key
    · rw [if_pos hk]
      exact List.nodup_cons.mpr h
    · rw [if_neg hk, SemanticTokens.Keyed, List.map_cons, List.nodup_cons, mem_keys_increment]
      exact ⟨not_or.mpr ⟨hk, h.1⟩, ih h.2⟩

theorem count_bag_of_notMem {token : Text} {tokens : SemanticTokens}
    (h : token ∉ tokens.map Prod.fst) : tokens.bag.count token = 0 := by
  induction tokens with
  | nil => rfl
  | cons entry tokens ih =>
    obtain ⟨k, count⟩ := entry
    rw [List.map_cons, List.mem_cons, not_or] at h
    rw [bag_cons, Multiset.count_add, ih h.2, Multiset.count_replicate, if_neg (Ne.symm h.1)]

theorem count_bag {tokens : SemanticTokens} (h : tokens.Keyed) (token : Text) :
    tokens.bag.count token = countOf token tokens := by
  induction tokens with
  | nil => rfl
  | cons entry tokens ih =>
    obtain ⟨k, count⟩ := entry
    rw [SemanticTokens.Keyed, List.map_cons, List.nodup_cons] at h
    rw [bag_cons, Multiset.count_add, Multiset.count_replicate, countOf, List.lookup_cons]
    by_cases hk : k = token
    · subst hk
      rw [if_pos rfl, count_bag_of_notMem h.1]
      simp
    · rw [if_neg hk, ih h.2, beq_eq_false_iff_ne.mpr (Ne.symm hk)]
      exact Nat.zero_add _

theorem tokenCount_eq (tokens : SemanticTokens) : tokenCount tokens = tokens.bag.card := by
  have hfold : ∀ start, tokens.foldl (fun total entry => total + entry.2) start =
      start + tokens.bag.card := by
    induction tokens with
    | nil => exact fun start => rfl
    | cons entry tokens ih =>
      obtain ⟨k, count⟩ := entry
      intro start
      rw [List.foldl_cons, ih, bag_cons, Multiset.card_add, Multiset.card_replicate, Nat.add_assoc]
  rw [tokenCount, hfold, Nat.zero_add]

theorem replicate_add_inter {k : Text} {count : ℕ} {rest new : Multiset Text}
    (h : rest.count k = 0) :
    (Multiset.replicate count k + rest) ∩ new =
      Multiset.replicate (min count (new.count k)) k + rest ∩ new := by
  ext token
  rw [Multiset.count_inter, Multiset.count_add, Multiset.count_add, Multiset.count_inter,
    Multiset.count_replicate, Multiset.count_replicate]
  by_cases hk : k = token
  · subst hk
    rw [if_pos rfl, if_pos rfl, h, Nat.add_zero, Nat.zero_min, Nat.add_zero]
  · rw [if_neg hk, if_neg hk, Nat.zero_add, Nat.zero_add]

/-- What is counted as matched are the common tokens. -/
theorem countMultisetIntersection_eq {oldTokens newTokens : SemanticTokens} (hold : oldTokens.Keyed)
    (hnew : newTokens.Keyed) :
    countMultisetIntersection oldTokens newTokens = (oldTokens.bag ∩ newTokens.bag).card := by
  have hfold : ∀ start, oldTokens.foldl
      (fun total entry => total + min entry.2 (countOf entry.1 newTokens)) start =
        start + (oldTokens.bag ∩ newTokens.bag).card := by
    induction oldTokens with
    | nil => intro start; simp [bag_nil]
    | cons entry tokens ih =>
      obtain ⟨k, count⟩ := entry
      rw [SemanticTokens.Keyed, List.map_cons, List.nodup_cons] at hold
      intro start
      rw [List.foldl_cons, ih hold.2, bag_cons, replicate_add_inter (count_bag_of_notMem hold.1),
        Multiset.card_add, Multiset.card_replicate, count_bag hnew, Nat.add_assoc]
  rw [countMultisetIntersection, hfold, Nat.zero_add]

/-! ## The names of a tree -/

/-- The collection has added the tokens of `bag`. -/
structure Adds (bag : Multiset Text) (tokens tokens' : SemanticTokens) : Prop where
  bag_eq : tokens'.bag = tokens.bag + bag
  keyed : tokens.Keyed → tokens'.Keyed

theorem Adds.refl (tokens : SemanticTokens) : Adds 0 tokens tokens := ⟨(Multiset.add_zero _).symm, id⟩

theorem Adds.trans {bag bag' : Multiset Text} {tokens tokens' tokens'' : SemanticTokens}
    (h : Adds bag tokens tokens') (h' : Adds bag' tokens' tokens'') :
    Adds (bag + bag') tokens tokens'' :=
  ⟨by rw [h'.bag_eq, h.bag_eq, Multiset.add_assoc], fun hk => h'.keyed (h.keyed hk)⟩

/-- The token of a node that stands for a name. -/
def nameBag (category : String) (n : SyntaxNode) : Multiset Text :=
  match nodeText n with
  | .ok name => if name = [] then 0 else {category.toList ++ ':' :: name}
  | .error _ => 0

def optionalNameBag (category : String) : Option SyntaxNode → Multiset Text
  | none => 0
  | some n => nameBag category n

mutual

def assignmentBag : SyntaxNode → Multiset Text
  | .node info children =>
    if info.kind = "identifier" then nameBag "variable" (.node info children)
    else if info.kind ∈ ["tuple", "list", "pattern_list"] then assignmentChildrenBag children
    else 0

def assignmentChildrenBag : SyntaxChildren → Multiset Text
  | .nil => 0
  | .cons _ child rest => assignmentBag child + assignmentChildrenBag rest

end

mutual

def importBag : SyntaxNode → Multiset Text
  | .node info children =>
    if info.kind ∈ ["identifier", "dotted_name"] then nameBag "import" (.node info children)
    else importChildrenBag children

def importChildrenBag : SyntaxChildren → Multiset Text
  | .nil => 0
  | .cons _ child rest => importBag child + importChildrenBag rest

end

def ownBag (info : NodeInfo) (children : SyntaxChildren) : Multiset Text :=
  if info.kind = "function_definition" then optionalNameBag "function" (children.byFieldName "name")
  else if info.kind = "class_definition" then optionalNameBag "class" (children.byFieldName "name")
  else if info.kind = "assignment" then
    match children.byFieldName "left" with
    | none => 0
    | some left => assignmentBag left
  else if info.kind ∈ ["import_statement", "import_from_statement"] then
    importBag (.node info children)
  else 0

mutual

def semanticBag : SyntaxNode → Multiset Text
  | .node info children =>
    if info.kind = "comment" then 0 else ownBag info children + semanticChildrenBag children

def semanticChildrenBag : SyntaxChildren → Multiset Text
  | .nil => 0
  | .cons _ child rest => semanticBag child + semanticChildrenBag rest

end

section Collection
variable {tokens tokens' : SemanticTokens}

theorem adds_node {category : String} {n : SyntaxNode} (h : addNode category n tokens = .ok tokens') :
    Adds (nameBag category n) tokens tokens' := by
  obtain ⟨name, hname, rfl⟩ := map_eq_ok.mp h
  have htrim : trim name = name := by
    rw [nodeText] at hname
    cases hn : n.info.utf8Text with
    | error message => simp [hn] at hname
    | ok text =>
      rw [hn] at hname
      cases hname
      exact trim_trim text
  rw [nameBag, hname, addToken, htrim]
  by_cases hempty : name = []
  · simp only [hempty, if_true]
    exact .refl tokens
  · simp only [hempty, if_false]
    exact ⟨by rw [bag_increment, ← Multiset.singleton_add, Multiset.add_comm], keyed_increment⟩

theorem adds_named {category : String} {name : Option SyntaxNode}
    (h : addNamed category name tokens = .ok tokens') :
    Adds (optionalNameBag category name) tokens tokens' := by
  cases name with
  | none =>
    cases h
    exact .refl tokens
  | some n => exact adds_node h

mutual

theorem adds_assignment {n : SyntaxNode} {tokens tokens' : SemanticTokens}
    (h : collectAssignmentIdentifiers n tokens = .ok tokens') :
    Adds (assignmentBag n) tokens tokens' := by
  cases n with
  | node info children =>
    rw [collectAssignmentIdentifiers] at h
    rw [assignmentBag]
    split at h
    · rw [if_pos ‹_›]
      exact adds_node h
    · rw [if_neg ‹_›]
      split at h
      · rw [if_pos ‹_›]
        exact adds_assignmentChildren h
      · rw [if_neg ‹_›]
        cases h
        exact .refl tokens

theorem adds_assignmentChildren {children : SyntaxChildren} {tokens tokens' : SemanticTokens}
    (h : collectAssignmentChildren children tokens = .ok tokens') :
    Adds (assignmentChildrenBag children) tokens tokens' := by
  cases children with
  | nil =>
    cases h
    exact .refl tokens
  | cons field child rest =>
    rw [collectAssignmentChildren] at h
    obtain ⟨mid, hchild, hrest⟩ := bind_eq_ok.mp h
    exact (adds_assignment hchild).trans (adds_assignmentChildren hrest)

end

mutual

theorem adds_import {n : SyntaxNode} {tokens tokens' : SemanticTokens}
    (h : collectImportIdentifiers n tokens = .ok tokens') : Adds (importBag n) tokens tokens' := by
  cases n with
  | node info children =>
    rw [collectImportIdentifiers] at h
    rw [importBag]
    split at h
    · rw [if_pos ‹_›]
      exact adds_node h
    · rw [if_neg ‹_›]
      exact adds_importChildren h

theorem adds_importChildren {children : SyntaxChildren} {tokens tokens' : SemanticTokens}
    (h : collectImportChildren children tokens = .ok tokens') :
    Adds (importChildrenBag children) tokens tokens' := by
  cases children with
  | nil =>
    cases h
    exact .refl tokens
  | cons field child rest =>
    rw [collectImportChildren] at h
    obtain ⟨mid, hchild, hrest⟩ := bind_eq_ok.mp h
    exact (adds_import hchild).trans (adds_importChildren hrest)

end

theorem adds_own {info : NodeInfo} {children : SyntaxChildren}
    (h : collectOwn info children tokens = .ok tokens') :
    Adds (ownBag info children) tokens tokens' := by
  rw [collectOwn] at h
  rw [ownBag]
  split at h
  · rw [if_pos ‹_›]
    exact adds_named h
  · rw [if_neg ‹_›]
    split at h
    · rw [if_pos ‹_›]
      exact adds_named h
    · rw [if_neg ‹_›]
      split at h
      · rw [if_pos ‹_›]
        cases hleft : children.byFieldName "left" with
        | none =>
          rw [hleft] at h
          cases h
          exact .refl tokens
        | some left =>
          rw [hleft] at h
          exact adds_assignment h
      · rw [if_neg ‹_›]
        split at h
        · rw [if_pos ‹_›]
          exact adds_import h
        · rw [if_neg ‹_›]
          cases h
          exact .refl tokens

mutual

/-- The collection over a tree adds the names of the tree. -/
theorem adds_semantic {n : SyntaxNode} {tokens tokens' : SemanticTokens}
    (h : collectSemanticTokens n tokens = .ok tokens') : Adds (semanticBag n) tokens tokens' := by
  cases n with
  | node info children =>
    rw [collectSemanticTokens] at h
    rw [semanticBag]
    split at h
    · rw [if_pos ‹_›]
      cases h
      exact .refl tokens
    · rw [if_neg ‹_›]
      obtain ⟨mid, hown, hchildren⟩ := bind_eq_ok.mp h
      exact (adds_own hown).trans (adds_semanticChildren hchildren)

theorem adds_semanticChildren {children : SyntaxChildren} {tokens tokens' : SemanticTokens}
    (h : collectSemanticChildren children tokens = .ok tokens') :
    Adds (semanticChildrenBag children) tokens tokens' := by
  cases children with
  | nil =>
    cases h
    exact .refl tokens
  | cons field child rest =>
    rw [collectSemanticChildren] at h
    obtain ⟨mid, hchild, hrest⟩ := bind_eq_ok.mp h
    exact (adds_semantic hchild).trans (adds_semanticChildren hrest)

end

end Collection

theorem treeFeatures_eq_ok {root : SyntaxNode} {hasError : Bool} {features : SyntaxFeatures}
    (h : treeFeatures root hasError = .ok features) :
    hasError = false ∧ countNamedNodesInner root 0 = .ok features.namedNodeCount ∧
      features.semanticTokens.bag = semanticBag root ∧ features.semanticTokens.Keyed := by
  rw [treeFeatures] at h
  split at h
  · cases h
  · split at h
    · cases h
    · rename_i herror
      obtain ⟨count, hcount, hrest⟩ := bind_eq_ok.mp h
      obtain ⟨tokens, htokens, rfl⟩ := map_eq_ok.mp hrest
      have hadds := adds_semantic htokens
      refine ⟨by simpa using herror, hcount, ?_, hadds.keyed List.nodup_nil⟩
      rw [hadds.bag_eq, bag_nil, Multiset.zero_add]

/-- What an analysis that succeeds has read and computed. -/
theorem analyze_eq_ok {parser : PythonParser} {oldCode newCode : Text} {metrics : SemanticMetrics}
    (h : analyzePythonSurvival parser oldCode newCode = .ok metrics) :
    ∃ oldTree newTree old new, parser.parse oldCode = .ok oldTree ∧
      parser.parse newCode = .ok newTree ∧ treeFeatures oldTree.1 oldTree.2 = .ok old ∧
      treeFeatures newTree.1 newTree.2 = .ok new ∧ survivalMetrics old new = metrics := by
  obtain ⟨old, hold, hrest⟩ := bind_eq_ok.mp h
  obtain ⟨new, hnew, rfl⟩ := map_eq_ok.mp hrest
  rw [extractPythonFeatures] at hold hnew
  split at hold
  · cases hold
  · split at hnew
    · cases hnew
    · obtain ⟨oldTree, holdTree, hold⟩ := bind_eq_ok.mp hold
      obtain ⟨newTree, hnewTree, hnew⟩ := bind_eq_ok.mp hnew
      exact ⟨oldTree, newTree, old, new, holdTree, hnewTree, hold, hnew, rfl⟩

/-- The metrics of two trees whose names are known. -/
theorem survivalMetrics_eq {old new : SyntaxFeatures} (hold : old.semanticTokens.Keyed)
    (hnew : new.semanticTokens.Keyed) :
    (survivalMetrics old new).oldTokenCount = old.semanticTokens.bag.card ∧
      (survivalMetrics old new).newTokenCount = new.semanticTokens.bag.card ∧
      (survivalMetrics old new).matchedNodeCount =
        (old.semanticTokens.bag ∩ new.semanticTokens.bag).card ∧
      (survivalMetrics old new).survivalRatio =
        if old.semanticTokens.bag.card = 0 then 1
        else ((old.semanticTokens.bag ∩ new.semanticTokens.bag).card : ℚ) /
          old.semanticTokens.bag.card := by
  have hmatched := countMultisetIntersection_eq hold hnew
  have hle : (old.semanticTokens.bag ∩ new.semanticTokens.bag).card ≤ old.semanticTokens.bag.card :=
    Multiset.card_le_card (Multiset.inter_le_left)
  refine ⟨tokenCount_eq _, tokenCount_eq _, hmatched, ?_⟩
  rw [← @survivalRatio_eq _ (tokenCount new.semanticTokens) _ hle]
  simp only [survivalMetrics, textMetrics, tokenCount_eq, hmatched]

/-! ## Comments -/

/-- A comment, which has no children. -/
def SyntaxNode.isComment : SyntaxNode → Bool
  | .node info .nil => info.kind = "comment" && !info.isError && !info.isMissing
  | .node _ (.cons _ _ _) => false

mutual

/-- The tree without the comments in it. -/
def SyntaxNode.withoutComments : SyntaxNode → SyntaxNode
  | .node info children => .node info children.withoutComments

def SyntaxChildren.withoutComments : SyntaxChildren → SyntaxChildren
  | .nil => .nil
  | .cons field child rest =>
    if field = none ∧ child.isComment then rest.withoutComments
    else .cons field child.withoutComments rest.withoutComments

end

theorem isComment_eq_true {n : SyntaxNode} (h : n.isComment = true) :
    ∃ info, n = .node info .nil ∧ info.kind = "comment" ∧ info.isError = false ∧
      info.isMissing = false := by
  cases n with
  | node info children =>
    cases children with
    | nil =>
      simp only [SyntaxNode.isComment, Bool.and_eq_true, decide_eq_true_eq, Bool.not_eq_true'] at h
      exact ⟨info, rfl, h.1.1, h.1.2, h.2⟩
    | cons field child rest => cases h

theorem info_withoutComments (n : SyntaxNode) : n.withoutComments.info = n.info := by
  cases n
  rfl

theorem byFieldName_withoutComments (field : String) (children : SyntaxChildren) :
    children.withoutComments.byFieldName field =
      (children.byFieldName field).map SyntaxNode.withoutComments := by
  match children with
  | .nil => rfl
  | .cons name child rest =>
    have ih := byFieldName_withoutComments field rest
    rw [SyntaxChildren.withoutComments]
    by_cases hcomment : name = none ∧ child.isComment = true
    · obtain ⟨rfl, hc⟩ := hcomment
      rw [if_pos ⟨rfl, hc⟩, ih, SyntaxChildren.byFieldName, if_neg (Option.some_ne_none field).symm]
    · rw [if_neg hcomment, SyntaxChildren.byFieldName, SyntaxChildren.byFieldName, ih]
      by_cases hname : name = some field
      · rw [if_pos hname, if_pos hname, Option.map_some]
      · rw [if_neg hname, if_neg hname]

theorem addNode_withoutComments (category : String) (n : SyntaxNode) (tokens : SemanticTokens) :
    addNode category n.withoutComments tokens = addNode category n tokens := by
  rw [addNode, nodeText, info_withoutComments]
  rfl

mutual

theorem countNamed_withoutComments (n : SyntaxNode) (count : ℕ) :
    countNamedNodesInner n.withoutComments count = countNamedNodesInner n count := by
  cases n with
  | node info children =>
    simp only [SyntaxNode.withoutComments, countNamedNodesInner,
      countNamedChildren_withoutComments children]

theorem countNamedChildren_withoutComments (children : SyntaxChildren) (count : ℕ) :
    countNamedChildren children.withoutComments count = countNamedChildren children count := by
  cases children with
  | nil => rfl
  | cons field child rest =>
    rw [SyntaxChildren.withoutComments]
    by_cases hcomment : field = none ∧ child.isComment = true
    · obtain ⟨info, rfl, hkind, -⟩ := isComment_eq_true hcomment.2
      rw [if_pos hcomment, countNamedChildren_withoutComments rest, countNamedChildren,
        countNamedNodesInner, if_pos hkind]
      rfl
    · rw [if_neg hcomment, countNamedChildren, countNamedChildren, countNamed_withoutComments child]
      congr 1
      funext next
      exact countNamedChildren_withoutComments rest next

end

mutual

theorem countUntrusted_withoutComments (n : SyntaxNode) :
    countUntrustedSyntaxNodes n.withoutComments = countUntrustedSyntaxNodes n := by
  cases n with
  | node info children =>
    rw [SyntaxNode.withoutComments, countUntrustedSyntaxNodes, countUntrustedSyntaxNodes,
      countUntrustedChildren_withoutComments children]

theorem countUntrustedChildren_withoutComments (children : SyntaxChildren) :
    countUntrustedChildren children.withoutComments = countUntrustedChildren children := by
  cases children with
  | nil => rfl
  | cons field child rest =>
    rw [SyntaxChildren.withoutComments]
    by_cases hcomment : field = none ∧ child.isComment = true
    · obtain ⟨info, rfl, hkind, herror, hmissing⟩ := isComment_eq_true hcomment.2
      rw [if_pos hcomment, countUntrustedChildren_withoutComments rest, countUntrustedChildren,
        countUntrustedSyntaxNodes, countUntrustedChildren, herror, hmissing, hkind]
      simp
    · rw [if_neg hcomment, countUntrustedChildren, countUntrustedChildren,
        countUntrusted_withoutComments child, countUntrustedChildren_withoutComments rest]

end

mutual

theorem assignment_withoutComments (n : SyntaxNode) (tokens : SemanticTokens) :
    collectAssignmentIdentifiers n.withoutComments tokens =
      collectAssignmentIdentifiers n tokens := by
  cases n with
  | node info children =>
    have hnode := addNode_withoutComments "variable" (.node info children) tokens
    rw [SyntaxNode.withoutComments] at hnode ⊢
    rw [collectAssignmentIdentifiers, collectAssignmentIdentifiers, hnode,
      assignmentChildren_withoutComments children]

theorem assignmentChildren_withoutComments (children : SyntaxChildren) (tokens : SemanticTokens) :
    collectAssignmentChildren children.withoutComments tokens =
      collectAssignmentChildren children tokens := by
  cases children with
  | nil => rfl
  | cons field child rest =>
    rw [SyntaxChildren.withoutComments]
    by_cases hcomment : field = none ∧ child.isComment = true
    · obtain ⟨info, rfl, hkind, -⟩ := isComment_eq_true hcomment.2
      rw [if_pos hcomment, assignmentChildren_withoutComments rest, collectAssignmentChildren,
        collectAssignmentIdentifiers, hkind]
      simp [bind, Except.bind]
    · rw [if_neg hcomment, collectAssignmentChildren, collectAssignmentChildren,
        assignment_withoutComments child]
      congr 1
      funext next
      exact assignmentChildren_withoutComments rest next

end

mutual

theorem import_withoutComments (n : SyntaxNode) (tokens : SemanticTokens) :
    collectImportIdentifiers n.withoutComments tokens = collectImportIdentifiers n tokens := by
  cases n with
  | node info children =>
    have hnode := addNode_withoutComments "import" (.node info children) tokens
    rw [SyntaxNode.withoutComments] at hnode ⊢
    rw [collectImportIdentifiers, collectImportIdentifiers, hnode,
      importChildren_withoutComments children]

theorem importChildren_withoutComments (children : SyntaxChildren) (tokens : SemanticTokens) :
    collectImportChildren children.withoutComments tokens =
      collectImportChildren children tokens := by
  cases children with
  | nil => rfl
  | cons field child rest =>
    rw [SyntaxChildren.withoutComments]
    by_cases hcomment : field = none ∧ child.isComment = true
    · obtain ⟨info, rfl, hkind, -⟩ := isComment_eq_true hcomment.2
      rw [if_pos hcomment, importChildren_withoutComments rest, collectImportChildren,
        collectImportIdentifiers, hkind]
      simp [collectImportChildren, bind, Except.bind]
    · rw [if_neg hcomment, collectImportChildren, collectImportChildren,
        import_withoutComments child]
      congr 1
      funext next
      exact importChildren_withoutComments rest next

end

theorem own_withoutComments (info : NodeInfo) (children : SyntaxChildren) (tokens : SemanticTokens) :
    collectOwn info children.withoutComments tokens = collectOwn info children tokens := by
  have hnamed : ∀ category, addNamed category (children.withoutComments.byFieldName "name") tokens =
      addNamed category (children.byFieldName "name") tokens := by
    intro category
    rw [byFieldName_withoutComments]
    cases children.byFieldName "name" with
    | none => rfl
    | some n => exact addNode_withoutComments category n tokens
  have himport := import_withoutComments (.node info children) tokens
  rw [SyntaxNode.withoutComments] at himport
  rw [collectOwn, collectOwn, hnamed, hnamed, himport, byFieldName_withoutComments]
  cases children.byFieldName "left" with
  | none => rfl
  | some left => simp only [Option.map_some, assignment_withoutComments left tokens]

mutual

theorem semantic_withoutComments (n : SyntaxNode) (tokens : SemanticTokens) :
    collectSemanticTokens n.withoutComments tokens = collectSemanticTokens n tokens := by
  cases n with
  | node info children =>
    rw [SyntaxNode.withoutComments, collectSemanticTokens, collectSemanticTokens,
      own_withoutComments]
    split
    · rfl
    · congr 1
      funext next
      exact semanticChildren_withoutComments children next

theorem semanticChildren_withoutComments (children : SyntaxChildren) (tokens : SemanticTokens) :
    collectSemanticChildren children.withoutComments tokens =
      collectSemanticChildren children tokens := by
  cases children with
  | nil => rfl
  | cons field child rest =>
    rw [SyntaxChildren.withoutComments]
    by_cases hcomment : field = none ∧ child.isComment = true
    · obtain ⟨info, rfl, hkind, -⟩ := isComment_eq_true hcomment.2
      rw [if_pos hcomment, semanticChildren_withoutComments rest, collectSemanticChildren,
        collectSemanticTokens, if_pos hkind]
      rfl
    · rw [if_neg hcomment, collectSemanticChildren, collectSemanticChildren,
        semantic_withoutComments child]
      congr 1
      funext next
      exact semanticChildren_withoutComments rest next

end

/-- The features, and every failure, are those of the tree without its comments. -/
theorem treeFeatures_withoutComments (root : SyntaxNode) (hasError : Bool) :
    treeFeatures root.withoutComments hasError = treeFeatures root hasError := by
  rw [treeFeatures, treeFeatures, countUntrusted_withoutComments, countNamed_withoutComments,
    semantic_withoutComments]

/-! ## Deletions -/

mutual

/-- The second tree is the first one with some of its unnamed parts deleted. The texts of the nodes
may change with them, but not those of the names that are kept. -/
inductive Pruned : SyntaxNode → SyntaxNode → Prop
  | node {info info' : NodeInfo} {children children' : SyntaxChildren}
      (kind : info'.kind = info.kind)
      (text : info.kind ∈ ["identifier", "dotted_name"] → info'.utf8Text = info.utf8Text)
      (pruned : PrunedChildren children children') :
      Pruned (.node info children) (.node info' children')

inductive PrunedChildren : SyntaxChildren → SyntaxChildren → Prop
  | nil : PrunedChildren .nil .nil
  | delete {child : SyntaxNode} {rest rest' : SyntaxChildren} (pruned : PrunedChildren rest rest') :
      PrunedChildren (.cons none child rest) rest'
  | keep {field : Option String} {child child' : SyntaxNode} {rest rest' : SyntaxChildren}
      (kept : Pruned child child')
      (text : field = some "name" → child'.info.utf8Text = child.info.utf8Text)
      (pruned : PrunedChildren rest rest') :
      PrunedChildren (.cons field child rest) (.cons field child' rest')

end

mutual

theorem pruned_refl (n : SyntaxNode) : Pruned n n := by
  cases n with
  | node info children => exact .node rfl (fun _ => rfl) (prunedChildren_refl children)

theorem prunedChildren_refl (children : SyntaxChildren) : PrunedChildren children children := by
  cases children with
  | nil => exact .nil
  | cons field child rest => exact .keep (pruned_refl child) (fun _ => rfl) (prunedChildren_refl rest)

end

theorem nameBag_congr (category : String) (n n' : SyntaxNode)
    (h : n'.info.utf8Text = n.info.utf8Text) : nameBag category n' = nameBag category n := by
  rw [nameBag, nameBag, nodeText, nodeText, h]

/-- A field of a pruned node is the pruned field. -/
theorem PrunedChildren.byFieldName (field : String) {children children' : SyntaxChildren}
    (h : PrunedChildren children children') :
    (children.byFieldName field = none ∧ children'.byFieldName field = none) ∨
      ∃ n n', children.byFieldName field = some n ∧ children'.byFieldName field = some n' ∧
        Pruned n n' ∧ (field = "name" → n'.info.utf8Text = n.info.utf8Text) := by
  match children, children', h with
  | .nil, .nil, .nil => exact .inl ⟨rfl, rfl⟩
  | .cons none child rest, rest', .delete pruned =>
    rw [SyntaxChildren.byFieldName, if_neg (Option.some_ne_none field).symm]
    exact pruned.byFieldName field
  | .cons name child rest, .cons _ child' rest', .keep kept text pruned =>
    rw [SyntaxChildren.byFieldName, SyntaxChildren.byFieldName]
    by_cases hname : name = some field
    · rw [if_pos hname, if_pos hname]
      exact .inr ⟨child, child', rfl, rfl, kept, fun hfield => text (by rw [hname, hfield])⟩
    · rw [if_neg hname, if_neg hname]
      exact pruned.byFieldName field

mutual

theorem Pruned.assignment {n n' : SyntaxNode} (h : Pruned n n') :
    assignmentBag n' ≤ assignmentBag n := by
  match n, n', h with
  | .node info children, .node info' children', .node kind text pruned =>
    rw [assignmentBag, assignmentBag, kind]
    by_cases hidentifier : info.kind = "identifier"
    · rw [if_pos hidentifier, if_pos hidentifier]
      have htext := text (by simp [hidentifier])
      exact (nameBag_congr "variable" (.node info children) (.node info' children') htext).le
    · rw [if_neg hidentifier, if_neg hidentifier]
      split
      · exact pruned.assignment
      · exact le_refl 0

theorem PrunedChildren.assignment {children children' : SyntaxChildren}
    (h : PrunedChildren children children') :
    assignmentChildrenBag children' ≤ assignmentChildrenBag children := by
  match children, children', h with
  | .nil, .nil, .nil => exact le_refl 0
  | .cons none child rest, rest', .delete pruned =>
    rw [assignmentChildrenBag]
    exact pruned.assignment.trans (Multiset.le_add_left _ _)
  | .cons _ child rest, .cons _ child' rest', .keep kept _ pruned =>
    rw [assignmentChildrenBag, assignmentChildrenBag]
    exact add_le_add kept.assignment pruned.assignment

end

mutual

theorem Pruned.imported {n n' : SyntaxNode} (h : Pruned n n') : importBag n' ≤ importBag n := by
  match n, n', h with
  | .node info children, .node info' children', .node kind text pruned =>
    rw [importBag, importBag, kind]
    by_cases hname : info.kind ∈ ["identifier", "dotted_name"]
    · rw [if_pos hname, if_pos hname]
      have htext := text hname
      exact (nameBag_congr "import" (.node info children) (.node info' children') htext).le
    · rw [if_neg hname, if_neg hname]
      exact pruned.imported

theorem PrunedChildren.imported {children children' : SyntaxChildren}
    (h : PrunedChildren children children') :
    importChildrenBag children' ≤ importChildrenBag children := by
  match children, children', h with
  | .nil, .nil, .nil => exact le_refl 0
  | .cons none child rest, rest', .delete pruned =>
    rw [importChildrenBag]
    exact pruned.imported.trans (Multiset.le_add_left _ _)
  | .cons _ child rest, .cons _ child' rest', .keep kept _ pruned =>
    rw [importChildrenBag, importChildrenBag]
    exact add_le_add kept.imported pruned.imported

end

theorem PrunedChildren.named {children children' : SyntaxChildren}
    (h : PrunedChildren children children') (category : String) :
    optionalNameBag category (children'.byFieldName "name") =
      optionalNameBag category (children.byFieldName "name") := by
  rcases h.byFieldName "name" with ⟨hn, hn'⟩ | ⟨n, n', hn, hn', -, htext⟩
  · rw [hn, hn']
  · rw [hn, hn']
    exact nameBag_congr category n n' (htext rfl)

theorem PrunedChildren.own {info info' : NodeInfo} {children children' : SyntaxChildren}
    (h : PrunedChildren children children') (kind : info'.kind = info.kind)
    (text : info.kind ∈ ["identifier", "dotted_name"] → info'.utf8Text = info.utf8Text) :
    ownBag info' children' ≤ ownBag info children := by
  rw [ownBag, ownBag, kind, h.named, h.named]
  split
  · exact le_refl _
  · split
    · exact le_refl _
    · split
      · rcases h.byFieldName "left" with ⟨hn, hn'⟩ | ⟨n, n', hn, hn', hpruned, -⟩
        · rw [hn, hn']
        · rw [hn, hn']
          exact hpruned.assignment
      · split
        · exact (Pruned.node kind text h).imported
        · exact le_refl 0

mutual

/-- Deleting parts of a tree adds no name. -/
theorem Pruned.semantic {n n' : SyntaxNode} (h : Pruned n n') : semanticBag n' ≤ semanticBag n := by
  match n, n', h with
  | .node info children, .node info' children', .node kind text pruned =>
    rw [semanticBag, semanticBag, kind]
    split
    · exact le_refl 0
    · exact add_le_add (pruned.own kind text) pruned.semantic

theorem PrunedChildren.semantic {children children' : SyntaxChildren}
    (h : PrunedChildren children children') :
    semanticChildrenBag children' ≤ semanticChildrenBag children := by
  match children, children', h with
  | .nil, .nil, .nil => exact le_refl 0
  | .cons none child rest, rest', .delete pruned =>
    rw [semanticChildrenBag]
    exact pruned.semantic.trans (Multiset.le_add_left _ _)
  | .cons _ child rest, .cons _ child' rest', .keep kept _ pruned =>
    rw [semanticChildrenBag, semanticChildrenBag]
    exact add_le_add kept.semantic pruned.semantic

end

/-! ## The metrics of an input -/

mutual

theorem countNamed_le {n : SyntaxNode} {count count' : ℕ}
    (h : countNamedNodesInner n count = .ok count')
    (hcount : count ≤ maxAstNamedNodes) : count' ≤ maxAstNamedNodes := by
  cases n with
  | node info children =>
    rw [countNamedNodesInner] at h
    split at h
    · cases h
      exact hcount
    · split at h
      · split at h
        · cases h
        · rename_i hle
          exact countNamedChildren_le h (Nat.le_of_not_lt hle)
      · exact countNamedChildren_le h hcount

theorem countNamedChildren_le {children : SyntaxChildren} {count count' : ℕ}
    (h : countNamedChildren children count = .ok count') (hcount : count ≤ maxAstNamedNodes) :
    count' ≤ maxAstNamedNodes := by
  cases children with
  | nil =>
    cases h
    exact hcount
  | cons field child rest =>
    rw [countNamedChildren] at h
    obtain ⟨mid, hchild, hrest⟩ := bind_eq_ok.mp h
    exact countNamedChildren_le hrest (countNamed_le hchild hcount)

end

/-- Metrics whose ratio is that of their own counts. -/
structure Consistent (metrics : SemanticMetrics) : Prop where
  matched_le_old : metrics.matchedNodeCount ≤ metrics.oldTokenCount
  matched_le_new : metrics.matchedNodeCount ≤ metrics.newTokenCount
  ratio : metrics.survivalRatio = if metrics.oldTokenCount = 0 then 1
    else (metrics.matchedNodeCount : ℚ) / metrics.oldTokenCount

theorem consistent_textMetrics {oldCount newCount matched : ℕ} (hold : matched ≤ oldCount)
    (hnew : matched ≤ newCount) : Consistent (textMetrics oldCount newCount matched) :=
  ⟨hold, hnew, survivalRatio_eq hold⟩

theorem consistent_survivalMetrics {old new : SyntaxFeatures} (hold : old.semanticTokens.Keyed)
    (hnew : new.semanticTokens.Keyed) : Consistent (survivalMetrics old new) := by
  obtain ⟨hoc, hnc, hm, hratio⟩ := survivalMetrics_eq hold hnew
  refine ⟨?_, ?_, ?_⟩
  · rw [hm, hoc]
    exact Multiset.card_le_card Multiset.inter_le_left
  · rw [hm, hnc]
    exact Multiset.card_le_card Multiset.inter_le_right
  · rw [hratio, hm, hoc]

/-- Why the text is compared in place of the trees. -/
inductive AstGuardFallback where
  | parseTimedOut (timeoutMicros : ℕ)
  | sourceTooLarge (sourceBytes limit : ℕ)
  | astTooLarge (namedNodeCount limit : ℕ)
deriving DecidableEq, Repr

/-- `semantic_metrics_for_input` of the criticality. -/
def semanticMetricsForInput (parser : PythonParser) (isPythonPath : Bool) (oldCode newCode : Text) :
    Except AstError (SemanticMetrics × Option AstGuardFallback) :=
  let textMetrics := Criticality.textSurvivalMetrics oldCode newCode
  if trim oldCode = [] ∧ trim newCode = [] then .ok (⟨0, 0, 0, 0, 0, 1⟩, none)
  else if isPythonPath then
    match analyzePythonSurvival parser oldCode newCode with
    | .ok metrics => .ok (metrics, none)
    | .error .parseFailed => .ok (textMetrics, none)
    | .error (.syntaxErrorNodes _ _) => .ok (textMetrics, none)
    | .error (.parseTimedOut timeout) => .ok (textMetrics, some (.parseTimedOut timeout))
    | .error (.sourceTooLarge bytes limit) => .ok (textMetrics, some (.sourceTooLarge bytes limit))
    | .error (.astTooLarge count limit) => .ok (textMetrics, some (.astTooLarge count limit))
    | .error (.languageLoad message) => .error (.languageLoad message)
    | .error (.invalidUtf8 message) => .error (.invalidUtf8 message)
  else .ok (textMetrics, none)

inductive FileActionType where
  | added
  | modified
  | deleted
  | renamed
  | modeChanged
  | untracked
deriving DecidableEq, Repr

def semanticModifier (action : FileActionType) (survivalRatio : ℚ) (oldCode : Text) : ℚ :=
  if action = .added ∨ trim oldCode = [] then 0
  else if action = .deleted then 3
  else
    let ratio := clampUnit survivalRatio
    let modifier : ℚ :=
      if ratio < 1 / 4 then 3 else if ratio < 1 / 2 then 2 else if ratio < 3 / 4 then 1 else 0
    if (normalizedNonEmptyLines oldCode).length ≤ 1 then min modifier 1 else modifier

theorem consistent_textSurvival (oldCode newCode : Text) :
    Consistent (Criticality.textSurvivalMetrics oldCode newCode) := by
  rw [Criticality.textSurvivalMetrics]
  split
  · rw [Criticality.boundedTextSurvivalMetrics]
    apply consistent_textMetrics
    · split
      · exact Nat.zero_le _
      · split
        · exact Nat.min_le_left _ _
        · exact Nat.zero_le _
    · split
      · exact Nat.zero_le _
      · split
        · exact Nat.min_le_right _ _
        · exact Nat.zero_le _
  · rw [exact_eq]
    exact consistent_textMetrics (Multiset.card_le_card Multiset.inter_le_left)
      (Multiset.card_le_card Multiset.inter_le_right)

theorem consistent_analyze {parser : PythonParser} {oldCode newCode : Text}
    {metrics : SemanticMetrics} (h : analyzePythonSurvival parser oldCode newCode = .ok metrics) :
    Consistent metrics := by
  obtain ⟨oldTree, newTree, old, new, -, -, hold, hnew, rfl⟩ := analyze_eq_ok h
  exact consistent_survivalMetrics (treeFeatures_eq_ok hold).2.2.2 (treeFeatures_eq_ok hnew).2.2.2

theorem Consistent.ratio_le_one {metrics : SemanticMetrics} (h : Consistent metrics) :
    metrics.survivalRatio ≤ 1 := by
  rw [h.ratio]
  split
  · exact le_refl 1
  · rename_i hne
    have hpos : (0 : ℚ) < metrics.oldTokenCount := Nat.cast_pos.mpr (Nat.pos_of_ne_zero hne)
    exact (div_le_one hpos).mpr (Nat.cast_le.mpr h.matched_le_old)

theorem Consistent.ratio_nonneg {metrics : SemanticMetrics} (h : Consistent metrics) :
    0 ≤ metrics.survivalRatio := by
  rw [h.ratio]
  split
  · exact zero_le_one
  · exact div_nonneg (Nat.cast_nonneg _) (Nat.cast_nonneg _)

/-- All old tokens survive exactly when the matched ones are as many as the old ones. -/
theorem Consistent.ratio_eq_one {metrics : SemanticMetrics} (h : Consistent metrics) :
    metrics.survivalRatio = 1 ↔ metrics.matchedNodeCount = metrics.oldTokenCount := by
  have hle := h.matched_le_old
  rw [h.ratio]
  split
  · rename_i hzero
    exact iff_of_true rfl (by omega)
  · rename_i hne
    have hpos : (metrics.oldTokenCount : ℚ) ≠ 0 := Nat.cast_ne_zero.mpr hne
    rw [div_eq_one_iff_eq hpos, Nat.cast_inj]

theorem Consistent.ratio_mono {metrics metrics' : SemanticMetrics} (h : Consistent metrics)
    (h' : Consistent metrics') (hold : metrics'.oldTokenCount = metrics.oldTokenCount)
    (hmatched : metrics'.matchedNodeCount ≤ metrics.matchedNodeCount) :
    metrics'.survivalRatio ≤ metrics.survivalRatio := by
  rw [h.ratio, h'.ratio, hold]
  split
  · exact le_refl 1
  · exact div_le_div_of_nonneg_right (Nat.cast_le.mpr hmatched) (Nat.cast_nonneg _)

/-- The less survives, the higher is the modifier. -/
theorem semanticModifier_antitone (action : FileActionType) (oldCode : Text) {ratio ratio' : ℚ}
    (h : ratio' ≤ ratio) :
    semanticModifier action ratio oldCode ≤ semanticModifier action ratio' oldCode := by
  have hclamp : clampUnit ratio' ≤ clampUnit ratio := max_le_max_left 0 (min_le_min_right 1 h)
  have hmodifier : (if clampUnit ratio < 1 / 4 then (3 : ℚ)
        else if clampUnit ratio < 1 / 2 then 2 else if clampUnit ratio < 3 / 4 then 1 else 0) ≤
      if clampUnit ratio' < 1 / 4 then (3 : ℚ)
        else if clampUnit ratio' < 1 / 2 then 2 else if clampUnit ratio' < 3 / 4 then 1 else 0 := by
    split_ifs <;> linarith
  simp only [semanticModifier]
  split
  · exact le_refl 0
  · split
    · exact le_refl 3
    · split
      · exact min_le_min_right 1 hmodifier
      · exact hmodifier

end Python

open Python

/-- Every success of `semantic_metrics_for_input`, by trees or by a text fallback, has matched no
more tokens than either side has, and a ratio that is exactly the matched part of the old ones. It
fails only where the parser cannot be loaded or answers with a broken span. -/
theorem semanticMetrics_consistent (parser : PythonParser) (isPythonPath : Bool)
    (oldCode newCode : Text) :
    match semanticMetricsForInput parser isPythonPath oldCode newCode with
    | .ok (metrics, _) => Consistent metrics ∧ 0 ≤ metrics.survivalRatio ∧ metrics.survivalRatio ≤ 1
    | .error e => isPythonPath = true ∧
        analyzePythonSurvival parser oldCode newCode = .error e ∧
        ((∃ message, e = .languageLoad message) ∨ ∃ message, e = .invalidUtf8 message) := by
  have hbounds : ∀ metrics, Consistent metrics →
      Consistent metrics ∧ 0 ≤ metrics.survivalRatio ∧ metrics.survivalRatio ≤ 1 :=
    fun metrics h => ⟨h, h.ratio_nonneg, h.ratio_le_one⟩
  have htext := hbounds _ (consistent_textSurvival oldCode newCode)
  simp only [semanticMetricsForInput]
  by_cases hempty : trim oldCode = [] ∧ trim newCode = []
  · rw [if_pos hempty]
    exact hbounds _ ⟨le_refl 0, le_refl 0, rfl⟩
  · rw [if_neg hempty]
    cases isPythonPath with
    | false => exact htext
    | true =>
      rw [if_pos rfl]
      cases hanalyze : analyzePythonSurvival parser oldCode newCode with
      | ok metrics => exact hbounds metrics (consistent_analyze hanalyze)
      | error e =>
        cases e with
        | languageLoad message => exact ⟨rfl, rfl, .inl ⟨message, rfl⟩⟩
        | invalidUtf8 message => exact ⟨rfl, rfl, .inr ⟨message, rfl⟩⟩
        | _ => exact htext

namespace Python.Sample

def children : List (Option String × SyntaxNode) → SyntaxChildren
  | [] => .nil
  | (field, child) :: rest => .cons field child (children rest)

def namedNode (kind text : String) (parts : List (Option String × SyntaxNode)) : SyntaxNode :=
  .node ⟨kind, true, false, false, .ok text.toList⟩ (children parts)

def token (kind : String) : SyntaxNode := .node ⟨kind, false, false, false, .ok kind.toList⟩ .nil

def assignment (name value : String) : SyntaxNode :=
  namedNode "expression_statement" (name ++ " = " ++ value)
    [(none, namedNode "assignment" (name ++ " = " ++ value)
      [(some "left", namedNode "identifier" name []), (none, token "="),
        (some "right", namedNode "integer" value [])])]

/-- `def f():` with the statements of its block. -/
def definition (text block : String) (statements : List SyntaxNode) : SyntaxNode :=
  namedNode "function_definition" text
    [(none, token "def"), (some "name", namedNode "identifier" "f" []),
      (some "parameters", namedNode "parameters" "()" [(none, token "("), (none, token ")")]),
      (none, token ":"), (some "body", namedNode "block" block (statements.map fun s => (none, s)))]

def plain : SyntaxNode :=
  namedNode "module" "def f():\n  x = 1\n  y = 2\n"
    [(none, definition "def f():\n  x = 1\n  y = 2" "x = 1\n  y = 2"
      [assignment "x" "1", assignment "y" "2"])]

def commented : SyntaxNode :=
  namedNode "module" "def f():\n  x = 1\n  y = 2\n"
    [(none, definition "def f():\n  x = 1\n  y = 2" "x = 1\n  y = 2"
      [assignment "x" "1", assignment "y" "2"]), (none, namedNode "comment" "# note" [])]

def shortened : SyntaxNode :=
  namedNode "module" "def f():\n  x = 1\n"
    [(none, definition "def f():\n  x = 1" "x = 1" [assignment "x" "1"])]

def plainCode : Text := "def f():\n  x = 1\n  y = 2\n".toList
def commentedCode : Text := "def f():\n  x = 1\n  y = 2\n# note\n".toList
def shortenedCode : Text := "def f():\n  x = 1\n".toList

def parser : PythonParser where
  maxSourceBytes := 1000000
  parse code :=
    if code = plainCode then .ok (plain, false)
    else if code = commentedCode then .ok (commented, false)
    else if code = shortenedCode then .ok (shortened, false)
    else .error (.parseTimedOut 2000000)

/-- The second assignment is deleted. -/
theorem pruned : Pruned plain shortened := by
  have hname : ∀ n : SyntaxNode, Pruned n n := pruned_refl
  have hblock : PrunedChildren
      (children ([assignment "x" "1", assignment "y" "2"].map fun s => (none, s)))
      (children ([assignment "x" "1"].map fun s => (none, s))) :=
    .keep (hname _) (fun _ => rfl) (.delete .nil)
  refine .node rfl (by decide) (.keep (.node rfl (by decide) ?_) (by decide) .nil)
  refine .keep (hname _) (fun _ => rfl) (.keep (hname _) (fun _ => rfl)
    (.keep (hname _) (fun _ => rfl) (.keep (hname _) (fun _ => rfl) (.keep ?_ (by decide) .nil))))
  exact .node rfl (by decide) hblock

end Python.Sample

/-- The survival of a parsed file compares the multisets of its functions, classes, variables and
imports: the ratio is 1 exactly when the new code has all the old names, each as often. -/
theorem python_survival_exact (parser : PythonParser) (oldCode newCode : Text)
    (metrics : SemanticMetrics)
    (h : analyzePythonSurvival parser oldCode newCode = .ok metrics) :
    ∃ oldRoot newRoot, parser.parse oldCode = .ok (oldRoot, false) ∧
      parser.parse newCode = .ok (newRoot, false) ∧
      metrics.oldTokenCount = (semanticBag oldRoot).card ∧
      metrics.newTokenCount = (semanticBag newRoot).card ∧
      metrics.matchedNodeCount = (semanticBag oldRoot ∩ semanticBag newRoot).card ∧
      metrics.oldNodeCount ≤ maxAstNamedNodes ∧ metrics.newNodeCount ≤ maxAstNamedNodes ∧
      (metrics.survivalRatio = 1 ↔ semanticBag oldRoot ≤ semanticBag newRoot) := by
  have hconsistent := consistent_analyze h
  obtain ⟨⟨oldRoot, oldError⟩, ⟨newRoot, newError⟩, old, new, hparse, hparse', hold, hnew, rfl⟩ :=
    analyze_eq_ok h
  obtain ⟨rfl, hcount, hbag, hkeyed⟩ := treeFeatures_eq_ok hold
  obtain ⟨rfl, hcount', hbag', hkeyed'⟩ := treeFeatures_eq_ok hnew
  obtain ⟨hoc, hnc, hm, -⟩ := survivalMetrics_eq hkeyed hkeyed'
  rw [hbag] at hoc hm
  rw [hbag'] at hnc hm
  refine ⟨oldRoot, newRoot, hparse, hparse', hoc, hnc, hm, countNamed_le hcount (Nat.zero_le _),
    countNamed_le hcount' (Nat.zero_le _), ?_⟩
  rw [hconsistent.ratio_eq_one, hm, hoc]
  constructor
  · intro hcard
    have heq := Multiset.eq_of_le_of_card_le (Multiset.inter_le_left) hcard.ge
    exact heq ▸ Multiset.inter_le_right
  · intro hle
    rw [le_antisymm Multiset.inter_le_left (Multiset.le_inter (le_refl _) hle)]

theorem python_survival_exact_sample :
    ∃ metrics, analyzePythonSurvival Sample.parser Sample.plainCode Sample.shortenedCode =
      .ok metrics ∧ metrics.oldNodeCount ≤ maxAstNamedNodes := by
  obtain ⟨metrics, h⟩ : ∃ metrics, analyzePythonSurvival Sample.parser Sample.plainCode
      Sample.shortenedCode = .ok metrics := ⟨_, rfl⟩
  obtain ⟨-, -, -, -, -, -, -, hnodes, -, -⟩ := python_survival_exact Sample.parser Sample.plainCode
    Sample.shortenedCode metrics h
  exact ⟨metrics, h, hnodes⟩

end Rygnal.Kernel
