import Mathlib.Data.List.Sort
import Rygnal.GuardedRun.IgnoreRules

/-! # The changed files of a workspace

`changed_files.py`: the records of what changed in a workspace against its baseline, read from the
raw output of `git diff` and from the list of untracked files.
-/

namespace Rygnal.GuardedRun
open Rygnal.Core Rygnal.Core.PyException Rygnal.Library Rygnal.Library.PyText Rygnal.ChangeRisk

/-! ## Git -/

/-- The files of a commit or of a working tree, in the order of their paths. -/
structure Tree (Entry : Type) where
  files : List (String × Entry)
  ordered : files.Pairwise fun f g => f.1 < g.1

namespace Tree
variable {Entry : Type}

def paths (tree : Tree Entry) : List String := tree.files.map Prod.fst

def restrict (tree : Tree Entry) (kept : String → Bool) : Tree Entry :=
  ⟨tree.files.filter fun file => kept file.1, tree.ordered.filter _⟩

@[simp] theorem mem_paths_restrict {tree : Tree Entry} {kept : String → Bool} {path : String} :
    path ∈ (tree.restrict kept).paths ↔ path ∈ tree.paths ∧ kept path = true := by
  simp only [paths, restrict, List.mem_map, List.mem_filter]
  constructor
  · rintro ⟨file, ⟨hmem, hkept⟩, rfl⟩
    exact ⟨⟨file, hmem, rfl⟩, hkept⟩
  · rintro ⟨⟨file, hmem, rfl⟩, hkept⟩
    exact ⟨file, ⟨hmem, hkept⟩, rfl⟩

theorem restrict_congr {tree : Tree Entry} {kept kept' : String → Bool}
    (h : ∀ path ∈ tree.paths, kept path = kept' path) :
    tree.restrict kept = tree.restrict kept' := by
  simp only [restrict, mk.injEq]
  apply List.filter_congr
  intro file hfile
  exact h file.1 (List.mem_map_of_mem hfile)

theorem restrict_eq_self {tree : Tree Entry} {kept : String → Bool}
    (h : ∀ path ∈ tree.paths, kept path = true) : tree.restrict kept = tree := by
  obtain ⟨files, ordered⟩ := tree
  simp only [restrict, mk.injEq]
  apply List.filter_eq_self.mpr
  intro file hfile
  exact h file.1 (List.mem_map_of_mem hfile)

end Tree

/-- A directory with a Git index and a working tree, whose ignored files are left out. -/
structure GitWorkspace (Entry : Type) where
  path : String
  isDirectory : Bool
  index : List String
  work : Tree Entry

namespace GitWorkspace
variable {Entry : Type}

/-- The files of the working tree that the index knows. -/
def tracked (workspace : GitWorkspace Entry) : Tree Entry :=
  workspace.work.restrict (· ∈ workspace.index)

/-- `git ls-files --others`. -/
def untracked (workspace : GitWorkspace Entry) : List String :=
  (workspace.work.restrict (· ∉ workspace.index)).paths

end GitWorkspace

/-- A mode or an object name. -/
structure RawWord where
  text : Text
  nonempty : text ≠ []
  plain : ∀ c ∈ text, isSpace c = false

inductive RawChange where
  | added (path : String)
  | deleted (path : String)
  | modified (path : String)
  | typeChanged (path : String)
  | renamed (similarity : List (Fin 10)) (oldPath path : String)

def RawChange.status : RawChange → Text
  | .added _ => ['A']
  | .deleted _ => ['D']
  | .modified _ => ['M']
  | .typeChanged _ => ['T']
  | .renamed similarity _ _ => 'R' :: similarity.map fun digit => Nat.digitChar digit.val

def RawChange.paths : RawChange → List String
  | .added path => [path]
  | .deleted path => [path]
  | .modified path => [path]
  | .typeChanged path => [path]
  | .renamed _ oldPath path => [oldPath, path]

/-- One record of `git diff --raw -z`. -/
structure RawRecord where
  oldMode : RawWord
  newMode : RawWord
  oldObject : RawWord
  newObject : RawWord
  change : RawChange

def RawRecord.header (record : RawRecord) : Text :=
  (':' :: record.oldMode.text) ++ ' ' :: (record.newMode.text ++ ' ' :: (record.oldObject.text ++
    ' ' :: (record.newObject.text ++ ' ' :: record.change.status)))

/-- The fields between the NUL bytes. -/
def RawRecord.fields (record : RawRecord) : List String :=
  String.ofList record.header :: record.change.paths

/-- Git on the trees of a repository: its answers depend on the baseline and on the files that the
index knows. -/
structure GitDiff (Entry : Type) where
  commitTree : String → Except PyException (Tree Entry)
  raw : Tree Entry → Tree Entry → List RawRecord
  patch : Tree Entry → Tree Entry → List UInt8
  numstat : Tree Entry → Tree Entry → List String
  apply : List UInt8 → Tree Entry → Option (Tree Entry)

/-! ## Records -/

structure ChangedFile where
  path : String
  kind : ChangedFileKind
  oldPath : Option String
  oldMode : Option String
  newMode : Option String
  modeChanged : Bool
deriving DecidableEq, Repr

structure ChangedFileReport where
  workspacePath : String
  baselineCommitSha : String
  files : List ChangedFile
  ignoredFiles : List String
deriving DecidableEq, Repr

def detectionError (message : String) : PyException :=
  .runtime (.other "ChangedFileDetectionError") message

/-- `_kind_from_raw_status`. -/
def kindFromRawStatus (statusCode : Char) : Except PyException ChangedFileKind :=
  if statusCode = 'A' then .ok .added
  else if statusCode = 'D' then .ok .deleted
  else if statusCode = 'T' then .ok .modeChanged
  else if statusCode = 'M' then .ok .modified
  else .error (detectionError ("Unsupported Git raw status: " ++ String.ofList [statusCode]))

structure RawHeader where
  oldMode : String
  newMode : String
  statusCode : Char
deriving DecidableEq, Repr

def RawHeader.modeChanged (header : RawHeader) : Bool := header.oldMode ≠ header.newMode

def readRawHeader (header : String) : Except PyException RawHeader :=
  if startsWith header.toList ":" then
    match split header.toList with
    | oldMode :: newMode :: _ :: _ :: status :: _ =>
      .ok ⟨String.ofList (oldMode.drop 1), String.ofList newMode, status.headD ' '⟩
    | _ => .error (detectionError ("Incomplete raw diff header: '" ++ header ++ "'"))
  else .error (detectionError ("Invalid raw diff header: '" ++ header ++ "'"))

/-- `parse_git_raw_diff` on the fields of the output. -/
def parseGitRawDiff : List String → Except PyException (List ChangedFile)
  | [] => .ok []
  | field :: fields => do
    let header ← readRawHeader field
    if header.statusCode = 'R' then
      match fields with
      | oldField :: newField :: rest => do
        let oldPath ← normalizeRepoRelativePath oldField
        let newPath ← normalizeRepoRelativePath newField
        let changedFiles ← parseGitRawDiff rest
        return ⟨newPath, .renamed, some oldPath, some header.oldMode, some header.newMode,
          header.modeChanged⟩ :: changedFiles
      | _ => .error (detectionError "Rename record missing path fields.")
    else
      match fields with
      | pathField :: rest => do
        let path ← normalizeRepoRelativePath pathField
        let kind ← kindFromRawStatus header.statusCode
        let changedFiles ← parseGitRawDiff rest
        return ⟨path, kind, none, some header.oldMode, some header.newMode,
          header.modeChanged⟩ :: changedFiles
      | [] => .error (detectionError "Raw diff record missing path field.")

section Detection
variable [UnicodeTables]

/-- `_classify_untracked_files`: the changed files and the ignored paths. -/
def classifyUntrackedFiles (rules : GuardedIgnoreRules) :
    List String → Except PyException (List ChangedFile × List String)
  | [] => .ok ([], [])
  | field :: fields => do
    let path ← normalizeRepoRelativePath field
    let decision ← rules.decideUntrackedPath path
    let (changedFiles, ignoredFiles) ← classifyUntrackedFiles rules fields
    if decision.ignored then return (changedFiles, decision.path :: ignoredFiles)
    return (⟨decision.path, .untracked, none, none, none, false⟩ :: changedFiles, ignoredFiles)

/-- `normalize_baseline_commit_sha`. -/
def normalizeBaselineCommitSha (baselineCommitSha : String) : Except PyException String :=
  let baseline := strip baselineCommitSha.toList
  if baseline.length = 40 ∧ ∀ c ∈ baseline, c ∈ "0123456789abcdefABCDEF".toList then
    .ok (String.ofList (baseline.map Char.toLower))
  else .error (detectionError "Baseline commit must be a full 40-character SHA.")

/-- The order of `_changed_file_sort_key`. -/
def ChangedFile.precedes (file other : ChangedFile) : Bool :=
  file.path < other.path || (file.path = other.path && (file.kind.value < other.kind.value ||
    (file.kind = other.kind && file.oldPath.getD "" ≤ other.oldPath.getD "")))

/-- `detect_changed_files`. -/
def detectChangedFiles {Entry : Type} (git : GitDiff Entry) (rules : GuardedIgnoreRules)
    (workspace : GitWorkspace Entry) (baselineCommitSha : String) :
    Except PyException ChangedFileReport := do
  let baseline ← normalizeBaselineCommitSha baselineCommitSha
  raiseIf (!workspace.isDirectory)
    (detectionError ("Guarded workspace does not exist: " ++ workspace.path))
  let tree ← git.commitTree baseline
  let trackedFiles ← parseGitRawDiff
    ((git.raw tree workspace.tracked).flatMap RawRecord.fields)
  let (untrackedFiles, ignoredFiles) ← classifyUntrackedFiles rules workspace.untracked
  return ⟨workspace.path, baseline,
    (trackedFiles ++ untrackedFiles).insertionSort fun f g => f.precedes g = true,
    ignoredFiles.insertionSort (· ≤ ·)⟩

end Detection

end Rygnal.GuardedRun
