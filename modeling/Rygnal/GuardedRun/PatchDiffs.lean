import Rygnal.Artifact.PatchArtifact
import Rygnal.GuardedRun.ChangedFiles
import Rygnal.Library.ShellWords

/-! # Patch generation

`patch_diff.py`: the patch of a workspace against its baseline, with the line counts and modes of
its files.
-/

namespace Rygnal.GuardedRun
open Rygnal.Core Rygnal.Core.PyException Rygnal.Library Rygnal.Library.PyText Rygnal.ChangeRisk
  Rygnal.Artifact

def patchDiffGenerationError (message : String) : PyException :=
  .runtime (.other "PatchDiffGenerationError") message

/-- `except ChangedFileDetectionError as exc: raise PatchDiffGenerationError(str(exc))`. -/
def asGenerationError (exc : PyException) : PyException :=
  if exc.isInstance [.other "ChangedFileDetectionError"] then patchDiffGenerationError exc.message
  else exc

/-! ## Line counts -/

structure LineStats where
  additions : Option ℤ
  deletions : Option ℤ
  binary : Bool
deriving DecidableEq, Repr

/-- `_parse_line_count`: Git prints decimal digits. -/
def parseLineCount (rawCount : Text) : Except PyException ℤ :=
  if rawCount ≠ [] ∧ rawCount.all Char.isDigit then
    .ok (rawCount.foldl (fun count digit => 10 * count + (digit.toNat - '0'.toNat)) 0 : ℕ)
  else .error (patchDiffGenerationError
    ("Invalid numstat line count: b'" ++ String.ofList rawCount ++ "'"))

def lineStats (additions deletions : Text) : Except PyException LineStats :=
  if additions = ['-'] ∨ deletions = ['-'] then .ok ⟨none, none, true⟩
  else do
    let added ← parseLineCount additions
    let deleted ← parseLineCount deletions
    return ⟨some added, some deleted, false⟩

/-- `header.split("\t", 2)`, when there are three parts. -/
def splitTabs (header : Text) : Option (Text × Text × Text) :=
  match splitOn '\t' header with
  | additions :: deletions :: path :: rest => some (additions, deletions, joinWith '\t' (path :: rest))
  | _ => none

/-- `parse_git_numstat` on the fields between the NUL bytes; a later path counts. -/
def parseGitNumstat : List String → Except PyException (List (String × LineStats))
  | [] => .ok []
  | header :: fields =>
    if header = "" then parseGitNumstat fields
    else match splitTabs header.toList with
      | none => .error (patchDiffGenerationError ("Invalid numstat record: b'" ++ header ++ "'"))
      | some (additions, deletions, []) =>
        match fields with
        | oldField :: newField :: rest => do
          let _ ← normalizeRepoRelativePath oldField
          let path ← normalizeRepoRelativePath newField
          let stats ← lineStats additions deletions
          let statsByPath ← parseGitNumstat rest
          return (path, stats) :: statsByPath
        | _ => .error (patchDiffGenerationError "Rename numstat record missing paths.")
      | some (additions, deletions, pathRaw) => do
        let path ← normalizeRepoRelativePath (String.ofList pathRaw)
        let stats ← lineStats additions deletions
        let statsByPath ← parseGitNumstat fields
        return (path, stats) :: statsByPath

/-! ## Modes -/

structure PatchModeMetadata where
  oldMode : Option String
  newMode : Option String
  modeChanged : Bool
deriving DecidableEq, Repr

/-- `_strip_git_patch_prefix`. -/
def stripGitPatchPrefix (path : Text) : Except PyException (Option String) :=
  if path = "/dev/null".toList then .ok none
  else
    let path := if startsWith path "a/" || startsWith path "b/" then path.drop 2 else path
    (normalizeRepoRelativePath (String.ofList path)).map some

/-- `_parse_diff_git_paths`: the new path. -/
def parseDiffGitPaths (line : Text) : Except PyException (Option String) :=
  match ShellWords.split line with
  | .ok (_ :: _ :: old :: new :: _) => do
    let _ ← stripGitPatchPrefix old
    stripGitPatchPrefix new
  | _ => .error (patchDiffGenerationError
      ("Invalid Git patch header: '" ++ String.ofList line ++ "'"))

structure ModeScan where
  currentPath : Option String
  oldMode : Option String
  newMode : Option String
  modesByPath : List (String × PatchModeMetadata)

/-- Both modes are there and not the same. -/
def modesDiffer (oldMode newMode : Option String) : Bool :=
  oldMode.any (· ≠ "") && newMode.any (· ≠ "") && oldMode ≠ newMode

/-- `flush_current_file`. -/
def ModeScan.flush (scan : ModeScan) : List (String × PatchModeMetadata) :=
  match scan.currentPath with
  | none => scan.modesByPath
  | some path =>
    if scan.oldMode = none ∧ scan.newMode = none then scan.modesByPath
    else scan.modesByPath ++
      [(path, ⟨scan.oldMode, scan.newMode, modesDiffer scan.oldMode scan.newMode⟩)]

def ModeScan.step (scan : ModeScan) (line : Text) : Except PyException ModeScan :=
  let modeAfter (start : String) : Option String :=
    some (String.ofList (strip (line.drop start.length)))
  if startsWith line "diff --git " then do
    let newPath ← parseDiffGitPaths line
    return ⟨newPath, none, none, scan.flush⟩
  else if scan.currentPath = none then .ok scan
  else if startsWith line "new file mode " then
    .ok { scan with newMode := modeAfter "new file mode " }
  else if startsWith line "deleted file mode " then
    .ok { scan with oldMode := modeAfter "deleted file mode " }
  else if startsWith line "old mode " then .ok { scan with oldMode := modeAfter "old mode " }
  else if startsWith line "new mode " then .ok { scan with newMode := modeAfter "new mode " }
  else .ok scan

/-- `parse_git_patch_modes`; a later path counts. -/
def parseGitPatchModes (rawPatch : List UInt8) :
    Except PyException (List (String × PatchModeMetadata)) := do
  let scan ← (splitlines (Utf8.visible (Utf8.decode rawPatch))).foldlM ModeScan.step
    ⟨none, none, none, []⟩
  return scan.flush

/-! ## The patch -/

/-- `first or second` for optional texts. -/
def orText (first second : Option String) : Option String := first.filter (· ≠ "") <|> second

/-- `_build_patch_file_diff`. -/
def buildPatchFileDiff (statsByPath : List (String × LineStats))
    (modeByPath : List (String × PatchModeMetadata)) (changedFile : ChangedFile) : PatchFileDiff :=
  let stats := (statsByPath.reverse.lookup changedFile.path).getD ⟨some 0, some 0, false⟩
  let modes := (modeByPath.reverse.lookup changedFile.path).getD ⟨none, none, false⟩
  let oldMode := orText changedFile.oldMode modes.oldMode
  let newMode := orText changedFile.newMode modes.newMode
  { path := changedFile.path
    kind := changedFile.kind
    additions := stats.additions
    deletions := stats.deletions
    binary := stats.binary
    oldPath := changedFile.oldPath
    oldMode := oldMode
    newMode := newMode
    modeChanged := changedFile.modeChanged || modes.modeChanged || modesDiffer oldMode newMode }

section Generation
variable [UnicodeTables] [BytesDigest] {Entry : Type}

omit [UnicodeTables] [BytesDigest] in
/-- `_generate_diff_outputs`: untracked files are added to a copy of the index by their reported
paths. -/
def generateDiffOutputs (git : GitDiff Entry) (workspace : GitWorkspace Entry)
    (baseline : String) (report : ChangedFileReport) :
    Except PyException (List UInt8 × List String) := do
  let untrackedPaths :=
    (report.files.filter fun file => file.kind = .untracked).map ChangedFile.path
  let tree ← git.commitTree baseline
  raiseIf (untrackedPaths.any (· ∉ workspace.work.paths))
    (patchDiffGenerationError "Git command failed: git add --intent-to-add")
  let known := workspace.work.restrict fun path =>
    path ∈ workspace.index || path ∈ untrackedPaths
  return (git.patch tree known, git.numstat tree known)

omit [UnicodeTables] in
/-- `generate_patch_diff_from_report`. -/
def generatePatchDiffFromReport (git : GitDiff Entry) (workspace : GitWorkspace Entry)
    (report : ChangedFileReport) : Except PyException PatchDiff := do
  raiseIf (!workspace.isDirectory)
    (patchDiffGenerationError ("Guarded workspace does not exist: " ++ workspace.path))
  let baseline ← (normalizeBaselineCommitSha report.baselineCommitSha).mapError asGenerationError
  let (patchBytes, numstat) ← generateDiffOutputs git workspace baseline report
  let statsByPath ← parseGitNumstat numstat
  let modeByPath ← parseGitPatchModes patchBytes
  return {
    workspacePath := workspace.path
    baselineCommitSha := baseline
    patch := Utf8.decode patchBytes
    patchSha256 := BytesDigest.sha256 patchBytes
    patchSizeBytes := patchBytes.length
    files := report.files.map (buildPatchFileDiff statsByPath modeByPath)
    ignoredFiles := report.ignoredFiles }

/-- `generate_patch_diff`. -/
def generatePatchDiff (git : GitDiff Entry) (rules : GuardedIgnoreRules)
    (workspace : GitWorkspace Entry) (baselineCommitSha : String) :
    Except PyException PatchDiff := do
  let report ← (detectChangedFiles git rules workspace baselineCommitSha).mapError asGenerationError
  generatePatchDiffFromReport git workspace report

end Generation

end Rygnal.GuardedRun
