import Mathlib.Data.List.Dedup
import Mathlib.Data.List.Sort
import Mathlib.Data.String.Basic
import Rygnal.ChangeRisk.HeaderWords
import Rygnal.GuardedRun.RecordRoundTrip

/-! # Path forms of a patch

`path_safety.py` without a target repository: the paths of a patch and of its metadata have safe
forms, and the text of the patch names no path that the metadata does not. The text is read line
by line, so that a hunk line can look like a file header.
-/

namespace Rygnal.GuardedRun
open Rygnal.Core Rygnal.Library Rygnal.Library.PyText Rygnal.ChangeRisk Rygnal.ChangeRisk.GitPatch

structure PathSafetyViolation where
  code : String
  path : String
  reason : String
deriving DecidableEq, Repr

structure SymlinkTarget where
  path : String
  target : String
deriving DecidableEq, Repr

/-- The report of a check of path forms, which has no target repository. -/
structure PathFormReport where
  patchSha256 : String
  baselineCommitSha : String
  checkedPaths : List String
  symlinkTargets : List SymlinkTarget
  violations : List PathSafetyViolation
deriving DecidableEq, Repr

/-! ## The paths of a patch text -/

/-- `_strip_git_prefix`. -/
def stripGitPrefix (path : Text) : Option Text :=
  if path = "/dev/null".toList then none
  else if startsWith path "a/" || startsWith path "b/" then some (path.drop 2)
  else some path

/-- `_paths_from_diff_git_header`. -/
def pathsFromDiffGitHeader (line : Text) : List Text :=
  match ShellWords.split line with
  | .ok (_ :: _ :: old :: new :: _) => [old, new].filterMap stripGitPrefix
  | _ => [line]

/-- `_path_from_file_header`. -/
def pathFromFileHeader (line : Text) : Option Text :=
  match ShellWords.split line with
  | .error _ => some (strip (line.drop 4))
  | .ok (_ :: word :: _) => stripGitPrefix word
  | .ok _ => none

/-- The paths of one line, in `_patch_paths_from_text`. -/
def linePaths (line : Text) : List Text :=
  if startsWith line "diff --git " then pathsFromDiffGitHeader line
  else if startsWith line "--- " || startsWith line "+++ " then (pathFromFileHeader line).toList
  else if startsWith line "rename from " then [strip (line.drop "rename from ".length)]
  else if startsWith line "rename to " then [strip (line.drop "rename to ".length)]
  else []

/-- `_patch_paths_from_text`. -/
def patchPathsFromText (patch : Text) : List String :=
  ((splitlines patch).flatMap linePaths).map String.ofList

/-- `_metadata_paths`. -/
def metadataPaths (patchDiff : PatchDiff) : List String :=
  patchDiff.files.flatMap fun file => file.path :: (file.oldPath.filter (· ≠ "")).toList

/-! ## Forms of one path -/

/-- `PureWindowsPath(path).drive or PureWindowsPath(path).is_absolute()`: a drive letter with its
colon, or two separators. -/
def windowsRooted (path : Text) : Bool :=
  path[1]? = some ':' ||
    (path.take 2).length = 2 && (path.take 2).all fun c => c = '/' || c = '\\'

/-- `path.startswith(("/", "\\", "//", "\\\\"))`. -/
def rooted (path : Text) : Bool := path.head?.any fun c => c = '/' || c = '\\'

/-- `PurePosixPath(path).parts`, where a root is a part. -/
def posixParts (path : Text) : List Text :=
  if PosixPath.isAbsolute path then ['/'] :: PosixPath.parts path else PosixPath.parts path

/-- `_path_violations` without a target repository. -/
def pathViolations (path : String) : List PathSafetyViolation :=
  let raw := strip path.toList
  let pathParts := posixParts (replaceChar '\\' '/' raw)
  if raw = [] then [⟨"empty-path", path, "Patch path must not be empty."⟩]
  else
    (if '\x00' ∈ raw then [⟨"null-byte-path", path, "Patch path must not contain null bytes."⟩]
      else []) ++
    (if rooted raw then [⟨"rooted-path", path,
        "Patch path must be repository-relative, not filesystem-rooted."⟩] else []) ++
    (if windowsRooted raw then [⟨"windows-rooted-path", path,
        "Patch path must not use a Windows drive or UNC root."⟩] else []) ++
    (if ['.', '.'] ∈ pathParts then [⟨"parent-directory-path", path,
        "Patch path must not contain parent-directory traversal."⟩] else []) ++
    (if pathParts = [] then [⟨"empty-normalized-path", path,
        "Patch path must not normalize to an empty path."⟩] else [])

/-! ## Targets of symbolic links -/

/-- The lines of `_added_lines_by_path`, in order, each under the path it belongs to. -/
def addedLinesByPath : Option Text → List Text → List (Text × Option Text)
  | _, [] => []
  | current, line :: lines =>
    if startsWith line "diff --git " then addedLinesByPath none lines
    else if startsWith line "+++ " then
      match pathFromFileHeader line with
      | none => addedLinesByPath none lines
      | some path => (path, none) :: addedLinesByPath (some path) lines
    else match current with
      | none => addedLinesByPath none lines
      | some path =>
        if startsWith line "+" && !startsWith line "+++" then
          (path, some (line.drop 1)) :: addedLinesByPath current lines
        else addedLinesByPath current lines

/-- `_symlink_targets_from_patch`: a link without exactly one added line has an empty target. -/
def symlinkTargetsFromPatch (patchDiff : PatchDiff) : List SymlinkTarget :=
  let added := addedLinesByPath none (splitlines (Utf8.visible patchDiff.patch))
  (patchDiff.files.filter fun file => file.newMode = some "120000").map fun file =>
    match added.filterMap fun entry => if entry.1 = file.path.toList then entry.2 else none with
    | [line] => ⟨file.path, String.ofList line⟩
    | _ => ⟨file.path, ""⟩

/-- The walk of `_relative_target_escapes_repo`, the parts so far last first. -/
def escapesFrom : List Text → List Text → Bool
  | _, [] => false
  | above, part :: rest =>
    if part = ['.', '.'] then
      match above with
      | [] => true
      | _ :: above => escapesFrom above rest
    else escapesFrom (part :: above) rest

/-- `_relative_target_escapes_repo`. -/
def relativeTargetEscapesRepo (linkPath target : Text) : Bool :=
  let linkParts := posixParts linkPath
  let parent := if linkParts = [['/']] then linkParts else linkParts.dropLast
  escapesFrom [] (parent ++ posixParts target)

/-- `_symlink_target_violations` without a target repository. -/
def symlinkTargetViolations (link : SymlinkTarget) : List PathSafetyViolation :=
  let target := strip link.target.toList
  if target = [] then [⟨"symlink-target-missing", link.path,
    "Symlink target could not be determined from the patch."⟩]
  else
    (if '\x00' ∈ target then [⟨"symlink-target-null-byte", link.path,
        "Symlink target must not contain null bytes."⟩] else []) ++
    (if rooted target then [⟨"symlink-target-rooted", link.path,
        "Symlink target must be repository-relative."⟩] else []) ++
    (if windowsRooted target then [⟨"symlink-target-windows-rooted", link.path,
        "Symlink target must not use a Windows drive or UNC root."⟩] else []) ++
    (if relativeTargetEscapesRepo link.path.toList (replaceChar '\\' '/' target) then
      [⟨"symlink-target-outside-repo", link.path,
        "Symlink target escapes the trusted repository boundary."⟩] else [])

/-! ## The report -/

/-- `_dedupe_violations`. -/
def dedupeViolations : List PathSafetyViolation → List PathSafetyViolation
  | [] => []
  | violation :: violations =>
    violation :: (dedupeViolations violations).filter fun other =>
      (other.code, other.path) ≠ (violation.code, violation.path)

/-- `sorted` of a set of paths. -/
def sortedPaths (paths : List String) : List String := paths.dedup.insertionSort (· ≤ ·)

/-- `validate_patch_path_forms`. -/
def validatePatchPathForms (patchDiff : PatchDiff) : PathFormReport :=
  let metadata := metadataPaths patchDiff
  let patchPaths := patchPathsFromText (Utf8.visible patchDiff.patch)
  let symlinkTargets := symlinkTargetsFromPatch patchDiff
  let allPaths := sortedPaths (metadata ++ patchPaths)
  { patchSha256 := patchDiff.patchSha256
    baselineCommitSha := patchDiff.baselineCommitSha
    checkedPaths := allPaths
    symlinkTargets := symlinkTargets
    violations := dedupeViolations (allPaths.flatMap pathViolations ++
      symlinkTargets.flatMap symlinkTargetViolations ++
      (sortedPaths (patchPaths.filter (· ∉ metadata))).map fun path =>
        ⟨"patch-path-metadata-mismatch", path,
          "Raw patch references a path missing from patch metadata."⟩) }

/-- No violations are reported exactly when every path has a safe form, every link a safe target,
and the patch names no other path than the metadata. -/
theorem violations_eq_nil_iff (patchDiff : PatchDiff) :
    (validatePatchPathForms patchDiff).violations = [] ↔
      (∀ path ∈ metadataPaths patchDiff, pathViolations path = []) ∧
      (∀ link ∈ symlinkTargetsFromPatch patchDiff, symlinkTargetViolations link = []) ∧
      ∀ path ∈ patchPathsFromText (Utf8.visible patchDiff.patch), path ∈ metadataPaths patchDiff := by
  have hdedupe : ∀ violations, dedupeViolations violations = [] ↔ violations = [] := by
    intro violations
    cases violations <;> simp [dedupeViolations]
  have hsorted : ∀ (paths : List String) path, path ∈ sortedPaths paths ↔ path ∈ paths := by
    intro paths path
    rw [sortedPaths, List.mem_insertionSort, List.mem_dedup]
  have hnone : ∀ paths : List String, sortedPaths paths = [] ↔ paths = [] := by
    intro paths
    rw [List.eq_nil_iff_forall_not_mem, List.eq_nil_iff_forall_not_mem]
    exact forall_congr' fun path => not_congr (hsorted paths path)
  simp only [validatePatchPathForms, hdedupe, List.append_eq_nil_iff, List.flatMap_eq_nil_iff,
    List.map_eq_nil_iff, hnone, List.filter_eq_nil_iff, decide_eq_true_eq, not_not, hsorted,
    List.mem_append]
  constructor
  · rintro ⟨⟨hforms, hlinks⟩, hknown⟩
    exact ⟨fun path hpath => hforms path (.inl hpath), hlinks, hknown⟩
  · rintro ⟨hforms, hlinks, hknown⟩
    refine ⟨⟨fun path hpath => ?_, hlinks⟩, hknown⟩
    exact hforms path (hpath.elim id (hknown path))

/-! ## Patches of safe names -/

/-- A repository-relative name that normalization keeps and that has a safe form. -/
structure SafeName (name : Text) : Prop where
  normal : NormalPath (String.ofList name)
  safe : pathViolations (String.ofList name) = []

/-- A generated patch of changed files with safe names and without symbolic links: its text is the
rendered one, and its metadata has the names of the files, and the old names of renamed ones. -/
structure GeneratedPatch (files : List FileDiff) (patchDiff : PatchDiff) : Prop where
  rendered : Utf8.visible patchDiff.patch = renderPatch files
  names : ∀ path, path ∈ metadataPaths patchDiff ↔
    ∃ file ∈ files, path = String.ofList file.path ∨ path = String.ofList file.oldPath
  safe : ∀ file ∈ files, SafeName file.path ∧ SafeName file.oldPath
  noSymlinks : ∀ file ∈ patchDiff.files, file.newMode ≠ some "120000"

/-- The names are read back as they are: by the shell, and for a renamed file by the rename lines
too. -/
structure NamesReadBack (files : List FileDiff) : Prop where
  plain : ∀ file ∈ files, ShellPlain file.path ∧ ShellPlain file.oldPath
  renamed : ∀ file ∈ files, ∀ similarity old, file.change = .renamed similarity old →
    '"' ∉ file.path ∧ '"' ∉ old

/-- A line that does not look like a line with a path. -/
abbrev NoHeader (line : Text) : Prop :=
  ∀ start ∈ ["diff --git ", "--- ", "+++ ", "rename from ", "rename to "],
    startsWith line start = false

/-- No hunk line, and nothing that `splitlines` cuts off a hunk line or a hunk heading, looks like
a line with a path. -/
structure ContentHarmless (files : List FileDiff) : Prop where
  headers : ∀ file ∈ files, ∀ hunk ∈ file.hunks, ∀ piece ∈ (pieces hunk.header).tail, NoHeader piece
  lines : ∀ file ∈ files, ∀ hunk ∈ file.hunks, ∀ line ∈ hunk.lines,
    ∀ piece ∈ pieces (line.kind.sign :: line.text), NoHeader piece

/-- No content line counts as a path. -/
def ContentUnread (files : List FileDiff) : Prop :=
  ∀ file ∈ files, ∀ hunk ∈ file.hunks, ∀ line ∈ hunk.lines,
    ∀ piece ∈ pieces (line.kind.sign :: line.text), linePaths piece = []

theorem linePaths_of_noHeader {line : Text} (h : NoHeader line) : linePaths line = [] := by
  rw [linePaths, h "diff --git " (by simp), h "--- " (by simp), h "+++ " (by simp),
    h "rename from " (by simp), h "rename to " (by simp)]
  rfl

theorem noHeader_cons {c : Char} (h : c ∉ ['d', '-', '+', 'r']) (line : Text) :
    NoHeader (c :: line) := by
  simp only [List.mem_cons, List.not_mem_nil, or_false, not_or] at h
  intro start hstart
  simp only [List.mem_cons, List.not_mem_nil, or_false] at hstart
  rcases hstart with rfl | rfl | rfl | rfl | rfl
  · exact startsWith_cons_of_ne rfl h.1 line
  · exact startsWith_cons_of_ne rfl h.2.1 line
  · exact startsWith_cons_of_ne rfl h.2.2.1 line
  · exact startsWith_cons_of_ne rfl h.2.2.2 line
  · exact startsWith_cons_of_ne rfl h.2.2.2 line

theorem noHeader_of_no_space {line : Text} (h : ' ' ∉ line) : NoHeader line := by
  intro start hstart
  rw [Bool.eq_false_iff]
  intro hprefix
  have hspace : ' ' ∈ start.toList := by
    simp only [List.mem_cons, List.not_mem_nil, or_false] at hstart
    rcases hstart with rfl | rfl | rfl | rfl | rfl <;> decide
  exact h ((List.isPrefixOf_iff_prefix.mp hprefix).subset hspace)

/-! ## Bodies -/

theorem unread_append {lines lines' : List Text} (h : lines.flatMap linePaths = [])
    (h' : lines'.flatMap linePaths = []) : (lines ++ lines').flatMap linePaths = [] := by
  rw [List.flatMap_append, h, h', List.append_nil]

theorem unread_of_noHeader {lines : List Text} (h : ∀ line ∈ lines, NoHeader line) :
    lines.flatMap linePaths = [] :=
  List.flatMap_eq_nil_iff.mpr fun line hline => linePaths_of_noHeader (h line hline)

theorem unread_hunkLine {line : HunkLine}
    (h : ∀ piece ∈ pieces (line.kind.sign :: line.text), NoHeader piece) :
    (line.render.flatMap pieces).flatMap linePaths = [] := by
  rw [HunkLine.render, List.flatMap_cons]
  apply unread_append
  · exact unread_of_noHeader h
  · split
    · rfl
    · decide

theorem unread_hunk {hunk : Hunk} (hheader : ∀ piece ∈ (pieces hunk.header).tail, NoHeader piece)
    (hlines : ∀ line ∈ hunk.lines, ∀ piece ∈ pieces (line.kind.sign :: line.text), NoHeader piece) :
    (hunk.render.flatMap pieces).flatMap linePaths = [] := by
  have hat : ∃ rest, hunk.header = '@' :: rest := by
    rw [Hunk.header]
    simp only [String.toList_append, List.append_assoc]
    exact ⟨_, rfl⟩
  obtain ⟨rest, hrest⟩ := hat
  obtain ⟨first, others, -, hpieces⟩ := pieces_cons (by decide : isLineBreak '@' = false) rest
  rw [hrest, hpieces] at hheader
  rw [Hunk.render, List.flatMap_cons, hrest, List.flatMap_assoc]
  apply unread_append
  · rw [hpieces]
    apply unread_of_noHeader
    intro piece hpiece
    rcases List.mem_cons.mp hpiece with rfl | hpiece
    · exact noHeader_cons (by decide) first
    · exact hheader piece hpiece
  · rw [List.flatMap_assoc]
    exact List.flatMap_eq_nil_iff.mpr fun line hline => unread_hunkLine (hlines line hline)

theorem unread_binaryHunk (hunk : BinaryHunk) :
    (hunk.render.flatMap pieces).flatMap linePaths = [] := by
  rw [List.flatMap_assoc]
  apply List.flatMap_eq_nil_iff.mpr
  intro line hline
  rw [pieces_of_forall (quiet_binaryHunk hunk line hline).unbroken, List.flatMap_singleton]
  apply linePaths_of_noHeader
  rcases List.mem_append.mp hline with hline | hline
  · rcases List.mem_cons.mp hline with rfl | hline
    · cases hunk.method with
      | true => exact noHeader_cons (by decide) _
      | false =>
        intro start hstart
        simp only [List.mem_cons, List.not_mem_nil, or_false] at hstart
        rcases hstart with rfl | rfl | rfl | rfl | rfl <;> simp [startsWith, List.isPrefixOf]
    · obtain ⟨data, -, rfl⟩ := List.mem_map.mp hline
      exact noHeader_of_no_space (space_notMem_dataLine data)
  · rw [List.mem_singleton.mp hline]
    exact noHeader_of_no_space List.not_mem_nil

/-- The lines with the labels of a text diff. -/
def labelLines (file : FileDiff) : List Text :=
  match file.body with
  | .text (_ :: _) => ["--- ".toList ++ file.oldLabel, "+++ ".toList ++ file.newLabel]
  | _ => []

theorem unbroken_labelLines (file : FileDiff) : ∀ line ∈ labelLines file, Unbroken line := by
  have hold : Unbroken file.oldLabel := by
    unfold FileDiff.oldLabel
    split
    · decide
    · exact unbroken_label (by decide) _
  have hnew : Unbroken file.newLabel := by
    unfold FileDiff.newLabel
    split
    · decide
    · exact unbroken_label (by decide) _
  unfold labelLines
  split
  · intro line hline
    rcases List.mem_pair.mp hline with rfl | rfl
    · exact (by decide : Unbroken "--- ".toList).append hold
    · exact (by decide : Unbroken "+++ ".toList).append hnew
  · exact fun _ hline => absurd hline List.not_mem_nil

/-- The body of a file names what its labels name. -/
theorem linePaths_body {file : FileDiff}
    (hheaders : ∀ hunk ∈ file.hunks, ∀ piece ∈ (pieces hunk.header).tail, NoHeader piece)
    (hlines : ∀ hunk ∈ file.hunks, ∀ line ∈ hunk.lines,
      ∀ piece ∈ pieces (line.kind.sign :: line.text), NoHeader piece) :
    (file.bodyLines.flatMap pieces).flatMap linePaths = (labelLines file).flatMap linePaths := by
  have hlabels := flatMap_pieces_of_unbroken (unbroken_labelLines file)
  have hhunks : ((file.hunks.flatMap Hunk.render).flatMap pieces).flatMap linePaths = [] := by
    have hassoc : (file.hunks.flatMap Hunk.render).flatMap pieces =
        file.hunks.flatMap fun hunk => hunk.render.flatMap pieces := List.flatMap_assoc
    rw [hassoc, List.flatMap_assoc]
    exact List.flatMap_eq_nil_iff.mpr fun hunk hhunk =>
      unread_hunk (hheaders hunk hhunk) (hlines hunk hhunk)
  cases hbody : file.body with
  | text hunks =>
    have hlines : file.bodyLines = labelLines file ++ file.hunks.flatMap Hunk.render := by
      unfold FileDiff.bodyLines labelLines FileDiff.hunks
      rw [hbody]
      cases hunks <;> rfl
    rw [hlines, List.flatMap_append, List.flatMap_append, hhunks, hlabels, List.append_nil]
  | binary forward reverse =>
    have hlines : file.bodyLines =
        ["GIT binary patch".toList] ++ (forward.render ++ reverse.render) := by
      unfold FileDiff.bodyLines
      rw [hbody]
      exact List.cons_append
    have hnone : labelLines file = [] := by
      unfold labelLines
      rw [hbody]
    have hbinary : ((forward.render ++ reverse.render).flatMap pieces).flatMap linePaths = [] := by
      rw [List.flatMap_append]
      exact unread_append (unread_binaryHunk forward) (unread_binaryHunk reverse)
    rw [hlines, hnone, List.flatMap_append]
    exact unread_append (by decide) hbinary

/-! ## Headers -/

theorem stripGitPrefix_start {start : String} (hstart : start = "a/" ∨ start = "b/") (path : Text) :
    stripGitPrefix (start.toList ++ path) = some path := by
  rcases hstart with rfl | rfl <;>
    simp [stripGitPrefix, startsWith]

theorem linePaths_gitHeader {file : FileDiff} (hpath : ShellPlain file.path)
    (hold : ShellPlain file.oldPath) : linePaths file.gitHeader = [file.oldPath, file.path] := by
  have hstart : startsWith file.gitHeader "diff --git " = true :=
    List.isPrefixOf_iff_prefix.mpr ⟨_, (gitHeader_eq file).symm⟩
  rw [linePaths, if_pos hstart, pathsFromDiffGitHeader, split_gitHeader hold.oneWord hpath.oneWord,
    shellWord_of_printable _ hold.printable hold.noBackslash,
    shellWord_of_printable _ hpath.printable hpath.noBackslash]
  simp only [List.filterMap_cons, List.filterMap_nil, stripGitPrefix_start (.inl rfl),
    stripGitPrefix_start (.inr rfl)]

/-- A `---` or `+++` line with a plain path names that path. -/
theorem pathFromFileHeader_label {mark start : String} (hmark : mark = "---" ∨ mark = "+++")
    (hstart : start = "a/" ∨ start = "b/") {path : Text} (h : ShellPlain path) :
    pathFromFileHeader (mark.toList ++ ' ' :: label start path) = some path := by
  have hwords : ShellWords.split (mark.toList ++ ' ' :: label start path) =
      .ok [mark.toList, shellWord start path] := by
    rcases hmark with rfl | rfl <;> rcases hstart with rfl | rfl
    · exact split_label (by decide) rfl (by decide) h.oneWord
    · exact split_label (by decide) rfl (by decide) h.oneWord
    · exact split_label (by decide) rfl (by decide) h.oneWord
    · exact split_label (by decide) rfl (by decide) h.oneWord
  rw [pathFromFileHeader, hwords, shellWord_of_printable _ h.printable h.noBackslash]
  exact stripGitPrefix_start hstart path

theorem linePaths_mark {mark : String} (hmark : mark = "---" ∨ mark = "+++") (text : Text) :
    linePaths (mark.toList ++ ' ' :: text) =
      (pathFromFileHeader (mark.toList ++ ' ' :: text)).toList := by
  rcases hmark with rfl | rfl <;> simp [linePaths, startsWith]

theorem linePaths_labelLines {file : FileDiff} (hpath : ShellPlain file.path)
    (hold : ShellPlain file.oldPath) :
    ∀ path ∈ (labelLines file).flatMap linePaths, path = file.path ∨ path = file.oldPath := by
  have hnull : ∀ mark, mark = "---" ∨ mark = "+++" →
      pathFromFileHeader (mark.toList ++ ' ' :: "/dev/null".toList) = none := by
    rintro mark (rfl | rfl) <;> decide
  have hnew : ∀ path ∈ linePaths ("+++".toList ++ ' ' :: file.newLabel), path = file.path := by
    rw [linePaths_mark (.inr rfl)]
    unfold FileDiff.newLabel
    split
    · rw [hnull _ (.inr rfl)]
      exact fun _ h => absurd h List.not_mem_nil
    · rw [pathFromFileHeader_label (.inr rfl) (.inr rfl) hpath]
      exact fun _ h => List.mem_singleton.mp h
  have hprevious : ∀ path ∈ linePaths ("---".toList ++ ' ' :: file.oldLabel),
      path = file.oldPath := by
    rw [linePaths_mark (.inl rfl)]
    unfold FileDiff.oldLabel
    split
    · rw [hnull _ (.inl rfl)]
      exact fun _ h => absurd h List.not_mem_nil
    · rw [pathFromFileHeader_label (.inl rfl) (.inl rfl) hold]
      exact fun _ h => List.mem_singleton.mp h
  intro path hmem
  obtain ⟨line, hline, hin⟩ := List.mem_flatMap.mp hmem
  unfold labelLines at hline
  split at hline
  · rcases List.mem_pair.mp hline with rfl | rfl
    · exact .inr (hprevious path hin)
    · exact .inl (hnew path hin)
  · cases hline

/-- A rename line names a path that Git does not quote. -/
theorem linePaths_rename {start : String} (hstart : start = "rename from " ∨ start = "rename to ")
    {path : Text} (hplain : ShellPlain path) (hquote : '"' ∉ path)
    (hnormal : NormalPath (String.ofList path)) :
    linePaths (start.toList ++ quoteTwo "" path) = [path] := by
  have hunquoted : ¬path.any mustQuote = true := by
    rwa [any_mustQuote_of_printable hplain.printable hplain.noBackslash]
  have hname : quoteTwo "" path = path := by
    rw [quoteTwo, if_neg hunquoted]
    rfl
  have htrimmed : strip path = path := by
    have htrim := (stable_of_normalPath hnormal).trimmed
    rwa [String.toList_ofList] at htrim
  have hdrop : strip ((start.toList ++ path).drop start.length) = path := by
    rw [← String.length_toList, List.drop_left, htrimmed]
  have hself : startsWith (start.toList ++ path) start = true :=
    List.isPrefixOf_iff_prefix.mpr (List.prefix_append _ _)
  have hother : ∀ mark ∈ ["diff --git ", "--- ", "+++ "],
      startsWith (start.toList ++ path) mark = false := by
    intro mark hmark
    simp only [List.mem_cons, List.not_mem_nil, or_false] at hmark
    rcases hstart with rfl | rfl <;> rcases hmark with rfl | rfl | rfl <;>
      exact startsWith_cons_of_ne rfl (by decide) _
  rw [hname, linePaths, hother "diff --git " (by simp), hother "--- " (by simp),
    hother "+++ " (by simp)]
  rcases hstart with rfl | rfl
  · rw [hself, hdrop]
    rfl
  · have hfrom : startsWith ("rename to ".toList ++ path) "rename from " = false := by
      simp [startsWith, List.isPrefixOf]
    rw [hfrom, hself, hdrop]
    rfl

/-- A header line that names no path. -/
theorem linePaths_of_head {c : Char} (h : c ∉ ['d', '-', '+', 'r']) {line rest : Text}
    (hline : line = c :: rest) : linePaths line = [] := by
  rw [hline]
  exact linePaths_of_noHeader (noHeader_cons h rest)

theorem linePaths_modeLines (file : FileDiff) : ∀ line ∈ file.modeLines, linePaths line = [] := by
  have hold : ∀ mode : GitMode, linePaths ("old mode " ++ mode.text).toList = [] := by
    intro mode
    cases mode <;> decide
  have hnew : ∀ mode : GitMode, linePaths ("new mode " ++ mode.text).toList = [] := by
    intro mode
    cases mode <;> decide
  intro line hline
  unfold FileDiff.modeLines at hline
  split at hline
  · rcases List.mem_pair.mp hline with rfl | rfl
    · exact hold _
    · exact hnew _
  · cases hline

theorem linePaths_indexLines (file : FileDiff) : ∀ line ∈ file.indexLines, linePaths line = [] := by
  intro line hline
  unfold FileDiff.indexLines at hline
  split at hline
  · exact linePaths_of_head (by decide : 'i' ∉ _) (List.mem_singleton.mp hline)
  · cases hline

theorem linePaths_changeLines {file : FileDiff} (hpath : ShellPlain file.path)
    (hold : ShellPlain file.oldPath)
    (hquotes : ∀ similarity old, file.change = .renamed similarity old →
      '"' ∉ file.path ∧ '"' ∉ old)
    (hnames : NormalPath (String.ofList file.path) ∧ NormalPath (String.ofList file.oldPath)) :
    ∀ line ∈ file.changeLines, ∀ path ∈ linePaths line, path = file.path ∨ path = file.oldPath := by
  have hadded : ∀ mode : GitMode, linePaths ("new file mode " ++ mode.text).toList = [] := by
    intro mode
    cases mode <;> decide
  have hdeleted : ∀ mode : GitMode, linePaths ("deleted file mode " ++ mode.text).toList = [] := by
    intro mode
    cases mode <;> decide
  intro line hline path hin
  unfold FileDiff.changeLines at hline
  split at hline
  · cases hline
  · rw [List.mem_singleton.mp hline, hadded] at hin
    cases hin
  · rw [List.mem_singleton.mp hline, hdeleted] at hin
    cases hin
  · rename_i similarity old hchange
    have holdPath : file.oldPath = old := by rw [FileDiff.oldPath, hchange]
    have hplain := hquotes similarity old hchange
    rw [holdPath] at hold hnames ⊢
    simp only [List.mem_cons, List.not_mem_nil, or_false] at hline
    rcases hline with hline | rfl | rfl
    · rw [linePaths_of_head (by decide : 's' ∉ _) hline] at hin
      cases hin
    · rw [linePaths_rename (.inl rfl) hold hplain.2 hnames.2] at hin
      exact .inr (List.mem_singleton.mp hin)
    · rw [linePaths_rename (.inr rfl) hpath hplain.1 hnames.1] at hin
      exact .inl (List.mem_singleton.mp hin)

/-! ## Whole patches -/

/-- A file whose names are read back names only these. -/
theorem linePaths_file {files : List FileDiff} (hnames : NamesReadBack files)
    (hcontent : ContentHarmless files) {file : FileDiff} (hfile : file ∈ files)
    (hsafe : SafeName file.path ∧ SafeName file.oldPath) :
    ∀ path ∈ (file.render.flatMap pieces).flatMap linePaths,
      path = file.path ∨ path = file.oldPath := by
  obtain ⟨hpath, hold⟩ := hnames.plain file hfile
  rw [FileDiff.render, List.flatMap_append, pieces_header, List.flatMap_append,
    linePaths_body (hcontent.headers file hfile) (hcontent.lines file hfile)]
  intro path hmem
  rcases List.mem_append.mp hmem with hmem | hmem
  · obtain ⟨line, hline, hin⟩ := List.mem_flatMap.mp hmem
    rcases List.mem_cons.mp hline with rfl | hline
    · rw [linePaths_gitHeader hpath hold] at hin
      exact (List.mem_pair.mp hin).symm
    · rcases List.mem_append.mp hline with hline | hline
      · rcases List.mem_append.mp hline with hline | hline
        · rw [linePaths_modeLines file line hline] at hin
          cases hin
        · exact linePaths_changeLines hpath hold (hnames.renamed file hfile)
            ⟨hsafe.1.normal, hsafe.2.normal⟩ line hline path hin
      · rw [linePaths_indexLines file line hline] at hin
        cases hin
  · exact linePaths_labelLines hpath hold path hmem

theorem mem_patchPathsFromText {files : List FileDiff} {path : String} :
    path ∈ patchPathsFromText (renderPatch files) ↔
      ∃ file ∈ files, ∃ name ∈ (file.render.flatMap pieces).flatMap linePaths,
        String.ofList name = path := by
  rw [patchPathsFromText, renderPatch, splitlines_unlines]
  simp only [List.mem_map, List.mem_flatMap]
  constructor
  · rintro ⟨name, ⟨piece, ⟨line, ⟨file, hfile, hline⟩, hpiece⟩, hname⟩, rfl⟩
    exact ⟨file, hfile, name, ⟨piece, ⟨line, hline, hpiece⟩, hname⟩, rfl⟩
  · rintro ⟨file, hfile, name, ⟨piece, ⟨line, hline, hpiece⟩, hname⟩, rfl⟩
    exact ⟨name, ⟨piece, ⟨line, ⟨file, hfile, hline⟩, hpiece⟩, hname⟩, rfl⟩

/-- Without symbolic links and with safe names only an unknown path is a violation. -/
theorem violations_of_generated {files : List FileDiff} {patchDiff : PatchDiff}
    (h : GeneratedPatch files patchDiff) :
    (validatePatchPathForms patchDiff).violations = [] ↔
      ∀ path ∈ patchPathsFromText (renderPatch files), path ∈ metadataPaths patchDiff := by
  rw [violations_eq_nil_iff, h.rendered]
  have hforms : ∀ path ∈ metadataPaths patchDiff, pathViolations path = [] := by
    intro path hpath
    obtain ⟨file, hfile, rfl | rfl⟩ := (h.names path).mp hpath
    · exact (h.safe file hfile).1.safe
    · exact (h.safe file hfile).2.safe
  have hlinks : symlinkTargetsFromPatch patchDiff = [] := by
    rw [symlinkTargetsFromPatch, List.map_eq_nil_iff, List.filter_eq_nil_iff]
    intro file hfile
    rw [decide_eq_true_eq]
    exact h.noSymlinks file hfile
  rw [hlinks]
  exact ⟨fun hall => hall.2.2, fun hknown => ⟨hforms, fun _ hlink => absurd hlink List.not_mem_nil,
    hknown⟩⟩

theorem contentUnread_of_harmless {files : List FileDiff} (h : ContentHarmless files) :
    ContentUnread files :=
  fun file hfile hunk hhunk line hline piece hpiece =>
    linePaths_of_noHeader (h.lines file hfile hunk hhunk line hline piece hpiece)

/-- The old path of a header is read in the letters of its third word. -/
theorem third_word_of_known {file : FileDiff} {path : Text}
    (hlength : file.gitHeader ≠ path)
    (h : ∀ name ∈ pathsFromDiffGitHeader file.gitHeader, name = path) :
    ∃ command flag old rest, ShellWords.split file.gitHeader = .ok (command :: flag :: old :: rest) ∧
      path.Sublist old := by
  unfold pathsFromDiffGitHeader at h
  split at h
  · rename_i command flag old new rest hwords
    refine ⟨command, flag, old, new :: rest, hwords, ?_⟩
    have hnull : old ≠ "/dev/null".toList := by
      rintro rfl
      obtain ⟨tail, htail⟩ := head_of_split_gitHeader hwords
      cases (List.cons.inj htail).1
    have hstripped : ∃ name, stripGitPrefix old = some name ∧ name.Sublist old := by
      unfold stripGitPrefix
      rw [if_neg hnull]
      split
      · exact ⟨_, rfl, List.drop_sublist 2 old⟩
      · exact ⟨_, rfl, List.Sublist.refl old⟩
    obtain ⟨name, hname, hsub⟩ := hstripped
    have hmem : name ∈ [old, new].filterMap stripGitPrefix :=
      List.mem_filterMap.mpr ⟨old, List.mem_cons_self, hname⟩
    rwa [← h name hmem]
  · exact absurd (h _ (List.mem_singleton_self _)) hlength

/-- A name that is the only one its header names is read by the shell as it is. -/
theorem shellPlain_of_known {file : FileDiff} (hold : file.oldPath = file.path)
    (hsafe : SafeName file.path)
    (h : ∀ name ∈ pathsFromDiffGitHeader file.gitHeader, name = file.path) :
    ShellPlain file.path := by
  have hlength : file.gitHeader ≠ file.path := by
    intro heq
    have hle := length_le_quoteTwo "b/" file.path
    have hlen := congrArg List.length heq
    rw [gitHeader_eq] at hlen
    simp only [List.length_append, List.length_cons] at hlen
    have hpos : 0 < "diff --git ".toList.length := by decide
    omega
  obtain ⟨command, flag, old, rest, hwords, hsub⟩ := third_word_of_known hlength h
  have hmem : old ∈ command :: flag :: old :: rest := by simp
  have hheader : ∀ c ∈ file.path, c ∈ file.gitHeader := by
    intro c hc
    rcases ShellWords.mem_of_mem_wordsFrom hwords hmem (hsub.subset hc) with
      hin | hin | ⟨-, quote, hstate⟩
    · cases hin
    · exact hin
    · cases hstate
  have hbackslash : '\\' ∉ file.path := by
    have hnone := (stable_of_normalPath hsafe.normal).noBackslash
    rwa [String.toList_ofList] at hnone
  have hprintable : ∀ c ∈ file.path, 0x20 ≤ c.toNat ∧ c.toNat < 0x7F :=
    fun c hc => printable_gitHeader file c (hheader c hc)
  refine ⟨hprintable, hbackslash, ?_⟩
  by_cases hquote : '"' ∈ file.path
  · exact .inl hquote
  · have hunquoted : ¬file.path.any mustQuote = true := by
      rwa [any_mustQuote_of_printable hprintable hbackslash]
    have hnoQuote := notMem_gitHeader hold hunquoted hquote (by decide)
    have hnoBackslash := notMem_gitHeader hold hunquoted hbackslash (by decide)
    have hsingle : '\'' ∉ file.path := fun hc =>
      ShellWords.quote_notMem_of_mem_wordsFrom hwords (.inl rfl) List.not_mem_nil hnoQuote
        hnoBackslash hmem (hsub.subset hc)
    have hquotes : ∀ c ∈ file.gitHeader, ShellWords.isQuote c = false := by
      intro c hc
      rw [ShellWords.isQuote, Bool.or_eq_false_iff, decide_eq_false_iff_not,
        decide_eq_false_iff_not]
      constructor
      · rintro rfl
        exact notMem_gitHeader hold hunquoted hsingle (by decide) hc
      · rintro rfl
        exact hnoQuote hc
    refine .inr ⟨fun hc => ?_, hsingle⟩
    have hseparator := ShellWords.separator_notMem_of_mem_wordsFrom hwords (.inl rfl)
      (fun c hc => absurd hc List.not_mem_nil) hnoBackslash hquotes hmem ' ' (hsub.subset hc)
    cases hseparator

namespace Query

/-- The base of the digits of object names. -/
scoped instance digitBase : NeZero 16 := ⟨by decide⟩

theorem noHeading : '\n' ∉ ([] : Text) := List.not_mem_nil

/-- The removal of one line from `db/clean.sql`. -/
def removed (line : Text) (h : '\n' ∉ line) : FileDiff where
  path := "db/clean.sql".toList
  change := .modified
  modes := none
  index := some (List.replicate 40 1, List.replicate 40 2, some .regular)
  body := .text [{
    oldStart := 1
    newStart := 0
    heading := []
    lines := [⟨.removed, line, true, h⟩]
    noLineFeed := noHeading }]
  removedOnly := nofun

def patchDiff (file : FileDiff) : PatchDiff where
  workspacePath := "/work"
  baselineCommitSha := "1111111111111111111111111111111111111111"
  patch := Utf8.ofText (renderPatch [file])
  patchSha256 := ""
  patchSizeBytes := (renderPatch [file]).length
  files := [{
    path := "db/clean.sql", kind := .modified, additions := some 0, deletions := some 1
    binary := false, oldPath := none, oldMode := none, newMode := none, modeChanged := false }]
  ignoredFiles := []

theorem safeName : SafeName "db/clean.sql".toList := ⟨rfl, by decide⟩

theorem generated (line : Text) (h : '\n' ∉ line) :
    GeneratedPatch [removed line h] (patchDiff (removed line h)) where
  rendered := Utf8.visible_ofText _
  names := by
    intro path
    simp only [List.mem_singleton, exists_eq_left]
    exact List.mem_singleton.trans (or_self _).symm.to_iff
  safe := by
    simp only [List.mem_singleton, forall_eq]
    exact ⟨safeName, safeName⟩
  noSymlinks := by
    intro file hfile
    rw [List.mem_singleton.mp hfile]
    exact nofun

theorem namesReadBack : NamesReadBack [removed "DELETE FROM runs;".toList (by decide)] := by
  constructor <;> simp only [List.mem_singleton, forall_eq]
  · exact ⟨⟨by decide, by decide, .inr (by decide)⟩, ⟨by decide, by decide, .inr (by decide)⟩⟩
  · exact nofun

theorem contentHarmless : ContentHarmless [removed "DELETE FROM runs;".toList (by decide)] := by
  have hheader : ∀ hunk ∈ (removed "DELETE FROM runs;".toList (by decide)).hunks,
      (pieces hunk.header).tail = [] := by
    decide
  have hlines : ∀ hunk ∈ (removed "DELETE FROM runs;".toList (by decide)).hunks,
      ∀ line ∈ hunk.lines, ∀ piece ∈ pieces (line.kind.sign :: line.text), NoHeader piece := by
    decide
  constructor
  · intro file hfile hunk hhunk piece hpiece
    rw [List.mem_singleton.mp hfile] at hhunk
    rw [hheader hunk hhunk] at hpiece
    cases hpiece
  · intro file hfile
    rw [List.mem_singleton.mp hfile]
    exact hlines

end Query

end Rygnal.GuardedRun
