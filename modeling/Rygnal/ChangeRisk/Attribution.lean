import Rygnal.ChangeRisk.Classification
import Rygnal.ChangeRisk.GitPatch

/-! # Attribution of added lines

`extract_added_lines_by_path` on the patches of Git. It cuts the patch with `str.splitlines`
and keeps no hunk state, so an added line is read as a header when it starts with `++`, and a
part of any line that follows a form feed or another boundary is read as a line of its own.
-/

namespace Rygnal.ChangeRisk.GitPatch
open Rygnal.Core Rygnal.Library Rygnal.Library.PyText

/-! ## What a patch adds -/

def Hunk.addedLines (hunk : Hunk) : List Text :=
  (hunk.lines.filter fun line => line.kind = .added).map HunkLine.text

/-- The added content lines of a file, in the order of its hunks. -/
def FileDiff.addedLines (file : FileDiff) : List Text := file.hunks.flatMap Hunk.addedLines

/-- The path that the extraction reads in the `+++` line of the file. -/
def FileDiff.headerKey (file : FileDiff) : Except PyException (Option String) :=
  parseNewPatchPath (strip file.newLabel)

/-- The lines that the scan of a path gets. -/
def linesOf (addedLines : AddedLines) (path : Text) : List Text :=
  match normalizeRepoRelativePath (String.ofList path) with
  | .ok key => (addedLines.get key).getD []
  | .error _ => []

section Attributed
variable [UnicodeTables]

/-- Every path that is not deleted has exactly its added lines, and each of them is scanned
under its path. -/
structure Attributes (files : List FileDiff) (addedLines : AddedLines) : Prop where
  exact : ∀ file ∈ files, file.isDeleted = false → linesOf addedLines file.path = file.addedLines
  scanned : ∀ file ∈ files, file.isDeleted = false → ∀ line ∈ file.addedLines,
    ∀ fileDiff : PatchFileDiff, fileDiff.path = String.ofList file.path →
      ∃ fileRisk, classifyPatchFileRisk fileDiff addedLines = .ok fileRisk ∧
        ∀ check ∈ lineChecks fileRisk.path, check.pattern.search line = true →
          check.reason ∈ fileRisk.reasons

def Attributed (files : List FileDiff) : Prop :=
  ∃ addedLines, extractAddedLinesByPath (renderPatch files) = .ok addedLines ∧
    Attributes files addedLines

end Attributed

/-! ## When the extraction reads a patch as it was meant -/

/-- Added lines that are one line for `splitlines` and do not look like a new path. -/
def AddedPlain (files : List FileDiff) : Prop :=
  ∀ file ∈ files, ∀ line ∈ file.addedLines, Unbroken line ∧ startsWith line "++" = false

/-- A line that changes nothing, where `entered` says whether a path is the current one. -/
def Ignored (entered : Bool) (line : Text) : Prop :=
  startsWith line "+++ " = false ∧ (entered = true →
    startsWith line "diff --git " = false ∧
      (startsWith line "+" && !startsWith line "+++") = false)

instance (entered : Bool) (line : Text) : Decidable (Ignored entered line) :=
  inferInstanceAs (Decidable (_ ∧ (_ → _)))

/-- What `splitlines` cuts off the hunk headers and the lines that are not added is ignored. -/
structure OthersHarmless (files : List FileDiff) : Prop where
  headers : ∀ file ∈ files, ∀ hunk ∈ file.hunks, ∀ piece ∈ (pieces hunk.header).tail,
    Ignored (!file.isDeleted) piece
  lines : ∀ file ∈ files, ∀ hunk ∈ file.hunks, ∀ line ∈ hunk.lines, line.kind ≠ .added →
    ∀ piece ∈ (pieces line.text).tail, Ignored (!file.isDeleted) piece

/-- The added lines of the files whose header is read as the key. -/
def linesUnder (files : List FileDiff) (key : String) : List Text :=
  files.flatMap fun file => if file.headerKey.toOption = some (some key) then file.addedLines else []

/-- The headers are read as the paths they stand for. -/
structure HeadersRead (files : List FileDiff) : Prop where
  parsed : ∀ file ∈ files, file.hunks ≠ [] → file.headerKey.isOk = true
  keyed : ∀ file ∈ files, file.isDeleted = false → file.addedLines =
    match normalizeRepoRelativePath (String.ofList file.path) with
    | .ok key => linesUnder files key
    | .error _ => []

end Rygnal.ChangeRisk.GitPatch

namespace Rygnal.ChangeRisk.Extraction
open Rygnal.Core Rygnal.Library Rygnal.Library.PyText GitPatch

/-! ## The state of the loop -/

/-- The lines kept for a key so far. -/
def kept (state : Extraction) (key : String) : List Text := (state.addedLines.get key).getD []

def leave (state : Extraction) : Extraction := { state with currentPath := none }

/-- Keep a line for the current path, when there is one. -/
def collect (state : Extraction) (line : Text) : Extraction :=
  match state.currentPath with
  | some path => state.append path line
  | none => state

@[simp] theorem kept_leave (state : Extraction) (key : String) :
    state.leave.kept key = state.kept key := rfl

@[simp] theorem kept_enter (state : Extraction) (path key : String) :
    (state.enter path).kept key = state.kept key := by
  unfold kept enter
  cases hpath : state.addedLines.get path with
  | some lines => rfl
  | none =>
    simp only [PyDict.get_set]
    split
    · rename_i hkey
      rw [← hkey, hpath]
      rfl
    · rfl

theorem kept_append (state : Extraction) (path key : String) (line : Text) :
    (state.append path line).kept key =
      state.kept key ++ if path = key then [line] else [] := by
  simp only [kept, append, PyDict.get_set]
  split
  · rename_i hkey
    rw [hkey]
    rfl
  · rw [List.append_nil]

@[simp] theorem currentPath_collect (state : Extraction) (line : Text) :
    (state.collect line).currentPath = state.currentPath := by
  unfold collect
  split <;> rfl

theorem currentPath_foldl_collect (state : Extraction) (lines : List Text) :
    (lines.foldl collect state).currentPath = state.currentPath := by
  induction lines generalizing state with
  | nil => rfl
  | cons line lines ih => rw [List.foldl_cons, ih, currentPath_collect]

theorem kept_foldl_collect (state : Extraction) (lines : List Text) (key : String) :
    (lines.foldl collect state).kept key =
      state.kept key ++ if state.currentPath = some key then lines else [] := by
  induction lines generalizing state with
  | nil => simp
  | cons line lines ih =>
    rw [List.foldl_cons, ih, currentPath_collect]
    cases hpath : state.currentPath with
    | none => simp [collect, hpath]
    | some path =>
      simp only [collect, hpath, kept_append, Option.some.injEq]
      split <;> simp

/-! ## One line -/

/-- Reading goes on where the first lines leave the state. -/
theorem foldlM_append_of_ok {state next : Extraction} {lines : List Text}
    (h : lines.foldlM step state = .ok next) (rest : List Text) :
    (lines ++ rest).foldlM step state = rest.foldlM step next := by
  rw [List.foldlM_append, h]
  rfl

theorem step_fileHeader (state : Extraction) {line : Text}
    (h : startsWith line "diff --git " = true) : state.step line = .ok state.leave := by
  rw [step, if_pos h, leave]

theorem step_of_ignored {state : Extraction} {line : Text}
    (h : Ignored state.currentPath.isSome line) : state.step line = .ok state := by
  unfold step
  cases hpath : state.currentPath with
  | none =>
    rw [if_neg (by simp [h.1] : ¬ startsWith line "+++ " = true)]
    split
    · rw [← hpath]
    · rfl
  | some path =>
    obtain ⟨hfile, hadded⟩ := h.2 (by rw [hpath]; rfl)
    rw [if_neg (by simp [hfile]), if_neg (by simp [h.1])]
    simp only [hadded, Bool.false_eq_true, if_false]

/-- A line with another first character than the headers and the added lines is ignored. -/
theorem ignored_cons {c : Char} (hd : c ≠ 'd') (hplus : c ≠ '+') (entered : Bool) (line : Text) :
    Ignored entered (c :: line) := by
  have hadded : startsWith (c :: line) "+" = false := startsWith_cons_of_ne rfl hplus line
  refine ⟨startsWith_cons_of_ne rfl hplus line, fun _ => ⟨startsWith_cons_of_ne rfl hd line, ?_⟩⟩
  rw [hadded, Bool.false_and]

/-- An added line that does not look like a new path is kept. -/
theorem step_added (state : Extraction) {line : Text} (h : startsWith line "++" = false) :
    state.step ('+' :: line) = .ok (state.collect line) := by
  have hfile : startsWith ('+' :: line) "diff --git " = false :=
    startsWith_cons_of_ne rfl (by decide) line
  have hthree : startsWith ('+' :: line) "+++" = false := h
  have hpath : startsWith ('+' :: line) "+++ " = false := by
    rw [Bool.eq_false_iff]
    intro hstart
    have hprefix := (by decide : "+++".toList <+: "+++ ".toList).trans
      (List.isPrefixOf_iff_prefix.mp hstart)
    rw [startsWith, List.isPrefixOf_iff_prefix.mpr hprefix] at hthree
    cases hthree
  have hplus : startsWith ('+' :: line) "+" = true := by simp [startsWith]
  unfold step collect
  rw [if_neg (by simp [hfile]), if_neg (by simp [hpath])]
  cases state.currentPath with
  | none => rfl
  | some path => simp only [hplus, hthree, Bool.not_false, Bool.and_self, if_true, List.drop_one,
      List.tail_cons]

theorem foldlM_of_ignored {state : Extraction} {lines : List Text}
    (h : ∀ line ∈ lines, Ignored state.currentPath.isSome line) :
    lines.foldlM step state = .ok state := by
  induction lines with
  | nil => rfl
  | cons line lines ih =>
    rw [List.foldlM_cons, step_of_ignored (h line List.mem_cons_self)]
    exact ih fun l hl => h l (List.mem_cons_of_mem line hl)

/-! ## One hunk -/

/-- A line with a harmless sign and harmless pieces is ignored as a whole. -/
theorem foldlM_pieces_of_harmless {state : Extraction} {c : Char} {text : Text}
    (hc : isLineBreak c = false) (hd : c ≠ 'd') (hplus : c ≠ '+')
    (h : ∀ piece ∈ (pieces (c :: text)).tail, Ignored state.currentPath.isSome piece) :
    (pieces (c :: text)).foldlM step state = .ok state := by
  obtain ⟨first, rest, -, hpieces⟩ := pieces_cons hc text
  rw [hpieces] at h ⊢
  apply foldlM_of_ignored
  intro line hline
  rcases List.mem_cons.mp hline with rfl | hline
  · exact ignored_cons hd hplus _ first
  · exact h line hline

theorem foldlM_pieces_of_quiet {state : Extraction} {c : Char} {text : Text}
    (h : Unbroken (c :: text)) (hd : c ≠ 'd') (hplus : c ≠ '+') :
    (pieces (c :: text)).foldlM step state = .ok state := by
  apply foldlM_pieces_of_harmless (h c List.mem_cons_self) hd hplus
  rw [pieces_of_forall h]
  intro piece hpiece
  cases hpiece

theorem foldlM_noLineFeed (state : Extraction) :
    (pieces "\\ No newline at end of file".toList).foldlM step state = .ok state := by
  have hline : Unbroken ('\\' :: " No newline at end of file".toList) := by decide
  exact foldlM_pieces_of_quiet hline (by decide) (by decide)

theorem foldlM_hunkLine {state : Extraction} {line : HunkLine}
    (hplain : line.kind = .added → Unbroken line.text ∧ startsWith line.text "++" = false)
    (hharmless : line.kind ≠ .added →
      ∀ piece ∈ (pieces line.text).tail, Ignored state.currentPath.isSome piece) :
    (line.render.flatMap pieces).foldlM step state =
      .ok (if line.kind = .added then state.collect line.text else state) := by
  have hend : ∀ s : Extraction, ((if line.terminated then []
      else ["\\ No newline at end of file".toList]).flatMap pieces).foldlM step s = .ok s := by
    intro s
    split
    · rfl
    · rw [List.flatMap_singleton]
      exact foldlM_noLineFeed s
  have hfirst : (pieces (line.kind.sign :: line.text)).foldlM step state =
      .ok (if line.kind = .added then state.collect line.text else state) := by
    have htail : ∀ c, isLineBreak c = false →
        (pieces (c :: line.text)).tail = (pieces line.text).tail := by
      intro c hc
      obtain ⟨first, rest, hpieces, hcons⟩ := pieces_cons hc line.text
      rw [hpieces, hcons, List.tail_cons, List.tail_cons]
    cases hkind : line.kind with
    | added =>
      obtain ⟨hunbroken, hstart⟩ := hplain hkind
      rw [if_pos rfl]
      have hsign : LineKind.added.sign = '+' := rfl
      rw [hsign, pieces_of_forall (Unbroken.cons (by decide) hunbroken), List.foldlM_cons,
        step_added state hstart]
      rfl
    | context =>
      apply foldlM_pieces_of_harmless (by decide) (by decide) (by decide)
      rw [htail _ (by decide)]
      exact hharmless (by rw [hkind]; decide)
    | removed =>
      apply foldlM_pieces_of_harmless (by decide) (by decide) (by decide)
      rw [htail _ (by decide)]
      exact hharmless (by rw [hkind]; decide)
  rw [HunkLine.render, List.flatMap_cons, foldlM_append_of_ok hfirst]
  exact hend _

/-- Reading the lines of a hunk keeps its added lines for the current path. -/
theorem foldlM_hunkLines {state : Extraction} {lines : List HunkLine}
    (hplain : ∀ line ∈ lines, line.kind = .added →
      Unbroken line.text ∧ startsWith line.text "++" = false)
    (hharmless : ∀ line ∈ lines, line.kind ≠ .added →
      ∀ piece ∈ (pieces line.text).tail, Ignored state.currentPath.isSome piece) :
    ((lines.flatMap HunkLine.render).flatMap pieces).foldlM step state =
      .ok (((lines.filter fun line => line.kind = .added).map HunkLine.text).foldl collect
        state) := by
  induction lines generalizing state with
  | nil => rfl
  | cons line lines ih =>
    have hline := foldlM_hunkLine (hplain line List.mem_cons_self)
      (hharmless line List.mem_cons_self)
    rw [List.flatMap_cons, List.flatMap_append, foldlM_append_of_ok hline]
    by_cases hkind : line.kind = .added
    · rw [if_pos hkind, List.filter_cons_of_pos (by simpa using hkind), List.map_cons,
        List.foldl_cons]
      apply ih (fun l hl => hplain l (List.mem_cons_of_mem line hl))
      rw [currentPath_collect]
      exact fun l hl => hharmless l (List.mem_cons_of_mem line hl)
    · rw [if_neg hkind, List.filter_cons_of_neg (by simpa using hkind)]
      exact ih (fun l hl => hplain l (List.mem_cons_of_mem line hl))
        (fun l hl => hharmless l (List.mem_cons_of_mem line hl))

theorem foldlM_hunk {state : Extraction} {hunk : Hunk}
    (hplain : ∀ line ∈ hunk.addedLines, Unbroken line ∧ startsWith line "++" = false)
    (hheader : ∀ piece ∈ (pieces hunk.header).tail, Ignored state.currentPath.isSome piece)
    (hharmless : ∀ line ∈ hunk.lines, line.kind ≠ .added →
      ∀ piece ∈ (pieces line.text).tail, Ignored state.currentPath.isSome piece) :
    (hunk.render.flatMap pieces).foldlM step state =
      .ok (hunk.addedLines.foldl collect state) := by
  have hat : ∃ rest, hunk.header = '@' :: rest := by
    rw [Hunk.header]
    simp only [String.toList_append, List.append_assoc]
    exact ⟨_, rfl⟩
  obtain ⟨rest, hrest⟩ := hat
  rw [hrest] at hheader
  have hfirst := foldlM_pieces_of_harmless (by decide) (by decide) (by decide) hheader
  rw [Hunk.render, List.flatMap_cons, hrest, foldlM_append_of_ok hfirst]
  apply foldlM_hunkLines _ hharmless
  intro line hline hkind
  apply hplain
  exact List.mem_map_of_mem (List.mem_filter.mpr ⟨hline, decide_eq_true hkind⟩)

theorem foldlM_hunks {state : Extraction} {hunks : List Hunk}
    (hplain : ∀ line ∈ hunks.flatMap Hunk.addedLines, Unbroken line ∧ startsWith line "++" = false)
    (hheader : ∀ hunk ∈ hunks, ∀ piece ∈ (pieces hunk.header).tail,
      Ignored state.currentPath.isSome piece)
    (hharmless : ∀ hunk ∈ hunks, ∀ line ∈ hunk.lines, line.kind ≠ .added →
      ∀ piece ∈ (pieces line.text).tail, Ignored state.currentPath.isSome piece) :
    ((hunks.flatMap Hunk.render).flatMap pieces).foldlM step state =
      .ok ((hunks.flatMap Hunk.addedLines).foldl collect state) := by
  induction hunks generalizing state with
  | nil => rfl
  | cons hunk hunks ih =>
    have hhunk := foldlM_hunk
      (fun line hline => hplain line (List.mem_append_left _ hline))
      (hheader hunk List.mem_cons_self) (hharmless hunk List.mem_cons_self)
    rw [List.flatMap_cons, List.flatMap_append, foldlM_append_of_ok hhunk, List.flatMap_cons,
      List.foldl_append]
    apply ih fun line hline => hplain line (List.mem_append_right _ hline)
    · rw [currentPath_foldl_collect]
      exact fun h hh => hheader h (List.mem_cons_of_mem hunk hh)
    · rw [currentPath_foldl_collect]
      exact fun h hh => hharmless h (List.mem_cons_of_mem hunk hh)

/-! ## One file -/

/-- What the path of a `+++` line does to the state. -/
def openPath (state : Extraction) : Option String → Extraction
  | some path => state.enter path
  | none => state.leave

@[simp] theorem kept_openPath (state : Extraction) (path : Option String) (key : String) :
    (state.openPath path).kept key = state.kept key := by
  cases path with
  | none => rfl
  | some path => exact kept_enter state path key

@[simp] theorem currentPath_openPath (state : Extraction) (path : Option String) :
    (state.openPath path).currentPath = path := by
  cases path <;> rfl

/-- What the extraction does with a file when it reads the file as it was meant. -/
def readFile (state : Extraction) (file : FileDiff) : Except PyException Extraction :=
  if file.hunks = [] then .ok state.leave
  else file.headerKey.map fun path => file.addedLines.foldl collect (state.openPath path)

theorem foldlM_quiet {state : Extraction} (hpath : state.currentPath = none) {lines : List Text}
    (h : ∀ line ∈ lines, Quiet line) : (lines.flatMap pieces).foldlM step state = .ok state := by
  have hpieces : lines.flatMap pieces = lines := by
    induction lines with
    | nil => rfl
    | cons line lines ih =>
      rw [List.flatMap_cons, pieces_of_forall (h line List.mem_cons_self).unbroken,
        ih fun l hl => h l (List.mem_cons_of_mem line hl)]
      rfl
  rw [hpieces]
  apply foldlM_of_ignored
  intro line hline
  refine ⟨(h line hline).notPath, fun hentered => ?_⟩
  rw [hpath] at hentered
  cases hentered

theorem unbroken_gitHeader (file : FileDiff) : Unbroken file.gitHeader := by
  have hold : Unbroken (quoteTwo "a/" file.oldPath) := unbroken_quoteTwo (by decide) _
  have hnew : Unbroken (quoteTwo "b/" file.path) := unbroken_quoteTwo (by decide) _
  have hword : Unbroken "diff --git ".toList := by decide
  unfold FileDiff.gitHeader
  exact (hword.append hold).append (Unbroken.cons (by decide) hnew)

theorem startsWith_gitHeader (file : FileDiff) :
    startsWith file.gitHeader "diff --git " = true := by
  unfold startsWith FileDiff.gitHeader
  rw [List.append_assoc]
  apply List.isPrefixOf_iff_prefix.mpr
  apply List.prefix_append

theorem step_gitHeader (state : Extraction) (file : FileDiff) :
    (pieces file.gitHeader).foldlM step state = .ok state.leave := by
  rw [pieces_of_forall (unbroken_gitHeader file), List.foldlM_cons,
    step_fileHeader state (startsWith_gitHeader file)]
  rfl

theorem unbroken_newLabel (file : FileDiff) : Unbroken file.newLabel := by
  unfold FileDiff.newLabel
  split
  · decide
  · exact unbroken_label (by decide) _

theorem unbroken_oldLabel (file : FileDiff) : Unbroken file.oldLabel := by
  unfold FileDiff.oldLabel
  split
  · decide
  · exact unbroken_label (by decide) _

theorem step_newLabel (state : Extraction) (file : FileDiff) :
    (pieces ("+++ ".toList ++ file.newLabel)).foldlM step state =
      file.headerKey.map state.openPath := by
  have hpieces : pieces ("+++ ".toList ++ file.newLabel) = ["+++ ".toList ++ file.newLabel] :=
    pieces_of_forall ((by decide : Unbroken "+++ ".toList).append (unbroken_newLabel file))
  have hfile : startsWith ("+++ ".toList ++ file.newLabel) "diff --git " = false :=
    startsWith_cons_of_ne rfl (by decide) _
  have hpath : startsWith ("+++ ".toList ++ file.newLabel) "+++ " = true := by
    rw [startsWith, List.isPrefixOf_iff_prefix]
    exact List.prefix_append _ _
  have hdrop : ("+++ ".toList ++ file.newLabel).drop 4 = file.newLabel := rfl
  rw [hpieces, List.foldlM_cons, step, hfile, hpath, hdrop, FileDiff.headerKey]
  simp only [Bool.false_eq_true, if_false, if_true]
  cases parseNewPatchPath (strip file.newLabel) with
  | error e => rfl
  | ok path => cases path <;> rfl

/-- Exactly the deleted files have `/dev/null` as their new path. -/
theorem isSome_of_headerKey {file : FileDiff} {path : Option String}
    (h : file.headerKey = .ok path) : path.isSome = !file.isDeleted := by
  unfold FileDiff.headerKey FileDiff.newLabel at h
  cases hdeleted : file.isDeleted with
  | true =>
    rw [hdeleted, if_pos rfl] at h
    cases h
    rfl
  | false =>
    rw [hdeleted, if_neg (by simp)] at h
    have hfirst : ∃ c rest, label "b/" file.path = c :: rest ∧ isSpace c = false ∧ c ≠ '/' := by
      have hquoted : ∃ c rest, quoteTwo "b/" file.path = c :: rest ∧ isSpace c = false ∧ c ≠ '/' := by
        unfold quoteTwo
        split
        · exact ⟨'"', _, rfl, by decide, by decide⟩
        · exact ⟨'b', _, rfl, by decide, by decide⟩
      obtain ⟨c, rest, hrest, hc⟩ := hquoted
      unfold label
      split
      · exact ⟨c, rest ++ ['\t'], by rw [hrest]; rfl, hc⟩
      · exact ⟨c, rest, hrest, hc⟩
    obtain ⟨c, rest, hrest, hspace, hslash⟩ := hfirst
    rw [hrest, strip_cons hspace, parseNewPatchPath, if_neg] at h
    · cases hnorm : normalizeRepoRelativePath
          (String.ofList (if startsWith (c :: rstrip rest) "b/" then (c :: rstrip rest).drop 2
            else c :: rstrip rest)) with
      | error e =>
        simp only [hnorm] at h
        cases h
      | ok key =>
        simp only [hnorm] at h
        cases h
        rfl
    · intro hnull
      exact hslash (List.cons.inj hnull).1

/-- The extraction reads a file as it was meant when its added lines are plain and the pieces of
its other lines are harmless. -/
theorem foldlM_file {file : FileDiff}
    (hplain : ∀ line ∈ file.addedLines, Unbroken line ∧ startsWith line "++" = false)
    (hheader : ∀ hunk ∈ file.hunks, ∀ piece ∈ (pieces hunk.header).tail,
      Ignored (!file.isDeleted) piece)
    (hharmless : ∀ hunk ∈ file.hunks, ∀ line ∈ hunk.lines, line.kind ≠ .added →
      ∀ piece ∈ (pieces line.text).tail, Ignored (!file.isDeleted) piece) (state : Extraction) :
    (file.render.flatMap pieces).foldlM step state = state.readFile file := by
  have hleft : state.leave.currentPath = none := rfl
  rw [FileDiff.render, List.cons_append, List.flatMap_cons,
    foldlM_append_of_ok (step_gitHeader state file), List.flatMap_append,
    foldlM_append_of_ok (foldlM_quiet hleft (quiet_extendedHeader file))]
  unfold FileDiff.addedLines FileDiff.hunks at hplain
  unfold FileDiff.hunks at hheader hharmless
  unfold readFile FileDiff.addedLines FileDiff.hunks FileDiff.bodyLines
  cases hbody : file.body with
  | binary forward reverse =>
    apply foldlM_quiet hleft
    intro line hline
    rcases List.mem_append.mp hline with hline | hline
    · rcases List.mem_cons.mp hline with rfl | hline
      · decide
      · exact quiet_binaryHunk forward line hline
    · exact quiet_binaryHunk reverse line hline
  | text hunks =>
    cases hunks with
    | nil => rfl
    | cons hunk hunks =>
      simp only [hbody] at hplain hheader hharmless
      have hold : (pieces ("--- ".toList ++ file.oldLabel)).foldlM step state.leave =
          .ok state.leave :=
        foldlM_pieces_of_quiet ((by decide : Unbroken "--- ".toList).append
          (unbroken_oldLabel file)) (by decide) (by decide)
      simp only [reduceCtorEq, if_false]
      rw [List.flatMap_cons, foldlM_append_of_ok hold, List.flatMap_cons]
      have hnew := step_newLabel state.leave file
      cases hkey : file.headerKey with
      | error e =>
        rw [hkey] at hnew
        rw [List.foldlM_append, hnew]
        rfl
      | ok path =>
        rw [hkey] at hnew
        have hsome := isSome_of_headerKey hkey
        rw [foldlM_append_of_ok hnew, foldlM_hunks hplain]
        · cases path <;> rfl
        · rw [currentPath_openPath, hsome]
          exact hheader
        · rw [currentPath_openPath, hsome]
          exact hharmless

theorem readFile_eq_ok {state state' : Extraction} {file : FileDiff}
    (h : state.readFile file = .ok state') :
    (file.hunks ≠ [] → file.headerKey.isOk = true) ∧ ∀ key, state'.kept key = state.kept key ++
      if file.headerKey.toOption = some (some key) then file.addedLines else [] := by
  unfold readFile at h
  split at h
  · rename_i hempty
    cases h
    have hnone : file.addedLines = [] := by
      rw [FileDiff.addedLines, hempty]
      rfl
    refine ⟨fun hhunks => absurd hempty hhunks, fun key => ?_⟩
    simp [hnone]
  · cases hkey : file.headerKey with
    | error e =>
      rw [hkey] at h
      cases h
    | ok path =>
      rw [hkey] at h
      cases h
      refine ⟨fun _ => rfl, fun key => ?_⟩
      rw [kept_foldl_collect, kept_openPath, currentPath_openPath]
      simp [Except.toOption]

theorem exists_readFile (state : Extraction) {file : FileDiff}
    (h : file.hunks ≠ [] → file.headerKey.isOk = true) :
    ∃ state', state.readFile file = .ok state' := by
  unfold readFile
  split
  · exact ⟨_, rfl⟩
  · rename_i hhunks
    cases hkey : file.headerKey with
    | error e =>
      have hok := h hhunks
      rw [hkey] at hok
      cases hok
    | ok path => exact ⟨_, rfl⟩

/-! ## The whole patch -/

theorem foldlM_files {files : List FileDiff} (hplain : AddedPlain files)
    (hharmless : OthersHarmless files) (state : Extraction) :
    ((files.flatMap FileDiff.render).flatMap pieces).foldlM step state =
      files.foldlM readFile state := by
  have hfile : ∀ file ∈ files, ∀ s : Extraction,
      (file.render.flatMap pieces).foldlM step s = s.readFile file := fun file hfile s =>
    foldlM_file (hplain file hfile) (hharmless.headers file hfile) (hharmless.lines file hfile) s
  clear hplain hharmless
  induction files generalizing state with
  | nil => rfl
  | cons file files ih =>
    rw [List.flatMap_cons, List.flatMap_append, List.foldlM_append,
      hfile file List.mem_cons_self state, List.foldlM_cons]
    apply bind_congr
    intro next
    exact ih next fun f hf => hfile f (List.mem_cons_of_mem file hf)

theorem foldlM_readFile_eq_ok {files : List FileDiff} {state state' : Extraction}
    (h : files.foldlM readFile state = .ok state') :
    (∀ file ∈ files, file.hunks ≠ [] → file.headerKey.isOk = true) ∧
      ∀ key, state'.kept key = state.kept key ++ linesUnder files key := by
  induction files generalizing state with
  | nil =>
    cases h
    exact ⟨by simp, by simp [linesUnder]⟩
  | cons file files ih =>
    rw [List.foldlM_cons] at h
    cases hread : state.readFile file with
    | error e =>
      rw [hread] at h
      cases h
    | ok next =>
      rw [hread] at h
      obtain ⟨hparsed, hkept⟩ := readFile_eq_ok hread
      obtain ⟨hparsed', hkept'⟩ := ih h
      constructor
      · intro f hf
        rcases List.mem_cons.mp hf with rfl | hf
        · exact hparsed
        · exact hparsed' f hf
      · intro key
        rw [hkept', hkept, List.append_assoc]
        rfl

theorem exists_foldlM_readFile {files : List FileDiff} (state : Extraction)
    (h : ∀ file ∈ files, file.hunks ≠ [] → file.headerKey.isOk = true) :
    ∃ state', files.foldlM readFile state = .ok state' := by
  induction files generalizing state with
  | nil => exact ⟨state, rfl⟩
  | cons file files ih =>
    obtain ⟨next, hnext⟩ := exists_readFile state (h file List.mem_cons_self)
    obtain ⟨last, hlast⟩ := ih next fun f hf => h f (List.mem_cons_of_mem file hf)
    refine ⟨last, ?_⟩
    rw [List.foldlM_cons, hnext]
    exact hlast

/-! ## What is kept is plain -/

def Plain (state : Extraction) : Prop :=
  ∀ key, ∀ line ∈ state.kept key, Unbroken line ∧ startsWith line "++" = false

theorem plain_of_kept {state state' : Extraction} (h : state.Plain)
    (hkept : ∀ key, state'.kept key = state.kept key) : state'.Plain := by
  intro key line hline
  apply h key line
  rwa [← hkept key]

/-- One pass of the loop keeps nothing that looks like a new path. -/
theorem Plain.step {state state' : Extraction} (h : state.Plain) {line : Text}
    (hline : Unbroken line) (hstep : state.step line = .ok state') : state'.Plain := by
  unfold Extraction.step at hstep
  split at hstep
  · cases hstep
    exact plain_of_kept h fun key => rfl
  · split at hstep
    · cases hpath : parseNewPatchPath (strip (line.drop 4)) with
      | error e =>
        rw [hpath] at hstep
        cases hstep
      | ok path =>
        rw [hpath] at hstep
        cases hstep
        cases path with
        | none => exact plain_of_kept h fun key => rfl
        | some path => exact plain_of_kept h (kept_enter state path)
    · split at hstep
      · cases hstep
        exact h
      · split at hstep
        · rename_i path _ hadded
          cases hstep
          intro key kept hkept
          rw [kept_append] at hkept
          rcases List.mem_append.mp hkept with hkept | hkept
          · exact h key kept hkept
          · split at hkept
            · rw [List.mem_singleton.mp hkept]
              rw [Bool.and_eq_true, Bool.not_eq_true'] at hadded
              obtain ⟨rest, hrest⟩ : ∃ rest, line = '+' :: rest := by
                obtain ⟨rest, hrest⟩ := List.isPrefixOf_iff_prefix.mp hadded.1
                exact ⟨rest, hrest.symm⟩
              subst hrest
              exact ⟨fun c hc => hline c (List.mem_cons_of_mem _ hc), hadded.2⟩
            · cases hkept
        · cases hstep
          exact h

theorem Plain.foldlM {state state' : Extraction} (h : state.Plain) {lines : List Text}
    (hlines : ∀ line ∈ lines, Unbroken line) (hrun : lines.foldlM Extraction.step state = .ok state') :
    state'.Plain := by
  induction lines generalizing state with
  | nil =>
    cases hrun
    exact h
  | cons line lines ih =>
    rw [List.foldlM_cons] at hrun
    cases hstep : state.step line with
    | error e =>
      rw [hstep] at hrun
      cases hrun
    | ok next =>
      rw [hstep] at hrun
      exact ih (h.step (hlines line List.mem_cons_self) hstep)
        (fun l hl => hlines l (List.mem_cons_of_mem line hl)) hrun

end Rygnal.ChangeRisk.Extraction

namespace Rygnal.ChangeRisk.GitPatch
open Rygnal.Core Rygnal.Library Rygnal.Library.PyText

/-! ## The extraction of a patch -/

/-- What the extraction returns holds only lines without boundaries that do not look like a new
path. -/
theorem plain_of_extract {patch : Text} {addedLines : AddedLines}
    (h : extractAddedLinesByPath patch = .ok addedLines) (path : Text) :
    ∀ line ∈ linesOf addedLines path, Unbroken line ∧ startsWith line "++" = false := by
  unfold extractAddedLinesByPath at h
  cases hrun : (splitlines patch).foldlM Extraction.step ⟨none, []⟩ with
  | error e =>
    rw [hrun] at h
    cases h
  | ok last =>
    rw [hrun] at h
    cases h
    have hempty : Extraction.Plain ⟨none, []⟩ := by
      intro key line hline
      cases hline
    have hlast := hempty.foldlM (fun line hline => isLineBreak_of_mem_splitlines hline) hrun
    unfold linesOf
    cases normalizeRepoRelativePath (String.ofList path) with
    | error e =>
      intro line hline
      cases hline
    | ok key => exact hlast key

/-- A patch that is read as it was meant gives every key the added lines of the files whose
headers are read as the key. -/
theorem extract_renderPatch {files : List FileDiff} (hplain : AddedPlain files)
    (hharmless : OthersHarmless files) :
    extractAddedLinesByPath (renderPatch files) =
      (files.foldlM Extraction.readFile ⟨none, []⟩).map Extraction.addedLines := by
  rw [extractAddedLinesByPath, renderPatch, splitlines_unlines,
    Extraction.foldlM_files hplain hharmless]

theorem linesUnder_of_extract {files : List FileDiff} (hplain : AddedPlain files)
    (hharmless : OthersHarmless files) {addedLines : AddedLines}
    (h : extractAddedLinesByPath (renderPatch files) = .ok addedLines) :
    (∀ file ∈ files, file.hunks ≠ [] → file.headerKey.isOk = true) ∧
      ∀ key, (addedLines.get key).getD [] = linesUnder files key := by
  rw [extract_renderPatch hplain hharmless] at h
  cases hrun : files.foldlM Extraction.readFile ⟨none, []⟩ with
  | error e =>
    rw [hrun] at h
    cases h
  | ok last =>
    rw [hrun] at h
    cases h
    obtain ⟨hparsed, hkept⟩ := Extraction.foldlM_readFile_eq_ok hrun
    exact ⟨hparsed, hkept⟩

theorem exists_extract {files : List FileDiff} (hplain : AddedPlain files)
    (hharmless : OthersHarmless files)
    (h : ∀ file ∈ files, file.hunks ≠ [] → file.headerKey.isOk = true) :
    ∃ addedLines, extractAddedLinesByPath (renderPatch files) = .ok addedLines := by
  obtain ⟨last, hlast⟩ := Extraction.exists_foldlM_readFile ⟨none, []⟩ h
  refine ⟨last.addedLines, ?_⟩
  rw [extract_renderPatch hplain hharmless, hlast]
  rfl

/-- A deleted file adds no line. -/
theorem addedLines_of_deleted {file : FileDiff} (h : file.isDeleted = true) :
    file.addedLines = [] := by
  unfold FileDiff.isDeleted at h
  cases hchange : file.change with
  | deleted mode =>
    unfold FileDiff.addedLines FileDiff.hunks
    cases hbody : file.body with
    | binary forward reverse => rfl
    | text hunks =>
      apply List.flatMap_eq_nil_iff.mpr
      intro hunk hhunk
      rw [Hunk.addedLines, List.map_eq_nil_iff, List.filter_eq_nil_iff]
      intro line hline
      rw [file.removedOnly mode hchange hunks hbody hunk hhunk line hline]
      decide
  | _ =>
    rw [hchange] at h
    cases h

/-! ## Paths that Git does not quote -/

theorem normalizeRepoRelativePath_congr {s t key : String}
    (h : strip (replaceChar '\\' '/' s.toList) = strip (replaceChar '\\' '/' t.toList))
    (hkey : normalizeRepoRelativePath s = .ok key) : normalizeRepoRelativePath t = .ok key := by
  unfold normalizeRepoRelativePath at hkey ⊢
  rw [← h]
  dsimp only at hkey ⊢
  split_ifs at hkey ⊢
  exact hkey

theorem replaceChar_of_unquoted {path : Text} (h : path.any mustQuote = false) :
    replaceChar '\\' '/' path = path := by
  refine (List.map_congr_left fun c hc => ?_).trans (List.map_id path)
  have hne : c ≠ '\\' := by
    rintro rfl
    exact absurd (by decide) (List.any_eq_false.mp h _ hc)
  rw [if_neg hne, id]

/-- A path that Git does not quote is read back as itself. -/
theorem headerKey_of_unquoted {file : FileDiff} (hdeleted : file.isDeleted = false)
    (hpath : file.path.any mustQuote = false) {key : String}
    (hkey : normalizeRepoRelativePath (String.ofList file.path) = .ok key) :
    file.headerKey = .ok (some key) := by
  have hquote : quoteTwo "b/" file.path = 'b' :: '/' :: file.path := by
    rw [quoteTwo, if_neg (by simp [hpath])]
    rfl
  have hlabel : strip file.newLabel = 'b' :: '/' :: rstrip file.path := by
    have htab : rstrip (file.path ++ ['\t']) = rstrip file.path :=
      List.rdropWhile_concat_pos isSpace file.path '\t' (by decide)
    rw [FileDiff.newLabel, if_neg (by simp [hdeleted]), label, hquote]
    split
    · rw [List.cons_append, List.cons_append, strip_cons (by decide), rstrip_cons (by decide), htab]
    · rw [strip_cons (by decide), rstrip_cons (by decide)]
  have hquiet : (rstrip file.path).any mustQuote = false := by
    rw [List.any_eq_false] at hpath ⊢
    exact fun c hc => hpath c ((List.rdropWhile_prefix isSpace file.path).subset hc)
  have hsame : normalizeRepoRelativePath (String.ofList (rstrip file.path)) = .ok key := by
    apply normalizeRepoRelativePath_congr _ hkey
    rw [String.toList_ofList, String.toList_ofList, replaceChar_of_unquoted hpath,
      replaceChar_of_unquoted hquiet, strip_rstrip]
  have hnull : 'b' :: '/' :: rstrip file.path ≠ "/dev/null".toList := by
    intro h
    cases (List.cons.inj h).1
  have hstart : startsWith ('b' :: '/' :: rstrip file.path) "b/" = true := by simp [startsWith]
  have hdrop : ('b' :: '/' :: rstrip file.path).drop 2 = rstrip file.path := rfl
  rw [FileDiff.headerKey, hlabel, parseNewPatchPath, if_neg hnull, if_pos hstart, hdrop]
  simp only [hsame]
  rfl

theorem headerKey_of_deleted {file : FileDiff} (h : file.isDeleted = true) :
    file.headerKey = .ok none := by
  rw [FileDiff.headerKey, FileDiff.newLabel, if_pos h]
  rfl

theorem linesUnder_eq_nil {files : List FileDiff} {key : String}
    (h : ∀ file ∈ files, file.headerKey.toOption ≠ some (some key)) :
    linesUnder files key = [] := by
  apply List.flatMap_eq_nil_iff.mpr
  intro file hfile
  rw [if_neg (h file hfile)]

/-- The headers of distinct paths that Git does not quote are read as the paths. -/
theorem headersRead_of_unquoted {files : List FileDiff}
    (hpaths : ∀ file ∈ files, file.isDeleted = false → file.path.any mustQuote = false ∧
      (normalizeRepoRelativePath (String.ofList file.path)).isOk = true)
    (hdistinct : files.Pairwise fun f g => f.isDeleted = false → g.isDeleted = false →
      normalizeRepoRelativePath (String.ofList f.path) ≠
        normalizeRepoRelativePath (String.ofList g.path)) : HeadersRead files := by
  have hkeys : ∀ file ∈ files, ∀ key, file.headerKey.toOption = some (some key) ↔
      file.isDeleted = false ∧ normalizeRepoRelativePath (String.ofList file.path) = .ok key := by
    intro file hfile key
    cases hdeleted : file.isDeleted with
    | true => simp [headerKey_of_deleted hdeleted, Except.toOption]
    | false =>
      obtain ⟨hquote, hok⟩ := hpaths file hfile hdeleted
      cases hnorm : normalizeRepoRelativePath (String.ofList file.path) with
      | error e =>
        rw [hnorm] at hok
        cases hok
      | ok own => simp [headerKey_of_unquoted hdeleted hquote hnorm, Except.toOption]
  have hunder : ∀ file ∈ files, file.isDeleted = false → ∀ key,
      normalizeRepoRelativePath (String.ofList file.path) = .ok key →
        linesUnder files key = file.addedLines := by
    clear hpaths
    induction hdistinct with
    | nil =>
      intro file hfile
      cases hfile
    | @cons f fs hf _ ih =>
      intro file hfile hdeleted key hnorm
      rw [linesUnder, List.flatMap_cons]
      rcases List.mem_cons.mp hfile with rfl | hfile
      · have hrest : linesUnder fs key = [] := by
          apply linesUnder_eq_nil
          intro g hg hkey
          obtain ⟨hg', hnorm'⟩ := (hkeys g (List.mem_cons_of_mem _ hg) key).mp hkey
          exact hf g hg hdeleted hg' (hnorm.trans hnorm'.symm)
        rw [if_pos ((hkeys file List.mem_cons_self key).mpr ⟨hdeleted, hnorm⟩)]
        exact (congrArg (file.addedLines ++ ·) hrest).trans (List.append_nil _)
      · have hhead : f.headerKey.toOption ≠ some (some key) := by
          intro hkey
          obtain ⟨hf', hnorm'⟩ := (hkeys f List.mem_cons_self key).mp hkey
          exact hf file hfile hf' hdeleted (hnorm'.trans hnorm.symm)
        rw [if_neg hhead]
        exact ih (fun g hg => hkeys g (List.mem_cons_of_mem f hg)) file hfile hdeleted key hnorm
  constructor
  · intro file hfile _
    cases hdeleted : file.isDeleted with
    | true =>
      rw [headerKey_of_deleted hdeleted]
      rfl
    | false =>
      obtain ⟨hquote, hok⟩ := hpaths file hfile hdeleted
      cases hnorm : normalizeRepoRelativePath (String.ofList file.path) with
      | error e =>
        rw [hnorm] at hok
        cases hok
      | ok key =>
        rw [headerKey_of_unquoted hdeleted hquote hnorm]
        rfl
  · intro file hfile hdeleted
    obtain ⟨-, hok⟩ := hpaths file hfile hdeleted
    cases hnorm : normalizeRepoRelativePath (String.ofList file.path) with
    | error e =>
      rw [hnorm] at hok
      cases hok
    | ok key => exact (hunder file hfile hdeleted key hnorm).symm

/-! ## Attribution -/

section Attributed
variable [UnicodeTables]

/-- A line kept under the path of a file reaches the scan of that file. -/
theorem scanned_of_linesOf {addedLines : AddedLines} {path line : Text}
    (hline : line ∈ linesOf addedLines path) {fileDiff : PatchFileDiff}
    (hpath : fileDiff.path = String.ofList path) :
    ∃ fileRisk, classifyPatchFileRisk fileDiff addedLines = .ok fileRisk ∧
      ∀ check ∈ lineChecks fileRisk.path, check.pattern.search line = true →
        check.reason ∈ fileRisk.reasons := by
  unfold linesOf at hline
  cases hnorm : normalizeRepoRelativePath (String.ofList path) with
  | error e =>
    rw [hnorm] at hline
    cases hline
  | ok key =>
    rw [hnorm] at hline
    have hclassified : ∃ fileRisk, classifyPatchFileRisk fileDiff addedLines = .ok fileRisk := by
      unfold classifyPatchFileRisk
      rw [hpath, hnorm]
      exact ⟨_, rfl⟩
    obtain ⟨fileRisk, hrisk⟩ := hclassified
    obtain ⟨own, hown, hkey, hreasons, -⟩ := classifyPatchFileRisk_eq_ok hrisk
    rw [hpath, hnorm, Except.ok.injEq] at hown
    subst hown
    refine ⟨fileRisk, hrisk, fun check hcheck hsearch => ?_⟩
    rw [hkey] at hcheck
    have hreason : check.reason ∈ contentRiskReasons key ((addedLines.get key).getD []) :=
      mem_contentRiskReasons.mpr ⟨check, hcheck, ⟨line, hline, hsearch⟩, rfl⟩
    have hsignal : check.reason ∈ signalReasons fileDiff key ((addedLines.get key).getD []) :=
      List.mem_append_right _ hreason
    rw [hreasons, fileRiskReasons, if_neg (List.ne_nil_of_mem hsignal)]
    exact hsignal

theorem attributes_of_exact {files : List FileDiff} {addedLines : AddedLines}
    (h : ∀ file ∈ files, file.isDeleted = false → linesOf addedLines file.path = file.addedLines) :
    Attributes files addedLines where
  exact := h
  scanned := by
    intro file hfile hdeleted line hline fileDiff hpath
    apply scanned_of_linesOf _ hpath
    rwa [h file hfile hdeleted]

theorem addedPlain_of_attributed {files : List FileDiff} (h : Attributed files) :
    AddedPlain files := by
  obtain ⟨addedLines, hextract, hattributes⟩ := h
  intro file hfile line hline
  cases hdeleted : file.isDeleted with
  | true =>
    rw [addedLines_of_deleted hdeleted] at hline
    cases hline
  | false =>
    rw [← hattributes.exact file hfile hdeleted] at hline
    exact plain_of_extract hextract file.path line hline

/-- The extraction attributes no added line that looks like a new path or that `splitlines`
cuts. Where it cuts off nothing harmful elsewhere, it attributes all others exactly when the
headers are read as the paths they stand for. -/
theorem attributed_iff (files : List FileDiff) :
    (OthersHarmless files → (Attributed files ↔ AddedPlain files ∧ HeadersRead files)) ∧
      (Attributed files → AddedPlain files) := by
  refine ⟨fun hharmless => ⟨fun h => ?_, fun h => ?_⟩, addedPlain_of_attributed⟩
  · have hplain := addedPlain_of_attributed h
    obtain ⟨addedLines, hextract, hattributes⟩ := h
    obtain ⟨hparsed, hkeys⟩ := linesUnder_of_extract hplain hharmless hextract
    refine ⟨hplain, hparsed, fun file hfile hdeleted => ?_⟩
    rw [← hattributes.exact file hfile hdeleted, linesOf]
    cases normalizeRepoRelativePath (String.ofList file.path) with
    | error e => rfl
    | ok key => exact hkeys key
  · obtain ⟨hplain, hparsed, hkeyed⟩ := h
    obtain ⟨addedLines, hextract⟩ := exists_extract hplain hharmless hparsed
    obtain ⟨-, hkeys⟩ := linesUnder_of_extract hplain hharmless hextract
    refine ⟨addedLines, hextract, attributes_of_exact fun file hfile hdeleted => ?_⟩
    rw [hkeyed file hfile hdeleted, linesOf]
    cases normalizeRepoRelativePath (String.ofList file.path) with
    | error e => rfl
    | ok key => exact hkeys key

end Attributed

namespace Sample

/-- The patch of a text file to which the lines are added. -/
def notes (texts : List String) (h : ∀ text ∈ texts, '\n' ∉ text.toList) : FileDiff where
  path := "docs/notes.txt".toList
  change := .modified
  modes := none
  index := none
  body := .text [{
    oldStart := 1
    newStart := 1
    heading := []
    lines := ⟨.context, "Notes".toList, true, by decide⟩ ::
      texts.attach.map fun text => ⟨.added, text.val.toList, true, h text.val text.property⟩
    noLineFeed := by simp }]
  removedOnly := by
    intro mode h
    cases h

end Sample

open PyText.Ascii

/-- A credential in an ordinary line reaches the scan. -/
theorem notes_attributed : Attributed [Sample.notes ["password = example-value"] (by decide)] := by
  have hharmless : OthersHarmless [Sample.notes ["password = example-value"] (by decide)] :=
    ⟨by decide, by decide⟩
  have hplain : AddedPlain [Sample.notes ["password = example-value"] (by decide)] := by
    unfold AddedPlain
    decide
  have hheaders : HeadersRead [Sample.notes ["password = example-value"] (by decide)] :=
    headersRead_of_unquoted (by decide) (List.pairwise_singleton _ _)
  exact ((attributed_iff _).1 hharmless).mpr ⟨hplain, hheaders⟩

/-- After an added line `++ /dev/null` the extraction keeps nothing of the file, and no added
line reaches the scan. -/
theorem hidden_notes_unattributed :
    extractAddedLinesByPath (renderPatch
        [Sample.notes ["++ /dev/null", "password = example-value"] (by decide)]) =
      .ok [("docs/notes.txt", [])] ∧
    ¬ Attributed [Sample.notes ["++ /dev/null", "password = example-value"] (by decide)] := by
  refine ⟨by decide, fun h => ?_⟩
  have hplain := addedPlain_of_attributed h _ List.mem_cons_self "++ /dev/null".toList
    (by decide)
  exact absurd hplain.2 (by decide)

end Rygnal.ChangeRisk.GitPatch
