import Mathlib.Algebra.Order.BigOperators.Group.List
import Mathlib.Algebra.Order.Ring.Nat
import Rygnal.ChangeRisk.Classification
import Rygnal.ChangeRisk.HeaderWords
import Rygnal.GuardedRun.RecordRoundTrip

/-! # Modes of a rendered patch

`parse_git_patch_modes` on the patches of Git. It reads the path of a file in the words of its
`diff --git` line, where a space in a path or an escape of Git ends up in other words, and it
looks for mode lines in the pieces of hunk lines too.
-/

namespace Rygnal.GuardedRun
open Rygnal.Core Rygnal.Core.PyException Rygnal.Library Rygnal.Library.PyText Rygnal.ChangeRisk
  Rygnal.ChangeRisk.GitPatch

/-! ## What a patch says -/

/-- The modes of the extended header. -/
def headerModes (file : FileDiff) : Option String × Option String :=
  (match file.change with
    | .deleted mode => some mode.text
    | _ => file.modes.map fun modes => modes.1.text,
  match file.change with
    | .added mode => some mode.text
    | _ => file.modes.map fun modes => modes.2.text)

/-- The entry of a file under a path, when its header gives a mode. -/
def modeEntry (path : Option String) (file : FileDiff) : List (String × PatchModeMetadata) :=
  match path, headerModes file with
  | none, _ => []
  | some _, (none, none) => []
  | some path, (oldMode, newMode) => [(path, ⟨oldMode, newMode, modesDiffer oldMode newMode⟩)]

/-- The modes that the extended headers give, each under the path of its file. -/
def givenModes (files : List FileDiff) : List (String × PatchModeMetadata) :=
  files.flatMap fun file => modeEntry (some (String.ofList file.path)) file

/-- Every path has exactly the modes of its last header with a mode; and a symbolic link or a
submodule is recorded as such, a symbolic link with a critical reason. -/
structure ModesRecorded [UnicodeTables] (files : List FileDiff)
    (modes : List (String × PatchModeMetadata)) : Prop where
  exact : ∀ path, modes.reverse.lookup path = (givenModes files).reverse.lookup path
  recorded : ∀ (changedFile : ChangedFile) (stats : List (String × LineStats)) metadata mode,
    (givenModes files).reverse.lookup changedFile.path = some metadata →
      mode ∈ [GitMode.symlink, .submodule] → metadata.newMode = some mode.text →
        changedFile.newMode ∈ [none, some mode.text] →
          (buildPatchFileDiff stats modes changedFile).newMode = some mode.text ∧
            (mode = .symlink → ∃ reason ∈ metadataRiskReasons
              (buildPatchFileDiff stats modes changedFile),
                reason.code = "symlink-change" ∧ reason.riskLevel = .critical)

/-! ## When the patch is read as it was meant -/

/-- The path that is read in the header of a file. -/
def readPath (file : FileDiff) : Option String :=
  (parseDiffGitPaths file.gitHeader).toOption.join

/-- The file has a header with a mode. -/
def HasMode (file : FileDiff) : Prop := headerModes file ≠ (none, none)

/-- The headers are accepted, and those with a mode are written with their paths as they are. -/
structure ModeHeadersRead (files : List FileDiff) : Prop where
  parsed : ∀ file ∈ files, (parseDiffGitPaths file.gitHeader).isOk = true
  oneWord : ∀ file ∈ files, HasMode file → OneWord file.oldPath
  plain : ∀ file ∈ files, HasMode file → ShellPlain file.path
  normal : ∀ file ∈ files, HasMode file → NormalPath (String.ofList file.path)

/-- A line that is no mode line, and no header that cannot be read. -/
structure NoMode (line : Text) : Prop where
  modes : ∀ start ∈ ["new file mode ", "deleted file mode ", "old mode ", "new mode "],
    startsWith line start = false
  header : startsWith line "diff --git " = true → (parseDiffGitPaths line).isOk = true

/-- What `splitlines` cuts off the hunk headers and the hunk lines is no mode line. -/
structure BodiesHarmless (files : List FileDiff) : Prop where
  headers : ∀ file ∈ files, ∀ hunk ∈ file.hunks, ∀ piece ∈ (pieces hunk.header).tail, NoMode piece
  lines : ∀ file ∈ files, ∀ hunk ∈ file.hunks, ∀ line ∈ hunk.lines,
    ∀ piece ∈ (pieces line.text).tail, NoMode piece

/-! ## One line -/

namespace ModeScan

/-- Reading these lines leaves the collected modes as they are. -/
def Passes (lines : List Text) : Prop := ∀ scan : ModeScan,
  ∃ scan', lines.foldlM step scan = .ok scan' ∧ scan'.flush = scan.flush

theorem Passes.nil : Passes [] := fun scan => ⟨scan, rfl, rfl⟩

theorem Passes.append {lines lines' : List Text} (h : Passes lines) (h' : Passes lines') :
    Passes (lines ++ lines') := by
  intro scan
  have ⟨mid, hmid, hflush⟩ := h scan
  have ⟨scan', hscan', hflush'⟩ := h' mid
  refine ⟨scan', ?_, hflush'.trans hflush⟩
  rw [List.foldlM_append, hmid]
  exact hscan'

theorem Passes.flatMap {α : Type} {f : α → List Text} {xs : List α} (h : ∀ x ∈ xs, Passes (f x)) :
    Passes (xs.flatMap f) := by
  induction xs with
  | nil => exact .nil
  | cons x xs ih =>
    rw [List.flatMap_cons]
    exact (h x List.mem_cons_self).append (ih fun y hy => h y (List.mem_cons_of_mem x hy))

theorem step_of_noMode (scan : ModeScan) {line : Text} (h : NoMode line) :
    ∃ scan', scan.step line = .ok scan' ∧ scan'.flush = scan.flush := by
  have hnew := h.modes "new file mode " (by simp)
  have hdeleted := h.modes "deleted file mode " (by simp)
  have hold := h.modes "old mode " (by simp)
  have hmode := h.modes "new mode " (by simp)
  simp only [step, hnew, hdeleted, hold, hmode, Bool.false_eq_true, if_false, ite_self]
  cases hheader : startsWith line "diff --git " with
  | false => exact ⟨scan, rfl, rfl⟩
  | true =>
    have hok := h.header hheader
    cases hpath : parseDiffGitPaths line with
    | error exc =>
      rw [hpath] at hok
      cases hok
    | ok path =>
      refine ⟨⟨path, none, none, scan.flush⟩, rfl, ?_⟩
      cases path with
      | none => rfl
      | some path => simp [flush]

theorem passes_of_noMode {lines : List Text} (h : ∀ line ∈ lines, NoMode line) : Passes lines := by
  induction lines with
  | nil => exact .nil
  | cons line lines ih =>
    intro scan
    have ⟨mid, hmid, hflush⟩ := step_of_noMode scan (h line List.mem_cons_self)
    have ⟨scan', hscan', hflush'⟩ := ih (fun l hl => h l (List.mem_cons_of_mem line hl)) mid
    refine ⟨scan', ?_, hflush'.trans hflush⟩
    rw [List.foldlM_cons, hmid]
    exact hscan'

/-- The first character tells a line from a header and from a mode line. -/
theorem noMode_cons {c : Char} (h : c ∉ ['d', 'n', 'o']) (line : Text) : NoMode (c :: line) := by
  simp only [List.mem_cons, List.not_mem_nil, or_false, not_or] at h
  obtain ⟨hd, hn, ho⟩ := h
  constructor
  · intro start hstart
    simp only [List.mem_cons, List.not_mem_nil, or_false] at hstart
    rcases hstart with rfl | rfl | rfl | rfl
    · exact startsWith_cons_of_ne rfl hn line
    · exact startsWith_cons_of_ne rfl hd line
    · exact startsWith_cons_of_ne rfl ho line
    · exact startsWith_cons_of_ne rfl hn line
  · intro hstart
    rw [startsWith_cons_of_ne rfl hd line] at hstart
    cases hstart

/-- A line with a harmless first character and harmless pieces is passed as a whole. -/
theorem passes_pieces {c : Char} {text : Text} (hc : isLineBreak c = false)
    (hfirst : c ∉ ['d', 'n', 'o']) (h : ∀ piece ∈ (pieces (c :: text)).tail, NoMode piece) :
    Passes (pieces (c :: text)) := by
  obtain ⟨first, rest, -, hpieces⟩ := pieces_cons hc text
  rw [hpieces] at h ⊢
  apply passes_of_noMode
  intro line hline
  rcases List.mem_cons.mp hline with rfl | hline
  · exact noMode_cons hfirst first
  · exact h line hline

theorem passes_unbroken {line : Text} (h : Unbroken line) (hnone : NoMode line) :
    Passes (pieces line) := by
  rw [pieces_of_forall h]
  apply passes_of_noMode
  intro l hl
  rwa [List.mem_singleton.mp hl]

/-! ## Bodies -/

theorem passes_hunkLine {line : HunkLine} (h : ∀ piece ∈ (pieces line.text).tail, NoMode piece) :
    Passes (line.render.flatMap pieces) := by
  rw [HunkLine.render, List.flatMap_cons]
  apply Passes.append
  · have htail : ∀ c, isLineBreak c = false →
        (pieces (c :: line.text)).tail = (pieces line.text).tail := by
      intro c hc
      obtain ⟨first, rest, hpieces, hcons⟩ := pieces_cons hc line.text
      rw [hpieces, hcons, List.tail_cons, List.tail_cons]
    have hsign : isLineBreak line.kind.sign = false := by cases line.kind <;> decide
    apply passes_pieces hsign
    · cases line.kind <;> decide
    · rw [htail _ hsign]
      exact h
  · split
    · exact .nil
    · rw [List.flatMap_singleton]
      exact passes_unbroken (by decide) (noMode_cons (by decide) _)

theorem passes_hunk {hunk : Hunk} (hheader : ∀ piece ∈ (pieces hunk.header).tail, NoMode piece)
    (hlines : ∀ line ∈ hunk.lines, ∀ piece ∈ (pieces line.text).tail, NoMode piece) :
    Passes (hunk.render.flatMap pieces) := by
  have hat : ∃ rest, hunk.header = '@' :: rest := by
    rw [Hunk.header]
    simp only [String.toList_append, List.append_assoc]
    exact ⟨_, rfl⟩
  obtain ⟨rest, hrest⟩ := hat
  rw [hrest] at hheader
  rw [Hunk.render, List.flatMap_cons, hrest, List.flatMap_assoc]
  apply (passes_pieces (by decide) (by decide) hheader).append
  exact .flatMap fun line hline => passes_hunkLine (hlines line hline)

theorem noMode_of_no_space {line : Text} (h : ' ' ∉ line) : NoMode line := by
  have hstart : ∀ start : String, ' ' ∈ start.toList → startsWith line start = false := by
    intro start hspace
    rw [Bool.eq_false_iff]
    intro hprefix
    exact h ((List.isPrefixOf_iff_prefix.mp hprefix).subset hspace)
  constructor
  · intro start hmem
    apply hstart
    simp only [List.mem_cons, List.not_mem_nil, or_false] at hmem
    rcases hmem with rfl | rfl | rfl | rfl <;> decide
  · intro hheader
    rw [hstart _ (by decide)] at hheader
    cases hheader

theorem passes_binaryHunk (hunk : BinaryHunk) : Passes (hunk.render.flatMap pieces) := by
  have hsize : NoMode ((if hunk.method then "literal " else "delta ").toList ++
      Nat.toDigits 10 hunk.size) := by
    cases hunk.method with
    | true => exact noMode_cons (by decide) _
    | false =>
      constructor
      · intro start hstart
        simp only [List.mem_cons, List.not_mem_nil, or_false] at hstart
        rcases hstart with rfl | rfl | rfl | rfl <;> simp [startsWith, List.isPrefixOf]
      · simp [startsWith, List.isPrefixOf]
  apply Passes.flatMap
  intro line hline
  have hunbroken : Unbroken line := (quiet_binaryHunk hunk line hline).unbroken
  apply passes_unbroken hunbroken
  rcases List.mem_append.mp hline with hline | hline
  · rcases List.mem_cons.mp hline with rfl | hline
    · exact hsize
    · obtain ⟨data, -, rfl⟩ := List.mem_map.mp hline
      exact noMode_of_no_space (space_notMem_dataLine data)
  · rw [List.mem_singleton.mp hline]
    exact noMode_of_no_space (by simp)

/-- The body of a file adds no mode. -/
theorem passes_body {file : FileDiff}
    (hheaders : ∀ hunk ∈ file.hunks, ∀ piece ∈ (pieces hunk.header).tail, NoMode piece)
    (hlines : ∀ hunk ∈ file.hunks, ∀ line ∈ hunk.lines,
      ∀ piece ∈ (pieces line.text).tail, NoMode piece) :
    Passes (file.bodyLines.flatMap pieces) := by
  unfold FileDiff.hunks at hheaders hlines
  unfold FileDiff.bodyLines
  have hlabel : ∀ start, Unbroken start.toList → ∀ path, Unbroken (label start path) :=
    fun _ hstart path => unbroken_label hstart path
  have hold : Unbroken file.oldLabel := by
    unfold FileDiff.oldLabel
    split
    · decide
    · exact hlabel "a/" (by decide) _
  have hnew : Unbroken file.newLabel := by
    unfold FileDiff.newLabel
    split
    · decide
    · exact hlabel "b/" (by decide) _
  split
  · exact .nil
  · rename_i hunks _ hbody
    rw [hbody] at hheaders hlines
    rw [List.flatMap_cons, List.flatMap_cons]
    refine (passes_unbroken ((by decide : Unbroken "--- ".toList).append hold)
      (noMode_cons (by decide) _)).append ?_
    refine (passes_unbroken ((by decide : Unbroken "+++ ".toList).append hnew)
      (noMode_cons (by decide) _)).append ?_
    rw [List.flatMap_assoc]
    exact .flatMap fun hunk hhunk => passes_hunk (hheaders hunk hhunk) (hlines hunk hhunk)
  · rw [List.flatMap_append, List.flatMap_cons]
    apply Passes.append
    · exact (passes_unbroken (by decide) (noMode_cons (by decide) _)).append (passes_binaryHunk _)
    · exact passes_binaryHunk _

/-! ## Headers -/

theorem step_gitHeader {file : FileDiff} {path : Option String}
    (h : parseDiffGitPaths file.gitHeader = .ok path) (scan : ModeScan) :
    scan.step file.gitHeader = .ok ⟨path, none, none, scan.flush⟩ := by
  have hstart : startsWith file.gitHeader "diff --git " = true :=
    List.isPrefixOf_iff_prefix.mpr ⟨_, (List.append_assoc _ _ _).symm⟩
  simp only [step, hstart, if_true, h]
  rfl

/-- Without a path no extended header counts. -/
theorem foldlM_of_none {scan : ModeScan} (hscan : scan.currentPath = none) {lines : List Text}
    (h : ∀ line ∈ lines, startsWith line "diff --git " = false) :
    lines.foldlM step scan = .ok scan := by
  induction lines with
  | nil => rfl
  | cons line lines ih =>
    have hstep : scan.step line = .ok scan := by
      simp only [step, h line List.mem_cons_self, hscan, Bool.false_eq_true, if_false, if_true]
    rw [List.foldlM_cons, hstep]
    exact ih fun l hl => h l (List.mem_cons_of_mem line hl)

theorem step_cons_of_other {c : Char} (h : c ∉ ['d', 'n', 'o']) (scan : ModeScan) (line : Text) :
    scan.step (c :: line) = .ok scan := by
  have hnone := noMode_cons h line
  have hheader : startsWith (c :: line) "diff --git " = false := by
    simp only [List.mem_cons, List.not_mem_nil, or_false, not_or] at h
    exact startsWith_cons_of_ne rfl h.1 line
  simp only [step, hheader, hnone.modes "new file mode " (by simp),
    hnone.modes "deleted file mode " (by simp), hnone.modes "old mode " (by simp),
    hnone.modes "new mode " (by simp), Bool.false_eq_true, if_false, ite_self]

theorem foldlM_of_other {scan : ModeScan} {lines : List Text}
    (h : ∀ line ∈ lines, ∃ c rest, line = c :: rest ∧ c ∉ ['d', 'n', 'o']) :
    lines.foldlM step scan = .ok scan := by
  induction lines with
  | nil => rfl
  | cons line lines ih =>
    obtain ⟨c, rest, rfl, hc⟩ := h line List.mem_cons_self
    rw [List.foldlM_cons, step_cons_of_other hc]
    exact ih fun l hl => h l (List.mem_cons_of_mem _ hl)

section Lines
variable (path : String) (oldMode newMode : Option String)
  (modes : List (String × PatchModeMetadata)) (mode : GitMode)

theorem step_oldMode : step ⟨some path, oldMode, newMode, modes⟩ ("old mode " ++ mode.text).toList =
    .ok ⟨some path, some mode.text, newMode, modes⟩ := by
  cases mode <;> rfl

theorem step_newMode : step ⟨some path, oldMode, newMode, modes⟩ ("new mode " ++ mode.text).toList =
    .ok ⟨some path, oldMode, some mode.text, modes⟩ := by
  cases mode <;> rfl

theorem step_newFileMode :
    step ⟨some path, oldMode, newMode, modes⟩ ("new file mode " ++ mode.text).toList =
      .ok ⟨some path, oldMode, some mode.text, modes⟩ := by
  cases mode <;> rfl

theorem step_deletedFileMode :
    step ⟨some path, oldMode, newMode, modes⟩ ("deleted file mode " ++ mode.text).toList =
      .ok ⟨some path, some mode.text, newMode, modes⟩ := by
  cases mode <;> rfl

end Lines

theorem foldlM_one {scan scan' : ModeScan} {line : Text} (h : scan.step line = .ok scan') :
    [line].foldlM step scan = .ok scan' := by
  rw [List.foldlM_cons, h]
  rfl

theorem foldlM_modeLines (file : FileDiff) (path : String)
    (modes : List (String × PatchModeMetadata)) :
    file.modeLines.foldlM step ⟨some path, none, none, modes⟩ =
      .ok ⟨some path, file.modes.map fun modes => modes.1.text,
        file.modes.map fun modes => modes.2.text, modes⟩ := by
  unfold FileDiff.modeLines
  cases file.modes with
  | none => rfl
  | some fileModes =>
    rw [List.foldlM_cons, step_oldMode]
    exact foldlM_one (step_newMode path (some fileModes.1.text) none modes fileModes.2)

theorem foldlM_changeLines (file : FileDiff) (path : String) (oldMode newMode : Option String)
    (modes : List (String × PatchModeMetadata)) :
    file.changeLines.foldlM step ⟨some path, oldMode, newMode, modes⟩ =
      .ok ⟨some path,
        match file.change with
        | .deleted mode => some mode.text
        | _ => oldMode,
        match file.change with
        | .added mode => some mode.text
        | _ => newMode, modes⟩ := by
  unfold FileDiff.changeLines
  cases file.change with
  | modified => rfl
  | added mode => exact foldlM_one (step_newFileMode path oldMode newMode modes mode)
  | deleted mode => exact foldlM_one (step_deletedFileMode path oldMode newMode modes mode)
  | renamed similarity old =>
    apply foldlM_of_other
    intro line hline
    simp only [List.mem_cons, List.not_mem_nil, or_false] at hline
    rcases hline with rfl | rfl | rfl
    · exact ⟨'s', _, rfl, by decide⟩
    · exact ⟨'r', _, rfl, by decide⟩
    · exact ⟨'r', _, rfl, by decide⟩

theorem foldlM_indexLines (file : FileDiff) (scan : ModeScan) :
    file.indexLines.foldlM step scan = .ok scan := by
  apply foldlM_of_other
  intro line hline
  unfold FileDiff.indexLines at hline
  split at hline
  · rw [List.mem_singleton.mp hline]
    exact ⟨'i', _, rfl, by decide⟩
  · cases hline

/-- The extended header gives the modes of the file, under the path of the header. -/
theorem foldlM_header {file : FileDiff} {path : Option String}
    (h : parseDiffGitPaths file.gitHeader = .ok path) (scan : ModeScan) :
    ∃ scan', (file.gitHeader :: file.extendedHeader).foldlM step scan = .ok scan' ∧
      scan'.flush = scan.flush ++ modeEntry path file := by
  rw [List.foldlM_cons, step_gitHeader h]
  cases path with
  | none =>
    refine ⟨⟨none, none, none, scan.flush⟩, ?_, (List.append_nil _).symm⟩
    exact foldlM_of_none rfl fun line hline => (quiet_extendedHeader file line hline).notFile
  | some path =>
    refine ⟨⟨some path, (headerModes file).1, (headerModes file).2, scan.flush⟩, ?_, ?_⟩
    · show file.extendedHeader.foldlM step ⟨some path, none, none, scan.flush⟩ = _
      unfold FileDiff.extendedHeader
      rw [List.foldlM_append, List.foldlM_append, foldlM_modeLines]
      show (file.changeLines.foldlM step _ >>= fun scan => file.indexLines.foldlM step scan) = _
      rw [foldlM_changeLines]
      exact foldlM_indexLines file _
    · unfold flush modeEntry
      cases headerModes file with
      | mk oldMode newMode => cases oldMode <;> cases newMode <;> simp

/-- A whole file: its modes come under the path that its header is read as. -/
theorem foldlM_file {file : FileDiff} {path : Option String}
    (h : parseDiffGitPaths file.gitHeader = .ok path)
    (hbody : Passes (file.bodyLines.flatMap pieces)) (scan : ModeScan) :
    ∃ scan', (file.render.flatMap pieces).foldlM step scan = .ok scan' ∧
      scan'.flush = scan.flush ++ modeEntry path file := by
  have ⟨mid, hmid, hflush⟩ := foldlM_header h scan
  have ⟨scan', hscan', hflush'⟩ := hbody mid
  refine ⟨scan', ?_, hflush'.trans hflush⟩
  rw [FileDiff.render, List.flatMap_append, pieces_header, List.foldlM_append, hmid]
  exact hscan'

/-- A header that cannot be read ends the reading. -/
theorem foldlM_file_error {file : FileDiff} {exc : PyException}
    (h : parseDiffGitPaths file.gitHeader = .error exc) (scan : ModeScan) :
    (file.render.flatMap pieces).foldlM step scan = .error exc := by
  have hstart : startsWith file.gitHeader "diff --git " = true :=
    List.isPrefixOf_iff_prefix.mpr ⟨_, (List.append_assoc _ _ _).symm⟩
  have hstep : scan.step file.gitHeader = .error exc := by
    simp only [step, hstart, if_true, h]
    rfl
  rw [FileDiff.render, List.flatMap_append, pieces_header, List.foldlM_append, List.foldlM_cons,
    hstep]
  rfl

theorem foldlM_files {files : List FileDiff}
    (hread : ∀ file ∈ files, (parseDiffGitPaths file.gitHeader).isOk = true)
    (hbody : ∀ file ∈ files, Passes (file.bodyLines.flatMap pieces)) (scan : ModeScan) :
    ∃ scan', ((files.flatMap FileDiff.render).flatMap pieces).foldlM step scan = .ok scan' ∧
      scan'.flush = scan.flush ++ files.flatMap fun file => modeEntry (readPath file) file := by
  induction files generalizing scan with
  | nil => exact ⟨scan, rfl, (List.append_nil _).symm⟩
  | cons file files ih =>
    obtain ⟨path, hpath⟩ : ∃ path, parseDiffGitPaths file.gitHeader = .ok path := by
      have hok := hread file List.mem_cons_self
      cases hparsed : parseDiffGitPaths file.gitHeader with
      | ok path => exact ⟨path, rfl⟩
      | error exc =>
        rw [hparsed] at hok
        cases hok
    have ⟨mid, hmid, hflush⟩ := foldlM_file hpath (hbody file List.mem_cons_self) scan
    have ⟨scan', hscan', hflush'⟩ := ih (fun f hf => hread f (List.mem_cons_of_mem file hf))
      (fun f hf => hbody f (List.mem_cons_of_mem file hf)) mid
    have hreadPath : readPath file = path := by rw [readPath, hpath]; rfl
    refine ⟨scan', ?_, ?_⟩
    · rw [List.flatMap_cons, List.flatMap_append, List.foldlM_append, hmid]
      exact hscan'
    · rw [hflush', hflush, List.flatMap_cons, hreadPath, List.append_assoc]

theorem isOk_of_foldlM_files {files : List FileDiff}
    (hbody : ∀ file ∈ files, Passes (file.bodyLines.flatMap pieces)) {scan scan' : ModeScan}
    (h : ((files.flatMap FileDiff.render).flatMap pieces).foldlM step scan = .ok scan') :
    ∀ file ∈ files, (parseDiffGitPaths file.gitHeader).isOk = true := by
  induction files generalizing scan with
  | nil => exact fun _ hfile => absurd hfile List.not_mem_nil
  | cons file files ih =>
    rw [List.flatMap_cons, List.flatMap_append, List.foldlM_append] at h
    cases hpath : parseDiffGitPaths file.gitHeader with
    | error exc =>
      rw [foldlM_file_error hpath] at h
      cases h
    | ok path =>
      have ⟨mid, hmid, _⟩ := foldlM_file hpath (hbody file List.mem_cons_self) scan
      rw [hmid] at h
      intro f hf
      rcases List.mem_cons.mp hf with rfl | hf
      · rw [hpath]
        rfl
      · exact ih (fun g hg => hbody g (List.mem_cons_of_mem file hg)) h f hf

end ModeScan

/-! ## The paths of the headers -/

theorem stripGitPatchPrefix_new {path : Text} :
    stripGitPatchPrefix ("b/".toList ++ path) =
      (normalizeRepoRelativePath (String.ofList path)).map some := by
  have hnull : "b/".toList ++ path ≠ "/dev/null".toList := by
    intro h
    cases (List.cons.inj h).1
  have hstart : startsWith ("b/".toList ++ path) "b/" = true := by simp [startsWith]
  rw [stripGitPatchPrefix, if_neg hnull]
  simp only [hstart, Bool.or_true, if_true]
  rfl

/-- A path that the shell and the normalization keep is the path that is read. -/
theorem readPath_of_plain {file : FileDiff} (hparsed : (parseDiffGitPaths file.gitHeader).isOk = true)
    (hold : OneWord file.oldPath) (hplain : ShellPlain file.path)
    (hnormal : NormalPath (String.ofList file.path)) :
    readPath file = some (String.ofList file.path) := by
  have hword := shellWord_of_printable "b/" hplain.printable hplain.noBackslash
  unfold readPath
  unfold parseDiffGitPaths at hparsed ⊢
  rw [split_gitHeader hold hplain.oneWord] at hparsed ⊢
  simp only [hword, stripGitPatchPrefix_new] at hparsed ⊢
  rw [show normalizeRepoRelativePath (String.ofList file.path) = .ok (String.ofList file.path)
    from hnormal] at hparsed ⊢
  cases hstrip : stripGitPatchPrefix (shellWord "a/" file.oldPath) with
  | error exc =>
    rw [hstrip] at hparsed
    cases hparsed
  | ok old => rfl

theorem modeEntry_of_none {file : FileDiff} (h : ¬HasMode file) (path : Option String) :
    modeEntry path file = [] := by
  unfold HasMode at h
  rw [not_not] at h
  unfold modeEntry
  rw [h]
  cases path <;> rfl

theorem entries_of_read {files : List FileDiff} (h : ModeHeadersRead files) :
    (files.flatMap fun file => modeEntry (readPath file) file) = givenModes files := by
  apply List.flatMap_congr
  intro file hfile
  by_cases hmode : HasMode file
  · rw [readPath_of_plain (h.parsed file hfile) (h.oneWord file hfile hmode)
      (h.plain file hfile hmode) (h.normal file hfile hmode)]
  · rw [modeEntry_of_none hmode, modeEntry_of_none hmode]

/-! ## Which paths a header can give -/

theorem readPath_eq_some {file : FileDiff} {path : String} (h : readPath file = some path) :
    ∃ command flag old new rest,
      ShellWords.split file.gitHeader = .ok (command :: flag :: old :: new :: rest) ∧
        stripGitPatchPrefix new = .ok (some path) := by
  unfold readPath parseDiffGitPaths at h
  split at h
  · rename_i command flag old new rest hwords
    refine ⟨command, flag, old, new, rest, hwords, ?_⟩
    cases hold : stripGitPatchPrefix old with
    | error exc =>
      rw [hold] at h
      cases h
    | ok oldPath =>
      rw [hold] at h
      change (stripGitPatchPrefix new).toOption.join = some path at h
      cases hnew : stripGitPatchPrefix new with
      | error exc =>
        rw [hnew] at h
        cases h
      | ok newPath =>
        rw [hnew] at h
        exact congrArg Except.ok h
  · cases h

theorem some_of_map_some {result : Except PyException String} {path : String}
    (h : result.map some = .ok (some path)) : result = .ok path := by
  cases result with
  | error exc => cases h
  | ok value => rw [Option.some.inj (Except.ok.inj h)]

theorem stripGitPatchPrefix_eq_some {word : Text} {path : String}
    (h : stripGitPatchPrefix word = .ok (some path)) :
    ∃ rest, rest.Sublist word ∧ normalizeRepoRelativePath (String.ofList rest) = .ok path := by
  unfold stripGitPatchPrefix at h
  split at h
  · cases h
  · by_cases hstart : (startsWith word "a/" || startsWith word "b/") = true
    · simp only [hstart, if_true] at h
      exact ⟨word.drop 2, List.drop_sublist 2 word, some_of_map_some h⟩
    · simp only [hstart, if_false, Bool.false_eq_true] at h
      exact ⟨word, List.Sublist.refl word, some_of_map_some h⟩

/-- Normalization leaves out characters and turns backslashes around. -/
theorem normalized_sublist {path : Text} {normalized : String}
    (h : normalizeRepoRelativePath (String.ofList path) = .ok normalized) :
    normalized.toList.Sublist (replaceChar '\\' '/' path) := by
  obtain ⟨cleanParts, hclean, hjoin, -, -⟩ := normalizeRepoRelativePath_eq_ok h
  rw [String.toList_ofList] at hclean
  rw [hjoin, hclean]
  have hfilter := @joinWith_filter_sublist '/' (fun part => part ≠ [] ∧ part ≠ ['.'])
    (splitOn '/' (strip (replaceChar '\\' '/' path)))
  rw [joinWith_splitOn] at hfilter
  exact hfilter.trans (strip_sublist _)

theorem mem_of_mem_normalized {path : Text} {normalized : String}
    (h : normalizeRepoRelativePath (String.ofList path) = .ok normalized) {c : Char}
    (hc : c ∈ normalized.toList) : c ≠ '\\' ∧ (c ∈ path ∨ c = '/') := by
  obtain ⟨d, hd, hdc⟩ := List.mem_map.mp ((normalized_sublist h).subset hc)
  split_ifs at hdc with hslash
  · rw [← hdc]
    exact ⟨by decide, .inr rfl⟩
  · rw [← hdc]
    exact ⟨hslash, .inl hd⟩

theorem mem_strip {s : Text} {c : Char} (hc : c ∈ s) (hspace : isSpace c = false) : c ∈ strip s := by
  have hdrop : ∀ t : Text, c ∈ t → c ∈ t.dropWhile isSpace := by
    intro t ht
    rw [← List.takeWhile_append_dropWhile (p := isSpace) (l := t), List.mem_append] at ht
    rcases ht with ht | ht
    · rw [List.mem_takeWhile_imp ht] at hspace
      cases hspace
    · exact ht
  apply hdrop
  rw [rstrip, List.rdropWhile, List.mem_reverse]
  exact hdrop _ (List.mem_reverse.mpr hc)

/-- Normalization keeps a quotation mark. -/
theorem quote_mem_normalized {path : Text} {normalized : String}
    (h : normalizeRepoRelativePath (String.ofList path) = .ok normalized) (hquote : '"' ∈ path) :
    '"' ∈ normalized.toList := by
  obtain ⟨cleanParts, hclean, hjoin, -, -⟩ := normalizeRepoRelativePath_eq_ok h
  rw [String.toList_ofList] at hclean
  have hreplaced : '"' ∈ replaceChar '\\' '/' path := List.mem_map.mpr ⟨'"', hquote, rfl⟩
  have hstripped := mem_strip hreplaced (by decide)
  rw [← @joinWith_splitOn '/' (strip _)] at hstripped
  rcases mem_of_mem_joinWith hstripped with heq | ⟨part, hpart, hmem⟩
  · cases heq
  · have hkept : part ∈ cleanParts := by
      rw [hclean]
      refine List.mem_filter.mpr ⟨hpart, decide_eq_true ⟨List.ne_nil_of_mem hmem, ?_⟩⟩
      rintro rfl
      cases List.mem_singleton.mp hmem
    rw [hjoin]
    exact mem_joinWith_of_mem hkept hmem

/-- The path of a header is written in printable characters. -/
theorem printable_readPath {file : FileDiff} {path : String} (h : readPath file = some path) :
    ∀ c ∈ path.toList, (0x20 ≤ c.toNat ∧ c.toNat < 0x7F) ∧ c ≠ '\\' := by
  obtain ⟨command, flag, old, new, rest, hwords, hnew⟩ := readPath_eq_some h
  obtain ⟨stripped, hsub, hnormal⟩ := stripGitPatchPrefix_eq_some hnew
  intro c hc
  obtain ⟨hne, hc | rfl⟩ := mem_of_mem_normalized hnormal hc
  · have hheader : c ∈ file.gitHeader := by
      rcases ShellWords.mem_of_mem_wordsFrom hwords (by simp : new ∈ _) (hsub.subset hc) with
        hmem | hmem | ⟨-, quote, hstate⟩
      · cases hmem
      · exact hmem
      · cases hstate
    exact ⟨printable_gitHeader file c hheader, hne⟩
  · decide

theorem readPath_of_quoted {file : FileDiff} (hold : file.oldPath = file.path)
    (hprintable : ∀ c ∈ file.path, 0x20 ≤ c.toNat ∧ c.toNat < 0x7F)
    (hbackslash : '\\' ∉ file.path) (hone : OneWord file.path) {path : String}
    (h : readPath file = some path) :
    normalizeRepoRelativePath (String.ofList file.path) = .ok path := by
  obtain ⟨command, flag, old, new, rest, hwords, hnew⟩ := readPath_eq_some h
  rw [split_gitHeader (hold ▸ hone) hone] at hwords
  simp only [Except.ok.injEq, List.cons.injEq] at hwords
  obtain ⟨-, -, -, rfl, -⟩ := hwords
  rw [shellWord_of_printable "b/" hprintable hbackslash, stripGitPatchPrefix_new] at hnew
  exact some_of_map_some hnew

/-- A path that Git does not quote gives no single quote, and gives a space only for one. -/
theorem notMem_of_unquoted {file : FileDiff} (hold : file.oldPath = file.path)
    (hunquoted : ¬file.path.any mustQuote = true) {path : String} (h : readPath file = some path) :
    '\'' ∉ path.toList ∧ ('\'' ∉ file.path → ' ' ∉ path.toList) := by
  obtain ⟨command, flag, old, new, rest, hwords, hnew⟩ := readPath_eq_some h
  obtain ⟨stripped, hsub, hnormal⟩ := stripGitPatchPrefix_eq_some hnew
  have hnotMem : ∀ c, mustQuote c = true → c ∉ file.path := by
    intro c hc hmem
    exact hunquoted (List.any_eq_true.mpr ⟨c, hmem, hc⟩)
  have hquote : '"' ∉ file.gitHeader :=
    notMem_gitHeader hold hunquoted (hnotMem _ (by decide)) (by decide)
  have hbackslash : '\\' ∉ file.gitHeader :=
    notMem_gitHeader hold hunquoted (hnotMem _ (by decide)) (by decide)
  have hnewWord : new ∈ command :: flag :: old :: new :: rest := by simp
  constructor
  · intro hc
    rcases (mem_of_mem_normalized hnormal hc).2 with hc | hc
    · exact ShellWords.quote_notMem_of_mem_wordsFrom hwords (.inl rfl) List.not_mem_nil hquote
        hbackslash hnewWord (hsub.subset hc)
    · cases hc
  · intro hsingle hc
    rcases (mem_of_mem_normalized hnormal hc).2 with hc | hc
    · have hquotes : ∀ c ∈ file.gitHeader, ShellWords.isQuote c = false := by
        intro c hc
        rw [ShellWords.isQuote, Bool.or_eq_false_iff, decide_eq_false_iff_not,
          decide_eq_false_iff_not]
        constructor
        · rintro rfl
          exact notMem_gitHeader hold hunquoted hsingle (by decide) hc
        · rintro rfl
          exact hquote hc
      have hseparator := ShellWords.separator_notMem_of_mem_wordsFrom hwords (.inl rfl)
        (fun c hc => absurd hc List.not_mem_nil) hbackslash hquotes hnewWord ' ' (hsub.subset hc)
      cases hseparator
    · cases hc

/-! ## A file is read only where another is -/

section Readers
variable {files : List FileDiff}

/-- The read paths give each path the modes of its own headers. -/
def SameModes (files : List FileDiff) : Prop := ∀ path,
  (files.flatMap fun file => modeEntry (readPath file) file).reverse.lookup path =
    (givenModes files).reverse.lookup path

theorem mem_modeEntry {path : Option String} {file : FileDiff} {entry : String × PatchModeMetadata}
    (h : entry ∈ modeEntry path file) : HasMode file ∧ path = some entry.1 := by
  unfold modeEntry at h
  split at h
  · cases h
  · cases h
  · rename_i found oldMode newMode hmodes hheader
    rw [List.mem_singleton] at h
    refine ⟨?_, by rw [h]⟩
    intro heq
    have hboth := hheader.symm.trans heq
    exact hmodes (Prod.mk.inj hboth).1 (Prod.mk.inj hboth).2

theorem exists_modeEntry {file : FileDiff} (h : HasMode file) (path : String) :
    ∃ metadata, modeEntry (some path) file = [(path, metadata)] := by
  unfold modeEntry
  unfold HasMode at h
  cases hmodes : headerModes file with
  | mk oldMode newMode =>
    rw [hmodes] at h
    cases oldMode <;> cases newMode <;> first | exact absurd rfl h | exact ⟨_, rfl⟩

theorem exists_reader (hsame : SameModes files) {file : FileDiff} (hfile : file ∈ files)
    (hmode : HasMode file) :
    ∃ other ∈ files, HasMode other ∧ readPath other = some (String.ofList file.path) := by
  have hgiven : ((givenModes files).reverse.lookup (String.ofList file.path)).isSome = true := by
    obtain ⟨metadata, hentry⟩ := exists_modeEntry hmode (String.ofList file.path)
    rw [List.lookup_isSome_iff]
    refine ⟨(String.ofList file.path, metadata), List.mem_reverse.mpr ?_, beq_self_eq_true _⟩
    exact List.mem_flatMap.mpr ⟨file, hfile, hentry ▸ List.mem_singleton_self _⟩
  rw [← hsame, List.lookup_isSome_iff] at hgiven
  obtain ⟨entry, hentry, hkey⟩ := hgiven
  obtain ⟨other, hother, hread⟩ := List.mem_flatMap.mp (List.mem_reverse.mp hentry)
  obtain ⟨hotherMode, hpath⟩ := mem_modeEntry hread
  rw [beq_iff_eq] at hkey
  exact ⟨other, hother, hotherMode, by rw [hpath, ← hkey]⟩

theorem printable_of_same (hsame : SameModes files) {file : FileDiff} (hfile : file ∈ files)
    (hmode : HasMode file) :
    ∀ c ∈ file.path, (0x20 ≤ c.toNat ∧ c.toNat < 0x7F) ∧ c ≠ '\\' := by
  obtain ⟨other, -, -, hread⟩ := exists_reader hsame hfile hmode
  have hprintable := printable_readPath hread
  rwa [String.toList_ofList] at hprintable

theorem not_any_mustQuote (hsame : SameModes files) {file : FileDiff} (hfile : file ∈ files)
    (hmode : HasMode file) (hquote : '"' ∉ file.path) : ¬file.path.any mustQuote = true := by
  have hprintable := printable_of_same hsame hfile hmode
  rwa [any_mustQuote_of_printable (fun c hc => (hprintable c hc).1)
    fun hc => (hprintable _ hc).2 rfl]

variable (hsame : SameModes files)
  (hkept : ∀ file ∈ files, HasMode file → file.oldPath = file.path)
include hsame hkept

/-- A path without a quotation mark is read from the header of another such path. -/
theorem exists_unquoted_reader {file : FileDiff} (hfile : file ∈ files) (hmode : HasMode file)
    (hquote : '"' ∉ file.path) : ∃ other ∈ files, HasMode other ∧
      readPath other = some (String.ofList file.path) ∧ '"' ∉ other.path := by
  obtain ⟨other, hother, hotherMode, hread⟩ := exists_reader hsame hfile hmode
  refine ⟨other, hother, hotherMode, hread, fun hmem => ?_⟩
  have hprintable := printable_of_same hsame hother hotherMode
  have hone : OneWord other.path := .inl (List.any_eq_true.mpr ⟨'"', hmem, by decide⟩)
  have hnormal := readPath_of_quoted (hkept other hother hotherMode)
    (fun c hc => (hprintable c hc).1) (fun hc => (hprintable _ hc).2 rfl) hone hread
  have hkeeps := quote_mem_normalized hnormal hmem
  rw [String.toList_ofList] at hkeeps
  exact hquote hkeeps

theorem single_notMem {file : FileDiff} (hfile : file ∈ files) (hmode : HasMode file)
    (hquote : '"' ∉ file.path) : '\'' ∉ file.path := by
  obtain ⟨other, hother, hotherMode, hread, hotherQuote⟩ :=
    exists_unquoted_reader hsame hkept hfile hmode hquote
  have hunquoted := not_any_mustQuote hsame hother hotherMode hotherQuote
  have hnone := (notMem_of_unquoted (hkept other hother hotherMode) hunquoted hread).1
  rwa [String.toList_ofList] at hnone

theorem shellPlain_of_same {file : FileDiff} (hfile : file ∈ files) (hmode : HasMode file) :
    ShellPlain file.path := by
  have hprintable := printable_of_same hsame hfile hmode
  refine ⟨fun c hc => (hprintable c hc).1, fun hc => (hprintable _ hc).2 rfl, ?_⟩
  by_cases hquote : '"' ∈ file.path
  · exact .inl hquote
  · obtain ⟨other, hother, hotherMode, hread, hotherQuote⟩ :=
      exists_unquoted_reader hsame hkept hfile hmode hquote
    have hunquoted := not_any_mustQuote hsame hother hotherMode hotherQuote
    have hspace := (notMem_of_unquoted (hkept other hother hotherMode) hunquoted hread).2
      (single_notMem hsame hkept hother hotherMode hotherQuote)
    rw [String.toList_ofList] at hspace
    exact .inr ⟨hspace, single_notMem hsame hkept hfile hmode hquote⟩

/-- The reader of a path is longer, or has this path: the longest paths are normal, and so on
down. -/
theorem normal_of_same {file : FileDiff} (hfile : file ∈ files) (hmode : HasMode file) :
    NormalPath (String.ofList file.path) := by
  have hbound : ∀ file ∈ files, file.path.length ≤ (files.map fun file => file.path.length).sum :=
    fun file hfile => List.le_sum_of_mem (List.mem_map_of_mem hfile)
  suffices ∀ k, ∀ file ∈ files, HasMode file →
      (files.map fun file => file.path.length).sum < file.path.length + k →
        NormalPath (String.ofList file.path) from
    this ((files.map fun file => file.path.length).sum + 1) file hfile hmode (by omega)
  intro k
  induction k with
  | zero =>
    intro file hfile _ hlt
    have := hbound file hfile
    omega
  | succ k ih =>
    intro file hfile hmode hlt
    obtain ⟨other, hother, hotherMode, hread⟩ := exists_reader hsame hfile hmode
    have hplain := shellPlain_of_same hsame hkept hother hotherMode
    have hnormal := readPath_of_quoted (hkept other hother hotherMode) hplain.printable
      hplain.noBackslash hplain.oneWord hread
    have hsub := normalized_sublist hnormal
    rw [replaceChar_of_notMem hplain.noBackslash, String.toList_ofList] at hsub
    by_cases hlength : other.path.length = file.path.length
    · have heq : file.path = other.path := hsub.eq_of_length hlength.symm
      rw [← heq] at hnormal
      exact hnormal
    · have hle := hsub.length_le
      have hotherNormal := ih other hother hotherMode (by omega)
      rw [NormalPath, hnormal] at hotherNormal
      exact absurd (congrArg String.length (Except.ok.inj hotherNormal)) (by simp; omega)

end Readers

/-! ## Exact modes -/

theorem lines_of_rendered {files : List FileDiff} {rawPatch : List UInt8}
    (h : Utf8.visible (Utf8.decode rawPatch) = renderPatch files) :
    parseGitPatchModes rawPatch = (((files.flatMap FileDiff.render).flatMap pieces).foldlM
      ModeScan.step ⟨none, none, none, []⟩).map ModeScan.flush := by
  rw [parseGitPatchModes, h, renderPatch, splitlines_unlines]
  rfl

theorem passes_bodies {files : List FileDiff} (h : BodiesHarmless files) :
    ∀ file ∈ files, ModeScan.Passes (file.bodyLines.flatMap pieces) :=
  fun file hfile => ModeScan.passes_body (h.headers file hfile) (h.lines file hfile)

theorem modesRecorded_of_same [UnicodeTables] {files : List FileDiff}
    {modes : List (String × PatchModeMetadata)}
    (h : ∀ path, modes.reverse.lookup path = (givenModes files).reverse.lookup path) :
    ModesRecorded files modes := by
  refine ⟨h, ?_⟩
  intro changedFile stats metadata mode hgiven hmode hnew hfile
  have htext : mode.text ≠ "" := by cases mode <;> decide
  have hrecorded : (buildPatchFileDiff stats modes changedFile).newMode = some mode.text := by
    simp only [buildPatchFileDiff, h, hgiven, Option.getD_some, hnew]
    rcases List.mem_pair.mp hfile with hnone | hsome
    · rw [hnone]
      rfl
    · rw [hsome, orText, Option.filter_some, if_pos (by simp [htext])]
      rfl
  refine ⟨hrecorded, ?_⟩
  rintro rfl
  have hlink : isSymlinkFile (buildPatchFileDiff stats modes changedFile) = true := by
    simp only [isSymlinkFile, hrecorded, Bool.or_eq_true, decide_eq_true_eq]
    exact .inr rfl
  refine ⟨changeRiskReason "symlink-change" .critical
    "Symlink changes can alter filesystem boundaries." [("path", .str changedFile.path)],
      ?_, rfl, rfl⟩
  rw [metadataRiskReasons, if_pos hlink]
  exact List.mem_append_left _ (List.mem_append_right _ (List.mem_singleton_self _))

/-- For the patch of any file diffs whose hunk lines hold no broken-off mode line: the modes are
the given ones when the headers are read, and only then, unless a renamed file changes its mode. -/
theorem modes_of_rendered [UnicodeTables] {files : List FileDiff} {rawPatch : List UInt8}
    (hrendered : Utf8.visible (Utf8.decode rawPatch) = renderPatch files)
    (hbodies : BodiesHarmless files) :
    (ModeHeadersRead files →
      ∃ modes, parseGitPatchModes rawPatch = .ok modes ∧ ModesRecorded files modes) ∧
    ((∀ file ∈ files, HasMode file → file.oldPath = file.path) →
      (∃ modes, parseGitPatchModes rawPatch = .ok modes ∧ ModesRecorded files modes) →
        ModeHeadersRead files) := by
  rw [lines_of_rendered hrendered]
  constructor
  · intro hread
    have ⟨scan, hscan, hflush⟩ := ModeScan.foldlM_files hread.parsed (passes_bodies hbodies)
      ⟨none, none, none, []⟩
    refine ⟨scan.flush, by rw [hscan]; rfl, modesRecorded_of_same fun path => ?_⟩
    rw [hflush, entries_of_read hread]
    rfl
  · rintro hkept ⟨modes, hmodes, hrecorded⟩
    cases hfold : ((files.flatMap FileDiff.render).flatMap pieces).foldlM ModeScan.step
        ⟨none, none, none, []⟩ with
    | error exc =>
      rw [hfold] at hmodes
      cases hmodes
    | ok scan =>
      rw [hfold] at hmodes
      have hparsed := ModeScan.isOk_of_foldlM_files (passes_bodies hbodies) hfold
      have ⟨scan', hscan', hflush⟩ := ModeScan.foldlM_files hparsed (passes_bodies hbodies)
        ⟨none, none, none, []⟩
      rw [hfold] at hscan'
      have hentries : modes = files.flatMap fun file => modeEntry (readPath file) file := by
        rw [← Except.ok.inj hmodes, Except.ok.inj hscan', hflush]
        rfl
      have hsame : SameModes files := fun path => hentries ▸ hrecorded.exact path
      exact ⟨hparsed,
        fun file hfile hmode => hkept file hfile hmode ▸
          (shellPlain_of_same hsame hkept hfile hmode).oneWord,
        fun file hfile hmode => shellPlain_of_same hsame hkept hfile hmode,
        fun file hfile hmode => normal_of_same hsame hkept hfile hmode⟩

/-! ## A new symbolic link -/

namespace NewLink
open PyText.Ascii

/-- `ln -s ../README.md path`. -/
def added (path : String) : FileDiff where
  path := path.toList
  change := .added .symlink
  modes := none
  index := some (List.replicate 40 0, List.replicate 40 7, none)
  body := .text [{
    oldStart := 0
    newStart := 1
    heading := []
    lines := [⟨.added, "../README.md".toList, false, by decide⟩]
    noLineFeed := List.not_mem_nil }]
  removedOnly := nofun

def rawPatch (path : String) : List UInt8 :=
  (renderPatch [added path]).map fun c => UInt8.ofNat c.toNat

theorem rendered_of_ascii {path : String}
    (h : ∀ c ∈ renderPatch [added path], c.toNat < 0x80) :
    Utf8.visible (Utf8.decode (rawPatch path)) = renderPatch [added path] := by
  rw [rawPatch, Utf8.decode_ascii h, Utf8.visible_ofText]

theorem rendered : Utf8.visible (Utf8.decode (rawPatch "docs/guide")) =
    renderPatch [added "docs/guide"] :=
  rendered_of_ascii (by decide +kernel)

theorem bodiesHarmless : BodiesHarmless [added "docs/guide"] := by
  have hheader : ∀ hunk ∈ (added "docs/guide").hunks, Unbroken hunk.header := by decide
  have hlines : ∀ hunk ∈ (added "docs/guide").hunks, ∀ line ∈ hunk.lines, Unbroken line.text := by
    decide
  constructor
  · intro file hfile hunk hhunk piece hpiece
    rw [List.mem_singleton.mp hfile] at hhunk
    rw [pieces_of_forall (hheader hunk hhunk)] at hpiece
    cases hpiece
  · intro file hfile hunk hhunk line hline piece hpiece
    rw [List.mem_singleton.mp hfile] at hhunk
    rw [pieces_of_forall (hlines hunk hhunk line hline)] at hpiece
    cases hpiece

theorem headersRead : ModeHeadersRead [added "docs/guide"] := by
  constructor <;> simp only [List.mem_singleton, forall_eq]
  · decide
  · exact fun _ => .inr (by decide)
  · exact fun _ => ⟨by decide, by decide, .inr (by decide)⟩
  · exact fun _ => rfl

end NewLink

theorem newLink_recorded :
    (∃ modes, parseGitPatchModes (NewLink.rawPatch "docs/guide") = .ok modes ∧
      @ModesRecorded PyText.Ascii.tables [NewLink.added "docs/guide"] modes) ∧
    ModeHeadersRead [NewLink.added "docs/guide"] :=
  have h := @modes_of_rendered PyText.Ascii.tables _ _ NewLink.rendered NewLink.bodiesHarmless
  have hmodes := h.1 NewLink.headersRead
  ⟨hmodes, h.2 (fun _ hfile _ => List.mem_singleton.mp hfile ▸ rfl) hmodes⟩

/-- The symbolic link `my guide` is read as a change of `guide`. -/
theorem spacedLink_lost :
    Utf8.visible (Utf8.decode (NewLink.rawPatch "my guide")) =
        renderPatch [NewLink.added "my guide"] ∧
      ¬∃ modes, parseGitPatchModes (NewLink.rawPatch "my guide") = .ok modes ∧
        @ModesRecorded PyText.Ascii.tables [NewLink.added "my guide"] modes := by
  have hrendered : Utf8.visible (Utf8.decode (NewLink.rawPatch "my guide")) =
      renderPatch [NewLink.added "my guide"] := NewLink.rendered_of_ascii (by decide +kernel)
  refine ⟨hrendered, ?_⟩
  rintro ⟨modes, hmodes, hrecorded⟩
  have hread : parseGitPatchModes (NewLink.rawPatch "my guide") =
      .ok [("guide", ⟨none, some "120000", false⟩)] := by
    rw [parseGitPatchModes, hrendered]
    decide +kernel
  have hexact := @ModesRecorded.exact PyText.Ascii.tables _ _ hrecorded "my guide"
  rw [← Except.ok.inj (hread.symm.trans hmodes)] at hexact
  cases hexact

end Rygnal.GuardedRun
