import Mathlib.Tactic.FinCases
import Rygnal.Library.PosixPath

/-! # Patches as Git renders them

The text of `git diff --patch --binary --full-index --default-prefix -M20%` for a list of
file diffs. Paths are quoted in C style where they hold a byte outside printable ASCII, a
quotation mark or a backslash; hunk lines, and the section heading of a hunk, hold whatever
the files hold.
-/

namespace Rygnal.ChangeRisk.GitPatch
open Rygnal.Library.PyText

/-! ## Paths -/

def octalDigit (n : ℕ) : Char := Nat.digitChar (n % 8)

/-- One byte of a quoted path. -/
def quoteByte : ℕ → Text
  | 7 => ['\\', 'a']
  | 8 => ['\\', 'b']
  | 9 => ['\\', 't']
  | 10 => ['\\', 'n']
  | 11 => ['\\', 'v']
  | 12 => ['\\', 'f']
  | 13 => ['\\', 'r']
  | 34 => ['\\', '"']
  | 92 => ['\\', '\\']
  | byte =>
    if 0x20 ≤ byte ∧ byte < 0x7F then [Char.ofNat byte]
    else ['\\', octalDigit (byte / 64), octalDigit (byte / 8), octalDigit byte]

/-- `cq_must_quote`, with paths quoted fully. -/
def mustQuote (c : Char) : Bool := c.toNat < 0x20 || 0x7F ≤ c.toNat || c == '"' || c == '\\'

/-- `quote_two_c_style`. -/
def quoteTwo (start : String) (path : Text) : Text :=
  if path.any mustQuote then
    '"' :: start.toList ++
      path.flatMap (fun c => (String.utf8EncodeChar c).flatMap fun byte => quoteByte byte.toNat) ++
      ['"']
  else start.toList ++ path

/-- The path of a `---` or `+++` line: a tab ends a label with a space in it. -/
def label (start : String) (path : Text) : Text :=
  if ' ' ∈ quoteTwo start path then quoteTwo start path ++ ['\t'] else quoteTwo start path

/-! ## File diffs -/

inductive GitMode where
  | regular
  | executable
  | symlink
  | submodule
deriving DecidableEq, Repr

def GitMode.text : GitMode → String
  | .regular => "100644"
  | .executable => "100755"
  | .symlink => "120000"
  | .submodule => "160000"

inductive LineKind where
  | context
  | added
  | removed
deriving DecidableEq, Repr

/-- One line of a hunk without its line feed. -/
structure HunkLine where
  kind : LineKind
  text : Text
  terminated : Bool
  noLineFeed : '\n' ∉ text
deriving DecidableEq, Repr

structure Hunk where
  oldStart : ℕ
  newStart : ℕ
  heading : Text
  lines : List HunkLine
  noLineFeed : '\n' ∉ heading
deriving DecidableEq, Repr

abbrev ObjectId := List (Fin 16)

/-- One direction of a binary patch: its method and size, and the base-85 lines, each with the
letter of its length. -/
structure BinaryHunk where
  method : Bool
  size : ℕ
  data : List (Fin 52 × List (Fin 85))
deriving DecidableEq, Repr

inductive Body where
  | text (hunks : List Hunk)
  | binary (forward reverse : BinaryHunk)
deriving DecidableEq, Repr

inductive Change where
  | modified
  | added (mode : GitMode)
  | deleted (mode : GitMode)
  | renamed (similarity : Fin 101) (oldPath : Text)
deriving DecidableEq, Repr

/-- One changed file of a patch. A deleted file has removed lines only. -/
structure FileDiff where
  path : Text
  change : Change
  modes : Option (GitMode × GitMode)
  index : Option (ObjectId × ObjectId × Option GitMode)
  body : Body
  removedOnly : ∀ mode, change = .deleted mode → ∀ hunks, body = .text hunks →
    ∀ hunk ∈ hunks, ∀ line ∈ hunk.lines, line.kind = .removed

/-! ## Rendering -/

def LineKind.sign : LineKind → Char
  | .context => ' '
  | .added => '+'
  | .removed => '-'

def HunkLine.render (line : HunkLine) : List Text :=
  (line.kind.sign :: line.text) ::
    if line.terminated then [] else ["\\ No newline at end of file".toList]

def Hunk.count (hunk : Hunk) (kind : LineKind) : ℕ :=
  hunk.lines.countP fun line => line.kind = .context || line.kind = kind

/-- `start,count`, where Git leaves out a count of one. -/
def range (start count : ℕ) : String :=
  if count = 1 then toString start else toString start ++ "," ++ toString count

def Hunk.header (hunk : Hunk) : Text :=
  ("@@ -" ++ range hunk.oldStart (hunk.count .removed) ++ " +" ++
      range hunk.newStart (hunk.count .added) ++ " @@").toList ++
    if hunk.heading = [] then [] else ' ' :: hunk.heading

def Hunk.render (hunk : Hunk) : List Text := hunk.header :: hunk.lines.flatMap HunkLine.render

def ObjectId.text (id : ObjectId) : Text := id.map fun digit => Nat.digitChar digit.val

def base85 : Text :=
  "0123456789ABCDEFGHIJKLMNOPQRSTUVWXYZabcdefghijklmnopqrstuvwxyz!#$%&()*+-;<=>?@^_\x60\x7b|\x7d~".toList

def lengthLetters : Text := "ABCDEFGHIJKLMNOPQRSTUVWXYZabcdefghijklmnopqrstuvwxyz".toList

def dataLine (line : Fin 52 × List (Fin 85)) : Text :=
  lengthLetters.getD line.1.val 'A' :: line.2.map fun digit => base85.getD digit.val '0'

def BinaryHunk.render (hunk : BinaryHunk) : List Text :=
  ((if hunk.method then "literal " else "delta ").toList ++ Nat.toDigits 10 hunk.size) ::
    hunk.data.map dataLine ++ [[]]

namespace FileDiff

def oldPath (file : FileDiff) : Text :=
  match file.change with
  | .renamed _ old => old
  | _ => file.path

def isDeleted (file : FileDiff) : Bool :=
  match file.change with
  | .deleted _ => true
  | _ => false

def hunks (file : FileDiff) : List Hunk :=
  match file.body with
  | .text hunks => hunks
  | .binary _ _ => []

def gitHeader (file : FileDiff) : Text :=
  "diff --git ".toList ++ quoteTwo "a/" file.oldPath ++ ' ' :: quoteTwo "b/" file.path

def modeLines (file : FileDiff) : List Text :=
  match file.modes with
  | some (old, new) => [("old mode " ++ old.text).toList, ("new mode " ++ new.text).toList]
  | none => []

def changeLines (file : FileDiff) : List Text :=
  match file.change with
  | .modified => []
  | .added mode => [("new file mode " ++ mode.text).toList]
  | .deleted mode => [("deleted file mode " ++ mode.text).toList]
  | .renamed similarity old =>
    ["similarity index ".toList ++ Nat.toDigits 10 similarity.val ++ ['%'],
      "rename from ".toList ++ quoteTwo "" old, "rename to ".toList ++ quoteTwo "" file.path]

def indexLines (file : FileDiff) : List Text :=
  match file.index with
  | some (old, new, mode) =>
    ["index ".toList ++ ObjectId.text old ++ "..".toList ++ ObjectId.text new ++
      ((mode.map fun m => " " ++ m.text).getD "").toList]
  | none => []

def extendedHeader (file : FileDiff) : List Text :=
  file.modeLines ++ file.changeLines ++ file.indexLines

def oldLabel (file : FileDiff) : Text :=
  match file.change with
  | .added _ => "/dev/null".toList
  | _ => label "a/" file.oldPath

def newLabel (file : FileDiff) : Text :=
  if file.isDeleted then "/dev/null".toList else label "b/" file.path

def bodyLines (file : FileDiff) : List Text :=
  match file.body with
  | .text [] => []
  | .text hunks =>
    ("--- ".toList ++ file.oldLabel) :: ("+++ ".toList ++ file.newLabel) ::
      hunks.flatMap Hunk.render
  | .binary forward reverse => "GIT binary patch".toList :: forward.render ++ reverse.render

def render (file : FileDiff) : List Text :=
  file.gitHeader :: file.extendedHeader ++ file.bodyLines

end FileDiff

/-- The whole patch: every line ends with a line feed. -/
def renderPatch (files : List FileDiff) : Text := unlines (files.flatMap FileDiff.render)

/-! ## Lines that hold no boundary of `splitlines` -/

abbrev Unbroken (line : Text) : Prop := ∀ c ∈ line, isLineBreak c = false

theorem Unbroken.append {line rest : Text} (h : Unbroken line) (h' : Unbroken rest) :
    Unbroken (line ++ rest) := by
  intro c hc
  rcases List.mem_append.mp hc with hc | hc
  · exact h c hc
  · exact h' c hc

theorem Unbroken.cons {c : Char} {line : Text} (hc : isLineBreak c = false) (h : Unbroken line) :
    Unbroken (c :: line) := by
  intro d hd
  rcases List.mem_cons.mp hd with rfl | hd
  · exact hc
  · exact h d hd

theorem isLineBreak_octalDigit (n : ℕ) : isLineBreak (octalDigit n) = false := by
  have hdigit : ∀ k < 8, isLineBreak (Nat.digitChar k) = false := by decide
  exact hdigit (n % 8) (Nat.mod_lt n (by decide))

theorem isLineBreak_of_printable {c : Char} (h : 0x20 ≤ c.toNat) (h' : c.toNat < 0x7F) :
    isLineBreak c = false := by
  simp only [isLineBreak, Bool.or_eq_false_iff, Bool.and_eq_false_iff, decide_eq_false_iff_not,
    beq_eq_false_iff_ne, ne_eq]
  omega

theorem toNat_ofNat_of_printable {byte : ℕ} (h : byte < 0x7F) : (Char.ofNat byte).toNat = byte := by
  have hvalid : byte.isValidChar := .inl (by omega)
  rw [Char.ofNat, dif_pos hvalid]
  rfl

theorem unbroken_quoteByte (byte : ℕ) : Unbroken (quoteByte byte) := by
  unfold quoteByte
  split
  case h_10 =>
    split
    · rename_i hprintable
      have htoNat := toNat_ofNat_of_printable hprintable.2
      intro c hc
      rw [List.mem_singleton.mp hc]
      exact isLineBreak_of_printable (by omega) (by omega)
    · exact .cons (by decide) (.cons (isLineBreak_octalDigit _) (.cons (isLineBreak_octalDigit _)
        (.cons (isLineBreak_octalDigit _) fun _ h => by cases h)))
  all_goals decide

theorem unbroken_of_unquoted {path : Text} (h : path.any mustQuote = false) : Unbroken path := by
  intro c hc
  have hc' : mustQuote c = false := by simpa using List.any_eq_false.mp h c hc
  simp only [mustQuote, Bool.or_eq_false_iff, decide_eq_false_iff_not, not_lt, not_le] at hc'
  exact isLineBreak_of_printable hc'.1.1.1 hc'.1.1.2

theorem unbroken_quoteTwo {start : String} (hstart : Unbroken start.toList) (path : Text) :
    Unbroken (quoteTwo start path) := by
  unfold quoteTwo
  split
  · apply Unbroken.append
    · apply Unbroken.append
      · exact .cons (by decide) hstart
      · intro c hc
        obtain ⟨d, -, hd⟩ := List.mem_flatMap.mp hc
        obtain ⟨byte, -, hbyte⟩ := List.mem_flatMap.mp hd
        exact unbroken_quoteByte byte.toNat c hbyte
    · exact .cons (by decide) fun _ h => by cases h
  · rename_i h
    exact hstart.append (unbroken_of_unquoted (by simpa using h))

theorem unbroken_label {start : String} (hstart : Unbroken start.toList) (path : Text) :
    Unbroken (label start path) := by
  unfold label
  split
  · exact (unbroken_quoteTwo hstart path).append (by decide)
  · exact unbroken_quoteTwo hstart path

theorem unbroken_toDigits (n : ℕ) : Unbroken (Nat.toDigits 10 n) := by
  intro c hc
  have hdigit : c.isDigit = true := Nat.isDigit_of_mem_toDigits (by decide) (by decide) hc
  simp only [Char.isDigit, Bool.and_eq_true, decide_eq_true_eq, ge_iff_le,
    UInt32.le_iff_toNat_le] at hdigit
  have hrange : 48 ≤ c.toNat ∧ c.toNat ≤ 57 := hdigit
  exact isLineBreak_of_printable (by omega) (by omega)

theorem unbroken_objectId (id : ObjectId) : Unbroken (ObjectId.text id) := by
  have hdigit : ∀ digit : Fin 16, isLineBreak (Nat.digitChar digit.val) = false := by decide
  intro c hc
  obtain ⟨digit, -, rfl⟩ := List.mem_map.mp hc
  exact hdigit digit

/-- A header line: one line for `splitlines`, and neither a file header nor a new path. -/
structure Quiet (line : Text) : Prop where
  unbroken : Unbroken line
  notFile : startsWith line "diff --git " = false
  notPath : startsWith line "+++ " = false

instance (line : Text) : Decidable (Quiet line) :=
  decidable_of_iff (Unbroken line ∧ startsWith line "diff --git " = false ∧
    startsWith line "+++ " = false) ⟨fun ⟨h₁, h₂, h₃⟩ => ⟨h₁, h₂, h₃⟩, fun ⟨h₁, h₂, h₃⟩ => ⟨h₁, h₂, h₃⟩⟩

/-- The first character tells a header line from a file header and from a new path. -/
theorem Quiet.of_head {c : Char} {line : Text} (h : Unbroken (c :: line)) (hd : c ≠ 'd')
    (hplus : c ≠ '+') : Quiet (c :: line) where
  unbroken := h
  notFile := startsWith_cons_of_ne rfl hd line
  notPath := startsWith_cons_of_ne rfl hplus line

theorem quiet_extendedHeader (file : FileDiff) : ∀ line ∈ file.extendedHeader, Quiet line := by
  have hold : ∀ mode : GitMode, Quiet ("old mode " ++ mode.text).toList := by
    intro mode
    cases mode <;> decide
  have hnew : ∀ mode : GitMode, Quiet ("new mode " ++ mode.text).toList := by
    intro mode
    cases mode <;> decide
  have hadded : ∀ mode : GitMode, Quiet ("new file mode " ++ mode.text).toList := by
    intro mode
    cases mode <;> decide
  have hdeleted : ∀ mode : GitMode, Quiet ("deleted file mode " ++ mode.text).toList := by
    intro mode
    cases mode <;> decide
  have hshown : ∀ mode : Option GitMode,
      Unbroken ((mode.map fun m => " " ++ m.text).getD "").toList := by
    intro mode
    cases mode with
    | none => decide
    | some mode => cases mode <;> decide
  intro line hline
  rcases List.mem_append.mp hline with hline | hline
  · rcases List.mem_append.mp hline with hline | hline
    · unfold FileDiff.modeLines at hline
      split at hline
      · rcases List.mem_pair.mp hline with rfl | rfl
        · exact hold _
        · exact hnew _
      · cases hline
    · unfold FileDiff.changeLines at hline
      split at hline
      · cases hline
      · rw [List.mem_singleton.mp hline]
        exact hadded _
      · rw [List.mem_singleton.mp hline]
        exact hdeleted _
      · simp only [List.mem_cons, List.not_mem_nil, or_false] at hline
        rcases hline with rfl | rfl | rfl
        · exact .of_head (((by decide : Unbroken "similarity index ".toList).append
            (unbroken_toDigits _)).append (by decide)) (by decide) (by decide)
        · have hpath := unbroken_quoteTwo (by decide : Unbroken "".toList)
          exact .of_head ((by decide : Unbroken "rename from ".toList).append (hpath _))
            (by decide) (by decide)
        · have hpath := unbroken_quoteTwo (by decide : Unbroken "".toList)
          exact .of_head ((by decide : Unbroken "rename to ".toList).append (hpath _))
            (by decide) (by decide)
  · unfold FileDiff.indexLines at hline
    split at hline
    · rw [List.mem_singleton.mp hline]
      have hids : ∀ old new : ObjectId, Unbroken ("index ".toList ++ ObjectId.text old ++
          "..".toList ++ ObjectId.text new) := fun old new =>
        (((by decide : Unbroken "index ".toList).append (unbroken_objectId old)).append
          (by decide)).append (unbroken_objectId new)
      exact .of_head ((hids _ _).append (hshown _)) (by decide) (by decide)
    · cases hline

/-- What holds of every letter of an alphabet, and of the default, holds of each lookup. -/
theorem getD_of_forall {P : Char → Prop} {alphabet : Text} {default : Char}
    (h : ∀ c ∈ default :: alphabet, P c) (n : ℕ) : P (alphabet.getD n default) := by
  rw [List.getD_eq_getElem?_getD]
  cases hn : alphabet[n]? with
  | none => exact h default List.mem_cons_self
  | some c => exact h c (List.mem_cons_of_mem _ (List.mem_of_getElem? hn))

theorem quiet_dataLine (line : Fin 52 × List (Fin 85)) : Quiet (dataLine line) := by
  have hletters : ∀ c ∈ 'A' :: lengthLetters, isLineBreak c = false ∧ c ≠ '+' ∧ c ≠ ' ' := by
    decide
  have hdigits : ∀ c ∈ '0' :: base85, isLineBreak c = false ∧ c ≠ ' ' := by decide
  have hletter : ∀ n, isLineBreak (lengthLetters.getD n 'A') = false ∧
      lengthLetters.getD n 'A' ≠ '+' ∧ lengthLetters.getD n 'A' ≠ ' ' := getD_of_forall hletters
  have hdigit : ∀ n, isLineBreak (base85.getD n '0') = false ∧ base85.getD n '0' ≠ ' ' :=
    getD_of_forall hdigits
  have hdata : ∀ c ∈ line.2.map (fun digit => base85.getD digit.val '0'),
      isLineBreak c = false ∧ c ≠ ' ' := by
    intro c hc
    obtain ⟨digit, -, rfl⟩ := List.mem_map.mp hc
    exact hdigit digit
  refine ⟨.cons (hletter line.1).1 fun c hc => (hdata c hc).1, ?_, ?_⟩
  · -- A base-85 line has no space, and a file header does.
    rw [Bool.eq_false_iff]
    intro hstart
    have hspace : ' ' ∈ dataLine line :=
      (List.isPrefixOf_iff_prefix.mp hstart).subset (by decide)
    rcases List.mem_cons.mp hspace with h | h
    · exact (hletter line.1).2.2 h.symm
    · exact (hdata ' ' h).2 rfl
  · exact startsWith_cons_of_ne rfl (hletter line.1).2.1 _

theorem quiet_binaryHunk (hunk : BinaryHunk) : ∀ line ∈ hunk.render, Quiet line := by
  intro line hline
  rcases List.mem_append.mp hline with hline | hline
  · rcases List.mem_cons.mp hline with rfl | hline
    · have hsize := unbroken_toDigits hunk.size
      cases hunk.method with
      | true =>
        exact .of_head ((by decide : Unbroken "literal ".toList).append hsize) (by decide)
          (by decide)
      | false =>
        refine ⟨(by decide : Unbroken "delta ".toList).append hsize, ?_, ?_⟩ <;>
          simp [startsWith, List.isPrefixOf]
    · obtain ⟨data, -, rfl⟩ := List.mem_map.mp hline
      exact quiet_dataLine data
  · rw [List.mem_singleton.mp hline]
    decide

end Rygnal.ChangeRisk.GitPatch
