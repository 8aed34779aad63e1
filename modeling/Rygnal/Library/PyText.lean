import Mathlib.Data.List.DropRight
import Mathlib.Data.List.Infix
import Mathlib.Tactic.Common

/-! # Python's text operations

The `str` methods that a Python program uses on lines and paths, over lists of code
points: white space, line boundaries, `strip`, `splitlines`, `split` and prefixes. Case
mapping outside ASCII and the alphanumeric classes are tables of the interpreter and
enter as an instance argument.
-/

namespace Rygnal.Library.PyText

abbrev Text := List Char

instance : LawfulBEq Text := inferInstanceAs (LawfulBEq (List Char))

/-- A fact about each character of a text is decided on these characters. -/
instance (priority := 2000) decidableForallMem (s : Text) (p : Char → Prop) [DecidablePred p] :
    Decidable (∀ c ∈ s, p c) :=
  List.decidableBAll p s

/-- `str.isspace` for one character, and `\s` of a text pattern. -/
def isSpace (c : Char) : Bool :=
  (0x09 ≤ c.toNat && c.toNat ≤ 0x0D) || (0x1C ≤ c.toNat && c.toNat ≤ 0x20) ||
    c.toNat == 0x85 || c.toNat == 0xA0 || c.toNat == 0x1680 ||
    (0x2000 ≤ c.toNat && c.toNat ≤ 0x200A) || c.toNat == 0x2028 || c.toNat == 0x2029 ||
    c.toNat == 0x202F || c.toNat == 0x205F || c.toNat == 0x3000

/-- The characters at which `str.splitlines` ends a line. -/
def isLineBreak (c : Char) : Bool :=
  (0x0A ≤ c.toNat && c.toNat ≤ 0x0D) || (0x1C ≤ c.toNat && c.toNat ≤ 0x1E) ||
    c.toNat == 0x85 || c.toNat == 0x2028 || c.toNat == 0x2029

def lstrip (s : Text) : Text := s.dropWhile isSpace

def rstrip (s : Text) : Text := s.rdropWhile isSpace

def strip (s : Text) : Text := lstrip (rstrip s)

/-- `str.splitlines()`: a carriage return before a line feed belongs to that boundary, and a
boundary at the end of the text opens no further line. -/
def splitlines : Text → List Text
  | [] => []
  | c :: cs =>
    if c = '\r' ∧ cs.head? = some '\n' then splitlines cs
    else if isLineBreak c then [] :: splitlines cs
    else match splitlines cs with
      | [] => [[c]]
      | l :: ls => (c :: l) :: ls

/-- `str.split()` at runs of white space. -/
def split : Text → List Text
  | [] => []
  | c :: cs =>
    if isSpace c then split cs else
      match cs, split cs with
      | d :: _, w :: ws => if isSpace d then [c] :: w :: ws else (c :: w) :: ws
      | _, ws => [c] :: ws

/-- `str.split(sep)` for a one-character separator. -/
def splitOn (sep : Char) : Text → List Text
  | [] => [[]]
  | c :: cs =>
    if c = sep then [] :: splitOn sep cs else
      match splitOn sep cs with
      | [] => [[c]]
      | w :: ws => (c :: w) :: ws

/-- `sep.join(words)` for a one-character separator. -/
def joinWith (sep : Char) (words : List Text) : Text := [sep].intercalate words

def replaceChar (old new : Char) (s : Text) : Text := s.map fun c => if c = old then new else c

/-- `text.startswith(start)`. -/
def startsWith (text : Text) (start : String) : Bool := start.toList.isPrefixOf text

/-- `text.endswith(ending)`. -/
def endsWith (text : Text) (ending : String) : Bool := ending.toList.isSuffixOf text

/-- `needle in text`. -/
def containsText (needle text : Text) : Bool := text.tails.any fun t => needle.isPrefixOf t

/-- Every line followed by a line feed. -/
def unlines (lines : List Text) : Text := lines.flatMap fun l => l ++ ['\n']

/-! ## Case and word characters -/

/-- The interpreter's Unicode tables, used only outside ASCII. -/
class UnicodeTables where
  lower : Text → Text
  alnum : Char → Bool

def isAscii (c : Char) : Bool := c.toNat < 128

section Tables
variable [UnicodeTables]

/-- `str.lower()`. -/
def lower (s : Text) : Text := if s.all isAscii then s.map Char.toLower else UnicodeTables.lower s

/-- `\w` of a text pattern. -/
def isWord (c : Char) : Bool :=
  if isAscii c then c.isAlphanum || c == '_' else UnicodeTables.alnum c

end Tables

namespace Ascii

/-- Tables for ASCII texts, which never consult them. -/
scoped instance tables : UnicodeTables := ⟨id, fun _ => false⟩

end Ascii

/-! ## White space -/

theorem rstrip_cons {c : Char} (hc : isSpace c = false) (s : Text) :
    rstrip (c :: s) = c :: rstrip s := by
  have hc' : ¬ isSpace c = true := by simp [hc]
  unfold rstrip List.rdropWhile
  rw [List.reverse_cons, List.dropWhile_append]
  by_cases hnil : (List.dropWhile isSpace s.reverse).isEmpty = true
  · rw [if_pos hnil, List.dropWhile_cons_of_neg hc']
    rw [List.isEmpty_iff] at hnil
    simp [hnil]
  · simp [hnil]

/-- A first character that is no white space stays the first one. -/
theorem strip_cons {c : Char} (hc : isSpace c = false) (s : Text) :
    strip (c :: s) = c :: rstrip s := by
  rw [strip, rstrip_cons hc, lstrip, List.dropWhile_cons_of_neg (by simp [hc])]

theorem rstrip_lstrip_comm (s : Text) : rstrip (lstrip s) = lstrip (rstrip s) := by
  unfold lstrip rstrip
  induction s with
  | nil => rfl
  | cons c s ih =>
    by_cases hc : isSpace c = true
    · rw [List.dropWhile_cons_of_pos hc, ih]
      by_cases hs : ∀ x ∈ s, isSpace x = true
      · have h1 : List.rdropWhile isSpace (c :: s) = [] := by
          rw [List.rdropWhile_eq_nil_iff]
          intro x hx
          rcases List.mem_cons.mp hx with rfl | hx
          · exact hc
          · exact hs x hx
        have h2 : List.rdropWhile isSpace s = [] := by
          rw [List.rdropWhile_eq_nil_iff]
          exact hs
        rw [h1, h2]
      · have h1 : List.rdropWhile isSpace (c :: s) = c :: List.rdropWhile isSpace s := by
          unfold List.rdropWhile
          rw [List.reverse_cons, List.dropWhile_append]
          have hne : (List.dropWhile isSpace s.reverse).isEmpty = false := by
            rw [Bool.eq_false_iff]
            intro hnil
            apply hs
            intro x hx
            rw [List.isEmpty_iff, List.dropWhile_eq_nil_iff] at hnil
            exact hnil x (List.mem_reverse.mpr hx)
          simp [hne]
        rw [h1, List.dropWhile_cons_of_pos hc]
    · have hcons : List.rdropWhile isSpace (c :: s) = c :: List.rdropWhile isSpace s :=
        rstrip_cons (by simpa using hc) s
      rw [List.dropWhile_cons_of_neg hc, hcons, List.dropWhile_cons_of_neg hc]

theorem lstrip_lstrip (s : Text) : lstrip (lstrip s) = lstrip s :=
  List.dropWhile_idempotent isSpace s

theorem rstrip_rstrip (s : Text) : rstrip (rstrip s) = rstrip s :=
  List.rdropWhile_idempotent isSpace s

/-- Stripping first at the right end changes nothing. -/
@[simp] theorem strip_rstrip (s : Text) : strip (rstrip s) = strip s := by
  rw [strip, rstrip_rstrip, strip]

@[simp] theorem strip_strip (s : Text) : strip (strip s) = strip s := by
  rw [strip, strip, rstrip_lstrip_comm, rstrip_rstrip, lstrip_lstrip]

theorem strip_eq_nil {s : Text} : strip s = [] ↔ ∀ c ∈ s, isSpace c = true := by
  unfold strip lstrip
  rw [List.dropWhile_eq_nil_iff]
  constructor
  · intro h
    have hnil : rstrip (rstrip s) = [] := List.rdropWhile_eq_nil_iff.mpr h
    rw [rstrip_rstrip] at hnil
    exact List.rdropWhile_eq_nil_iff.mp hnil
  · intro h c hc
    exact h c ((List.rdropWhile_prefix isSpace s).subset hc)

theorem strip_of_no_space {s : Text} (h : ∀ c ∈ s, isSpace c = false) : strip s = s := by
  have hrstrip : rstrip s = s := by
    rw [rstrip, List.rdropWhile_eq_self_iff]
    intro hne hlast
    rw [h _ (List.getLast_mem hne)] at hlast
    cases hlast
  rw [strip, hrstrip, lstrip, List.dropWhile_eq_self_iff]
  intro hpos hfirst
  rw [h _ (List.getElem_mem hpos)] at hfirst
  cases hfirst

/-! ## Prefixes -/

/-- The first character decides against a prefix. -/
theorem startsWith_cons_of_ne {start : String} {d : Char} {ds : Text}
    (hstart : start.toList = d :: ds) {c : Char} (h : c ≠ d) (line : Text) :
    startsWith (c :: line) start = false := by
  simp [startsWith, hstart, List.isPrefixOf, Ne.symm h]

/-! ## Lines -/

theorem splitlines_newline (rest : Text) : splitlines ('\n' :: rest) = [] :: splitlines rest := by
  have hbreak : isLineBreak '\n' = true := by decide
  simp [splitlines, hbreak]

theorem splitlines_cons (c : Char) (cs : Text) (hc : isLineBreak c = false) :
    splitlines (c :: cs) = match splitlines cs with
      | [] => [[c]]
      | l :: ls => (c :: l) :: ls := by
  have hr : c ≠ '\r' := by
    rintro rfl
    exact absurd hc (by decide)
  simp [splitlines, hr, hc]

/-- The lines that `splitlines` makes of one line of a text and its line feed. -/
def pieces (line : Text) : List Text := splitlines (line ++ ['\n'])

theorem splitlines_terminated_ne_nil (line : Text) : splitlines (line ++ ['\n']) ≠ [] := by
  induction line with
  | nil => simp [splitlines_newline]
  | cons c line ih =>
    rw [List.cons_append, splitlines]
    split_ifs
    · exact ih
    · simp
    · cases splitlines (line ++ ['\n']) <;> simp

/-- `splitlines` works through a text one terminated line at a time. -/
theorem splitlines_append (line rest : Text) :
    splitlines (line ++ '\n' :: rest) = pieces line ++ splitlines rest := by
  unfold pieces
  induction line with
  | nil => simp [splitlines_newline, splitlines]
  | cons c line ih =>
    have hhead : (line ++ '\n' :: rest).head? = (line ++ ['\n']).head? := by
      cases line <;> rfl
    have hne : splitlines (line ++ ['\n']) ≠ [] := splitlines_terminated_ne_nil line
    obtain ⟨l, ls, hl⟩ := List.exists_cons_of_ne_nil hne
    simp only [List.cons_append, splitlines, hhead, ih]
    split_ifs
    · rfl
    · rfl
    · simp [hl]

/-- `splitlines` of a text of terminated lines is the pieces of the lines in order. -/
theorem splitlines_unlines (lines : List Text) :
    splitlines (unlines lines) = lines.flatMap pieces := by
  induction lines with
  | nil => rfl
  | cons l ls ih =>
    rw [unlines, List.flatMap_cons, List.append_assoc, List.singleton_append, splitlines_append,
      List.flatMap_cons]
    exact congrArg _ ih

/-- A line without boundaries of its own stays one line. -/
theorem pieces_of_forall {line : Text} (h : ∀ c ∈ line, isLineBreak c = false) :
    pieces line = [line] := by
  unfold pieces
  induction line with
  | nil => simp [splitlines_newline, splitlines]
  | cons c line ih =>
    rw [List.cons_append, splitlines_cons c _ (h c List.mem_cons_self),
      ih fun d hd => h d (List.mem_cons_of_mem c hd)]

/-- A first character that ends no line starts the first of the pieces. -/
theorem pieces_cons {c : Char} (hc : isLineBreak c = false) (line : Text) :
    ∃ l ls, pieces line = l :: ls ∧ pieces (c :: line) = (c :: l) :: ls := by
  obtain ⟨l, ls, hl⟩ := List.exists_cons_of_ne_nil (splitlines_terminated_ne_nil line)
  refine ⟨l, ls, hl, ?_⟩
  rw [pieces, List.cons_append, splitlines_cons c _ hc, hl]

/-- A carriage return before the line feed belongs to it. -/
theorem pieces_return {line : Text} (h : ∀ c ∈ line, isLineBreak c = false) :
    pieces (line ++ ['\r']) = [line] := by
  unfold pieces
  induction line with
  | nil => decide
  | cons c line ih =>
    rw [List.forall_mem_cons] at h
    rw [List.cons_append, List.cons_append, splitlines_cons c _ h.1, ih h.2]

/-- A terminated line that stays one line has lost at most a carriage return at its end. -/
theorem eq_of_pieces_eq_singleton {line l : Text} (h : pieces line = [l]) :
    line = l ∨ line = l ++ ['\r'] := by
  induction line generalizing l with
  | nil =>
    change [[]] = [l] at h
    exact .inl (List.cons.inj h).1
  | cons c line ih =>
    obtain ⟨first, rest, hpieces⟩ := List.exists_cons_of_ne_nil (splitlines_terminated_ne_nil line)
    rw [pieces, List.cons_append, splitlines] at h
    split_ifs at h with hreturn hbreak
    · cases line with
      | nil =>
        change [[]] = [l] at h
        rw [← (List.cons.inj h).1, hreturn.1]
        exact .inr rfl
      | cons d line =>
        have hd : d = '\n' := Option.some.inj hreturn.2
        rw [hd, List.cons_append, splitlines_newline] at h
        exact absurd (List.cons.inj h).2 (splitlines_terminated_ne_nil line)
    · exact absurd (List.cons.inj h).2 (splitlines_terminated_ne_nil line)
    · rw [hpieces] at h
      obtain ⟨rfl, rfl⟩ := List.cons.inj h
      rcases ih hpieces with hline | hline
      · exact .inl (congrArg (c :: ·) hline)
      · exact .inr (congrArg (c :: ·) hline)

/-- No line of `splitlines` holds a boundary. -/
theorem isLineBreak_of_mem_splitlines {s line : Text} (h : line ∈ splitlines s) :
    ∀ c ∈ line, isLineBreak c = false := by
  induction s generalizing line with
  | nil => simp [splitlines] at h
  | cons d s ih =>
    rw [splitlines] at h
    split_ifs at h with hpair hbreak
    · exact ih h
    · rcases List.mem_cons.mp h with rfl | h
      · simp
      · exact ih h
    · have hd : isLineBreak d = false := by simpa using hbreak
      cases hs : splitlines s with
      | nil =>
        rw [hs] at h
        simp only [List.mem_singleton] at h
        subst h
        simpa using hd
      | cons l ls =>
        rw [hs] at h
        rcases List.mem_cons.mp h with rfl | h
        · intro c hc
          rcases List.mem_cons.mp hc with rfl | hc
          · exact hd
          · exact ih (hs ▸ List.mem_cons_self) c hc
        · exact ih (hs ▸ List.mem_cons_of_mem l h)

/-! ## Words -/

/-- What the first character of a word adds to the words of the rest. -/
def consWord (c : Char) (rest : Text) (words : List Text) : List Text :=
  match rest, words with
  | d :: _, w :: ws => if isSpace d then [c] :: w :: ws else (c :: w) :: ws
  | _, ws => [c] :: ws

theorem split_space {c : Char} (hc : isSpace c = true) (rest : Text) :
    split (c :: rest) = split rest := by
  rw [split.eq_def]
  simp [hc]

theorem split_cons {c : Char} (hc : isSpace c = false) (rest : Text) :
    split (c :: rest) = consWord c rest (split rest) := by
  rw [split.eq_def]
  simp only [hc, Bool.false_eq_true, if_false]
  rfl

/-- The words of a text after its first word. -/
theorem split_word_append {word rest : Text} (hword : word ≠ [])
    (h : ∀ c ∈ word, isSpace c = false) (hrest : ∀ c ∈ rest.head?, isSpace c = true) :
    split (word ++ rest) = word :: split rest := by
  induction word with
  | nil => exact absurd rfl hword
  | cons c cs ih =>
    rw [List.cons_append, split_cons (h c List.mem_cons_self)]
    cases cs with
    | nil =>
      cases rest with
      | nil => rfl
      | cons d ds =>
        have hd := hrest d rfl
        rw [List.nil_append, split_space hd]
        cases split ds with
        | nil => rfl
        | cons w ws => simp [consWord, hd]
    | cons d ds =>
      have hd := h d (by simp)
      rw [ih (by simp) fun e he => h e (List.mem_cons_of_mem c he)]
      simp [consWord, hd]

end Rygnal.Library.PyText
