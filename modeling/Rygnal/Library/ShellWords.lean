import Rygnal.Library.PyText

/-! # Shell words

`shlex.split(text)`: words separated by white space, with POSIX quotes and escapes.
-/

namespace Rygnal.Library.ShellWords
open Rygnal.Library.PyText

/-- Between words, in a word, between quotes, or after a backslash. -/
inductive State where
  | between
  | word
  | quoted (quote : Char)
  | escaped (inside : Option Char)
deriving DecidableEq, Repr

inductive SplitError where
  | noClosingQuotation
  | noEscapedCharacter
deriving DecidableEq, Repr

def SplitError.message : SplitError → String
  | .noClosingQuotation => "No closing quotation"
  | .noEscapedCharacter => "No escaped character"

def isSeparator (c : Char) : Bool := c = ' ' || c = '\t' || c = '\r' || c = '\n'

def isQuote (c : Char) : Bool := c = '\'' || c = '"'

/-- The words of a text, the characters of the current word last first. -/
def wordsFrom : State → Text → Text → Except SplitError (List Text)
  | .between, _, [] => .ok []
  | .word, current, [] => .ok [current.reverse]
  | .quoted _, _, [] => .error .noClosingQuotation
  | .escaped _, _, [] => .error .noEscapedCharacter
  | .between, _, c :: text =>
    if isSeparator c then wordsFrom .between [] text
    else if c = '\\' then wordsFrom (.escaped none) [] text
    else if isQuote c then wordsFrom (.quoted c) [] text
    else wordsFrom .word [c] text
  | .word, current, c :: text =>
    if isSeparator c then (wordsFrom .between [] text).map (current.reverse :: ·)
    else if c = '\\' then wordsFrom (.escaped none) current text
    else if isQuote c then wordsFrom (.quoted c) current text
    else wordsFrom .word (c :: current) text
  | .quoted quote, current, c :: text =>
    if c = quote then wordsFrom .word current text
    -- only a double quote knows escapes
    else if c = '\\' && quote = '"' then wordsFrom (.escaped (some quote)) current text
    else wordsFrom (.quoted quote) (c :: current) text
  | .escaped none, current, c :: text => wordsFrom .word (c :: current) text
  | .escaped (some quote), current, c :: text =>
    -- the backslash stays before other characters than itself and the quote
    if c = '\\' || c = quote then wordsFrom (.quoted quote) (c :: current) text
    else wordsFrom (.quoted quote) (c :: '\\' :: current) text

/-- `shlex.split(text)`. -/
def split (text : Text) : Except SplitError (List Text) := wordsFrom .between [] text

example : split "diff --git \"a/x y\" b/x\\ y".toList =
    .ok ["diff".toList, "--git".toList, "a/x y".toList, "b/x y".toList] := by decide

/-! ## Words without quotes -/

/-- A character that stands for itself in a word. -/
structure Ordinary (c : Char) : Prop where
  noSeparator : isSeparator c = false
  noBackslash : c ≠ '\\'
  noQuote : isQuote c = false

instance (c : Char) : Decidable (Ordinary c) :=
  decidable_of_iff (isSeparator c = false ∧ c ≠ '\\' ∧ isQuote c = false)
    ⟨fun ⟨h₁, h₂, h₃⟩ => ⟨h₁, h₂, h₃⟩, fun ⟨h₁, h₂, h₃⟩ => ⟨h₁, h₂, h₃⟩⟩

theorem wordsFrom_word {word : Text} (h : ∀ c ∈ word, Ordinary c) (current rest : Text) :
    wordsFrom .word current (word ++ rest) = wordsFrom .word (word.reverse ++ current) rest := by
  induction word generalizing current with
  | nil => rfl
  | cons c word ih =>
    rw [List.forall_mem_cons] at h
    rw [List.cons_append, wordsFrom, h.1.noSeparator, h.1.noQuote, if_neg (by decide),
      if_neg h.1.noBackslash, if_neg (by decide), ih h.2, List.reverse_cons, List.append_assoc]
    rfl

/-- The start of a word, up to a quote or the end of the word. -/
theorem wordsFrom_between {c : Char} {word : Text} (h : ∀ d ∈ c :: word, Ordinary d) (rest : Text) :
    wordsFrom .between [] (c :: word ++ rest) = wordsFrom .word (c :: word).reverse rest := by
  rw [List.forall_mem_cons] at h
  rw [List.cons_append, wordsFrom, h.1.noSeparator, h.1.noQuote, if_neg (by decide),
    if_neg h.1.noBackslash, if_neg (by decide), wordsFrom_word h.2, List.reverse_cons]

theorem wordsFrom_end (current : Text) : wordsFrom .word current [] = .ok [current.reverse] := by
  rw [wordsFrom]

theorem wordsFrom_space (current rest : Text) :
    wordsFrom .word current (' ' :: rest) =
      (wordsFrom .between [] rest).map (current.reverse :: ·) := by
  rw [wordsFrom, if_pos (by decide)]

/-- A word up to the next space. -/
theorem wordsFrom_ordinary {c : Char} {word : Text} (h : ∀ d ∈ c :: word, Ordinary d) (rest : Text) :
    wordsFrom .between [] (c :: word ++ ' ' :: rest) =
      (wordsFrom .between [] rest).map ((c :: word) :: ·) := by
  rw [wordsFrom_between h, wordsFrom_space, List.reverse_reverse]

/-! ## What a word can hold -/

attribute [elab_as_elim] wordsFrom.induct_unfolding

theorem eq_cons_of_map {result : Except SplitError (List Text)} {word : Text} {words : List Text}
    (h : result.map (word :: ·) = .ok words) : ∃ rest, result = .ok rest ∧ words = word :: rest := by
  cases result with
  | error exc => cases h
  | ok rest => exact ⟨rest, rfl, (Except.ok.inj h).symm⟩

/-- The first word goes on from the current one. -/
theorem prefix_of_wordsFrom {state : State} {current text word : Text} {words : List Text}
    (h : wordsFrom state current text = .ok (word :: words)) (hstate : state ≠ .between) :
    current.reverse <+: word := by
  fun_induction wordsFrom state current text generalizing word words with
  | case2 current =>
    rw [(List.cons.inj (Except.ok.inj h)).1]
  | case9 current d text hd ih =>
    obtain ⟨rest, -, hwords⟩ := eq_cons_of_map h
    rw [(List.cons.inj hwords).1]
  | _ => grind [List.prefix_append]

/-- A word holds characters of the text, and a backslash only from the text. -/
theorem mem_of_mem_wordsFrom {state : State} {current text : Text} {words : List Text}
    (h : wordsFrom state current text = .ok words) {word : Text} (hword : word ∈ words) {c : Char}
    (hc : c ∈ word) : c ∈ current ∨ c ∈ text ∨ c = '\\' ∧ ∃ quote, state = .escaped (some quote) := by
  fun_induction wordsFrom state current text generalizing words with
  | case2 current =>
    rw [← Except.ok.inj h, List.mem_singleton] at hword
    rw [hword, List.mem_reverse] at hc
    exact .inl hc
  | case9 current d text hd ih =>
    -- the white space after a word
    obtain ⟨rest, hrest, rfl⟩ := eq_cons_of_map h
    rcases List.mem_cons.mp hword with rfl | hword
    · exact .inl (List.mem_reverse.mp hc)
    · have := ih hrest hword
      simp_all
  | _ => grind

/-- Without double quotes and backslashes a single quote is in no word. -/
theorem quote_notMem_of_mem_wordsFrom {state : State} {current text : Text} {words : List Text}
    (h : wordsFrom state current text = .ok words)
    (hstate : state = .between ∨ state = .word ∨ state = .quoted '\'') (hcurrent : '\'' ∉ current)
    (hquote : '"' ∉ text) (hbackslash : '\\' ∉ text) {word : Text} (hword : word ∈ words) :
    '\'' ∉ word := by
  fun_induction wordsFrom state current text generalizing words with
  | case2 current =>
    rw [← Except.ok.inj h, List.mem_singleton] at hword
    rwa [hword, List.mem_reverse]
  | case9 current d text hd ih =>
    obtain ⟨rest, hrest, rfl⟩ := eq_cons_of_map h
    rcases List.mem_cons.mp hword with rfl | hword
    · rwa [List.mem_reverse]
    · simp_all
  | _ => grind [isQuote]

/-- Without quotes and backslashes no white space is in a word. -/
theorem separator_notMem_of_mem_wordsFrom {state : State} {current text : Text} {words : List Text}
    (h : wordsFrom state current text = .ok words) (hstate : state = .between ∨ state = .word)
    (hcurrent : ∀ c ∈ current, isSeparator c = false) (hbackslash : '\\' ∉ text)
    (hquotes : ∀ c ∈ text, isQuote c = false) {word : Text} (hword : word ∈ words) :
    ∀ c ∈ word, isSeparator c = false := by
  fun_induction wordsFrom state current text generalizing words with
  | case2 current =>
    rw [← Except.ok.inj h, List.mem_singleton] at hword
    rw [hword]
    exact fun c hc => hcurrent c (List.mem_reverse.mp hc)
  | case9 current d text hd ih =>
    obtain ⟨rest, hrest, rfl⟩ := eq_cons_of_map h
    rcases List.mem_cons.mp hword with rfl | hword
    · exact fun c hc => hcurrent c (List.mem_reverse.mp hc)
    · simp_all
  | _ => grind

end Rygnal.Library.ShellWords
