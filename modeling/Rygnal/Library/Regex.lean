import Rygnal.Library.PyText

/-! # Backtracking text patterns

The fragment of Python's `re` that a pattern table uses: character classes, sequences,
ordered alternatives, greedy repetition of a class, optional parts and word boundaries.
`run` lists the ends of the matches in the order in which the backtracking matcher tries
them, so that its head is the match that `re` reports.
-/

namespace Rygnal.Library.Regex
open Rygnal.Library.PyText

inductive Re where
  | empty
  | cls (p : Char → Bool)
  | seq (r s : Re)
  | alt (r s : Re)
  /-- Greedy `[..]*`. -/
  | star (p : Char → Bool)
  | opt (r : Re)
  /-- `\b`. -/
  | bound

/-- A place in a text: the character before it and the text after it. -/
structure Cursor where
  prev : Option Char
  rest : Text
deriving DecidableEq, Repr

/-- Greedy repetition gives back one character at a time. -/
def runStar (p : Char → Bool) : Option Char → Text → List Cursor
  | prev, [] => [⟨prev, []⟩]
  | prev, c :: cs => if p c then runStar p (some c) cs ++ [⟨prev, c :: cs⟩] else [⟨prev, c :: cs⟩]

section Matching
variable [UnicodeTables]

def atBoundary (c : Cursor) : Bool := (c.prev.any isWord) != (c.rest.head?.any isWord)

def Re.run : Re → Cursor → List Cursor
  | .empty, c => [c]
  | .cls p, ⟨_, rest⟩ =>
    match rest with
    | x :: xs => if p x then [⟨some x, xs⟩] else []
    | [] => []
  | .seq r s, c => (r.run c).flatMap s.run
  | .alt r s, c => r.run c ++ s.run c
  | .star p, c => runStar p c.prev c.rest
  | .opt r, c => r.run c ++ [c]
  | .bound, c => if atBoundary c then [c] else []

/-- `pattern.search(text) is not None`, from the character before the text. -/
def Re.searchFrom (r : Re) : Option Char → Text → Bool
  | prev, [] => !(r.run ⟨prev, []⟩).isEmpty
  | prev, c :: cs => !(r.run ⟨prev, c :: cs⟩).isEmpty || r.searchFrom (some c) cs

def Re.search (r : Re) (s : Text) : Bool := r.searchFrom none s

/-- How much of the text at the cursor the reported match takes. -/
def Re.matchLength (r : Re) (c : Cursor) : ℕ :=
  match r.run c with
  | [] => 0
  | stop :: _ => c.rest.length - stop.rest.length

/-- `pattern.sub(replace, text)` for a pattern without empty matches, with `skip` characters
of the current match still to drop. -/
def Re.subFrom (r : Re) (replace : Text → Text) : ℕ → Option Char → Text → Text
  | _, _, [] => []
  | skip + 1, _, c :: cs => r.subFrom replace skip (some c) cs
  | 0, prev, c :: cs =>
    match r.matchLength ⟨prev, c :: cs⟩ with
    | 0 => c :: r.subFrom replace 0 (some c) cs
    | n + 1 => replace ((c :: cs).take (n + 1)) ++ r.subFrom replace n (some c) cs

def Re.sub (r : Re) (replace : Text → Text) (s : Text) : Text := r.subFrom replace 0 none s

end Matching

/-! ## Pattern notation -/

namespace Re

def char (c : Char) : Re := .cls (· == c)

def oneOf (chars : String) : Re := .cls fun c => chars.toList.contains c

/-- The pattern of a literal text. -/
def lit (s : String) : Re := s.toList.foldr (fun c r => .seq (char c) r) .empty

/-- A lower-case ASCII letter or another character, ignoring case: Python also folds the
dotted and dotless `i`, the long `s` and the Kelvin sign. -/
def foldsTo (letter c : Char) : Bool :=
  c.toLower == letter || (letter == 'i' && (c == '\u0130' || c == '\u0131')) ||
    (letter == 's' && c == '\u017f') || (letter == 'k' && c == '\u212a')

/-- The pattern of a literal text that ignores case. -/
def ilit (s : String) : Re := s.toList.foldr (fun c r => .seq (.cls (foldsTo c)) r) .empty

/-- `[..]+`. -/
def plus (p : Char → Bool) : Re := .seq (.cls p) (.star p)

/-- `[..]{n}`. -/
def exactly (p : Char → Bool) : ℕ → Re
  | 0 => .empty
  | n + 1 => .seq (.cls p) (exactly p n)

/-- `[..]{n,}`. -/
def atLeast (p : Char → Bool) (n : ℕ) : Re := .seq (exactly p n) (.star p)

def seqs (rs : List Re) : Re := rs.foldr .seq .empty

/-- `(..|..)`, tried from the left. -/
def alts (first : Re) (rest : List Re) : Re :=
  match rest with
  | [] => first
  | r :: rs => .alt first (alts r rs)

end Re

/-! ## What a match takes -/

theorem runStar_suffix {p : Char → Bool} {prev : Option Char} {s : Text} {stop : Cursor}
    (h : stop ∈ runStar p prev s) : stop.rest <:+ s := by
  induction s generalizing prev with
  | nil => simp_all [runStar]
  | cons c cs ih =>
    rw [runStar] at h
    split at h
    · rcases List.mem_append.mp h with h | h
      · exact (ih h).trans (List.suffix_cons c cs)
      · rw [List.mem_singleton.mp h]
    · rw [List.mem_singleton.mp h]

section Lemmas
variable [UnicodeTables]

theorem Re.run_suffix {r : Re} {c stop : Cursor} (h : stop ∈ r.run c) : stop.rest <:+ c.rest := by
  induction r generalizing c stop with
  | empty => rw [List.mem_singleton.mp h]
  | cls p =>
    obtain ⟨prev, rest⟩ := c
    cases rest with
    | nil => simp [Re.run] at h
    | cons x xs =>
      simp only [Re.run] at h
      split at h
      · rw [List.mem_singleton.mp h]
        exact List.suffix_cons x xs
      · simp at h
  | seq r s ihr ihs =>
    obtain ⟨mid, hmid, hstop⟩ := List.mem_flatMap.mp h
    exact (ihs hstop).trans (ihr hmid)
  | alt r s ihr ihs =>
    rcases List.mem_append.mp h with h | h
    · exact ihr h
    · exact ihs h
  | star p => exact runStar_suffix h
  | opt r ih =>
    rcases List.mem_append.mp h with h | h
    · exact ih h
    · rw [List.mem_singleton.mp h]
  | bound =>
    rw [Re.run] at h
    split at h
    · rw [List.mem_singleton.mp h]
    · simp at h

/-- A substitution changes nothing, or a replacement stands in its result. -/
theorem Re.sub_eq_self_or_infix (r : Re) (replace : Text → Text) (s : Text) :
    r.sub replace s = s ∨ ∃ m, replace m <:+: r.sub replace s := by
  unfold Re.sub
  generalize none = prev
  induction s generalizing prev with
  | nil => exact .inl (by simp [Re.subFrom])
  | cons c cs ih =>
    rw [Re.subFrom]
    split
    · rcases ih (some c) with h | ⟨m, hm⟩
      · exact .inl (congrArg _ h)
      · exact .inr ⟨m, hm.trans (List.suffix_cons c _).isInfix⟩
    · exact .inr ⟨_, (List.prefix_append _ _).isInfix⟩

/-- Every match of the pattern takes a character of the class. -/
def Re.Takes (p : Char → Bool) : Re → Prop
  | .cls q => ∀ c, q c = true → p c = true
  | .seq r s => r.Takes p ∨ s.Takes p
  | .alt r s => r.Takes p ∧ s.Takes p
  | _ => False

/-- A pattern that takes a character of a class finds no match where there is none. -/
theorem Re.run_eq_nil {p : Char → Bool} {r : Re} (hr : r.Takes p) {c : Cursor}
    (hc : ∀ x ∈ c.rest, p x = false) : r.run c = [] := by
  induction r generalizing c with
  | cls q =>
    obtain ⟨prev, rest⟩ := c
    cases rest with
    | nil => rfl
    | cons x xs =>
      have hx : p x = false := hc x List.mem_cons_self
      have hq : q x = false := by
        by_contra hq
        rw [hr x (by simpa using hq)] at hx
        cases hx
      simp [Re.run, hq]
  | seq r s ihr ihs =>
    rw [Re.run]
    rcases hr with hr | hs
    · rw [ihr hr hc, List.flatMap_nil]
    · refine List.flatMap_eq_nil_iff.mpr fun mid hmid => ihs hs fun x hx => ?_
      exact hc x ((Re.run_suffix hmid).subset hx)
  | alt r s ihr ihs =>
    rw [Re.run, ihr hr.1 hc, ihs hr.2 hc, List.append_nil]
  | empty | star | opt | bound => exact hr.elim

theorem Re.sub_eq_self {p : Char → Bool} {r : Re} (hr : r.Takes p) (replace : Text → Text)
    {s : Text} (hs : ∀ x ∈ s, p x = false) : r.sub replace s = s := by
  unfold Re.sub
  generalize none = prev
  induction s generalizing prev with
  | nil => simp [Re.subFrom]
  | cons c cs ih =>
    have hlen : r.matchLength ⟨prev, c :: cs⟩ = 0 := by
      rw [Re.matchLength, Re.run_eq_nil hr hs]
    rw [Re.subFrom, hlen, ih fun x hx => hs x (List.mem_cons_of_mem c hx)]

end Lemmas

end Rygnal.Library.Regex
