import Rygnal.Core.CanonicalJson

/-! # JSON texts determine their values

Two values with the same text are equal up to the tuples that the text writes as lists. The
proof reads both texts from the left: a text is followed by a delimiter, so that neither of two
numbers can go on where the other one ends.
-/

namespace Rygnal.Core
open Rygnal.Library.PyText

/-- What the JSON writer relies on of `float.__repr__`. -/
class LawfulFloatText [FloatText] : Prop where
  chars : ∀ q, ∀ c ∈ FloatText.repr q, c ∈ "0123456789.e+-".toList
  fractional : ∀ q, '.' ∈ FloatText.repr q ∨ 'e' ∈ FloatText.repr q
  injective : Function.Injective FloatText.repr

/-! ## Strings -/

namespace Json

theorem digitChar_injective : ∀ m < 16, ∀ n < 16, Nat.digitChar m = Nat.digitChar n → m = n := by
  decide

/-- The escape of a code unit ends with it. -/
theorem unicodeEscape_append_inj {m n : ℕ} {r s : Text} (hm : m < 0x10000) (hn : n < 0x10000)
    (h : unicodeEscape m ++ r = unicodeEscape n ++ s) : m = n ∧ r = s := by
  simp only [unicodeEscape, hexDigit, List.cons_append, List.nil_append, List.cons.injEq,
    true_and] at h
  have ⟨h₁, h₂, h₃, h₄, hrest⟩ := h
  have e₁ := digitChar_injective _ (Nat.mod_lt _ (by decide)) _ (Nat.mod_lt _ (by decide)) h₁
  have e₂ := digitChar_injective _ (Nat.mod_lt _ (by decide)) _ (Nat.mod_lt _ (by decide)) h₂
  have e₃ := digitChar_injective _ (Nat.mod_lt _ (by decide)) _ (Nat.mod_lt _ (by decide)) h₃
  have e₄ := digitChar_injective _ (Nat.mod_lt _ (by decide)) _ (Nat.mod_lt _ (by decide)) h₄
  refine ⟨?_, hrest⟩
  omega

/-- The escapes that are written after a backslash with one letter. -/
def shortEscapes : List (Char × Char) :=
  [('"', '"'), ('\\', '\\'), ('\n', 'n'), ('\r', 'r'), ('\t', 't'), ('\x0c', 'f'), ('\x08', 'b')]

/-- How a character is written. -/
inductive Escape (c : Char) : Text → Prop where
  | short (letter : Char) (h : (c, letter) ∈ shortEscapes) : Escape c ['\\', letter]
  | plain (h : c ≠ '\\' ∧ c ≠ '"') : Escape c [c]
  | unit (h : c.toNat < 0x10000) : Escape c (unicodeEscape c.toNat)
  | pair (h : 0x10000 ≤ c.toNat) : Escape c (unicodeEscape (0xD800 + (c.toNat - 0x10000) / 0x400) ++
      unicodeEscape (0xDC00 + (c.toNat - 0x10000) % 0x400))

theorem escapeChar_spec (c : Char) : Escape c (escapeChar c) := by
  unfold escapeChar
  split
  · rename_i h
    exact .short '"' (by simp [h, shortEscapes])
  split
  · rename_i h
    exact .short '\\' (by simp [h, shortEscapes])
  split
  · rename_i h
    exact .short 'n' (by simp [h, shortEscapes])
  split
  · rename_i h
    exact .short 'r' (by simp [h, shortEscapes])
  split
  · rename_i h
    exact .short 't' (by simp [h, shortEscapes])
  split
  · rename_i h
    have hc : c = '\x0c' := Char.toNat_inj.mp h
    exact .short 'f' (by simp [hc, shortEscapes])
  split
  · rename_i h
    have hc : c = '\x08' := Char.toNat_inj.mp h
    exact .short 'b' (by simp [hc, shortEscapes])
  split
  · rename_i hquote hslash _ _ _ _ _ _
    exact .plain ⟨hslash, hquote⟩
  split
  · rename_i h
    exact .unit h
  · rename_i h
    exact .pair (by omega)

theorem letter_injective : ∀ e ∈ shortEscapes, ∀ f ∈ shortEscapes, e.2 = f.2 → e.1 = f.1 := by
  decide

theorem letter_ne_u : ∀ e ∈ shortEscapes, e.2 ≠ 'u' := by decide

/-- A character is no half of a surrogate pair. -/
theorem toNat_not_surrogate (c : Char) : c.toNat < 0xD800 ∨ 0xE000 ≤ c.toNat := by
  have hvalid : c.toNat < 0xD800 ∨ 0xDFFF < c.toNat ∧ c.toNat < 0x110000 := c.valid
  omega

theorem toNat_lt (c : Char) : c.toNat < 0x110000 := by
  have hvalid : c.toNat < 0xD800 ∨ 0xDFFF < c.toNat ∧ c.toNat < 0x110000 := c.valid
  omega

theorem Escape.append_inj {c d : Char} {t u r s : Text} (hc : Escape c t) (hd : Escape d u)
    (h : t ++ r = u ++ s) : c = d ∧ r = s := by
  have hvalid := toNat_not_surrogate c
  have hvalid' := toNat_not_surrogate d
  have hlt := toNat_lt c
  have hlt' := toNat_lt d
  cases hc with
  | short letter hl =>
    cases hd with
    | short letter' hl' =>
      simp only [List.cons_append, List.nil_append, List.cons.injEq, true_and] at h
      exact ⟨letter_injective _ hl _ hl' h.1, h.2⟩
    | plain hp => exact absurd (List.cons.inj h).1.symm hp.1
    | unit hn => exact absurd (List.cons.inj (List.cons.inj h).2).1 (letter_ne_u _ hl)
    | pair hn => exact absurd (List.cons.inj (List.cons.inj h).2).1 (letter_ne_u _ hl)
  | plain hp =>
    cases hd with
    | short letter' hl' => exact absurd (List.cons.inj h).1 hp.1
    | plain hp' => exact List.cons.inj h
    | unit hn => exact absurd (List.cons.inj h).1 hp.1
    | pair hn => exact absurd (List.cons.inj h).1 hp.1
  | unit hm =>
    cases hd with
    | short letter' hl' => exact absurd (List.cons.inj (List.cons.inj h).2).1.symm (letter_ne_u _ hl')
    | plain hp' => exact absurd (List.cons.inj h).1.symm hp'.1
    | unit hn =>
      have ⟨heq, hrest⟩ := unicodeEscape_append_inj hm hn h
      exact ⟨Char.toNat_inj.mp heq, hrest⟩
    | pair hn =>
      rw [List.append_assoc] at h
      have ⟨heq, _⟩ := unicodeEscape_append_inj hm (by omega) h
      omega
  | pair hm =>
    rw [List.append_assoc] at h
    cases hd with
    | short letter' hl' => exact absurd (List.cons.inj (List.cons.inj h).2).1.symm (letter_ne_u _ hl')
    | plain hp' => exact absurd (List.cons.inj h).1.symm hp'.1
    | unit hn =>
      have ⟨heq, _⟩ := unicodeEscape_append_inj (by omega) hn h
      omega
    | pair hn =>
      rw [List.append_assoc] at h
      have ⟨hhigh, hlow⟩ := unicodeEscape_append_inj (by omega) (by omega) h
      have ⟨hlow, hrest⟩ := unicodeEscape_append_inj (by omega) (by omega) hlow
      refine ⟨Char.toNat_inj.mp ?_, hrest⟩
      omega

theorem Escape.ne_quote {c : Char} {t : Text} (h : Escape c t) :
    ∃ d rest, t = d :: rest ∧ d ≠ '"' := by
  cases h with
  | plain hp => exact ⟨c, [], rfl, hp.2⟩
  | short letter hl => exact ⟨'\\', _, rfl, by decide⟩
  | unit hn => exact ⟨'\\', _, rfl, by decide⟩
  | pair hn => exact ⟨'\\', _, rfl, by decide⟩

theorem escaped_append_inj (a b : Text) {r s : Text}
    (h : a.flatMap escapeChar ++ '"' :: r = b.flatMap escapeChar ++ '"' :: s) : a = b ∧ r = s := by
  induction a generalizing b with
  | nil =>
    cases b with
    | nil => exact ⟨rfl, (List.cons.inj h).2⟩
    | cons d b =>
      have ⟨x, rest, hx, hne⟩ := (escapeChar_spec d).ne_quote
      rw [List.flatMap_cons, hx] at h
      exact absurd (List.cons.inj h).1.symm hne
  | cons c a ih =>
    cases b with
    | nil =>
      have ⟨x, rest, hx, hne⟩ := (escapeChar_spec c).ne_quote
      rw [List.flatMap_cons, hx] at h
      exact absurd (List.cons.inj h).1 hne
    | cons d b =>
      rw [List.flatMap_cons, List.flatMap_cons, List.append_assoc, List.append_assoc] at h
      have ⟨hcd, h⟩ := (escapeChar_spec c).append_inj (escapeChar_spec d) h
      have ⟨hab, hrest⟩ := ih b h
      exact ⟨by rw [hcd, hab], hrest⟩

/-- The text of a string ends where its closing quote stands. -/
theorem stringText_append_inj {a b : String} {r s : Text}
    (h : stringText a ++ r = stringText b ++ s) : a = b ∧ r = s := by
  simp only [stringText, List.cons_append, List.append_assoc, List.cons.injEq, true_and,
    List.nil_append] at h
  have ⟨hab, hrest⟩ := escaped_append_inj a.toList b.toList h
  exact ⟨String.toList_inj.mp hab, hrest⟩

end Json

namespace Value

/-! ## Numbers and constants -/

theorem toDigits_injective {m n : ℕ} (h : Nat.toDigits 10 m = Nat.toDigits 10 n) : m = n := by
  have hread := congrArg (fun digits => Nat.ofDigitChars 10 digits 0) h
  simpa [Nat.ofDigitChars_ten_toDigits] using hread

/-- The digits of an integer, after its sign. -/
theorem toString_toList (n : ℤ) : (toString n).toList =
    if 0 ≤ n then Nat.toDigits 10 n.toNat else '-' :: Nat.toDigits 10 (-n).toNat := by
  rw [Int.toString_eq_repr, Int.repr_eq_if]
  split <;> simp

/-- A text is split at a character that stands in no part before it. -/
theorem append_cons_inj {c : Char} {t u r s : Text} (ht : c ∉ t) (hu : c ∉ u)
    (h : t ++ c :: r = u ++ c :: s) : t = u ∧ r = s := by
  induction t generalizing u with
  | nil =>
    cases u with
    | nil => exact ⟨rfl, (List.cons.inj h).2⟩
    | cons d u => exact absurd ((List.cons.inj h).1 ▸ List.mem_cons_self) hu
  | cons d t ih =>
    cases u with
    | nil => exact absurd ((List.cons.inj h).1 ▸ List.mem_cons_self) ht
    | cons d' u =>
      have ⟨hd, h⟩ := List.cons.inj h
      have ⟨htu, hrest⟩ := ih (fun hc => ht (List.mem_cons_of_mem d hc))
        (fun hc => hu (List.mem_cons_of_mem d' hc)) h
      exact ⟨by rw [hd, htu], hrest⟩

theorem digits_chars {n : ℕ} {c : Char} (h : c ∈ Nat.toDigits 10 n) :
    c ∈ "0123456789".toList := by
  have hdigit := Nat.isDigit_of_mem_toDigits (by decide) (by decide) h
  rw [Char.isDigit_iff_toNat] at hdigit
  change 48 ≤ c.toNat ∧ c.toNat ≤ 57 at hdigit
  have hlist : ∀ n < 58, 48 ≤ n → Char.ofNat n ∈ "0123456789".toList := by decide
  rw [← Char.ofNat_toNat c]
  exact hlist c.toNat (by omega) (by omega)

theorem int_chars {n : ℤ} {c : Char} (h : c ∈ (toString n).toList) :
    c ∈ "-0123456789".toList := by
  rw [toString_toList] at h
  split at h
  · exact List.mem_cons_of_mem '-' (digits_chars h)
  · rcases List.mem_cons.mp h with rfl | h
    · decide
    · exact List.mem_cons_of_mem '-' (digits_chars h)

theorem int_injective {m n : ℤ} (h : (toString m).toList = (toString n).toList) : m = n := by
  have hsign : ∀ k : ℕ, '-' ∉ Nat.toDigits 10 k := by
    intro k hk
    exact absurd (digits_chars hk) (by decide)
  rw [toString_toList, toString_toList] at h
  split at h <;> split at h
  · have hnat := toDigits_injective h
    omega
  · exact absurd (h ▸ List.mem_cons_self) (hsign _)
  · exact absurd (h ▸ List.mem_cons_self) (hsign _)
  · have hnat := toDigits_injective (List.cons.inj h).2
    omega

/-! ## Values -/

mutual

/-- The value with lists for its tuples. -/
def lists : Value → Value
  | .list items | .tuple items => .list (listsItems items)
  | .dict entries => .dict (listsEntries entries)
  | v => v

def listsItems : List Value → List Value
  | [] => []
  | x :: xs => lists x :: listsItems xs

def listsEntries : List (String × Value) → List (String × Value)
  | [] => []
  | (k, x) :: es => (k, lists x) :: listsEntries es

end

theorem listsEntries_of_forall {entries : List (String × Value)}
    (h : ∀ e ∈ entries, lists e.2 = e.2) : listsEntries entries = entries := by
  induction entries with
  | nil => rfl
  | cons e es ih =>
    rw [List.forall_mem_cons] at h
    rw [listsEntries, h.1, ih h.2]

def delimiters : Text := [',', ']', '\x7d']

/-- What may follow a value: nothing, or a delimiter. -/
def Delimited (rest : Text) : Prop := ∀ c ∈ rest.head?, c ∈ delimiters

/-- The characters of numbers and constants. -/
def tokenCharacters : Text := "0123456789.e+-nultrfas".toList

def IsToken (t : Text) : Prop := t ≠ [] ∧ ∀ c ∈ t, c ∈ tokenCharacters

instance (t : Text) : Decidable (IsToken t) := inferInstanceAs (Decidable (_ ∧ _))

section Texts
variable [FloatText]

omit [FloatText] in
theorem token_append_inj {t u r s : Text} (ht : ∀ c ∈ t, c ∈ tokenCharacters)
    (hu : ∀ c ∈ u, c ∈ tokenCharacters) (hr : Delimited r) (hs : Delimited s)
    (h : t ++ r = u ++ s) : t = u ∧ r = s := by
  have hdisjoint : ∀ c ∈ tokenCharacters, c ∉ delimiters := by decide
  induction t generalizing u with
  | nil =>
    cases u with
    | nil => exact ⟨rfl, h⟩
    | cons d u =>
      have hd := hr d (by rw [show r = d :: (u ++ s) from h]; rfl)
      exact absurd hd (hdisjoint d (hu d List.mem_cons_self))
  | cons c t ih =>
    cases u with
    | nil =>
      have hc := hs c (by rw [show s = c :: (t ++ r) from h.symm]; rfl)
      exact absurd hc (hdisjoint c (ht c List.mem_cons_self))
    | cons d u =>
      have ⟨hcd, h⟩ := List.cons.inj h
      have ⟨htu, hrest⟩ := ih (fun x hx => ht x (List.mem_cons_of_mem c hx))
        (fun x hx => hu x (List.mem_cons_of_mem d hx)) h
      exact ⟨by rw [hcd, htu], hrest⟩

/-- The four kinds of texts, told apart by their first character. -/
inductive Shape : Value → Prop where
  | token (v : Value) (htext : IsToken (text v)) (hlists : lists v = v) : Shape v
  | str (s : String) : Shape (.str s)
  | array (v : Value) (items : List Value) (htext : text v = '[' :: itemsText items ++ [']'])
      (hlists : lists v = .list (listsItems items)) : Shape v
  | dict (entries : List (String × Value)) : Shape (.dict entries)

omit [FloatText] in
theorem constant_token : ∀ t ∈ ["null".toList, "true".toList, "false".toList], IsToken t := by
  decide

theorem int_token (n : ℤ) : IsToken (text (.int n)) := by
  have hsub : ∀ c ∈ "-0123456789".toList, c ∈ tokenCharacters := by decide
  refine ⟨?_, fun c hc => hsub c (int_chars hc)⟩
  rw [text, toString_toList]
  split
  · exact Nat.toDigits_ne_nil
  · nofun

theorem float_token [LawfulFloatText] (q : ℚ) : IsToken (text (.float q)) := by
  have hsub : ∀ c ∈ "0123456789.e+-".toList, c ∈ tokenCharacters := by decide
  refine ⟨?_, fun c hc => hsub c (LawfulFloatText.chars q c hc)⟩
  rcases LawfulFloatText.fractional q with h | h
  · exact List.ne_nil_of_mem h
  · exact List.ne_nil_of_mem h

theorem shape [LawfulFloatText] : ∀ v : Value, Shape v
  | .none => .token _ (constant_token "null".toList (by decide)) rfl
  | .bool true => .token _ (constant_token "true".toList (by decide)) rfl
  | .bool false => .token _ (constant_token "false".toList (by decide)) rfl
  | .int n => .token _ (int_token n) rfl
  | .float q => .token _ (float_token q) rfl
  | .str s => .str s
  | .list items => .array _ items rfl rfl
  | .tuple items => .array _ items rfl rfl
  | .dict entries => .dict entries

theorem token_cases {v : Value} (h : IsToken (text v)) :
    v = .none ∨ (∃ b, v = .bool b) ∨ (∃ n, v = .int n) ∨ ∃ q, v = .float q := by
  cases v with
  | none => exact .inl rfl
  | bool b => exact .inr (.inl ⟨b, rfl⟩)
  | int n => exact .inr (.inr (.inl ⟨n, rfl⟩))
  | float q => exact .inr (.inr (.inr ⟨q, rfl⟩))
  | str s => exact absurd (h.2 '"' List.mem_cons_self) (by decide)
  | list items => exact absurd (h.2 '[' List.mem_cons_self) (by decide)
  | tuple items => exact absurd (h.2 '[' List.mem_cons_self) (by decide)
  | dict entries => exact absurd (h.2 '\x7b' List.mem_cons_self) (by decide)

/-- A text of digits, points and signs is the text of no constant. -/
theorem constant_ne_number {v : Value} (hv : v = .none ∨ ∃ b, v = .bool b) {t : Text}
    (ht : ∀ c ∈ t, c ∈ "0123456789.e+-".toList) : text v ≠ t := by
  rintro rfl
  rcases hv with rfl | ⟨b, rfl⟩
  · exact absurd (ht 'n' List.mem_cons_self) (by decide)
  · cases b with
    | true => exact absurd (ht 't' List.mem_cons_self) (by decide)
    | false => exact absurd (ht 'f' List.mem_cons_self) (by decide)

theorem token_injective [LawfulFloatText] {v w : Value} (hv : IsToken (text v))
    (hw : IsToken (text w)) (h : text v = text w) : v = w := by
  have hint : ∀ n : ℤ, ∀ c ∈ text (.int n), c ∈ "0123456789.e+-".toList := by
    have hsub : ∀ c ∈ "-0123456789".toList, c ∈ "0123456789.e+-".toList := by decide
    intro n c hc
    exact hsub c (int_chars hc)
  have hfloat : ∀ q, ∀ c ∈ text (.float q), c ∈ "0123456789.e+-".toList :=
    fun q c hc => LawfulFloatText.chars q c hc
  have hfraction : ∀ (n : ℤ) q, text (.int n) ≠ text (.float q) := by
    intro n q heq
    change text (.int n) = FloatText.repr q at heq
    rcases LawfulFloatText.fractional q with hc | hc
    · rw [← heq] at hc
      exact absurd (int_chars hc) (by decide)
    · rw [← heq] at hc
      exact absurd (int_chars hc) (by decide)
  rcases token_cases hv with rfl | ⟨b, rfl⟩ | ⟨m, rfl⟩ | ⟨p, rfl⟩ <;>
    rcases token_cases hw with rfl | ⟨b', rfl⟩ | ⟨n, rfl⟩ | ⟨q, rfl⟩
  · rfl
  · cases b' <;> simp [text] at h
  · exact absurd h (constant_ne_number (.inl rfl) (hint n))
  · exact absurd h (constant_ne_number (.inl rfl) (hfloat q))
  · cases b <;> simp [text] at h
  · cases b <;> cases b' <;> simp [text] at h ⊢
  · exact absurd h (constant_ne_number (.inr ⟨b, rfl⟩) (hint n))
  · exact absurd h (constant_ne_number (.inr ⟨b, rfl⟩) (hfloat q))
  · exact absurd h.symm (constant_ne_number (.inl rfl) (hint m))
  · exact absurd h.symm (constant_ne_number (.inr ⟨b', rfl⟩) (hint m))
  · rw [int_injective h]
  · exact absurd h (hfraction m q)
  · exact absurd h.symm (constant_ne_number (.inl rfl) (hfloat p))
  · exact absurd h.symm (constant_ne_number (.inr ⟨b', rfl⟩) (hfloat p))
  · exact absurd h.symm (hfraction n p)
  · rw [LawfulFloatText.injective h]

/-- The rest of a list of items, after its first one. -/
def moreItems : List Value → Text
  | [] => []
  | x :: xs => ',' :: itemsText (x :: xs)

theorem itemsText_cons (x : Value) (xs : List Value) :
    itemsText (x :: xs) = text x ++ moreItems xs := by
  cases xs with
  | nil => simp [itemsText, moreItems]
  | cons y ys => simp [itemsText, moreItems]

/-- The rest of a list of entries, after its first one. -/
def moreEntries : List (String × Value) → Text
  | [] => []
  | e :: es => ',' :: entriesText (e :: es)

theorem entriesText_cons (k : String) (x : Value) (es : List (String × Value)) :
    entriesText ((k, x) :: es) = Json.stringText k ++ ':' :: (text x ++ moreEntries es) := by
  cases es with
  | nil => simp [entriesText, moreEntries]
  | cons f fs => simp [entriesText, moreEntries]

theorem delimited_moreItems (xs : List Value) (r : Text) :
    Delimited (moreItems xs ++ ']' :: r) := by
  cases xs with
  | nil => simp [moreItems, Delimited, delimiters]
  | cons y ys => simp [moreItems, Delimited, delimiters]

theorem delimited_moreEntries (es : List (String × Value)) (r : Text) :
    Delimited (moreEntries es ++ '\x7d' :: r) := by
  cases es with
  | nil => simp [moreEntries, Delimited, delimiters]
  | cons f fs => simp [moreEntries, Delimited, delimiters]

/-- The text of a number or a constant starts with one of its characters. -/
theorem token_lead {v : Value} (h : IsToken (text v)) {c : Char} {r s : Text}
    (hlead : text v ++ r = c :: s) : c ∈ tokenCharacters := by
  cases ht : text v with
  | nil => exact absurd ht h.1
  | cons d t =>
    rw [ht] at hlead
    have hd : d = c := (List.cons.inj hlead).1
    rw [← hd]
    exact h.2 d (ht ▸ List.mem_cons_self)

/-- No value starts with the bracket that closes a list. -/
theorem text_ne_bracket [LawfulFloatText] (v : Value) (r s : Text) : text v ++ r ≠ ']' :: s := by
  intro h
  cases shape v with
  | token v htext hlists => exact absurd (token_lead htext h) (by decide)
  | str s => exact absurd (List.cons.inj h).1 (by decide)
  | array v items htext hlists =>
    rw [htext] at h
    exact absurd (List.cons.inj h).1 (by decide)
  | dict entries => exact absurd (List.cons.inj h).1 (by decide)

theorem str_of_quote [LawfulFloatText] {v : Value} {r s : Text} (h : text v ++ r = '"' :: s) :
    ∃ a, v = .str a := by
  cases shape v with
  | token v htext hlists => exact absurd (token_lead htext h) (by decide)
  | str a => exact ⟨a, rfl⟩
  | array v items htext hlists =>
    rw [htext] at h
    exact absurd (List.cons.inj h).1 (by decide)
  | dict entries => exact absurd (List.cons.inj h).1 (by decide)

theorem array_of_bracket [LawfulFloatText] {v : Value} {r s : Text} (h : text v ++ r = '[' :: s) :
    ∃ items, text v = '[' :: itemsText items ++ [']'] ∧ lists v = .list (listsItems items) := by
  cases shape v with
  | token v htext hlists => exact absurd (token_lead htext h) (by decide)
  | str a => exact absurd (List.cons.inj h).1 (by decide)
  | array v items htext hlists => exact ⟨items, htext, hlists⟩
  | dict entries => exact absurd (List.cons.inj h).1 (by decide)

theorem dict_of_brace [LawfulFloatText] {v : Value} {r s : Text} (h : text v ++ r = '\x7b' :: s) :
    ∃ entries, v = .dict entries := by
  cases shape v with
  | token v htext hlists => exact absurd (token_lead htext h) (by decide)
  | str a => exact absurd (List.cons.inj h).1 (by decide)
  | array v items htext hlists =>
    rw [htext] at h
    exact absurd (List.cons.inj h).1 (by decide)
  | dict entries => exact ⟨entries, rfl⟩

theorem token_text_append_inj [LawfulFloatText] {v w : Value} {r s : Text} (hv : IsToken (text v))
    (hr : Delimited r) (hs : Delimited s) (h : text v ++ r = text w ++ s) : v = w ∧ r = s := by
  cases shape w with
  | token w htext hlists =>
    have ⟨heq, hrest⟩ := token_append_inj hv.2 htext.2 hr hs h
    exact ⟨token_injective hv htext heq, hrest⟩
  | str a => exact absurd (token_lead hv h) (by decide)
  | array w items htext hlists =>
    rw [htext] at h
    exact absurd (token_lead hv h) (by decide)
  | dict entries => exact absurd (token_lead hv h) (by decide)

mutual

/-- Values whose texts begin two equal texts are equal up to their tuples. -/
theorem text_append_inj [LawfulFloatText] : ∀ (v w : Value) {r s : Text}, Delimited r → Delimited s →
    text v ++ r = text w ++ s → lists v = lists w ∧ r = s
  | .str a, w, r, s, hr, hs, h => by
    have ⟨b, hw⟩ := str_of_quote h.symm
    subst hw
    have ⟨hab, hrest⟩ := Json.stringText_append_inj h
    exact ⟨by rw [hab], hrest⟩
  | .list xs, w, r, s, hr, hs, h => by
    have ⟨ys, htext, hlists⟩ := array_of_bracket h.symm
    rw [htext, text, List.append_assoc, List.append_assoc] at h
    have ⟨hitems, hrest⟩ := itemsText_append_inj xs ys (List.cons.inj h).2
    exact ⟨by rw [hlists, lists, hitems], hrest⟩
  | .tuple xs, w, r, s, hr, hs, h => by
    have ⟨ys, htext, hlists⟩ := array_of_bracket h.symm
    rw [htext, text, List.append_assoc, List.append_assoc] at h
    have ⟨hitems, hrest⟩ := itemsText_append_inj xs ys (List.cons.inj h).2
    exact ⟨by rw [hlists, lists, hitems], hrest⟩
  | .dict es, w, r, s, hr, hs, h => by
    have ⟨fs, hw⟩ := dict_of_brace h.symm
    subst hw
    rw [text, text, List.append_assoc, List.append_assoc] at h
    have ⟨hentries, hrest⟩ := entriesText_append_inj es fs (List.cons.inj h).2
    exact ⟨by rw [lists, lists, hentries], hrest⟩
  | .none, w, r, s, hr, hs, h => by
    have htoken : IsToken (text (.none)) := constant_token "null".toList (by decide)
    have ⟨hw, hrest⟩ := token_text_append_inj htoken hr hs h
    exact ⟨by rw [hw], hrest⟩
  | .bool true, w, r, s, hr, hs, h => by
    have htoken : IsToken (text (.bool true)) := constant_token "true".toList (by decide)
    have ⟨hw, hrest⟩ := token_text_append_inj htoken hr hs h
    exact ⟨by rw [hw], hrest⟩
  | .bool false, w, r, s, hr, hs, h => by
    have htoken : IsToken (text (.bool false)) := constant_token "false".toList (by decide)
    have ⟨hw, hrest⟩ := token_text_append_inj htoken hr hs h
    exact ⟨by rw [hw], hrest⟩
  | .int n, w, r, s, hr, hs, h => by
    have ⟨hw, hrest⟩ := token_text_append_inj (int_token n) hr hs h
    exact ⟨by rw [hw], hrest⟩
  | .float q, w, r, s, hr, hs, h => by
    have ⟨hw, hrest⟩ := token_text_append_inj (float_token q) hr hs h
    exact ⟨by rw [hw], hrest⟩

theorem itemsText_append_inj [LawfulFloatText] : ∀ (xs ys : List Value) {r s : Text},
    itemsText xs ++ ']' :: r = itemsText ys ++ ']' :: s → listsItems xs = listsItems ys ∧ r = s
  | [], [], r, s, h => ⟨rfl, (List.cons.inj h).2⟩
  | [], y :: ys, r, s, h => by
    rw [itemsText_cons, List.append_assoc] at h
    exact absurd h.symm (text_ne_bracket y _ r)
  | x :: xs, [], r, s, h => by
    rw [itemsText_cons, List.append_assoc] at h
    exact absurd h (text_ne_bracket x _ s)
  | x :: xs, y :: ys, r, s, h => by
    rw [itemsText_cons, itemsText_cons, List.append_assoc, List.append_assoc] at h
    have ⟨hxy, h⟩ := text_append_inj x y (delimited_moreItems xs r) (delimited_moreItems ys s) h
    rw [listsItems, listsItems, hxy]
    cases xs with
    | nil =>
      cases ys with
      | nil => exact ⟨rfl, (List.cons.inj h).2⟩
      | cons y' ys => exact absurd (List.cons.inj h).1 (by decide)
    | cons x' xs =>
      cases ys with
      | nil => exact absurd (List.cons.inj h).1 (by decide)
      | cons y' ys =>
        have ⟨hrest, hend⟩ := itemsText_append_inj (x' :: xs) (y' :: ys) (List.cons.inj h).2
        exact ⟨by rw [hrest], hend⟩

theorem entriesText_append_inj [LawfulFloatText] : ∀ (es fs : List (String × Value)) {r s : Text},
    entriesText es ++ '\x7d' :: r = entriesText fs ++ '\x7d' :: s →
      listsEntries es = listsEntries fs ∧ r = s
  | [], [], r, s, h => ⟨rfl, (List.cons.inj h).2⟩
  | [], (k, y) :: fs, r, s, h => by
    rw [entriesText_cons] at h
    exact absurd (List.cons.inj h).1 (by decide)
  | (k, x) :: es, [], r, s, h => by
    rw [entriesText_cons] at h
    exact absurd (List.cons.inj h).1 (by decide)
  | (k, x) :: es, (l, y) :: fs, r, s, h => by
    rw [entriesText_cons, entriesText_cons, List.append_assoc, List.append_assoc] at h
    have ⟨hkey, h⟩ := Json.stringText_append_inj h
    rw [List.cons_append, List.cons_append, List.append_assoc, List.append_assoc] at h
    have h := (List.cons.inj h).2
    have ⟨hxy, h⟩ := text_append_inj x y (delimited_moreEntries es r) (delimited_moreEntries fs s) h
    rw [listsEntries, listsEntries, hkey, hxy]
    cases es with
    | nil =>
      cases fs with
      | nil => exact ⟨rfl, (List.cons.inj h).2⟩
      | cons f fs => exact absurd (List.cons.inj h).1 (by decide)
    | cons e es =>
      cases fs with
      | nil => exact absurd (List.cons.inj h).1 (by decide)
      | cons f fs =>
        have ⟨hrest, hend⟩ := entriesText_append_inj (e :: es) (f :: fs) (List.cons.inj h).2
        exact ⟨by rw [hrest], hend⟩

end

end Texts

/-! ## Canonical texts -/

mutual

theorem lists_jsonRoundTrip : ∀ v : Value, lists v.jsonRoundTrip = v.jsonRoundTrip
  | .none | .bool _ | .int _ | .float _ | .str _ => rfl
  | .list items | .tuple items => by
    rw [jsonRoundTrip, lists, listsItems_jsonRoundTrip items]
  | .dict entries => by
    have hsorted : ∀ e ∈ (jsonRoundTripEntries entries).insertionSort fun e f => e.1 ≤ f.1,
        lists e.2 = e.2 := by
      intro e he
      exact lists_of_mem_jsonRoundTrip entries e ((List.mem_insertionSort _).mp he)
    rw [jsonRoundTrip, lists, listsEntries_of_forall hsorted]

theorem listsItems_jsonRoundTrip : ∀ items : List Value,
    listsItems (jsonRoundTripList items) = jsonRoundTripList items
  | [] => rfl
  | x :: xs => by
    rw [jsonRoundTripList, listsItems, lists_jsonRoundTrip x, listsItems_jsonRoundTrip xs]

theorem lists_of_mem_jsonRoundTrip : ∀ (entries : List (String × Value)),
    ∀ e ∈ jsonRoundTripEntries entries, lists e.2 = e.2
  | [], e, he => by cases he
  | (k, x) :: es, e, he => by
    rcases List.mem_cons.mp he with rfl | he
    · exact lists_jsonRoundTrip x
    · exact lists_of_mem_jsonRoundTrip es e he

end

/-- The canonical text determines the value that is read back from it. -/
theorem canonicalJson_injective [FloatText] [LawfulFloatText] {v w : Value}
    (h : v.canonicalJson = w.canonicalJson) : v.jsonRoundTrip = w.jsonRoundTrip := by
  have hend : Delimited [] := by
    intro c hc
    cases hc
  have happend : text v.jsonRoundTrip ++ [] = text w.jsonRoundTrip ++ [] := by
    rw [List.append_nil, List.append_nil]
    exact h
  have ⟨hlists, _⟩ := text_append_inj _ _ hend hend happend
  rwa [lists_jsonRoundTrip, lists_jsonRoundTrip] at hlists

end Value

/-! ## Payloads -/

namespace Json

mutual

def toValue : Json → Value
  | .null => .none
  | .bool b => .bool b
  | .int n => .int n
  | .str s => .str s
  | .array items => .list (toValues items)
  | .object entries => .dict (toEntries entries)

def toValues : List Json → List Value
  | [] => []
  | x :: xs => toValue x :: toValues xs

def toEntries : List (String × Json) → List (String × Value)
  | [] => []
  | (k, x) :: es => (k, toValue x) :: toEntries es

end

mutual

theorem text_toValue [FloatText] : ∀ j : Json, j.toValue.text = j.text
  | .null => rfl
  | .bool _ => rfl
  | .int _ => rfl
  | .str _ => rfl
  | .array items => by rw [toValue, Value.text, text, itemsText_toValues items]
  | .object entries => by rw [toValue, Value.text, text, entriesText_toEntries entries]

theorem itemsText_toValues [FloatText] : ∀ items : List Json,
    Value.itemsText (toValues items) = itemsText items
  | [] => rfl
  | [x] => by rw [toValues, toValues, Value.itemsText, itemsText, text_toValue x]
  | x :: y :: ys => by
    have hrest := itemsText_toValues (y :: ys)
    rw [toValues] at hrest
    rw [toValues, toValues, Value.itemsText, itemsText, text_toValue x, hrest]
    · nofun
    · nofun

theorem entriesText_toEntries [FloatText] : ∀ entries : List (String × Json),
    Value.entriesText (toEntries entries) = entriesText entries
  | [] => rfl
  | [(k, x)] => by rw [toEntries, toEntries, Value.entriesText, entriesText, text_toValue x]
  | (k, x) :: (l, y) :: es => by
    have hrest := entriesText_toEntries ((l, y) :: es)
    rw [toEntries] at hrest
    rw [toEntries, toEntries, Value.entriesText, entriesText, text_toValue x, hrest]
    · nofun
    · nofun

end

mutual

theorem lists_toValue : ∀ j : Json, j.toValue.lists = j.toValue
  | .null => rfl
  | .bool _ => rfl
  | .int _ => rfl
  | .str _ => rfl
  | .array items => by rw [toValue, Value.lists, listsItems_toValues items]
  | .object entries => by rw [toValue, Value.lists, listsEntries_toEntries entries]

theorem listsItems_toValues : ∀ items : List Json,
    Value.listsItems (toValues items) = toValues items
  | [] => rfl
  | x :: xs => by rw [toValues, Value.listsItems, lists_toValue x, listsItems_toValues xs]

theorem listsEntries_toEntries : ∀ entries : List (String × Json),
    Value.listsEntries (toEntries entries) = toEntries entries
  | [] => rfl
  | (k, x) :: es => by
    rw [toEntries, Value.listsEntries, lists_toValue x, listsEntries_toEntries es]

end

mutual

theorem toValue_injective : ∀ i j : Json, i.toValue = j.toValue → i = j
  | .null, j, h => by cases j <;> simp_all [toValue]
  | .bool _, j, h => by cases j <;> simp_all [toValue]
  | .int _, j, h => by cases j <;> simp_all [toValue]
  | .str _, j, h => by cases j <;> simp_all [toValue]
  | .array xs, .array ys, h => by
    rw [toValues_injective xs ys (Value.list.inj h)]
  | .object es, .object fs, h => by
    rw [toEntries_injective es fs (Value.dict.inj h)]

theorem toValues_injective : ∀ xs ys : List Json, toValues xs = toValues ys → xs = ys
  | [], [], _ => rfl
  | x :: xs, y :: ys, h => by
    have ⟨hx, hxs⟩ := List.cons.inj h
    rw [toValue_injective x y hx, toValues_injective xs ys hxs]

theorem toEntries_injective : ∀ es fs : List (String × Json), toEntries es = toEntries fs → es = fs
  | [], [], _ => rfl
  | (k, x) :: es, (l, y) :: fs, h => by
    have ⟨he, hes⟩ := List.cons.inj h
    have ⟨hk, hx⟩ := Prod.mk.inj he
    rw [hk, toValue_injective x y hx, toEntries_injective es fs hes]

end

/-- Numerator and denominator with a point between them. -/
@[reducible]
def fractionText : FloatText := ⟨fun q => (toString q.num).toList ++ '.' :: Nat.toDigits 10 q.den⟩

theorem fractionText_lawful : @LawfulFloatText fractionText := by
  have hnum : ∀ n : ℤ, '.' ∉ (toString n).toList := by
    intro n hn
    exact absurd (Value.int_chars hn) (by decide)
  refine @LawfulFloatText.mk fractionText ?_ ?_ ?_
  · intro q c hc
    have hint : ∀ c ∈ "-0123456789".toList, c ∈ "0123456789.e+-".toList := by decide
    have hdigit : ∀ c ∈ "0123456789".toList, c ∈ "0123456789.e+-".toList := by decide
    rcases List.mem_append.mp hc with hc | hc
    · exact hint c (Value.int_chars hc)
    · rcases List.mem_cons.mp hc with rfl | hc
      · decide
      · exact hdigit c (Value.digits_chars hc)
  · intro q
    exact .inl (List.mem_append_right _ List.mem_cons_self)
  · intro p q h
    have ⟨hleft, hright⟩ := Value.append_cons_inj (hnum p.num) (hnum q.num) h
    exact Rat.ext (Value.int_injective hleft) (Value.toDigits_injective hright)

/-- The text of a payload determines it. -/
theorem text_injective {i j : Json} (h : i.text = j.text) : i = j := by
  let _ : FloatText := fractionText
  have hlawful : LawfulFloatText := fractionText_lawful
  have hend : Value.Delimited [] := by
    intro c hc
    cases hc
  have happend : i.toValue.text ++ [] = j.toValue.text ++ [] := by
    rw [text_toValue, text_toValue, h]
  have ⟨hlists, _⟩ := Value.text_append_inj _ _ hend hend happend
  rw [lists_toValue, lists_toValue] at hlists
  exact toValue_injective i j hlists

end Json

end Rygnal.Core
