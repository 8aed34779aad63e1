import Rygnal.Core.Value
import Rygnal.Library.Regex

/-! # Redaction of sensitive values

`security.py`: the secret patterns, the sensitive key names, and the redaction that is
applied to requests, decisions and audit metadata before they are stored.
-/

namespace Rygnal.Security
open Rygnal.Core Rygnal.Library Rygnal.Library.PyText Rygnal.Library.Regex

def redacted : String := "[REDACTED]"

def sensitiveKeywords : List String :=
  ["password", "passwd", "secret", "token", "api_key", "apikey", "access_key", "private_key",
    "credential", "authorization"]

/-! ## Patterns -/

section Patterns
open Re

/-- `\s*[:=]\s*[^\s,;]+`. -/
def assignment : Re :=
  seqs [.star isSpace, oneOf ":=", .star isSpace,
    plus fun c => !isSpace c && c != ',' && c != ';']

def secretPatterns : List Re :=
  [.seq (alts (seqs [ilit "api", .opt (oneOf "_-"), ilit "key"])
      [ilit "token", ilit "secret", ilit "password", ilit "passwd"]) assignment,
    seqs [ilit "private", .opt (oneOf "_-"), ilit "key"],
    .seq (ilit "aws_access_key_id") assignment,
    .seq (ilit "aws_secret_access_key") assignment,
    .seq (lit "sk-") (atLeast (fun c => c.isAlphanum || c == '_' || c == '-') 12),
    .seq (lit "github_pat_") (plus fun c => c.isAlphanum || c == '_')]

end Patterns

/-- `raw.split(separator, 1)[0].strip()`. -/
def keyBefore (separator : Char) (raw : Text) : Text := strip (raw.takeWhile (· != separator))

def redactMatch (raw : Text) : Text :=
  if '=' ∈ raw then keyBefore '=' raw ++ '=' :: redacted.toList
  else if ':' ∈ raw then keyBefore ':' raw ++ ':' :: ' ' :: redacted.toList
  else redacted.toList

section Redaction
variable [UnicodeTables]

def redactText (value : Text) : Text :=
  secretPatterns.foldl (fun s pattern => pattern.sub redactMatch s) value

def redactSensitiveString (value : String) : String := String.ofList (redactText value.toList)

def isSensitiveKey (key : String) : Bool :=
  sensitiveKeywords.any fun keyword =>
    containsText keyword.toList (replaceChar '-' '_' (lower key.toList))

mutual

def redactSensitiveValue : Value → Value
  | .dict entries => .dict (redactEntries entries)
  | .list items => .list (redactItems items)
  | .tuple items => .tuple (redactItems items)
  | .str s => .str (redactSensitiveString s)
  | v => v

def redactItems : List Value → List Value
  | [] => []
  | x :: xs => redactSensitiveValue x :: redactItems xs

def redactEntries : List (String × Value) → List (String × Value)
  | [] => []
  | (key, x) :: es =>
    (key, if isSensitiveKey key then .str redacted else redactSensitiveValue x) :: redactEntries es

end

/-! ## What redaction leaves -/

omit [UnicodeTables] in
theorem redactMatch_contains (raw : Text) : redacted.toList <:+: redactMatch raw := by
  unfold redactMatch
  split_ifs
  · exact ((List.suffix_cons _ _).trans (List.suffix_append _ _)).isInfix
  · exact (((List.suffix_cons _ _).trans (List.suffix_cons _ _)).trans
      (List.suffix_append _ _)).isInfix
  · exact List.infix_rfl

/-- A pattern changes nothing, or leaves a replacement behind. -/
theorem sub_eq_self_or_not_blank (pattern : Re) (s : Text) :
    pattern.sub redactMatch s = s ∨ strip (pattern.sub redactMatch s) ≠ [] := by
  rcases pattern.sub_eq_self_or_infix redactMatch s with h | ⟨m, hm⟩
  · exact .inl h
  · refine .inr fun hblank => ?_
    have hbracket : '[' ∈ pattern.sub redactMatch s :=
      ((redactMatch_contains m).trans hm).subset (by decide)
    exact absurd (strip_eq_nil.mp hblank '[' hbracket) (by decide)

theorem foldl_sub_not_blank (patterns : List Re) {s : Text} (hs : strip s ≠ []) :
    strip (patterns.foldl (fun t pattern => pattern.sub redactMatch t) s) ≠ [] := by
  induction patterns generalizing s with
  | nil => exact hs
  | cons pattern patterns ih =>
    refine ih ?_
    change strip (pattern.sub redactMatch s) ≠ []
    rcases sub_eq_self_or_not_blank pattern s with h | h
    · rwa [h]
    · exact h

theorem foldl_sub_eq_self_or_not_blank (patterns : List Re) (s : Text) :
    patterns.foldl (fun t pattern => pattern.sub redactMatch t) s = s ∨
      strip (patterns.foldl (fun t pattern => pattern.sub redactMatch t) s) ≠ [] := by
  induction patterns generalizing s with
  | nil => exact .inl rfl
  | cons pattern patterns ih =>
    rw [List.foldl_cons]
    rcases sub_eq_self_or_not_blank pattern s with h | h
    · rw [h]
      exact ih s
    · exact .inr (foldl_sub_not_blank patterns h)

/-- Redaction leaves no text blank that was not. -/
theorem redactText_not_blank {s : Text} (hs : strip s ≠ []) : strip (redactText s) ≠ [] :=
  foldl_sub_not_blank secretPatterns hs

/-- A text that redaction changes is not blank afterwards. -/
theorem redactText_eq_self_or_not_blank (s : Text) :
    redactText s = s ∨ strip (redactText s) ≠ [] :=
  foldl_sub_eq_self_or_not_blank secretPatterns s

/-! ## Texts without secrets -/

open Re

/-- Characters of ids, digests, ISO times and schema names: all but the `g`, `k` and `s` of the
patterns. -/
def plainCharacters : List Char := "0123456789abcdefhijlmnopqrtuvwxyz_-:.+TZ".toList

/-- Redaction leaves a text of these characters alone: each pattern takes another one. -/
theorem redactText_of_plain {s : Text} (h : ∀ c ∈ s, c ∈ plainCharacters) : redactText s = s := by
  let p : Char → Bool := fun c => !plainCharacters.contains c
  have hs : ∀ c ∈ s, p c = false := by
    intro c hc
    simpa [p] using h c hc
  have htake : ∀ q : Char → Bool, (∀ c ∈ plainCharacters, q c = false) →
      ∀ c, q c = true → p c = true := by
    intro q hq c hc
    by_contra hp
    have hmem : c ∈ plainCharacters := by simpa [p] using hp
    rw [hq c hmem] at hc
    cases hc
  have hapi : (seqs [ilit "api", .opt (oneOf "_-"), ilit "key"]).Takes p :=
    .inr (.inr (.inl (.inl (htake _ (by decide)))))
  have htoken : (ilit "token").Takes p := .inr (.inr (.inl (htake _ (by decide))))
  have hsecret : (ilit "secret").Takes p := .inl (htake _ (by decide))
  have hpassword : (ilit "password").Takes p := .inr (.inr (.inl (htake _ (by decide))))
  have hpasswd : (ilit "passwd").Takes p := .inr (.inr (.inl (htake _ (by decide))))
  have hkeyword : (alts (seqs [ilit "api", .opt (oneOf "_-"), ilit "key"])
      [ilit "token", ilit "secret", ilit "password", ilit "passwd"]).Takes p :=
    ⟨hapi, htoken, hsecret, hpassword, hpasswd⟩
  have haws : (ilit "aws_access_key_id").Takes p := .inr (.inr (.inl (htake _ (by decide))))
  have haws' : (ilit "aws_secret_access_key").Takes p := .inr (.inr (.inl (htake _ (by decide))))
  have hprivate : (seqs [ilit "private", .opt (oneOf "_-"), ilit "key"]).Takes p :=
    .inr (.inr (.inl (.inl (htake _ (by decide)))))
  have hkey : (lit "sk-").Takes p := .inl (htake _ (by decide))
  have hpat : (lit "github_pat_").Takes p := .inl (htake _ (by decide))
  have hsub : ∀ r r', r.Takes p → (Re.seq r r').sub redactMatch s = s := by
    intro r r' htakes
    have hseq : (Re.seq r r').Takes p := .inl htakes
    exact Re.sub_eq_self hseq _ hs
  unfold redactText secretPatterns
  simp only [List.foldl_cons, List.foldl_nil]
  rw [hsub _ _ hkeyword, Re.sub_eq_self hprivate _ hs, hsub _ _ haws, hsub _ _ haws',
    hsub _ _ hkey, hsub _ _ hpat]

theorem redactSensitiveString_of_plain {s : String} (h : ∀ c ∈ s.toList, c ∈ plainCharacters) :
    redactSensitiveString s = s := by
  rw [redactSensitiveString, redactText_of_plain h, String.ofList_toList]

/-- The characters of a generated id: its prefix and hexadecimal digits. -/
def idCharacters : List Char := "0123456789abcdefpr_".toList

/-- Redaction leaves a generated id alone. -/
theorem redactSensitiveString_of_id {s : String} (h : ∀ c ∈ s.toList, c ∈ idCharacters) :
    redactSensitiveString s = s := by
  have hsub : ∀ c ∈ idCharacters, c ∈ plainCharacters := by decide
  exact redactSensitiveString_of_plain fun c hc => hsub c (h c hc)

end Redaction

end Rygnal.Security
