import Rygnal.Library.PyText

/-! # Shell patterns

`fnmatch.fnmatchcase` with bracket expressions, over lists of code points.
-/

namespace Rygnal.Library.Glob
open Rygnal.Library.PyText

/-- One item of a bracket expression. -/
inductive ClassItem where
  | char (c : Char)
  | range (first last : Char)
deriving DecidableEq, Repr

def ClassItem.holds (c : Char) : ClassItem → Bool
  | .char d => c = d
  | .range first last => first ≤ c && c ≤ last

inductive Token where
  | literal (c : Char)
  | anyChar
  | anyText
  | charClass (negated : Bool) (items : List ClassItem)
deriving DecidableEq, Repr

/-- The token accepts the character; `anyText` accepts none by itself. -/
def Token.holds (c : Char) : Token → Bool
  | .literal d => c = d
  | .anyChar => true
  | .anyText => false
  | .charClass negated items => items.any (ClassItem.holds c) != negated

/-- The items between the brackets; a hyphen at either end stands for itself. -/
def classItems : Text → List ClassItem
  | first :: '-' :: last :: rest => .range first last :: classItems rest
  | c :: rest => .char c :: classItems rest
  | [] => []

/-- What follows an opening bracket, when there is a closing one. A bracket in the first place is
an item. -/
def readClass (pattern : Text) : Option (Token × Text) :=
  let (negated, body) := match pattern with
    | '!' :: body => (true, body)
    | body => (false, body)
  let (lead, body) := match body with
    | ']' :: body => ([']'], body)
    | body => ([], body)
  match body.dropWhile (· ≠ ']') with
  | [] => none
  | _ :: rest => some (.charClass negated (classItems (lead ++ body.takeWhile (· ≠ ']'))), rest)

/-- The tokens of a pattern that is not longer than the fuel. -/
def tokensFrom : ℕ → Text → List Token
  | 0, _ => []
  | _, [] => []
  | fuel + 1, '*' :: rest => .anyText :: tokensFrom fuel rest
  | fuel + 1, '?' :: rest => .anyChar :: tokensFrom fuel rest
  | fuel + 1, '[' :: rest =>
    match readClass rest with
    | some (token, after) => token :: tokensFrom fuel after
    | none => .literal '[' :: tokensFrom fuel rest
  | fuel + 1, c :: rest => .literal c :: tokensFrom fuel rest

def tokens (pattern : Text) : List Token := tokensFrom pattern.length pattern

def matchTokens : List Token → Text → Bool
  | [], text => text.isEmpty
  | .anyText :: rest, text => text.tails.any (matchTokens rest)
  | _ :: _, [] => false
  | token :: rest, c :: text => token.holds c && matchTokens rest text

/-- `fnmatch.fnmatchcase(text, pattern)`. -/
def fnmatchcase (text pattern : Text) : Bool := matchTokens (tokens pattern) text

end Rygnal.Library.Glob
