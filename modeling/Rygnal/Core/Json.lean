import Rygnal.Core.Value
import Rygnal.Library.PyText

/-! # Canonical JSON texts and their digests

`json.dumps(payload, sort_keys=True, separators=(",", ":"), ensure_ascii=True)` for payloads
whose dictionaries are already sorted, and the SHA-256 that the receipts take of it.
-/

namespace Rygnal.Core
open Rygnal.Library.PyText

/-- `hashlib.sha256(text.encode("utf-8")).hexdigest()`. -/
class Digest where
  sha256 : String → String

/-- A payload of the types that a canonical text admits. -/
inductive Json where
  | null
  | bool (b : Bool)
  | int (n : ℤ)
  | str (s : String)
  | array (items : List Json)
  | object (entries : List (String × Json))
deriving Inhabited, Repr

namespace Json

def hexDigit (n : ℕ) : Char := (Nat.digitChar n)

/-- `\uXXXX` for one UTF-16 code unit. -/
def unicodeEscape (n : ℕ) : Text :=
  ['\\', 'u', hexDigit (n / 0x1000 % 16), hexDigit (n / 0x100 % 16), hexDigit (n / 0x10 % 16),
    hexDigit (n % 16)]

def escapeChar (c : Char) : Text :=
  if c = '"' then ['\\', '"']
  else if c = '\\' then ['\\', '\\']
  else if c = '\n' then ['\\', 'n']
  else if c = '\r' then ['\\', 'r']
  else if c = '\t' then ['\\', 't']
  else if c.toNat = 0x0C then ['\\', 'f']
  else if c.toNat = 0x08 then ['\\', 'b']
  else if 0x20 ≤ c.toNat ∧ c.toNat ≤ 0x7E then [c]
  else if c.toNat < 0x10000 then unicodeEscape c.toNat
  else unicodeEscape (0xD800 + (c.toNat - 0x10000) / 0x400) ++
    unicodeEscape (0xDC00 + (c.toNat - 0x10000) % 0x400)

def stringText (s : String) : Text := '"' :: s.toList.flatMap escapeChar ++ ['"']

mutual

def text : Json → Text
  | .null => "null".toList
  | .bool b => (if b then "true" else "false").toList
  | .int n => (toString n).toList
  | .str s => stringText s
  | .array items => '[' :: itemsText items ++ [']']
  | .object entries => '{' :: entriesText entries ++ ['}']

def itemsText : List Json → Text
  | [] => []
  | [x] => text x
  | x :: xs => text x ++ ',' :: itemsText xs

def entriesText : List (String × Json) → Text
  | [] => []
  | [(key, x)] => stringText key ++ ':' :: text x
  | (key, x) :: es => stringText key ++ ':' :: text x ++ ',' :: entriesText es

end

/-- `hashlib.sha256(_canonical_json(payload)).hexdigest()`. -/
def sha256 [Digest] (payload : Json) : String := Digest.sha256 (String.ofList payload.text)

end Json

end Rygnal.Core
