import Rygnal.Core.Json

/-! # Canonical JSON of dynamic values

`json.dumps(payload, ensure_ascii=True, sort_keys=True, separators=(",", ":"))` for payloads
that may hold floats, tuples and dictionaries in any order.
-/

namespace Rygnal.Core
open Rygnal.Library.PyText

/-- `float.__repr__` of a finite float. -/
class FloatText where
  repr : ℚ → Text

namespace Value
variable [FloatText]

mutual

/-- The text of a value, its dictionaries in the order of their entries. -/
def text : Value → Text
  | .none => "null".toList
  | .bool b => (if b then "true" else "false").toList
  | .int n => (toString n).toList
  | .float q => FloatText.repr q
  | .str s => Json.stringText s
  | .list items | .tuple items => '[' :: itemsText items ++ [']']
  | .dict entries => '{' :: entriesText entries ++ ['}']

def itemsText : List Value → Text
  | [] => []
  | [x] => text x
  | x :: xs => text x ++ ',' :: itemsText xs

def entriesText : List (String × Value) → Text
  | [] => []
  | [(key, x)] => Json.stringText key ++ ':' :: text x
  | (key, x) :: es => Json.stringText key ++ ':' :: text x ++ ',' :: entriesText es

end

/-- `_canonical_json`. -/
def canonicalJson (payload : Value) : Text := text payload.jsonRoundTrip

end Value

end Rygnal.Core
