import Mathlib.Data.Rat.Defs
import Mathlib.Data.List.Sort
import Mathlib.Tactic.Common
import Rygnal.Library.PyDict

/-! # Dynamic values

The Python values that travel through request metadata, risk assessments and audit events.
A dictionary is the list of its entries in insertion order, a finite float is its exact
rational value. JSON texts are represented by the value they encode: `jsonRoundTrip` is
`json.loads(json.dumps(value, sort_keys=True))`.
-/

namespace Rygnal.Core
open Rygnal.Library

inductive Value where
  | none
  | bool (b : Bool)
  | int (n : ℤ)
  | float (q : ℚ)
  | str (s : String)
  | list (items : List Value)
  | tuple (items : List Value)
  | dict (entries : List (String × Value))
deriving Inhabited, Repr

abbrev Dict := PyDict Value

namespace Value

mutual

def beq : Value → Value → Bool
  | .none, .none => true
  | .bool a, .bool b => a == b
  | .int m, .int n => m == n
  | .float p, .float q => p == q
  | .str s, .str t => s == t
  | .list xs, .list ys => beqList xs ys
  | .tuple xs, .tuple ys => beqList xs ys
  | .dict es, .dict fs => beqEntries es fs
  | _, _ => false

def beqList : List Value → List Value → Bool
  | [], [] => true
  | x :: xs, y :: ys => beq x y && beqList xs ys
  | _, _ => false

def beqEntries : List (String × Value) → List (String × Value) → Bool
  | [], [] => true
  | (k, x) :: es, (l, y) :: fs => k == l && beq x y && beqEntries es fs
  | _, _ => false

end

mutual

theorem beq_iff : ∀ x y : Value, beq x y = true ↔ x = y
  | .list xs, y => by cases y <;> simp [beq, beqList_iff xs]
  | .tuple xs, y => by cases y <;> simp [beq, beqList_iff xs]
  | .dict es, y => by cases y <;> simp [beq, beqEntries_iff es]
  | .none, y => by cases y <;> simp [beq]
  | .bool _, y => by cases y <;> simp [beq]
  | .int _, y => by cases y <;> simp [beq]
  | .float _, y => by cases y <;> simp [beq]
  | .str _, y => by cases y <;> simp [beq]

theorem beqList_iff : ∀ xs ys : List Value, beqList xs ys = true ↔ xs = ys
  | [], ys => by cases ys <;> simp [beqList]
  | x :: xs, ys => by cases ys <;> simp [beqList, beq_iff x, beqList_iff xs]

theorem beqEntries_iff : ∀ es fs : List (String × Value), beqEntries es fs = true ↔ es = fs
  | [], fs => by cases fs <;> simp [beqEntries]
  | (k, x) :: es, fs => by
    cases fs <;> simp [beqEntries, beq_iff x, beqEntries_iff es, Prod.ext_iff]

end

instance : DecidableEq Value := fun x y => decidable_of_iff _ (beq_iff x y)

mutual

/-- The value read back from the JSON text with sorted keys: tuples come back as lists. -/
def jsonRoundTrip : Value → Value
  | .list xs => .list (jsonRoundTripList xs)
  | .tuple xs => .list (jsonRoundTripList xs)
  | .dict es => .dict ((jsonRoundTripEntries es).insertionSort fun e f => e.1 ≤ f.1)
  | v => v

def jsonRoundTripList : List Value → List Value
  | [] => []
  | x :: xs => jsonRoundTrip x :: jsonRoundTripList xs

def jsonRoundTripEntries : List (String × Value) → List (String × Value)
  | [] => []
  | (k, x) :: es => (k, jsonRoundTrip x) :: jsonRoundTripEntries es

end

/-- `bool(value)`. -/
def truthy : Value → Bool
  | .none => false
  | .bool b => b
  | .int n => n ≠ 0
  | .float q => q ≠ 0
  | .str s => s ≠ ""
  | .list xs | .tuple xs => !xs.isEmpty
  | .dict es => !es.isEmpty

/-- The number that a value counts as in a comparison: `True == 1 == 1.0`. -/
def number? : Value → Option ℚ
  | .bool b => some (if b then 1 else 0)
  | .int n => some n
  | .float q => some q
  | _ => Option.none

mutual

/-- Python's `==`: numbers by value, dictionaries in any order. -/
def pyEq : Value → Value → Bool
  | .none, .none => true
  | .str s, .str t => s == t
  | .list xs, .list ys => pyEqList xs ys
  | .tuple xs, .tuple ys => pyEqList xs ys
  | .dict es, .dict fs => es.length == fs.length && pyEqEntries es fs
  | x, y =>
    match x.number?, y.number? with
    | some p, some q => p == q
    | _, _ => false

def pyEqList : List Value → List Value → Bool
  | [], [] => true
  | x :: xs, y :: ys => pyEq x y && pyEqList xs ys
  | _, _ => false

/-- Every entry of the left dictionary has an equal entry on the right. -/
def pyEqEntries : List (String × Value) → List (String × Value) → Bool
  | [], _ => true
  | (k, x) :: es, fs =>
    (match fs.lookup k with
      | some y => pyEq x y
      | Option.none => false) && pyEqEntries es fs

end

end Value

/-- A text or `None`. -/
def optionValue (s : Option String) : Value := (s.map Value.str).getD .none

end Rygnal.Core
