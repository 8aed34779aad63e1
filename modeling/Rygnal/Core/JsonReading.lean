import Mathlib.Data.String.Basic
import Rygnal.Core.Models

/-! # Values read back from JSON

A dictionary that went through a JSON text keeps its keys, and a value that was read back once is
read back as it is.
-/

namespace Rygnal.Core
open Rygnal.Library

/-- A dictionary as JSON gives it back. -/
def jsonDict (d : Dict) : Dict :=
  (Value.jsonRoundTripEntries d).insertionSort fun e f => e.1 ≤ f.1

theorem get_jsonDict {d : Dict} (hkeys : (d.map Prod.fst).Nodup) (key : String) :
    PyDict.get (jsonDict d) key = (PyDict.get d key).map Value.jsonRoundTrip := by
  have hperm := List.perm_insertionSort (fun e f : String × Value => e.1 ≤ f.1)
    (Value.jsonRoundTripEntries d)
  rw [jsonDict, ← PyDict.get_of_perm hperm.symm _ key, get_jsonRoundTripEntries]
  rwa [keys_jsonRoundTripEntries]

theorem keys_jsonDict (d : Dict) : ((jsonDict d).map Prod.fst).Perm (d.map Prod.fst) := by
  have hperm := List.perm_insertionSort (fun e f : String × Value => e.1 ≤ f.1)
    (Value.jsonRoundTripEntries d)
  have hmap := hperm.map Prod.fst
  rwa [keys_jsonRoundTripEntries] at hmap

/-! ## Values read back twice -/

theorem jsonRoundTripEntries_eq_map (d : Dict) :
    Value.jsonRoundTripEntries d = d.map fun e => (e.1, e.2.jsonRoundTrip) := by
  induction d with
  | nil => rfl
  | cons e d ih => rw [Value.jsonRoundTripEntries, ih, List.map_cons]

theorem jsonRoundTripEntries_insertionSort (d : Dict) :
    Value.jsonRoundTripEntries (d.insertionSort fun e f => e.1 ≤ f.1) =
      (Value.jsonRoundTripEntries d).insertionSort fun e f => e.1 ≤ f.1 := by
  rw [jsonRoundTripEntries_eq_map, jsonRoundTripEntries_eq_map]
  apply List.map_insertionSort
  intro e _ f _
  rfl

/-- Sorting sorted entries changes nothing. -/
theorem insertionSort_sorted (d : Dict) :
    (d.insertionSort fun e f => e.1 ≤ f.1).insertionSort (fun e f => e.1 ≤ f.1) =
      d.insertionSort fun e f => e.1 ≤ f.1 := by
  have htotal : Std.Total fun e f : String × Value => e.1 ≤ f.1 :=
    ⟨fun e f => le_total e.1 f.1⟩
  have htrans : IsTrans (String × Value) fun e f => e.1 ≤ f.1 := ⟨fun _ _ _ => le_trans⟩
  apply List.Pairwise.insertionSort_eq
  apply List.pairwise_insertionSort

mutual

/-- A value read back from JSON is read back as it is. -/
theorem jsonRoundTrip_idem : ∀ v : Value, v.jsonRoundTrip.jsonRoundTrip = v.jsonRoundTrip
  | .none | .bool _ | .int _ | .float _ | .str _ => rfl
  | .list items | .tuple items => by
    rw [Value.jsonRoundTrip, Value.jsonRoundTrip, jsonRoundTripList_idem items]
  | .dict entries => by
    rw [Value.jsonRoundTrip, Value.jsonRoundTrip, jsonRoundTripEntries_insertionSort,
      jsonRoundTripEntries_idem entries, insertionSort_sorted]

theorem jsonRoundTripList_idem : ∀ items : List Value,
    Value.jsonRoundTripList (Value.jsonRoundTripList items) = Value.jsonRoundTripList items
  | [] => rfl
  | x :: xs => by
    rw [Value.jsonRoundTripList, Value.jsonRoundTripList, jsonRoundTrip_idem x,
      jsonRoundTripList_idem xs]

theorem jsonRoundTripEntries_idem : ∀ entries : Dict,
    Value.jsonRoundTripEntries (Value.jsonRoundTripEntries entries) =
      Value.jsonRoundTripEntries entries
  | [] => rfl
  | (k, x) :: es => by
    rw [Value.jsonRoundTripEntries, Value.jsonRoundTripEntries, jsonRoundTrip_idem x,
      jsonRoundTripEntries_idem es]

end

/-- A dictionary read back from JSON is read back as it is. -/
theorem jsonDict_idem (d : Dict) : jsonDict (jsonDict d) = jsonDict d := by
  have h := jsonRoundTrip_idem (.dict d)
  rw [Value.jsonRoundTrip, Value.jsonRoundTrip] at h
  exact Value.dict.inj h

end Rygnal.Core
