import Rygnal.Core.Exceptions
import Rygnal.Core.Value

/-! # The lossless encoder of artifact values

`_encode_lossless_value` and `_decode_lossless_value`: tuples and dictionaries with keys that
are no strings become tagged objects, so that JSON keeps them apart from lists and objects. A
dictionary that has the tag among its keys is tagged itself.
-/

namespace Rygnal.Artifact
open Rygnal.Core Rygnal.Core.PyException Rygnal.Library

def patchArtifactError (message : String) : PyException := .runtime .patchArtifactError message

def tamperedError (message : String) : PyException :=
  ⟨[.other "PatchArtifactTamperedError", .patchArtifactError, .runtimeError, .exception,
    .baseException], message⟩

/-! ## Values -/

/-- A Python value; `other` is a value of any other type. -/
inductive PyValue where
  | none
  | bool (b : Bool)
  | int (n : ℤ)
  | float (q : ℚ)
  | str (s : String)
  | list (items : List PyValue)
  | tuple (items : List PyValue)
  | dict (entries : List (PyValue × PyValue))
  | other (typeName : String)
deriving Inhabited, Repr

namespace PyValue

/-- The number that a value counts as in a comparison: `True == 1 == 1.0`. -/
def number? : PyValue → Option ℚ
  | .bool b => some (if b then 1 else 0)
  | .int n => some n
  | .float q => some q
  | _ => Option.none

mutual

/-- Python's `==` of values of the supported types. -/
def pyEq : PyValue → PyValue → Bool
  | .none, .none => true
  | .str s, .str t => s == t
  | .list xs, .list ys => pyEqItems xs ys
  | .tuple xs, .tuple ys => pyEqItems xs ys
  | .dict es, .dict fs => es.length == fs.length && pyEqEntries es fs
  | x, y =>
    match x.number?, y.number? with
    | some p, some q => p == q
    | _, _ => false

def pyEqItems : List PyValue → List PyValue → Bool
  | [], [] => true
  | x :: xs, y :: ys => pyEq x y && pyEqItems xs ys
  | _, _ => false

/-- Every entry of the left dictionary has an equal entry on the right. -/
def pyEqEntries : List (PyValue × PyValue) → List (PyValue × PyValue) → Bool
  | [], _ => true
  | (k, x) :: es, fs => fs.any (fun f => pyEq k f.1 && pyEq x f.2) && pyEqEntries es fs

end

mutual

def hashable : PyValue → Bool
  | .list _ | .dict _ => false
  | .tuple items => hashableItems items
  | _ => true

def hashableItems : List PyValue → Bool
  | [] => true
  | x :: xs => hashable x && hashableItems xs

end

/-- No two keys of a dictionary are equal. -/
def DistinctKeys (entries : List (PyValue × PyValue)) : Prop :=
  entries.Pairwise fun e f => pyEq f.1 e.1 = false

instance (entries : List (PyValue × PyValue)) : Decidable (DistinctKeys entries) :=
  inferInstanceAs (Decidable (entries.Pairwise _))

mutual

/-- A value that Python can build from the types that the encoder supports: the keys of each
dictionary are hashable and distinct. -/
def Supported : PyValue → Prop
  | .list items | .tuple items => SupportedItems items
  | .dict entries => DistinctKeys entries ∧ SupportedEntries entries
  | .other _ => False
  | _ => True

def SupportedItems : List PyValue → Prop
  | [] => True
  | x :: xs => Supported x ∧ SupportedItems xs

def SupportedEntries : List (PyValue × PyValue) → Prop
  | [] => True
  | (k, x) :: es => (hashable k = true ∧ Supported k ∧ Supported x) ∧ SupportedEntries es

end

end PyValue

/-! ## Encoder and decoder -/

def losslessTypeKey : String := "__rygnal_serialized_type__"

def losslessItemsKey : String := "items"

/-- The keys of the dictionary are strings and none of them is the tag. -/
def isPlain (entries : List (PyValue × PyValue)) : Bool :=
  entries.all fun e =>
    match e.1 with
    | .str key => key ≠ losslessTypeKey
    | _ => false

/-- The text of a string key. -/
def keyText : PyValue → String
  | .str key => key
  | _ => ""

def taggedObject (marker : String) (items : List Value) : Value :=
  .dict [(losslessTypeKey, .str marker), (losslessItemsKey, .list items)]

mutual

def encodeLosslessValue : PyValue → Except PyException Value
  | .none => .ok .none
  | .bool b => .ok (.bool b)
  | .int n => .ok (.int n)
  | .float q => .ok (.float q)
  | .str s => .ok (.str s)
  | .tuple items => (encodeItems items).map (taggedObject "tuple")
  | .list items => (encodeItems items).map .list
  | .dict entries =>
    if isPlain entries then (encodeFields entries).map .dict
    else (encodePairs entries).map (taggedObject "mapping")
  | .other typeName => .error (patchArtifactError
      ("Patch artifact metadata contains an unsupported value type: " ++ typeName))

def encodeItems : List PyValue → Except PyException (List Value)
  | [] => .ok []
  | x :: xs => do
    let y ← encodeLosslessValue x
    let ys ← encodeItems xs
    return y :: ys

/-- The fields of a plain dictionary. -/
def encodeFields : List (PyValue × PyValue) → Except PyException (List (String × Value))
  | [] => .ok []
  | (k, x) :: es => do
    let y ← encodeLosslessValue x
    let ys ← encodeFields es
    return (keyText k, y) :: ys

def encodePairs : List (PyValue × PyValue) → Except PyException (List Value)
  | [] => .ok []
  | (k, x) :: es => do
    let key ← encodeLosslessValue k
    let y ← encodeLosslessValue x
    let ys ← encodePairs es
    return .list [key, y] :: ys

end

/-- `str`, `int`, `float`, `dict` and the iteration of values that are of another type, `sorted`
of pairs of which some have one key, and `dict` and the iteration of other JSON values. -/
class Conversions where
  str : PyValue → String
  int : PyValue → Except PyException ℤ
  float : PyValue → Except PyException ℚ
  dict : PyValue → Except PyException (List (PyValue × PyValue))
  iter : PyValue → Except PyException (List PyValue)
  sortPairs : List (String × PyValue) → Except PyException (List (String × PyValue))
  jsonDict : Value → Except PyException Dict
  jsonIter : Value → Except PyException (List Value)

mutual

/-- A JSON value among the Python values. -/
def PyValue.ofValue : Value → PyValue
  | .none => .none
  | .bool b => .bool b
  | .int n => .int n
  | .float q => .float q
  | .str s => .str s
  | .list items => .list (PyValue.ofItems items)
  | .tuple items => .tuple (PyValue.ofItems items)
  | .dict entries => .dict (PyValue.ofEntries entries)

def PyValue.ofItems : List Value → List PyValue
  | [] => []
  | x :: xs => PyValue.ofValue x :: PyValue.ofItems xs

def PyValue.ofEntries : List (String × Value) → List (PyValue × PyValue)
  | [] => []
  | (k, x) :: es => (.str k, PyValue.ofValue x) :: PyValue.ofEntries es

end

/-- The object has exactly the two fields of a tagged object. -/
def isTagged (entries : List (String × Value)) : Bool :=
  (entries.all fun e => e.1 = losslessTypeKey ∨ e.1 = losslessItemsKey) &&
    (PyDict.get entries losslessItemsKey).isSome

section Decoder
variable [Conversions]

def pyStr : PyValue → String
  | .str s => s
  | v => Conversions.str v

mutual

def decodeLosslessValue : Value → Except PyException PyValue
  | .none => .ok .none
  | .bool b => .ok (.bool b)
  | .int n => .ok (.int n)
  | .float q => .ok (.float q)
  | .str s => .ok (.str s)
  | .list items => (decodeItems items).map .list
  | .tuple _ => .error (tamperedError "Encoded artifact value has an unsupported type.")
  | .dict entries =>
    match PyDict.get entries losslessTypeKey with
    | none | some .none => (decodeFields entries).map .dict
    | some marker =>
      if isTagged entries then decodeTagged marker entries
      else .error (tamperedError "Encoded artifact container has unexpected fields.")

def decodeItems : List Value → Except PyException (List PyValue)
  | [] => .ok []
  | x :: xs => do
    let y ← decodeLosslessValue x
    let ys ← decodeItems xs
    return y :: ys

def decodeFields : List (String × Value) → Except PyException (List (PyValue × PyValue))
  | [] => .ok []
  | (k, x) :: es => do
    let y ← decodeLosslessValue x
    let ys ← decodeFields es
    return (.str k, y) :: ys

/-- The container that the marker names, from the items among the fields. -/
def decodeTagged (marker : Value) : List (String × Value) → Except PyException PyValue
  | [] => .error (tamperedError "Encoded artifact container items must be a list.")
  | (k, x) :: es =>
    if k = losslessItemsKey then
      match x with
      | .list items =>
        if marker = .str "tuple" then (decodeItems items).map .tuple
        else if marker = .str "mapping" then (decodePairs [] items).map .dict
        else .error (tamperedError
          ("Unknown encoded artifact container: " ++ pyStr (PyValue.ofValue marker)))
      | _ => .error (tamperedError "Encoded artifact container items must be a list.")
    else decodeTagged marker es

/-- The entries of a mapping, behind those that are decoded. -/
def decodePairs (decoded : List (PyValue × PyValue)) :
    List Value → Except PyException (List (PyValue × PyValue))
  | [] => .ok decoded
  | .list [k, x] :: pairs => do
    let key ← decodeLosslessValue k
    let item ← decodeLosslessValue x
    raiseIf (!key.hashable) (tamperedError "Encoded mapping contains an unhashable key.")
    raiseIf (decoded.any fun e => key.pyEq e.1)
      (tamperedError "Encoded mapping contains a duplicate key.")
    decodePairs (decoded ++ [(key, item)]) pairs
  | _ :: _ => .error (tamperedError "Encoded mapping item must contain two values.")

end

/-! ## Round trip -/

theorem decode_taggedObject (marker : String) (items : List Value) :
    decodeLosslessValue (taggedObject marker items) =
      decodeTagged (.str marker) [(losslessItemsKey, .list items)] := by
  have hkey : losslessTypeKey ≠ losslessItemsKey := by decide
  have htagged : isTagged [(losslessTypeKey, Value.str marker), (losslessItemsKey, .list items)] =
      true := by
    simp [isTagged, PyDict.get_cons, hkey]
  rw [taggedObject, decodeLosslessValue, PyDict.get_cons, if_pos rfl]
  dsimp only
  rw [if_pos htagged]
  exact if_neg hkey

theorem decode_tuple (items : List Value) :
    decodeLosslessValue (taggedObject "tuple" items) = (decodeItems items).map .tuple := by
  rw [decode_taggedObject, decodeTagged, if_pos rfl]
  exact if_pos rfl

theorem decode_mapping (items : List Value) :
    decodeLosslessValue (taggedObject "mapping" items) = (decodePairs [] items).map .dict := by
  have hne : Value.str "mapping" ≠ .str "tuple" := by simp
  rw [decode_taggedObject, decodeTagged, if_pos rfl, if_neg hne]
  exact if_pos rfl

omit [Conversions] in
theorem isPlain_cons {k x : PyValue} {es : List (PyValue × PyValue)} (h : isPlain ((k, x) :: es)) :
    (∃ key, k = .str key ∧ key ≠ losslessTypeKey) ∧ isPlain es = true := by
  rw [isPlain, List.all_cons, Bool.and_eq_true] at h
  refine ⟨?_, h.2⟩
  cases k with
  | str key => exact ⟨key, rfl, of_decide_eq_true h.1⟩
  | none | bool | int | float | list | tuple | dict | other => cases h.1

mutual

/-- Every supported value can be encoded, and decoding restores it. -/
theorem decode_encode : ∀ v : PyValue, v.Supported →
    ∃ w, encodeLosslessValue v = .ok w ∧ decodeLosslessValue w = .ok v
  | .none, _ => ⟨.none, rfl, by rw [decodeLosslessValue]⟩
  | .bool b, _ => ⟨.bool b, rfl, by rw [decodeLosslessValue]⟩
  | .int n, _ => ⟨.int n, rfl, by rw [decodeLosslessValue]⟩
  | .float q, _ => ⟨.float q, rfl, by rw [decodeLosslessValue]⟩
  | .str s, _ => ⟨.str s, rfl, by rw [decodeLosslessValue]⟩
  | .list items, h => by
    have ⟨ws, hencode, hdecode⟩ := decodeItems_encodeItems items h
    refine ⟨.list ws, ?_, ?_⟩
    · rw [encodeLosslessValue, hencode]
      rfl
    · rw [decodeLosslessValue, hdecode]
      rfl
  | .tuple items, h => by
    have ⟨ws, hencode, hdecode⟩ := decodeItems_encodeItems items h
    refine ⟨taggedObject "tuple" ws, ?_, ?_⟩
    · rw [encodeLosslessValue, hencode]
      rfl
    · rw [decode_tuple, hdecode]
      rfl
  | .dict entries, h => by
    have ⟨hdistinct, hentries⟩ := h
    by_cases hplain : isPlain entries
    · have ⟨ws, hencode, hdecode, hget⟩ := decodeFields_encodeFields entries hplain hentries
      refine ⟨.dict ws, ?_, ?_⟩
      · rw [encodeLosslessValue, if_pos hplain, hencode]
        rfl
      · rw [decodeLosslessValue, hget, hdecode]
        rfl
    · have ⟨ws, hencode, hdecode⟩ := decodePairs_encodePairs entries [] hentries hdistinct
      refine ⟨taggedObject "mapping" ws, ?_, ?_⟩
      · rw [encodeLosslessValue, if_neg hplain, hencode]
        rfl
      · rw [decode_mapping, hdecode]
        rfl
  | .other _, h => h.elim

theorem decodeItems_encodeItems : ∀ items : List PyValue, PyValue.SupportedItems items →
    ∃ ws, encodeItems items = .ok ws ∧ decodeItems ws = .ok items
  | [], _ => ⟨[], rfl, rfl⟩
  | x :: xs, h => by
    have ⟨w, hencode, hdecode⟩ := decode_encode x h.1
    have ⟨ws, hencodes, hdecodes⟩ := decodeItems_encodeItems xs h.2
    refine ⟨w :: ws, ?_, ?_⟩
    · rw [encodeItems, hencode, hencodes]
      rfl
    · rw [decodeItems, hdecode, hdecodes]
      rfl

theorem decodeFields_encodeFields : ∀ es : List (PyValue × PyValue), isPlain es = true →
    PyValue.SupportedEntries es → ∃ ws, encodeFields es = .ok ws ∧ decodeFields ws = .ok es ∧
      PyDict.get ws losslessTypeKey = none
  | [], _, _ => ⟨[], rfl, rfl, rfl⟩
  | (k, x) :: es, hplain, h => by
    obtain ⟨⟨key, rfl, hkey⟩, hrest⟩ := isPlain_cons hplain
    have ⟨w, hencode, hdecode⟩ := decode_encode x h.1.2.2
    have ⟨ws, hencodes, hdecodes, hget⟩ := decodeFields_encodeFields es hrest h.2
    refine ⟨(key, w) :: ws, ?_, ?_, ?_⟩
    · rw [encodeFields, hencode, hencodes]
      rfl
    · rw [decodeFields, hdecode, hdecodes]
      rfl
    · rw [PyDict.get_cons, if_neg hkey, hget]

/-- The decoder takes the keys in their order and finds each of them new. -/
theorem decodePairs_encodePairs : ∀ es decoded : List (PyValue × PyValue),
    PyValue.SupportedEntries es → PyValue.DistinctKeys (decoded ++ es) →
    ∃ ws, encodePairs es = .ok ws ∧ decodePairs decoded ws = .ok (decoded ++ es)
  | [], decoded, _, _ => ⟨[], rfl, by rw [decodePairs, List.append_nil]⟩
  | (k, x) :: es, decoded, h, hdistinct => by
    have ⟨key, hencodeKey, hdecodeKey⟩ := decode_encode k h.1.2.1
    have ⟨w, hencode, hdecode⟩ := decode_encode x h.1.2.2
    have hnew : (decoded.any fun e => k.pyEq e.1) = false := by
      rw [List.any_eq_false]
      intro e he
      have hpair := (List.pairwise_append.mp hdistinct).2.2 e he (k, x) List.mem_cons_self
      rw [hpair]
      decide
    rw [List.append_cons] at hdistinct
    have ⟨ws, hencodes, hdecodes⟩ := decodePairs_encodePairs es (decoded ++ [(k, x)]) h.2 hdistinct
    refine ⟨.list [key, w] :: ws, ?_, ?_⟩
    · rw [encodePairs, hencodeKey, hencode, hencodes]
      rfl
    · rw [List.append_cons]
      simp only [decodePairs, hdecodeKey, hdecode, bind, Except.bind, h.1.1, hnew, Bool.not_true,
        raiseIf, Bool.false_eq_true, if_false, hdecodes]

end

end Decoder

/-! ## Through JSON -/

mutual

/-- The value as JSON with sorted keys gives it back: plain dictionaries in the order of their
keys. -/
def PyValue.sorted : PyValue → PyValue
  | .list items => .list (PyValue.sortedItems items)
  | .tuple items => .tuple (PyValue.sortedItems items)
  | .dict entries => .dict
    (if isPlain entries then
      (PyValue.sortedEntries entries).insertionSort fun e f => keyText e.1 ≤ keyText f.1
    else PyValue.sortedEntries entries)
  | v => v

def PyValue.sortedItems : List PyValue → List PyValue
  | [] => []
  | x :: xs => x.sorted :: PyValue.sortedItems xs

def PyValue.sortedEntries : List (PyValue × PyValue) → List (PyValue × PyValue)
  | [] => []
  | (k, x) :: es => (k.sorted, x.sorted) :: PyValue.sortedEntries es

end

/-- Sorting two lists by keys that correspond leaves their members corresponding. -/
theorem forall₂_insertionSort {α β : Type*} {R : α → β → Prop} (r : α → α → Prop)
    (s : β → β → Prop) [DecidableRel r] [DecidableRel s]
    (h : ∀ {a b a' b'}, R a b → R a' b' → (r a a' ↔ s b b')) {xs : List α} {ys : List β}
    (hxs : List.Forall₂ R xs ys) : List.Forall₂ R (xs.insertionSort r) (ys.insertionSort s) := by
  have hinsert : ∀ {a b} {xs : List α} {ys : List β}, R a b → List.Forall₂ R xs ys →
      List.Forall₂ R (xs.orderedInsert r a) (ys.orderedInsert s b) := by
    intro a b xs ys hab hxs
    induction hxs with
    | nil => exact .cons hab .nil
    | @cons x y xs ys hxy hrest ih =>
      rw [List.orderedInsert_cons, List.orderedInsert_cons]
      by_cases hle : r a x
      · rw [if_pos hle, if_pos ((h hab hxy).mp hle)]
        exact .cons hab (.cons hxy hrest)
      · rw [if_neg hle, if_neg (mt (h hab hxy).mpr hle)]
        exact .cons hxy ih
  induction hxs with
  | nil => exact .nil
  | cons hab _ ih => exact hinsert hab ih

theorem encodeFields_iff {es : List (PyValue × PyValue)} {ws : List (String × Value)} :
    encodeFields es = .ok ws ↔
      List.Forall₂ (fun e w => w.1 = keyText e.1 ∧ encodeLosslessValue e.2 = .ok w.2) es ws := by
  induction es generalizing ws with
  | nil =>
    rw [encodeFields, List.forall₂_nil_left_iff, Except.ok.injEq, eq_comm]
  | cons e es ih =>
    obtain ⟨k, x⟩ := e
    rw [encodeFields, List.forall₂_cons_left_iff]
    constructor
    · intro h
      have ⟨y, hy, h⟩ := bind_eq_ok.mp h
      have ⟨ys, hys, h⟩ := bind_eq_ok.mp h
      cases h
      exact ⟨_, ys, ⟨rfl, hy⟩, ih.mp hys, rfl⟩
    · rintro ⟨⟨key, y⟩, ys, ⟨hkey, hy⟩, hys, rfl⟩
      cases hkey
      rw [hy, ih.mpr hys]
      rfl

theorem isPlain_sortedEntries : ∀ es : List (PyValue × PyValue),
    isPlain (PyValue.sortedEntries es) = isPlain es
  | [] => rfl
  | (k, x) :: es => by
    have ih := isPlain_sortedEntries es
    unfold isPlain at ih ⊢
    rw [PyValue.sortedEntries, List.all_cons, List.all_cons, ih]
    cases k <;> rfl

theorem isPlain_perm {es fs : List (PyValue × PyValue)} (h : es.Perm fs) :
    isPlain es = isPlain fs := by
  unfold isPlain
  rw [Bool.eq_iff_iff, List.all_eq_true, List.all_eq_true]
  constructor
  · intro hall e he
    exact hall e (h.mem_iff.mpr he)
  · intro hall e he
    exact hall e (h.mem_iff.mp he)

theorem taggedObject_jsonRoundTrip (marker : String) (items : List Value) :
    (taggedObject marker items).jsonRoundTrip =
      taggedObject marker (Value.jsonRoundTripList items) := by
  have hle : losslessTypeKey ≤ losslessItemsKey := by decide
  simp only [taggedObject, Value.jsonRoundTrip, Value.jsonRoundTripEntries, List.insertionSort_cons,
    List.insertionSort_nil, List.orderedInsert_nil, List.orderedInsert_cons, if_pos hle]

mutual

/-- The encoding of the sorted value is what JSON gives back of the encoding. -/
theorem encode_sorted : ∀ (v : PyValue) {w : Value}, encodeLosslessValue v = .ok w →
    encodeLosslessValue v.sorted = .ok w.jsonRoundTrip
  | .none, w, h | .bool _, w, h | .int _, w, h | .float _, w, h | .str _, w, h => by
    cases h
    rfl
  | .other _, w, h => by cases h
  | .list items, w, h => by
    obtain ⟨ws, hws, rfl⟩ := map_eq_ok.mp h
    rw [PyValue.sorted, encodeLosslessValue, encodeItems_sorted items hws]
    rfl
  | .tuple items, w, h => by
    obtain ⟨ws, hws, rfl⟩ := map_eq_ok.mp h
    rw [PyValue.sorted, encodeLosslessValue, encodeItems_sorted items hws,
      taggedObject_jsonRoundTrip]
    rfl
  | .dict entries, w, h => by
    rw [encodeLosslessValue] at h
    by_cases hplain : isPlain entries
    · rw [if_pos hplain] at h
      obtain ⟨ws, hws, rfl⟩ := map_eq_ok.mp h
      -- the fields are sorted by their keys before the encoding or after it
      have hsort := forall₂_insertionSort (fun e f => keyText e.1 ≤ keyText f.1)
        (fun w w' : String × Value => w.1 ≤ w'.1) (fun h h' => by rw [h.1, h'.1])
        (encodeFields_iff.mp (encodeFields_sorted entries hplain hws))
      have hplain' : isPlain ((PyValue.sortedEntries entries).insertionSort
          fun e f => keyText e.1 ≤ keyText f.1) = true := by
        rw [isPlain_perm (List.perm_insertionSort _ _), isPlain_sortedEntries, hplain]
      rw [PyValue.sorted, if_pos hplain, encodeLosslessValue, if_pos hplain',
        encodeFields_iff.mpr hsort]
      rfl
    · rw [if_neg hplain] at h
      obtain ⟨ws, hws, rfl⟩ := map_eq_ok.mp h
      have hplain' : ¬ isPlain (PyValue.sortedEntries entries) = true := by
        rwa [isPlain_sortedEntries]
      rw [PyValue.sorted, if_neg hplain, encodeLosslessValue, if_neg hplain',
        encodePairs_sorted entries hws, taggedObject_jsonRoundTrip]
      rfl

theorem encodeItems_sorted : ∀ (items : List PyValue) {ws : List Value},
    encodeItems items = .ok ws →
    encodeItems (PyValue.sortedItems items) = .ok (Value.jsonRoundTripList ws)
  | [], ws, h => by
    cases h
    rfl
  | x :: xs, ws, h => by
    have ⟨y, hy, h⟩ := bind_eq_ok.mp h
    have ⟨ys, hys, h⟩ := bind_eq_ok.mp h
    cases h
    rw [PyValue.sortedItems, encodeItems, encode_sorted x hy, encodeItems_sorted xs hys]
    rfl

theorem encodeFields_sorted : ∀ (es : List (PyValue × PyValue)) {ws : List (String × Value)},
    isPlain es = true → encodeFields es = .ok ws →
    encodeFields (PyValue.sortedEntries es) = .ok (Value.jsonRoundTripEntries ws)
  | [], ws, _, h => by
    cases h
    rfl
  | (k, x) :: es, ws, hplain, h => by
    obtain ⟨⟨key, rfl, -⟩, hrest⟩ := isPlain_cons hplain
    have ⟨y, hy, h⟩ := bind_eq_ok.mp h
    have ⟨ys, hys, h⟩ := bind_eq_ok.mp h
    cases h
    rw [PyValue.sortedEntries, encodeFields, encode_sorted x hy, encodeFields_sorted es hrest hys]
    rfl

theorem encodePairs_sorted : ∀ (es : List (PyValue × PyValue)) {ws : List Value},
    encodePairs es = .ok ws →
    encodePairs (PyValue.sortedEntries es) = .ok (Value.jsonRoundTripList ws)
  | [], ws, h => by
    cases h
    rfl
  | (k, x) :: es, ws, h => by
    have ⟨key, hkey, h⟩ := bind_eq_ok.mp h
    have ⟨y, hy, h⟩ := bind_eq_ok.mp h
    have ⟨ys, hys, h⟩ := bind_eq_ok.mp h
    cases h
    rw [PyValue.sortedEntries, encodePairs, encode_sorted k hkey, encode_sorted x hy,
      encodePairs_sorted es hys]
    rfl

end

namespace PyValue

mutual

/-- A key has no dictionary to sort. -/
theorem sorted_of_hashable : ∀ v : PyValue, hashable v = true → v.sorted = v
  | .none, _ | .bool _, _ | .int _, _ | .float _, _ | .str _, _ | .other _, _ => rfl
  | .list _, h | .dict _, h => by cases h
  | .tuple items, h => by rw [sorted, sortedItems_of_hashable items h]

theorem sortedItems_of_hashable : ∀ items : List PyValue, hashableItems items = true →
    sortedItems items = items
  | [], _ => rfl
  | x :: xs, h => by
    rw [hashableItems, Bool.and_eq_true] at h
    rw [sortedItems, sorted_of_hashable x h.1, sortedItems_of_hashable xs h.2]

end

theorem supportedEntries_iff {es : List (PyValue × PyValue)} : SupportedEntries es ↔
    ∀ e ∈ es, hashable e.1 = true ∧ Supported e.1 ∧ Supported e.2 := by
  induction es with
  | nil => simp [SupportedEntries]
  | cons e es ih =>
    obtain ⟨k, x⟩ := e
    rw [SupportedEntries, ih, List.forall_mem_cons]

/-- The keys of a plain dictionary are distinct when their texts are. -/
theorem distinctKeys_of_plain {es : List (PyValue × PyValue)} (h : isPlain es = true) :
    DistinctKeys es ↔ (es.map fun e => keyText e.1).Nodup := by
  induction es with
  | nil => simp [DistinctKeys]
  | cons e es ih =>
    obtain ⟨k, x⟩ := e
    obtain ⟨⟨key, rfl, -⟩, hrest⟩ := isPlain_cons h
    have hkeys : (∀ f ∈ es, pyEq f.1 (.str key) = false) ↔ key ∉ es.map fun e => keyText e.1 := by
      rw [List.mem_map, not_exists]
      apply forall_congr'
      intro f
      rw [not_and]
      apply imp_congr_right
      intro hf
      have hplain := List.all_eq_true.mp hrest f hf
      obtain ⟨k, y⟩ := f
      cases k with
      | str key' => simp [pyEq, keyText]
      | none | bool | int | float | list | tuple | dict | other => cases hplain
    rw [DistinctKeys, List.pairwise_cons, List.map_cons, List.nodup_cons, ← ih hrest]
    exact and_congr hkeys Iff.rfl

theorem distinctKeys_sortedEntries : ∀ {es : List (PyValue × PyValue)}, SupportedEntries es →
    DistinctKeys es → DistinctKeys (sortedEntries es)
  | [], _, h => h
  | (k, x) :: es, hs, h => by
    have ⟨hhead, hrest⟩ := List.pairwise_cons.mp h
    rw [sortedEntries, DistinctKeys, List.pairwise_cons]
    refine ⟨?_, distinctKeys_sortedEntries hs.2 hrest⟩
    intro f hf
    have hkeys : ∀ es : List (PyValue × PyValue), SupportedEntries es → f ∈ sortedEntries es →
        ∃ e ∈ es, f.1 = e.1 := by
      intro es hes hf
      induction es with
      | nil => cases hf
      | cons e es ih =>
        obtain ⟨l, y⟩ := e
        rcases List.mem_cons.mp hf with rfl | hf
        · exact ⟨(l, y), List.mem_cons_self, sorted_of_hashable l hes.1.1⟩
        · have ⟨e, he, hfe⟩ := ih hes.2 hf
          exact ⟨e, List.mem_cons_of_mem _ he, hfe⟩
    have ⟨e, he, hfe⟩ := hkeys es hs.2 hf
    rw [hfe, sorted_of_hashable k hs.1.1]
    exact hhead e he

mutual

theorem Supported.sorted : ∀ {v : PyValue}, v.Supported → v.sorted.Supported
  | .none, h | .bool _, h | .int _, h | .float _, h | .str _, h | .other _, h => h
  | .list items, h | .tuple items, h => SupportedItems.sorted h
  | .dict entries, h => by
    have ⟨hdistinct, hentries⟩ := h
    have hdistinct' := distinctKeys_sortedEntries hentries hdistinct
    have hentries' := SupportedEntries.sorted hentries
    rw [PyValue.sorted]
    split
    · rename_i hplain
      have hperm := List.perm_insertionSort (fun e f => keyText e.1 ≤ keyText f.1)
        (sortedEntries entries)
      have hplain' : isPlain (sortedEntries entries) = true := by rwa [isPlain_sortedEntries]
      constructor
      · rw [distinctKeys_of_plain ((isPlain_perm hperm).trans hplain'),
          (hperm.map _).nodup_iff, ← distinctKeys_of_plain hplain']
        exact hdistinct'
      · rw [supportedEntries_iff] at hentries' ⊢
        intro e he
        exact hentries' e (hperm.mem_iff.mp he)
    · exact ⟨hdistinct', hentries'⟩

theorem SupportedItems.sorted : ∀ {items : List PyValue}, SupportedItems items →
    SupportedItems (sortedItems items)
  | [], _ => trivial
  | _ :: _, h => ⟨Supported.sorted h.1, SupportedItems.sorted h.2⟩

theorem SupportedEntries.sorted : ∀ {es : List (PyValue × PyValue)}, SupportedEntries es →
    SupportedEntries (sortedEntries es)
  | [], _ => trivial
  | (k, x) :: es, h => by
    refine ⟨⟨?_, Supported.sorted h.1.2.1, Supported.sorted h.1.2.2⟩, SupportedEntries.sorted h.2⟩
    rw [sorted_of_hashable k h.1.1]
    exact h.1.1

end

theorem pyEqEntries_iff {es fs : List (PyValue × PyValue)} : pyEqEntries es fs = true ↔
    ∀ e ∈ es, ∃ f ∈ fs, pyEq e.1 f.1 = true ∧ pyEq e.2 f.2 = true := by
  induction es with
  | nil => simp [pyEqEntries]
  | cons e es ih =>
    obtain ⟨k, x⟩ := e
    rw [pyEqEntries, Bool.and_eq_true, ih, List.forall_mem_cons, List.any_eq_true]
    simp only [Bool.and_eq_true]

theorem length_sortedEntries : ∀ es : List (PyValue × PyValue),
    (sortedEntries es).length = es.length
  | [] => rfl
  | (k, x) :: es => by rw [sortedEntries, List.length_cons, List.length_cons, length_sortedEntries es]

mutual

/-- The sorted value is equal to the value. -/
theorem pyEq_sorted : ∀ v : PyValue, v.Supported → pyEq v.sorted v = true
  | .none, _ | .bool _, _ | .int _, _ | .float _, _ | .str _, _ => by
    simp [PyValue.sorted, pyEq, number?]
  | .list items, h | .tuple items, h => by
    rw [PyValue.sorted, pyEq]
    exact pyEqItems_sorted items h
  | .dict entries, h => by
    have hentries := pyEqEntries_iff.mp (pyEqEntries_sorted entries h.2)
    rw [PyValue.sorted, pyEq, Bool.and_eq_true, beq_iff_eq, pyEqEntries_iff]
    split
    · have hperm := List.perm_insertionSort (fun e f => keyText e.1 ≤ keyText f.1)
        (sortedEntries entries)
      refine ⟨hperm.length_eq.trans (length_sortedEntries entries), ?_⟩
      intro e he
      exact hentries e (hperm.mem_iff.mp he)
    · exact ⟨length_sortedEntries entries, hentries⟩
  | .other _, h => h.elim

theorem pyEqItems_sorted : ∀ items : List PyValue, SupportedItems items →
    pyEqItems (sortedItems items) items = true
  | [], _ => rfl
  | x :: xs, h => by
    rw [sortedItems, pyEqItems, pyEq_sorted x h.1, pyEqItems_sorted xs h.2]
    rfl

theorem pyEqEntries_sorted : ∀ es : List (PyValue × PyValue), SupportedEntries es →
    pyEqEntries (sortedEntries es) es = true
  | [], _ => rfl
  | (k, x) :: es, h => by
    have hk := pyEq_sorted k h.1.2.1
    have hx := pyEq_sorted x h.1.2.2
    have hes := pyEqEntries_iff.mp (pyEqEntries_sorted es h.2)
    rw [sortedEntries, pyEqEntries_iff, List.forall_mem_cons]
    refine ⟨⟨(k, x), List.mem_cons_self, hk, hx⟩, ?_⟩
    intro e he
    have ⟨f, hf, hef⟩ := hes e he
    exact ⟨f, List.mem_cons_of_mem _ hf, hef⟩

end

end PyValue

/-- A supported value comes back from its JSON text, its plain dictionaries in key order. -/
theorem decode_jsonRoundTrip [Conversions] {v : PyValue} (h : v.Supported) :
    ∃ w, encodeLosslessValue v = .ok w ∧ decodeLosslessValue w.jsonRoundTrip = .ok v.sorted := by
  have ⟨w, hencode, _⟩ := decode_encode v h
  have ⟨w', hencode', hdecode'⟩ := decode_encode v.sorted h.sorted
  rw [encode_sorted v hencode] at hencode'
  cases hencode'
  exact ⟨w, hencode, hdecode'⟩

end Rygnal.Artifact
