import Rygnal.Core.JsonText

/-! # Lengths of JSON texts

How long the text of a value is, without writing it: a text of plain ASCII characters is as long
as its bytes.
-/

namespace Rygnal.Core
open Rygnal.Library.PyText

theorem length_le_utf8ByteSize (s : String) : s.length ≤ s.utf8ByteSize := by
  induction s using String.push_induction with
  | empty => exact le_rfl
  | push s c ih =>
    have hpos := c.utf8Size_pos
    rw [String.length_push, String.utf8ByteSize_push]
    omega

namespace Json

theorem length_escapeChar_le (c : Char) : (escapeChar c).length ≤ 12 := by
  rw [escapeChar]
  split_ifs <;> simp [unicodeEscape]

theorem length_stringText_le (s : String) : (stringText s).length ≤ 12 * s.length + 2 := by
  have hsum : (s.toList.flatMap escapeChar).length ≤ 12 * s.toList.length := by
    induction s.toList with
    | nil => simp
    | cons c cs ih =>
      have := length_escapeChar_le c
      rw [List.flatMap_cons, List.length_append, List.length_cons]
      omega
  rw [String.length_toList] at hsum
  simp only [stringText, List.length_append, List.length_cons, List.length_nil]
  omega

/-- A byte of a character that is written as it is. -/
def isPlainByte (byte : UInt8) : Bool :=
  0x20 ≤ byte.toNat && byte.toNat ≤ 0x7E && byte.toNat ≠ 0x22 && byte.toNat ≠ 0x5C

theorem length_plainChar {c : Char} (h : ∀ byte ∈ String.utf8EncodeChar c, isPlainByte byte = true) :
    (escapeChar c).length = 1 ∧ (String.utf8EncodeChar c).length = 1 := by
  by_cases hascii : c.toNat < 128
  · have hall : ∀ n : Fin 128,
        (String.utf8EncodeChar (Char.ofNat n.val)).all isPlainByte = true →
          (escapeChar (Char.ofNat n.val)).length = 1 ∧
            (String.utf8EncodeChar (Char.ofNat n.val)).length = 1 := by
      decide
    have hchar := hall ⟨c.toNat, hascii⟩
    rw [Char.ofNat_toNat] at hchar
    exact hchar (List.all_eq_true.mpr h)
  · -- the first byte of a longer character is no ASCII byte
    have hval : ¬ c.val.toNat ≤ 0x7f := by
      change ¬ c.toNat ≤ 0x7f
      omega
    have hlead : ∀ n, 0x80 ≤ n → n < 256 → isPlainByte (UInt8.ofNat n) = false := by
      intro n hlow hhigh
      have hnat : (UInt8.ofNat n).toNat = n := by
        rw [UInt8.toNat_ofNat']
        omega
      have hnot : ¬ n ≤ 0x7E := by omega
      simp [isPlainByte, hnat, hnot]
    rw [String.utf8EncodeChar] at h
    simp only [hval, if_false] at h
    split_ifs at h
    all_goals
      have hfirst := h _ List.mem_cons_self
      rw [hlead _ (by omega) (by omega)] at hfirst
      cases hfirst

/-- The length of `stringText`, from the bytes where these are plain. -/
def stringLength (s : String) : ℕ :=
  if s.toByteArray.data.toList.all isPlainByte then s.toByteArray.data.toList.length + 2
  else (stringText s).length

theorem bytes_eq_flatMap (s : String) :
    s.toByteArray.data.toList = s.toList.flatMap String.utf8EncodeChar := by
  conv_lhs => rw [← String.ofList_toList (s := s), String.toByteArray_ofList]
  rw [List.utf8Encode, List.toList_data_toByteArray]

theorem stringLength_eq (s : String) : stringLength s = (stringText s).length := by
  rw [stringLength, bytes_eq_flatMap]
  split_ifs with hplain
  · have hlength : (s.toList.flatMap String.utf8EncodeChar).length =
        (s.toList.flatMap escapeChar).length := by
      rw [List.all_eq_true] at hplain
      generalize s.toList = text at hplain
      induction text with
      | nil => rfl
      | cons c cs ih =>
        simp only [List.flatMap_cons, List.mem_append] at hplain
        have hchar := length_plainChar fun byte hbyte => hplain byte (.inl hbyte)
        rw [List.flatMap_cons, List.flatMap_cons, List.length_append, List.length_append,
          ih fun byte hbyte => hplain byte (.inr hbyte), hchar.1, hchar.2]
    simp only [stringText, List.length_append, List.length_cons, List.length_nil, hlength]
  · rfl

end Json

namespace Value

theorem length_intText_le (n : ℤ) : (toString n).toList.length ≤ n.natAbs + 2 := by
  have hdigits : ∀ m : ℕ, (Nat.toDigits 10 m).length ≤ m + 1 := by
    intro m
    rcases Nat.eq_zero_or_pos m with rfl | hm
    · simp
    · exact (Nat.length_toDigits_le_iff (by decide) (by omega)).mpr
        ((Nat.lt_succ_self m).trans (Nat.lt_pow_self (by decide)))
  rw [toString_toList]
  split
  · have := hdigits n.toNat
    omega
  · have := hdigits (-n).toNat
    rw [List.length_cons]
    omega

mutual

/-- The length of the text. -/
def textLength [FloatText] : Value → ℕ
  | .none => 4
  | .bool b => if b then 4 else 5
  | .int n => (toString n).toList.length
  | .float q => (FloatText.repr q).length
  | .str s => Json.stringLength s
  | .list items | .tuple items => itemsLength items + 2
  | .dict entries => entriesLength entries + 2

def itemsLength [FloatText] : List Value → ℕ
  | [] => 0
  | [x] => x.textLength
  | x :: xs => x.textLength + 1 + itemsLength xs

def entriesLength [FloatText] : List (String × Value) → ℕ
  | [] => 0
  | [(key, x)] => Json.stringLength key + 1 + x.textLength
  | (key, x) :: es => Json.stringLength key + 1 + x.textLength + 1 + entriesLength es

end

mutual

theorem length_text [FloatText] : ∀ v : Value, v.text.length = v.textLength
  | .none => rfl
  | .bool true => rfl
  | .bool false => rfl
  | .int n => rfl
  | .float q => rfl
  | .str s => (Json.stringLength_eq s).symm
  | .list items | .tuple items => by
    rw [text, textLength, ← length_itemsText items]
    simp
  | .dict entries => by
    rw [text, textLength, ← length_entriesText entries]
    simp

theorem length_itemsText [FloatText] : ∀ items : List Value,
    (itemsText items).length = itemsLength items
  | [] => rfl
  | [x] => length_text x
  | x :: y :: ys => by
    rw [itemsText, itemsLength, ← length_text x, ← length_itemsText (y :: ys),
      List.length_append, List.length_cons]
    · omega
    · simp
    · simp

theorem length_entriesText [FloatText] : ∀ entries : List (String × Value),
    (entriesText entries).length = entriesLength entries
  | [] => rfl
  | [(key, x)] => by
    rw [entriesText, entriesLength, ← length_text x, Json.stringLength_eq, List.length_append,
      List.length_cons]
    omega
  | (key, x) :: e :: es => by
    rw [entriesText, entriesLength, ← length_text x, ← length_entriesText (e :: es),
      Json.stringLength_eq, List.length_append, List.length_append, List.length_cons,
      List.length_cons]
    · omega
    · simp
    · simp

end

end Value

end Rygnal.Core
