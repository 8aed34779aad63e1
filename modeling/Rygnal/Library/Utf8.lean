import Rygnal.Library.PyText

/-! # UTF-8 with escaped bytes

Python's `bytes.decode("utf-8", errors="surrogateescape")`, its inverse and the strict
`str.encode("utf-8")`. A decoded text holds the code points and, in their places, the bytes
that no character covers.
-/

namespace Rygnal.Library.Utf8
open Rygnal.Library.PyText

/-- A character, or an undecodable byte as its lone surrogate. -/
inductive DecodedChar where
  | char (c : Char)
  | escaped (byte : UInt8)
deriving DecidableEq, Repr

/-- A replacement character stands for an escaped byte: both are neither space, nor word
characters, nor letters of a pattern. -/
def DecodedChar.visible : DecodedChar → Char
  | .char c => c
  | .escaped _ => '\uFFFD'

abbrev DecodedText := List DecodedChar

def ofText (text : Text) : DecodedText := text.map .char

def visible (text : DecodedText) : Text := text.map DecodedChar.visible

@[simp] theorem visible_ofText (text : Text) : visible (ofText text) = text := by
  rw [visible, ofText, List.map_map]
  exact List.map_id text

/-- `decode`, with `skip` bytes of the current character still to drop. -/
def decodeFrom : ℕ → List UInt8 → DecodedText
  | _, [] => []
  | skip + 1, _ :: bytes => decodeFrom skip bytes
  | 0, byte :: bytes =>
    match (byte :: bytes).toByteArray.utf8DecodeChar? 0 with
    | some c => .char c :: decodeFrom (c.utf8Size - 1) bytes
    | none => .escaped byte :: decodeFrom 0 bytes

/-- `bytes.decode("utf-8", errors="surrogateescape")`. -/
def decode (bytes : List UInt8) : DecodedText := decodeFrom 0 bytes

/-- `str.encode("utf-8")`, which raises at a lone surrogate. -/
def encodeStrict : DecodedText → Option (List UInt8)
  | [] => some []
  | .char c :: text => (encodeStrict text).map (String.utf8EncodeChar c ++ ·)
  | .escaped _ :: _ => none

/-- `str.encode("utf-8", errors="surrogateescape")`, which raises at a surrogate that stands
for no byte from 0x80 on. -/
def encodeEscaped : DecodedText → Option (List UInt8)
  | [] => some []
  | .char c :: text => (encodeEscaped text).map (String.utf8EncodeChar c ++ ·)
  | .escaped byte :: text =>
    if byte.toNat < 0x80 then none else (encodeEscaped text).map (byte :: ·)

/-! ## Round trip -/

/-- An ASCII byte is a character. -/
theorem utf8DecodeChar?_ascii {byte : UInt8} (h : byte.toNat < 0x80) (bytes : List UInt8) :
    ((byte :: bytes).toByteArray.utf8DecodeChar? 0).isSome = true := by
  have hencode : String.utf8EncodeChar (Char.ofNat byte.toNat) = [byte] := by
    have hall : ∀ n : Fin 128, String.utf8EncodeChar (Char.ofNat n.val) = [UInt8.ofNat n.val] := by
      decide
    have hbyte := hall ⟨byte.toNat, h⟩
    rwa [UInt8.ofNat_toNat] at hbyte
  have happend : (byte :: bytes).toByteArray =
      (String.utf8EncodeChar (Char.ofNat byte.toNat)).toByteArray ++ bytes.toByteArray := by
    rw [hencode, ← List.toByteArray_append]
    rfl
  rw [happend, ByteArray.utf8DecodeChar?_utf8EncodeChar_append]
  rfl

/-- The bytes begin with the character that is decoded from them. -/
theorem encode_append_drop {bytes : List UInt8} {c : Char}
    (h : bytes.toByteArray.utf8DecodeChar? 0 = some c) :
    String.utf8EncodeChar c ++ bytes.drop c.utf8Size = bytes := by
  obtain ⟨rest, hrest⟩ := ByteArray.exists_of_utf8DecodeChar?_eq_some h
  have hlist := congrArg (fun b : ByteArray => b.data.toList) hrest
  simp only [List.toList_data_toByteArray, ByteArray.data_append, Array.toList_append] at hlist
  rw [hlist, List.drop_append_of_le_length (le_of_eq (String.length_utf8EncodeChar c).symm),
    List.drop_of_length_le (le_of_eq (String.length_utf8EncodeChar c)), List.nil_append]

theorem encodeEscaped_decodeFrom (skip : ℕ) (bytes : List UInt8) :
    encodeEscaped (decodeFrom skip bytes) = some (bytes.drop skip) := by
  induction bytes generalizing skip with
  | nil => simp [decodeFrom, encodeEscaped]
  | cons byte bytes ih =>
    cases skip with
    | succ skip => rw [decodeFrom, ih, List.drop_succ_cons]
    | zero =>
      rw [decodeFrom]
      cases hdecode : (byte :: bytes).toByteArray.utf8DecodeChar? 0 with
      | some c =>
        have hsize := c.utf8Size_pos
        have hdrop := encode_append_drop hdecode
        rw [show c.utf8Size = c.utf8Size - 1 + 1 by omega, List.drop_succ_cons] at hdrop
        simp only [encodeEscaped, ih, Option.map_some, hdrop, List.drop_zero]
      | none =>
        have hbyte : ¬ byte.toNat < 0x80 := by
          intro h
          have hsome := utf8DecodeChar?_ascii h bytes
          rw [hdecode] at hsome
          cases hsome
        simp only [encodeEscaped, if_neg hbyte, ih, Option.map_some, List.drop_zero]

/-- Encoding restores the bytes that a text was decoded from. -/
theorem encodeEscaped_decode (bytes : List UInt8) : encodeEscaped (decode bytes) = some bytes :=
  encodeEscaped_decodeFrom 0 bytes

/-! ## Valid bytes -/

/-- The bytes of a text without surrogates. -/
def IsUtf8 (bytes : List UInt8) : Prop := ∃ text : Text, bytes = text.flatMap String.utf8EncodeChar

theorem encodeStrict_ofText (text : Text) :
    encodeStrict (ofText text) = some (text.flatMap String.utf8EncodeChar) := by
  induction text with
  | nil => rfl
  | cons c text ih =>
    rw [ofText] at ih
    rw [ofText, List.map_cons, encodeStrict, ih, Option.map_some, List.flatMap_cons]

theorem encodeStrict_eq_some {text : DecodedText} {bytes : List UInt8}
    (h : encodeStrict text = some bytes) : encodeEscaped text = some bytes ∧ IsUtf8 bytes := by
  induction text generalizing bytes with
  | nil =>
    cases h
    exact ⟨rfl, [], rfl⟩
  | cons c text ih =>
    cases c with
    | escaped byte => cases h
    | char c =>
      rw [encodeStrict, Option.map_eq_some_iff] at h
      obtain ⟨rest, hrest, rfl⟩ := h
      obtain ⟨hescaped, letters, rfl⟩ := ih hrest
      exact ⟨by rw [encodeEscaped, hescaped, Option.map_some], c :: letters, rfl⟩

theorem decodeFrom_drop (skip : ℕ) (bytes : List UInt8) :
    decodeFrom skip bytes = decodeFrom 0 (bytes.drop skip) := by
  induction bytes generalizing skip with
  | nil => cases skip <;> rfl
  | cons byte bytes ih =>
    cases skip with
    | zero => rfl
    | succ skip => rw [decodeFrom, ih, List.drop_succ_cons]

theorem decode_flatMap (text : Text) :
    decode (text.flatMap String.utf8EncodeChar) = ofText text := by
  induction text with
  | nil => rfl
  | cons c text ih =>
    rw [List.flatMap_cons]
    have hfirst : (String.utf8EncodeChar c ++
        text.flatMap String.utf8EncodeChar).toByteArray.utf8DecodeChar? 0 = some c := by
      rw [List.toByteArray_append]
      exact ByteArray.utf8DecodeChar?_utf8EncodeChar_append
    have hlength := String.length_utf8EncodeChar c
    cases hencode : String.utf8EncodeChar c with
    | nil =>
      rw [hencode] at hlength
      exact absurd hlength c.utf8Size_pos.ne
    | cons byte tail =>
      rw [hencode] at hfirst hlength
      rw [List.cons_append] at hfirst ⊢
      have htail : c.utf8Size - 1 = tail.length := by
        rw [List.length_cons] at hlength
        omega
      rw [decode, decodeFrom, hfirst]
      change .char c :: decodeFrom (c.utf8Size - 1) _ = _
      rw [decodeFrom_drop, htail, List.drop_left]
      exact congrArg (.char c :: ·) ih

/-- The bytes of an ASCII text are its characters. -/
theorem decode_ascii {text : Text} (h : ∀ c ∈ text, c.toNat < 0x80) :
    decode (text.map fun c => UInt8.ofNat c.toNat) = ofText text := by
  have hencode : ∀ n : Fin 128, String.utf8EncodeChar (Char.ofNat n.val) = [UInt8.ofNat n.val] := by
    decide
  have hbytes : text.flatMap String.utf8EncodeChar = text.map fun c => UInt8.ofNat c.toNat := by
    rw [List.map_eq_flatMap]
    apply List.flatMap_congr
    intro c hc
    have hchar := hencode ⟨c.toNat, h c hc⟩
    rwa [Char.ofNat_toNat] at hchar
  rw [← hbytes, decode_flatMap]

/-- The strict codec gives back the bytes of a text that was decoded from UTF-8, and raises for
every other text of bytes. -/
theorem encodeStrict_decode {bytes encoded : List UInt8} :
    encodeStrict (decode bytes) = some encoded ↔ encoded = bytes ∧ IsUtf8 bytes := by
  constructor
  · intro h
    have ⟨hescaped, hvalid⟩ := encodeStrict_eq_some h
    rw [encodeEscaped_decode, Option.some.injEq] at hescaped
    subst hescaped
    exact ⟨rfl, hvalid⟩
  · rintro ⟨rfl, text, rfl⟩
    rw [decode_flatMap, encodeStrict_ofText]

end Rygnal.Library.Utf8
