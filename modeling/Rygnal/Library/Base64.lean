import Mathlib.Tactic.Common

/-! # Base64

`base64.b64encode` and `base64.b64decode(.., validate=True)` of byte strings, over lists of
bytes and of characters.
-/

namespace Rygnal.Library.Base64

def alphabet : List Char :=
  "ABCDEFGHIJKLMNOPQRSTUVWXYZabcdefghijklmnopqrstuvwxyz0123456789+/".toList

/-- The character of six bits. -/
def digit (n : ℕ) : Char := alphabet.getD n 'A'

def sextet (c : Char) : Option ℕ := alphabet.findIdx? (· == c)

def encode : List UInt8 → List Char
  | [] => []
  | [a] => [digit (a.toNat / 4), digit (a.toNat % 4 * 16), '=', '=']
  | [a, b] => [digit (a.toNat / 4), digit (a.toNat % 4 * 16 + b.toNat / 16),
      digit (b.toNat % 16 * 4), '=']
  | a :: b :: c :: rest => digit (a.toNat / 4) :: digit (a.toNat % 4 * 16 + b.toNat / 16) ::
      digit (b.toNat % 16 * 4 + c.toNat / 64) :: digit (c.toNat % 64) :: encode rest

/-- The bytes of a quantum of four characters; the padding ends the text. -/
def decode : List Char → Option (List UInt8)
  | [] => some []
  | [x, y, '=', '='] => do
    let a ← sextet x
    let b ← sextet y
    return [UInt8.ofNat (a * 4 + b / 16)]
  | [x, y, z, '='] => do
    let a ← sextet x
    let b ← sextet y
    let c ← sextet z
    return [UInt8.ofNat (a * 4 + b / 16), UInt8.ofNat (b % 16 * 16 + c / 4)]
  | x :: y :: z :: w :: rest => do
    let a ← sextet x
    let b ← sextet y
    let c ← sextet z
    let d ← sextet w
    let bytes ← decode rest
    return UInt8.ofNat (a * 4 + b / 16) :: UInt8.ofNat (b % 16 * 16 + c / 4) ::
      UInt8.ofNat (c % 4 * 64 + d) :: bytes
  | _ => none

/-! ## Round trip -/

theorem sextet_digit {n : ℕ} (h : n < 64) : sextet (digit n) = some n := by
  revert n
  decide

theorem digit_ne_pad {n : ℕ} (h : n < 64) : digit n ≠ '=' := by
  intro hpad
  have hnone : sextet '=' = none := by decide
  have hsextet := sextet_digit h
  rw [hpad, hnone] at hsextet
  cases hsextet

theorem ofNat_of_eq {a : UInt8} {n : ℕ} (h : n = a.toNat) : UInt8.ofNat n = a := by
  rw [h, UInt8.ofNat_toNat]

theorem decode_quantum {x y z w : Char} (hw : w ≠ '=') (rest : List Char) :
    decode (x :: y :: z :: w :: rest) = (do
      let a ← sextet x
      let b ← sextet y
      let c ← sextet z
      let d ← sextet w
      let bytes ← decode rest
      return UInt8.ofNat (a * 4 + b / 16) :: UInt8.ofNat (b % 16 * 16 + c / 4) ::
        UInt8.ofNat (c % 4 * 64 + d) :: bytes) := by
  rw [decode]
  · intro _ h
    exact absurd h hw
  · intro h
    exact absurd h hw

theorem decode_encode (bytes : List UInt8) : decode (encode bytes) = some bytes := by
  induction bytes using encode.induct with
  | case1 => rfl
  | case2 a =>
    have ha := a.toNat_lt
    have h₁ : a.toNat / 4 < 64 := by omega
    have h₂ : a.toNat % 4 * 16 < 64 := by omega
    have hbyte : a.toNat / 4 * 4 + a.toNat % 4 * 16 / 16 = a.toNat := by omega
    simp only [encode, decode, sextet_digit h₁, sextet_digit h₂, Option.bind_eq_bind,
      Option.bind_some, ofNat_of_eq hbyte]
    rfl
  | case3 a b =>
    have ha := a.toNat_lt
    have hb := b.toNat_lt
    have h₁ : a.toNat / 4 < 64 := by omega
    have h₂ : a.toNat % 4 * 16 + b.toNat / 16 < 64 := by omega
    have h₃ : b.toNat % 16 * 4 < 64 := by omega
    have hbyte₁ : a.toNat / 4 * 4 + (a.toNat % 4 * 16 + b.toNat / 16) / 16 = a.toNat := by omega
    have hbyte₂ : (a.toNat % 4 * 16 + b.toNat / 16) % 16 * 16 + b.toNat % 16 * 4 / 4 =
        b.toNat := by omega
    rw [encode, decode]
    · simp only [sextet_digit h₁, sextet_digit h₂, sextet_digit h₃, Option.bind_eq_bind,
        Option.bind_some, ofNat_of_eq hbyte₁, ofNat_of_eq hbyte₂]
      rfl
    · intro h
      exact absurd h (digit_ne_pad h₃)
  | case4 a b c rest ih =>
    have ha := a.toNat_lt
    have hb := b.toNat_lt
    have hc := c.toNat_lt
    have h₁ : a.toNat / 4 < 64 := by omega
    have h₂ : a.toNat % 4 * 16 + b.toNat / 16 < 64 := by omega
    have h₃ : b.toNat % 16 * 4 + c.toNat / 64 < 64 := by omega
    have h₄ : c.toNat % 64 < 64 := by omega
    have hbyte₁ : a.toNat / 4 * 4 + (a.toNat % 4 * 16 + b.toNat / 16) / 16 = a.toNat := by omega
    have hbyte₂ : (a.toNat % 4 * 16 + b.toNat / 16) % 16 * 16 +
        (b.toNat % 16 * 4 + c.toNat / 64) / 4 = b.toNat := by omega
    have hbyte₃ : (b.toNat % 16 * 4 + c.toNat / 64) % 4 * 64 + c.toNat % 64 = c.toNat := by omega
    rw [encode, decode_quantum (digit_ne_pad h₄), ih]
    simp only [sextet_digit h₁, sextet_digit h₂, sextet_digit h₃, sextet_digit h₄,
      Option.bind_eq_bind, Option.bind_some, ofNat_of_eq hbyte₁, ofNat_of_eq hbyte₂, ofNat_of_eq hbyte₃]
    rfl

end Rygnal.Library.Base64
