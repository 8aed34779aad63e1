import Mathlib.Data.List.DropRight
import Mathlib.Tactic.Common

/-! # The bounded buffer of the engine's error output

`boundedBuffer` of `bounded_buffer.go`. A slice expression whose index is out of range panics, so a
write that slices is partial here. After any sequence of writes the buffer is a window on the end of
the stream; the flag follows the length of the stream except where one write fills the buffer.
-/

namespace Rygnal.Engine

abbrev Bytes := List UInt8

/-! ## Slices -/

/-- `b[i:]`. -/
def sliceFrom (b : Bytes) (i : ℤ) : Option Bytes :=
  if 0 ≤ i ∧ i ≤ b.length then some (b.drop i.toNat) else none

/-- `b[:j]`. An index between the length and the capacity is refused here as well. -/
def sliceTo (b : Bytes) (j : ℤ) : Option Bytes :=
  if 0 ≤ j ∧ j ≤ b.length then some (b.take j.toNat) else none

/-- `copy(dst, src)`, which is right for overlapping slices. -/
def copyInto (dst src : Bytes) : Bytes := src.take dst.length ++ dst.drop src.length

theorem sliceFrom_eq {b : Bytes} {i : ℕ} (h : i ≤ b.length) : sliceFrom b i = some (b.drop i) := by
  simp [sliceFrom, h]

theorem sliceTo_eq {b : Bytes} {j : ℕ} (h : j ≤ b.length) : sliceTo b j = some (b.take j) := by
  simp [sliceTo, h]

/-- The end of a stream after a piece that is at least as long. -/
theorem rtake_append_of_le {stream p : Bytes} {n : ℕ} (h : n ≤ p.length) :
    (stream ++ p).rtake n = p.drop (p.length - n) := by
  have hskip : (stream ++ p).length - n = stream.length + (p.length - n) := by
    simp
    omega
  rw [List.rtake, hskip, List.drop_append]
  simp

/-- The end of a stream after a shorter piece: the overflow leaves the end it had. -/
theorem rtake_append_of_lt {stream p : Bytes} {n : ℕ} (h : p.length < n) :
    (stream ++ p).rtake n =
      (stream.rtake n).drop ((stream.rtake n).length + p.length - n) ++ p := by
  have hskip : (stream ++ p).length - n ≤ stream.length := by
    simp
    omega
  rw [List.rtake, List.drop_append_of_le_length hskip]
  simp [List.rtake, List.drop_drop]
  congr 1
  omega

/-! ## The buffer -/

structure BoundedBuffer where
  buf : Bytes
  limit : ℤ
  truncated : Bool
deriving DecidableEq, Repr

def defaultStderrLimitBytes : ℤ := 64 * 1024

def newBoundedBuffer (limit : ℤ) : BoundedBuffer where
  buf := []
  limit := if limit ≤ 0 then defaultStderrLimitBytes else limit
  truncated := false

namespace BoundedBuffer

/-- Drops the `overflow` oldest bytes, shifting the others in place. -/
def shift (b : BoundedBuffer) (overflow : ℤ) : Option BoundedBuffer := do
  let rest ← sliceFrom b.buf overflow
  let kept ← sliceTo (copyInto b.buf rest) (b.buf.length - overflow)
  return { b with buf := kept, truncated := true }

/-- `Write`, whose error is always nil. -/
def write (b : BoundedBuffer) (p : Bytes) : Option (BoundedBuffer × ℤ) := do
  let written : ℤ := p.length
  if p.length ≥ b.limit then
    let last ← sliceFrom p (p.length - b.limit)
    return ({ b with buf := last, truncated := true }, written)
  else
    let overflow := b.buf.length + p.length - b.limit
    let b ← if overflow > 0 then b.shift overflow else some b
    return ({ b with buf := b.buf ++ p }, written)

/-- `String`. -/
def string (b : BoundedBuffer) : Bytes :=
  if !b.truncated then b.buf
  else "[stderr truncated]\n".toList.flatMap String.utf8EncodeChar ++ b.buf

/-- The buffer after a sequence of writes, with what each of them returned. -/
def writeAll (b : BoundedBuffer) : List Bytes → Option (BoundedBuffer × List ℤ)
  | [] => some (b, [])
  | p :: ps => do
    let (b, n) ← b.write p
    let (b, ns) ← b.writeAll ps
    return (b, n :: ns)

/-! ## The window on the stream -/

/-- The buffer after `writes`: the end of the stream, and a flag that is up once the stream is
longer than the limit or one write was exactly that long. -/
structure Windows (b : BoundedBuffer) (writes : List Bytes) : Prop where
  limit_pos : 0 < b.limit
  retained : b.buf = writes.flatten.rtake b.limit.toNat
  truncated : b.truncated = true ↔
    b.limit < writes.flatten.length ∨ ∃ p ∈ writes, (p.length : ℤ) = b.limit

theorem windows_new (limit : ℤ) : (newBoundedBuffer limit).Windows [] where
  limit_pos := by
    by_cases h : limit ≤ 0
    · simp [newBoundedBuffer, h, defaultStderrLimitBytes]
    · simp [newBoundedBuffer, h]
      omega
  retained := by simp [newBoundedBuffer]
  truncated := by
    by_cases h : limit ≤ 0
    · simp [newBoundedBuffer, h, defaultStderrLimitBytes]
    · simp [newBoundedBuffer, h]
      omega

theorem shift_eq {b : BoundedBuffer} {overflow : ℕ} (h : overflow ≤ b.buf.length) :
    b.shift overflow = some { b with buf := b.buf.drop overflow, truncated := true } := by
  have hlength : (b.buf.length : ℤ) - overflow = (b.buf.length - overflow : ℕ) := by omega
  have hcopy : b.buf.length - overflow ≤ (copyInto b.buf (b.buf.drop overflow)).length := by
    simp [copyInto]
  have hkept : (copyInto b.buf (b.buf.drop overflow)).take (b.buf.length - overflow) =
      b.buf.drop overflow := by
    have hshort : (b.buf.drop overflow).take b.buf.length = b.buf.drop overflow :=
      List.take_of_length_le (by simp)
    rw [copyInto, hshort]
    exact List.take_left' (by simp)
  simp [shift, sliceFrom_eq h, hlength, sliceTo_eq hcopy, hkept]

theorem exists_length_append {writes : List Bytes} {p : Bytes} {n : ℤ} :
    (∃ q ∈ writes ++ [p], (q.length : ℤ) = n) ↔
      (∃ q ∈ writes, (q.length : ℤ) = n) ∨ (p.length : ℤ) = n := by
  simp [or_and_right, exists_or]

/-- One write moves the window to the new end of the stream. -/
theorem Windows.write {b : BoundedBuffer} {writes : List Bytes} (h : b.Windows writes)
    (p : Bytes) :
    ∃ b' : BoundedBuffer, b.write p = some (b', (p.length : ℤ)) ∧ b'.limit = b.limit ∧
      Windows b' (writes ++ [p]) := by
  obtain ⟨n, hn⟩ : ∃ n : ℕ, b.limit = n := ⟨b.limit.toNat, by have := h.limit_pos; omega⟩
  have hpos := h.limit_pos
  have hretained : b.buf = writes.flatten.rtake n := by simpa [hn] using h.retained
  have hlength : b.buf.length = min n writes.flatten.length := by
    simp only [hretained, List.rtake, List.length_drop]
    omega
  have hstream : (writes ++ [p]).flatten.length = writes.flatten.length + p.length := by simp
  by_cases hlong : n ≤ p.length
  · -- the write alone fills the buffer
    have hskip : (p.length : ℤ) - n = (p.length - n : ℕ) := by omega
    have hlast : sliceFrom p (p.length - n) = some (p.drop (p.length - n)) := by
      rw [hskip, sliceFrom_eq (Nat.sub_le _ _)]
    refine ⟨{ b with buf := p.drop (p.length - n), truncated := true }, ?_, rfl, hpos, ?_, ?_⟩
    · simp [BoundedBuffer.write, hn, hlong, hlast]
    · simp [hn, rtake_append_of_le hlong]
    · rw [exists_length_append, hstream]
      simp only [hn, true_iff]
      omega
  · by_cases hover : n < b.buf.length + p.length
    · -- the oldest bytes make room for the new ones
      have hskip : (b.buf.length : ℤ) + p.length - n = (b.buf.length + p.length - n : ℕ) := by omega
      have hshift : b.shift (b.buf.length + p.length - n : ℕ) = some { b with
          buf := b.buf.drop (b.buf.length + p.length - n), truncated := true } :=
        shift_eq (by omega)
      refine ⟨{ b with buf := b.buf.drop (b.buf.length + p.length - n) ++ p, truncated := true },
        ?_, rfl, hpos, ?_, ?_⟩
      · have hpositive : 0 < b.buf.length + p.length - n := by omega
        simp [BoundedBuffer.write, hn, hlong, hskip, hpositive, hshift]
      · simp [hn, rtake_append_of_lt (Nat.lt_of_not_le hlong), hretained]
      · rw [exists_length_append, hstream]
        simp only [hn, true_iff]
        omega
    · -- the new bytes fit
      refine ⟨{ b with buf := b.buf ++ p }, ?_, rfl, hpos, ?_, ?_⟩
      · have hfits : ¬ (n : ℤ) < b.buf.length + p.length := by omega
        simp [BoundedBuffer.write, hn, hlong, hfits]
      · have hkeeps : b.buf.length + p.length - n = 0 := by omega
        simp [hn, rtake_append_of_lt (Nat.lt_of_not_le hlong), ← hretained, hkeeps]
      · rw [exists_length_append, hstream]
        have hlonger : (n : ℤ) < (writes.flatten.length + p.length : ℕ) ↔
            (n : ℤ) < writes.flatten.length := by omega
        have hshort : (p.length : ℤ) ≠ n := by omega
        simp only [h.truncated, hn, hlonger, hshort, or_false]

/-- A sequence of writes never panics and leaves a window on all that was written. -/
theorem Windows.writeAll {writes : List Bytes} (later : List Bytes) :
    ∀ {b : BoundedBuffer}, b.Windows writes →
      ∃ b' : BoundedBuffer, b.writeAll later = some (b', later.map fun p => (p.length : ℤ)) ∧
        b'.limit = b.limit ∧ Windows b' (writes ++ later) := by
  induction later generalizing writes with
  | nil =>
    intro b h
    exact ⟨b, rfl, rfl, by simpa using h⟩
  | cons p later ih =>
    intro b h
    have ⟨b₁, hwrite, hlimit₁, hwindow₁⟩ := h.write p
    have ⟨b₂, hrest, hlimit₂, hwindow₂⟩ := ih hwindow₁
    refine ⟨b₂, ?_, hlimit₂.trans hlimit₁, by simpa using hwindow₂⟩
    simp [BoundedBuffer.writeAll, hwrite, hrest]

/-- While the flag is down, `String` gives back everything that was written. -/
theorem Windows.string_eq {b : BoundedBuffer} {writes : List Bytes} (h : b.Windows writes)
    (hflag : b.truncated = false) : b.string = writes.flatten := by
  have hlength : ¬ b.limit < writes.flatten.length := by
    intro hlonger
    simp [h.truncated.mpr (.inl hlonger)] at hflag
  have hskip : writes.flatten.length - b.limit.toNat = 0 := by omega
  simp only [string, hflag, Bool.not_false, if_true, h.retained, List.rtake]
  rw [hskip, List.drop_zero]

end BoundedBuffer

/-! ## What the buffer reports -/

/-- The writes return their lengths, the last bytes up to the limit are retained, and the flag is up
exactly when the stream is longer than the limit. -/
def KeepsLastBytes (limit : ℤ) (writes : List Bytes) : Prop :=
  ∃ b : BoundedBuffer,
    (newBoundedBuffer limit).writeAll writes = some (b, writes.map fun p => (p.length : ℤ)) ∧
      b.buf = writes.flatten.rtake (min b.limit.toNat writes.flatten.length) ∧
      (b.truncated = true ↔ b.limit < writes.flatten.length)

/-- The buffer keeps and reports the window of every stream, except that one write of exactly the
limit's length raises the flag on a stream that it alone fills. -/
theorem keepsLastBytes_iff (limit : ℤ) (writes : List Bytes) :
    KeepsLastBytes limit writes ↔
      ((∃ p ∈ writes, (p.length : ℤ) = (newBoundedBuffer limit).limit) →
        (writes.flatten.length : ℤ) ≠ (newBoundedBuffer limit).limit) := by
  have ⟨b, hrun, hlimit, hwindow⟩ := (BoundedBuffer.windows_new limit).writeAll writes
  rw [List.nil_append] at hwindow
  have hretained : b.buf = writes.flatten.rtake (min b.limit.toNat writes.flatten.length) := by
    rw [hwindow.retained]
    simp [List.rtake]
    omega
  have htruncated := hwindow.truncated
  have hkeeps : KeepsLastBytes limit writes ↔
      (b.truncated = true ↔ b.limit < writes.flatten.length) := by
    constructor
    · rintro ⟨b', hrun', -, hflag⟩
      rw [hrun] at hrun'
      cases hrun'
      exact hflag
    · intro hflag
      exact ⟨b, hrun, hretained, hflag⟩
  rw [hkeeps, hwindow.truncated, ← hlimit]
  by_cases hexact : ∃ p ∈ writes, (p.length : ℤ) = b.limit
  · have ⟨p, hp, hlength⟩ := hexact
    have hle : p.length ≤ writes.flatten.length := (List.sublist_flatten_of_mem hp).length_le
    simp only [hexact, or_true, true_iff, forall_const]
    omega
  · simp [hexact]

/-- Sixteen bytes in one write fill a buffer of sixteen bytes: nothing is lost, and the flag is up. -/
theorem keepsLastBytes_full : ¬ KeepsLastBytes 16 [List.replicate 16 120] := by
  rintro ⟨b, hrun, -, hflag⟩
  cases hrun
  exact absurd (hflag.mp rfl) (by decide)

end Rygnal.Engine
