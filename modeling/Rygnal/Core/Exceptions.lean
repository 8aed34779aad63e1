import Mathlib.Tactic.Common

/-! # Exceptions

An exception carries the classes it is an instance of, most specific first, and its text.
`isinstance` and an `except (A, B)` clause test membership in that list.
-/

namespace Rygnal.Core

inductive ExceptionClass where
  | baseException
  | exception
  | runtimeError
  | valueError
  | osError
  | lookupError
  | unicodeEncodeError
  | jsonDecodeError
  | approvalReceiptConflictError
  | approvalReceiptPayloadError
  | approvedPatchApplyError
  | patchArtifactError
  | approvalOperationError
  | approvalOperationStateError
  | other (name : String)
deriving DecidableEq, Repr

structure PyException where
  mro : List ExceptionClass
  message : String
deriving DecidableEq, Repr

namespace PyException

/-- `isinstance(exc, classes)`. -/
def isInstance (exc : PyException) (classes : List ExceptionClass) : Bool :=
  classes.any fun c => c ∈ exc.mro

/-- An exception of a class directly below `RuntimeError`. -/
def runtime (cls : ExceptionClass) (message : String) : PyException :=
  ⟨[cls, .runtimeError, .exception, .baseException], message⟩

/-- An exception of a class below `ValueError`. -/
def value (cls : ExceptionClass) (message : String) : PyException :=
  ⟨[cls, .valueError, .exception, .baseException], message⟩

/-- `type(exc)`. -/
def type (exc : PyException) : ExceptionClass := exc.mro.headD .baseException

/-- `if condition: raise exc`. -/
def raiseIf (condition : Bool) (exc : PyException) : Except PyException Unit :=
  if condition then .error exc else .ok ()

@[simp] theorem raiseIf_eq_ok {condition : Bool} {exc : PyException} {u : Unit} :
    raiseIf condition exc = .ok u ↔ condition = false := by
  cases condition <;> simp [raiseIf]

@[simp] theorem raiseIf_eq_error {condition : Bool} {exc exc' : PyException} :
    raiseIf condition exc = .error exc' ↔ condition = true ∧ exc = exc' := by
  cases condition <;> simp [raiseIf]

end PyException

/-! ## Sequences of fallible steps -/

section Bind
variable {ε α β : Type} {first : Except ε α} {rest : α → Except ε β}

theorem bind_eq_ok {b : β} :
    (first >>= rest) = .ok b ↔ ∃ a, first = .ok a ∧ rest a = .ok b := by
  cases first with
  | error e =>
    constructor
    · intro h
      cases h
    · rintro ⟨a, ha, -⟩
      cases ha
  | ok a =>
    constructor
    · intro h
      exact ⟨a, rfl, h⟩
    · rintro ⟨a', ha, h⟩
      cases ha
      exact h

/-- The error of a sequence comes from its head or from its rest. -/
theorem bind_eq_error {e : ε} :
    (first >>= rest) = .error e ↔ first = .error e ∨ ∃ a, first = .ok a ∧ rest a = .error e := by
  cases first with
  | error e' =>
    constructor
    · intro h
      cases h
      exact .inl rfl
    · rintro (h | ⟨a, ha, -⟩)
      · cases h
        rfl
      · cases ha
  | ok a =>
    constructor
    · intro h
      exact .inr ⟨a, rfl, h⟩
    · rintro (h | ⟨a', ha, h⟩)
      · cases h
      · cases ha
        exact h

theorem map_eq_ok {f : α → β} {b : β} : first.map f = .ok b ↔ ∃ a, first = .ok a ∧ f a = b := by
  cases first with
  | error e => simp [Except.map]
  | ok a => simp [Except.map]

theorem map_eq_error {f : α → β} {e : ε} : first.map f = .error e ↔ first = .error e := by
  cases first <;> simp [Except.map]

/-- Translating the errors changes no result. -/
theorem mapError_eq_ok {ε' : Type} {f : ε → ε'} {a : α} :
    first.mapError f = .ok a ↔ first = .ok a := by
  cases first <;> simp [Except.mapError]

/-- A loop of which every step succeeds collects the results. -/
theorem mapM_map_ok {ι : Type} {f : α → Except ε β} {g : ι → α} {h : ι → β} {xs : List ι}
    (hstep : ∀ x ∈ xs, f (g x) = .ok (h x)) : (xs.map g).mapM f = .ok (xs.map h) := by
  induction xs with
  | nil => rfl
  | cons x xs ih =>
    rw [List.map_cons, List.mapM_cons, hstep x List.mem_cons_self,
      ih fun y hy => hstep y (List.mem_cons_of_mem x hy)]
    rfl

/-- A loop collects results exactly when each of its steps succeeds. -/
theorem mapM_eq_ok_iff {f : α → Except ε β} {xs : List α} :
    (∃ ys, xs.mapM f = .ok ys) ↔ ∀ x ∈ xs, ∃ y, f x = .ok y := by
  induction xs with
  | nil => simp [pure, Except.pure]
  | cons x xs ih =>
    rw [List.forall_mem_cons, ← ih]
    simp only [List.mapM_cons, bind_eq_ok]
    constructor
    · rintro ⟨_, y, hy, ys, hys, _⟩
      exact ⟨⟨y, hy⟩, ys, hys⟩
    · rintro ⟨⟨y, hy⟩, ys, hys⟩
      exact ⟨_, y, hy, ys, hys, rfl⟩

theorem mapM_congr {f g : α → Except ε β} {xs : List α} (h : ∀ x ∈ xs, f x = g x) :
    xs.mapM f = xs.mapM g := by
  induction xs with
  | nil => rfl
  | cons x xs ih =>
    rw [List.mapM_cons, List.mapM_cons, h x List.mem_cons_self,
      ih fun y hy => h y (List.mem_cons_of_mem x hy)]

end Bind

/-- The results of a loop that collects them are those of its elements. -/
theorem mapM_eq_ok_mem {ε α β : Type} {f : α → Except ε β} {xs : List α} {ys : List β}
    (h : xs.mapM f = .ok ys) :
    (∀ y, y ∈ ys ↔ ∃ x ∈ xs, f x = .ok y) ∧ ∀ x ∈ xs, ∃ y, f x = .ok y := by
  induction xs generalizing ys with
  | nil =>
    cases h
    simp
  | cons x xs ih =>
    simp only [List.mapM_cons, bind_eq_ok] at h
    obtain ⟨y, hy, ys', hys', heq⟩ := h
    obtain rfl := Except.ok.inj heq
    obtain ⟨hmem, hall⟩ := ih hys'
    constructor
    · intro z
      simp only [List.mem_cons, exists_eq_or_imp, hmem, hy, Except.ok.injEq]
      rw [eq_comm]
    · exact List.forall_mem_cons.mpr ⟨⟨y, hy⟩, hall⟩

end Rygnal.Core
