import Mathlib.Tactic.Common

/-! # Steps that raise in a state

A step that fails keeps the state in which it failed, so that a handler or a cleanup behind it can
go on from there. `EndsIn` says what holds of the state at either end of a step.
-/

namespace Rygnal.Library.Unwinding

variable {ε σ α : Type}

/-- A call of which only the failure counts. -/
def call (state : σ) : Option ε → Except (ε × σ) Unit
  | none => .ok ()
  | some error => .error (error, state)

/-- A call with a result. -/
def answer (state : σ) : Except ε α → Except (ε × σ) α
  | .ok a => .ok a
  | .error error => .error (error, state)

/-- The failure of a call with a result. -/
def failureOf : Except ε α → Option ε
  | .ok _ => none
  | .error error => some error

@[simp] theorem call_none (state : σ) : call state (none : Option ε) = .ok () := rfl

@[simp] theorem call_some (state : σ) (error : ε) : call state (some error) = .error (error, state) :=
  rfl

@[simp] theorem answer_ok (state : σ) (a : α) : answer state (.ok a : Except ε α) = .ok a := rfl

@[simp] theorem answer_error (state : σ) (error : ε) :
    answer state (.error error : Except ε α) = .error (error, state) := rfl

@[simp] theorem failureOf_ok (a : α) : failureOf (.ok a : Except ε α) = none := rfl

@[simp] theorem failureOf_error (error : ε) :
    failureOf (.error error : Except ε α) = some error := rfl

theorem failureOf_eq_none {x : Except ε α} : failureOf x = none ↔ ∃ a, x = .ok a := by
  cases x with
  | ok a => simp
  | error error => simp

@[simp] theorem call_eq_ok {state : σ} {fault : Option ε} {u : Unit} :
    call state fault = .ok u ↔ fault = none := by
  cases fault with
  | none => simp
  | some error => simp

@[simp] theorem answer_eq_ok {state : σ} {x : Except ε α} {a : α} :
    answer state x = .ok a ↔ x = .ok a := by
  cases x with
  | ok b => simp
  | error error => simp

/-! ## What a step raises -/

/-- What a step raises, without the state. -/
def raises : Except (ε × σ) α → Option ε
  | .ok _ => none
  | .error (error, _) => some error

@[simp] theorem raises_ok (a : α) : raises (.ok a : Except (ε × σ) α) = none := rfl

@[simp] theorem raises_pure (a : α) : raises (pure a : Except (ε × σ) α) = none := rfl

@[simp] theorem raises_error (error : ε) (state : σ) :
    raises (.error (error, state) : Except (ε × σ) α) = some error := rfl

/-- A sequence raises what its first call raises, or what the rest raises. -/
@[simp] theorem raises_call_bind (state : σ) (fault : Option ε) (rest : Unit → Except (ε × σ) α) :
    raises (call state fault >>= rest) = (fault <|> raises (rest ())) := by
  cases fault with
  | none => rfl
  | some error => rfl

@[simp] theorem raises_call_map (state : σ) (fault : Option ε) (f : Unit → α) :
    raises (f <$> call state fault) = fault := by
  cases fault with
  | none => rfl
  | some error => rfl

theorem raises_answer_bind (state : σ) (x : Except ε α) (rest : α → Except (ε × σ) σ)
    {fault : Option ε} (h : ∀ a, x = .ok a → raises (rest a) = fault) :
    raises (answer state x >>= rest) = (failureOf x <|> fault) := by
  cases x with
  | ok a => exact h a rfl
  | error error => rfl

theorem raises_bind {x : Except (ε × σ) α} {rest : α → Except (ε × σ) σ} {fault : Option ε}
    (h : ∀ a, x = .ok a → raises (rest a) = fault) :
    raises (x >>= rest) = (raises x <|> fault) := by
  cases x with
  | ok a => exact h a rfl
  | error raised => rfl

theorem raises_eq_none {x : Except (ε × σ) α} : raises x = none ↔ ∃ a, x = .ok a := by
  cases x with
  | ok a => simp
  | error raised => simp [raises]

theorem raises_eq_some {x : Except (ε × σ) α} {error : ε} :
    raises x = some error ↔ ∃ state, x = .error (error, state) := by
  cases x with
  | ok a => simp
  | error raised =>
    constructor
    · intro h
      cases h
      exact ⟨raised.2, rfl⟩
    · rintro ⟨state, h⟩
      cases h
      rfl

/-! ## What holds where a step ends -/

/-- `post` holds of the state in which a step ends or raises. -/
def EndsIn (post : σ → Prop) : Except (ε × σ) σ → Prop
  | .ok state => post state
  | .error (_, state) => post state

section Rules
variable {post mid : σ → Prop} {state : σ}

theorem EndsIn.mono {x : Except (ε × σ) σ} (h : EndsIn mid x) (himp : ∀ s, mid s → post s) :
    EndsIn post x := by
  cases x with
  | ok s => exact himp s h
  | error raised => exact himp raised.2 h

theorem endsIn_call {fault : Option ε} {rest : Unit → Except (ε × σ) σ} (h : post state)
    (hrest : fault = none → EndsIn post (rest ())) : EndsIn post (call state fault >>= rest) := by
  cases fault with
  | none => exact hrest rfl
  | some error => exact h

theorem endsIn_answer {x : Except ε α} {rest : α → Except (ε × σ) σ} (h : post state)
    (hrest : ∀ a, x = .ok a → EndsIn post (rest a)) : EndsIn post (answer state x >>= rest) := by
  cases x with
  | ok a => exact hrest a rfl
  | error error => exact h

theorem endsIn_bind {x : Except (ε × σ) σ} {rest : σ → Except (ε × σ) σ} (h : EndsIn mid x)
    (hraised : ∀ s, mid s → post s) (hrest : ∀ s, x = .ok s → mid s → EndsIn post (rest s)) :
    EndsIn post (x >>= rest) := by
  cases x with
  | ok s => exact hrest s rfl h
  | error raised => exact hraised raised.2 h

end Rules

end Rygnal.Library.Unwinding
