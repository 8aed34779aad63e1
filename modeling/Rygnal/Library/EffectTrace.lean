import Mathlib.Data.List.Basic

/-! # Computations that leave a trace of effects

An `Act` reads a world, changes it by effects that it records whether or not they succeed, and
returns or raises. What an act does is proved from its parts: a branch continues the effects of
its first act.
-/

namespace Rygnal.Library.EffectTrace

/-- A world and the effects that were tried on it. -/
structure Progress (W E : Type) where
  world : W
  effects : List E

def Act (ε W E α : Type) : Type := Progress W E → Except ε α × Progress W E

namespace Act
variable {ε W E α β : Type}

/-- `try: m; except: onError; else: onOk`. -/
def branch (m : Act ε W E α) (onError : ε → Act ε W E β) (onOk : α → Act ε W E β) : Act ε W E β :=
  fun p => match m p with
    | (.error exc, q) => onError exc q
    | (.ok a, q) => onOk a q

def raise (exc : ε) : Act ε W E α := fun p => (.error exc, p)

instance : Monad (Act ε W E) where
  pure a p := (.ok a, p)
  bind m f := branch m raise f

def read (answer : W → Except ε α) : Act ε W E α := fun p => (answer p.world, p)

def perform (change : W → E → Except ε Unit × W) (effect : E) : Act ε W E Unit := fun p =>
  ((change p.world effect).1, ⟨(change p.world effect).2, p.effects ++ [effect]⟩)

/-- Whatever the world, the act ends as `Q` allows with the effects that it adds. -/
def Does (m : Act ε W E α) (Q : Except ε α → List E → Prop) : Prop :=
  ∀ p, ∃ added, (m p).2.effects = p.effects ++ added ∧ Q (m p).1 added

section Rules
variable {m : Act ε W E α} {Q : Except ε α → List E → Prop}

theorem does_pure {a : α} (h : Q (.ok a) []) : Does (pure a : Act ε W E α) Q :=
  fun p => ⟨[], (List.append_nil p.effects).symm, h⟩

theorem does_raise {exc : ε} (h : Q (.error exc) []) : Does (raise exc : Act ε W E α) Q :=
  fun p => ⟨[], (List.append_nil p.effects).symm, h⟩

theorem does_read {answer : W → Except ε α} (h : ∀ w, Q (answer w) []) :
    Does (read answer : Act ε W E α) Q :=
  fun p => ⟨[], (List.append_nil p.effects).symm, h p.world⟩

theorem does_perform {change : W → E → Except ε Unit × W} {effect : E}
    {Q : Except ε Unit → List E → Prop} (h : ∀ answer, Q answer [effect]) :
    Does (perform change effect) Q :=
  fun _ => ⟨[effect], rfl, h _⟩

theorem Does.branch {Q' : Except ε β → List E → Prop} {onError : ε → Act ε W E β}
    {onOk : α → Act ε W E β} (h : Does m Q)
    (herror : ∀ exc first, Q (.error exc) first →
      Does (onError exc) fun ended added => Q' ended (first ++ added))
    (hok : ∀ a first, Q (.ok a) first →
      Does (onOk a) fun ended added => Q' ended (first ++ added)) :
    Does (branch m onError onOk) Q' := by
  intro p
  obtain ⟨first, hfirst, hQ⟩ := h p
  rw [Act.branch]
  rcases hended : m p with ⟨exc | a, q⟩
  · rw [hended] at hfirst hQ
    obtain ⟨added, hadded, hQ'⟩ := herror exc first hQ q
    exact ⟨first ++ added, by rw [← List.append_assoc, ← hfirst]; exact hadded, hQ'⟩
  · rw [hended] at hfirst hQ
    obtain ⟨added, hadded, hQ'⟩ := hok a first hQ q
    exact ⟨first ++ added, by rw [← List.append_assoc, ← hfirst]; exact hadded, hQ'⟩

theorem Does.bind {Q' : Except ε β → List E → Prop} {f : α → Act ε W E β} (h : Does m Q)
    (herror : ∀ exc first, Q (.error exc) first → Q' (.error exc) first)
    (hok : ∀ a first, Q (.ok a) first →
      Does (f a) fun ended added => Q' ended (first ++ added)) :
    Does (m >>= f) Q' := by
  refine h.branch ?_ hok
  intro exc first hfirst
  refine does_raise ?_
  rw [List.append_nil]
  exact herror exc first hfirst

/-- An answer of the world adds no effect. -/
theorem does_read_bind {Q' : Except ε β → List E → Prop} {answer : W → Except ε α}
    {f : α → Act ε W E β} (herror : ∀ w exc, answer w = .error exc → Q' (.error exc) [])
    (hok : ∀ w a, answer w = .ok a → Does (f a) Q') : Does (read answer >>= f) Q' := by
  refine Does.bind (does_read (Q := fun ended added => added = [] ∧ ∃ w, answer w = ended)
    fun w => ⟨rfl, w, rfl⟩) ?_ ?_
  · rintro exc first ⟨rfl, w, hw⟩
    exact herror w exc hw
  · rintro a first ⟨rfl, w, hw⟩
    exact hok w a hw

/-- The effect is tried before what follows, and alone when it raises. -/
theorem does_perform_bind {Q' : Except ε β → List E → Prop}
    {change : W → E → Except ε Unit × W} {effect : E} {f : Unit → Act ε W E β}
    (herror : ∀ exc, Q' (.error exc) [effect])
    (hok : Does (f ()) fun ended added => Q' ended (effect :: added)) :
    Does (perform change effect >>= f) Q' := by
  refine Does.bind (does_perform (Q := fun _ added => added = [effect]) fun _ => rfl) ?_ ?_
  · rintro exc first rfl
    exact herror exc
  · rintro ⟨⟩ first rfl
    exact hok

end Rules

end Act
end Rygnal.Library.EffectTrace
