import Mathlib.Tactic.Common

/-! # Labelled transition systems with a computable step

A label names one atomic step; `none` says that the label is not enabled in the state.
Runs are finite label lists, so a concrete interleaving can be evaluated, and every
property of all runs is proved from what one step preserves.
-/

namespace Rygnal.Library.Transition

variable {σ ι : Type*}

/-- One atomic step for each label. -/
abbrev Step (σ ι : Type*) := σ → ι → Option σ

/-- The state after a finite label list, when every label was enabled in turn. -/
def run (step : Step σ ι) : σ → List ι → Option σ
  | s, [] => some s
  | s, l :: ls => (step s l).bind fun t => run step t ls

@[simp] theorem run_nil (step : Step σ ι) (s : σ) : run step s [] = some s := rfl

theorem run_cons (step : Step σ ι) (s : σ) (l : ι) (ls : List ι) :
    run step s (l :: ls) = (step s l).bind fun t => run step t ls := rfl

theorem run_cons_eq_some {step : Step σ ι} {s u : σ} {l : ι} {ls : List ι} :
    run step s (l :: ls) = some u ↔ ∃ t, step s l = some t ∧ run step t ls = some u := by
  rw [run_cons, Option.bind_eq_some_iff]

theorem run_append (step : Step σ ι) (s : σ) (ks ls : List ι) :
    run step s (ks ++ ls) = (run step s ks).bind fun t => run step t ls := by
  induction ks generalizing s with
  | nil => rfl
  | cons k ks ih =>
    rw [List.cons_append, run_cons, run_cons, Option.bind_assoc]
    exact congrArg _ (funext ih)

theorem run_append_eq_some {step : Step σ ι} {s u : σ} {ks ls : List ι} :
    run step s (ks ++ ls) = some u ↔ ∃ t, run step s ks = some t ∧ run step t ls = some u := by
  rw [run_append, Option.bind_eq_some_iff]

/-- `t` is reached from `s` by some run. -/
def Reaches (step : Step σ ι) (s t : σ) : Prop := ∃ ls, run step s ls = some t

theorem Reaches.refl (step : Step σ ι) (s : σ) : Reaches step s s := ⟨[], rfl⟩

theorem Reaches.trans {step : Step σ ι} {s t u : σ} (h : Reaches step s t)
    (h' : Reaches step t u) : Reaches step s u := by
  obtain ⟨ks, hk⟩ := h
  obtain ⟨ls, hl⟩ := h'
  exact ⟨ks ++ ls, run_append_eq_some.mpr ⟨t, hk, hl⟩⟩

/-- What one step preserves holds after every run. -/
theorem run_invariant {step : Step σ ι} {P : σ → Prop}
    (hstep : ∀ s l t, P s → step s l = some t → P t) {s u : σ} {ls : List ι}
    (hs : P s) (h : run step s ls = some u) : P u := by
  induction ls generalizing s with
  | nil =>
    rw [run_nil, Option.some.injEq] at h
    exact h ▸ hs
  | cons l ls ih =>
    obtain ⟨t, ht, hu⟩ := run_cons_eq_some.mp h
    exact ih (hstep s l t hs ht) hu

theorem Reaches.invariant {step : Step σ ι} {P : σ → Prop}
    (hstep : ∀ s l t, P s → step s l = some t → P t) {s u : σ}
    (hs : P s) (h : Reaches step s u) : P u := by
  obtain ⟨ls, hr⟩ := h
  exact run_invariant hstep hs hr

/-- Every step that the run takes is taken from a state, and with a label, that meet `C`. -/
def Meets (step : Step σ ι) (C : σ → ι → Prop) : σ → List ι → Prop
  | _, [] => True
  | s, l :: ls => C s l ∧ ∀ t, step s l = some t → Meets step C t ls

instance Meets.decidable {step : Step σ ι} {C : σ → ι → Prop} [∀ s l, Decidable (C s l)] :
    ∀ s ls, Decidable (Meets step C s ls)
  | _, [] => isTrue trivial
  | s, l :: ls =>
    have : Decidable (∀ t, step s l = some t → Meets step C t ls) :=
      match h : step s l with
      | none => isTrue fun _ ht => by cases ht
      | some t =>
        match Meets.decidable t ls with
        | isTrue hm => isTrue fun u hu => by cases hu; exact hm
        | isFalse hm => isFalse fun hall => hm (hall t rfl)
    inferInstanceAs (Decidable (_ ∧ _))

theorem Meets.head {step : Step σ ι} {C : σ → ι → Prop} {s : σ} {l : ι} {ls : List ι}
    (h : Meets step C s (l :: ls)) : C s l := h.1

theorem Meets.tail {step : Step σ ι} {C : σ → ι → Prop} {s t : σ} {l : ι} {ls : List ι}
    (h : Meets step C s (l :: ls)) (ht : step s l = some t) : Meets step C t ls := h.2 t ht

theorem Meets.append_left {step : Step σ ι} {C : σ → ι → Prop} {s : σ} {ks ls : List ι}
    (h : Meets step C s (ks ++ ls)) : Meets step C s ks := by
  induction ks generalizing s with
  | nil => trivial
  | cons k ks ih => exact ⟨h.1, fun t ht => ih (h.2 t ht)⟩

theorem Meets.append_right {step : Step σ ι} {C : σ → ι → Prop} {s t : σ} {ks ls : List ι}
    (h : Meets step C s (ks ++ ls)) (ht : run step s ks = some t) : Meets step C t ls := by
  induction ks generalizing s with
  | nil =>
    rw [run_nil, Option.some.injEq] at ht
    exact ht ▸ h
  | cons k ks ih =>
    obtain ⟨u, hu, hrest⟩ := run_cons_eq_some.mp ht
    exact ih (h.2 u hu) hrest

/-- What a step meeting the condition preserves holds after every run that meets it. -/
theorem Meets.invariant {step : Step σ ι} {C : σ → ι → Prop} {P : σ → Prop}
    (hstep : ∀ s l t, P s → C s l → step s l = some t → P t) {s u : σ} {ls : List ι}
    (hs : P s) (hm : Meets step C s ls) (h : run step s ls = some u) : P u := by
  induction ls generalizing s with
  | nil =>
    rw [run_nil, Option.some.injEq] at h
    exact h ▸ hs
  | cons l ls ih =>
    obtain ⟨t, ht, hu⟩ := run_cons_eq_some.mp h
    exact ih (hstep s l t hs hm.head ht) (hm.tail ht) hu

/-- A condition that an invariant and the labels themselves ensure is met along the run. -/
theorem meets_of_invariant {step : Step σ ι} {C : σ → ι → Prop} {P : σ → Prop} {L : ι → Prop}
    (hstep : ∀ s l t, P s → L l → step s l = some t → P t) (hC : ∀ s l, P s → L l → C s l)
    {s : σ} {ls : List ι} (hs : P s) (hls : ∀ l ∈ ls, L l) : Meets step C s ls := by
  induction ls generalizing s with
  | nil => trivial
  | cons l ls ih =>
    have hl := hls l List.mem_cons_self
    constructor
    · exact hC s l hs hl
    · intro t ht
      exact ih (hstep s l t hs hl ht) fun k hk => hls k (List.mem_cons_of_mem l hk)

/-- The run `ls` from `s` takes the step `l` from `t` to `u` somewhere on its way. -/
def Takes (step : Step σ ι) (s : σ) (ls : List ι) (t : σ) (l : ι) (u : σ) : Prop :=
  ∃ ks rest, ls = ks ++ l :: rest ∧ run step s ks = some t ∧ step t l = some u

theorem takes_head {step : Step σ ι} {s t : σ} {l : ι} (h : step s l = some t) (ls : List ι) :
    Takes step s (l :: ls) s l t :=
  ⟨[], ls, rfl, rfl, h⟩

theorem Takes.cons {step : Step σ ι} {r s t u : σ} {k l : ι} {ls : List ι}
    (hk : step r k = some s) (h : Takes step s ls t l u) : Takes step r (k :: ls) t l u := by
  obtain ⟨ks, rest, rfl, hks, hl⟩ := h
  exact ⟨k :: ks, rest, rfl, run_cons_eq_some.mpr ⟨s, hk, hks⟩, hl⟩

/-- What holds after a run held before it, or some step of the run caused it. -/
theorem run_origin {step : Step σ ι} {P A : σ → Prop} {Q : σ → ι → σ → Prop}
    (hP : ∀ s l t, P s → step s l = some t → P t)
    (hstep : ∀ s l t, P s → step s l = some t → A t → A s ∨ Q s l t)
    {s w : σ} {ls : List ι} (hs : P s) (h : run step s ls = some w) (hw : A w) :
    A s ∨ ∃ t l u, Takes step s ls t l u ∧ Q t l u := by
  induction ls generalizing s with
  | nil =>
    rw [run_nil, Option.some.injEq] at h
    exact .inl (h ▸ hw)
  | cons l ls ih =>
    obtain ⟨t, ht, hrun⟩ := run_cons_eq_some.mp h
    rcases ih (hP s l t hs ht) hrun with hAt | ⟨t', l', u', htakes, hQ⟩
    · rcases hstep s l t hs ht hAt with hAs | hQ
      · exact .inl hAs
      · exact .inr ⟨s, l, t, takes_head ht ls, hQ⟩
    · exact .inr ⟨t', l', u', htakes.cons ht, hQ⟩

/-- In a run that meets the condition, an invariant holds before, and the condition at,
each step that the run takes. -/
theorem Meets.takes {step : Step σ ι} {C : σ → ι → Prop} {P : σ → Prop}
    (hstep : ∀ s l t, P s → C s l → step s l = some t → P t) {s t u : σ} {l : ι} {ls : List ι}
    (hs : P s) (hm : Meets step C s ls) (h : Takes step s ls t l u) : P t ∧ C t l := by
  obtain ⟨ks, rest, rfl, hks, _⟩ := h
  exact ⟨hm.append_left.invariant hstep hs hks, (hm.append_right hks).head⟩

end Rygnal.Library.Transition
