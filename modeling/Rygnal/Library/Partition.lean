import Mathlib.Logic.Function.Basic
import Mathlib.Tactic.Common

/-! # Machines that work on independent parts

Every input belongs to at most one part of the state, and changes that part alone. What a run does
to a part, and answers to its inputs, is what the part does alone on its own inputs. A part that
remembers the last inputs only is `keepLast` of all of them.
-/

namespace Rygnal.Library.Partition

variable {κ σ ι ο : Type*} [DecidableEq κ]

section Run
variable (key : ι → Option κ) (part : Option σ → ι → σ × ο)

/-- One input, with its answer. An input without a part changes nothing. -/
def step (s : κ → σ) (i : ι) : (κ → σ) × ο :=
  match key i with
  | none => (s, (part none i).2)
  | some k => (Function.update s k (part (some (s k)) i).1, (part (some (s k)) i).2)

/-- A run, with the inputs and their answers. -/
def run : (κ → σ) → List ι → (κ → σ) × List (ι × ο)
  | s, [] => (s, [])
  | s, i :: is =>
    ((run (step key part s i).1 is).1, (i, (step key part s i).2) :: (run (step key part s i).1 is).2)

/-- One part alone. -/
def runPart : σ → List ι → σ × List (ι × ο)
  | p, [] => (p, [])
  | p, i :: is =>
    ((runPart (part (some p) i).1 is).1, (i, (part (some p) i).2) :: (runPart (part (some p) i).1 is).2)

variable {key part}

theorem step_other {s : κ → σ} {i : ι} {k : κ} (h : key i ≠ some k) :
    (step key part s i).1 k = s k := by
  rw [step]
  cases hk : key i with
  | none => rfl
  | some k' =>
    have hne : k ≠ k' := by
      rintro rfl
      exact h hk
    exact Function.update_of_ne hne _ _

theorem step_own (part : Option σ → ι → σ × ο) (s : κ → σ) {i : ι} {k : κ} (h : key i = some k) :
    (step key part s i).1 k = (part (some (s k)) i).1 ∧
      (step key part s i).2 = (part (some (s k)) i).2 := by
  rw [step, h]
  exact ⟨Function.update_self _ _ _, rfl⟩

/-- A part after a run is the part alone after its own inputs. -/
theorem run_part (s : κ → σ) (is : List ι) (k : κ) :
    (run key part s is).1 k = (runPart part (s k) (is.filter fun i => key i = some k)).1 := by
  induction is generalizing s with
  | nil => rfl
  | cons i is ih =>
    rw [run, ih]
    by_cases h : key i = some k
    · rw [List.filter_cons_of_pos (by simpa using h), runPart, (step_own part s h).1]
    · rw [List.filter_cons_of_neg (by simpa using h), step_other h]

/-- The answers to the inputs of a part are those of the part alone. -/
theorem run_answers (s : κ → σ) (is : List ι) (k : κ) :
    (run key part s is).2.filter (fun answer => key answer.1 = some k) =
      (runPart part (s k) (is.filter fun i => key i = some k)).2 := by
  induction is generalizing s with
  | nil => rfl
  | cons i is ih =>
    rw [run]
    by_cases h : key i = some k
    · obtain ⟨hstate, hanswer⟩ := step_own part s h
      rw [List.filter_cons_of_pos (by simpa using h), List.filter_cons_of_pos (by simpa using h),
        runPart, ih, hstate, hanswer]
    · rw [List.filter_cons_of_neg (by simpa using h), List.filter_cons_of_neg (by simpa using h),
        ih, step_other h]

theorem run_own (s : κ → σ) {is : List ι} {k : κ} (h : ∀ i ∈ is, key i = some k) :
    (run key part s is).2 = (runPart part (s k) is).2 := by
  induction is generalizing s with
  | nil => rfl
  | cons i is ih =>
    obtain ⟨hstate, hanswer⟩ := step_own part s (h i List.mem_cons_self)
    rw [run, runPart, ih _ fun j hj => h j (List.mem_cons_of_mem i hj), hstate, hanswer]

/-- The inputs of the other parts can be left out. -/
theorem run_independent (s : κ → σ) (is : List ι) (k : κ) :
    (run key part s is).2.filter (fun answer => key answer.1 = some k) =
      (run key part s (is.filter fun i => key i = some k)).2 := by
  rw [run_answers, run_own]
  intro i hi
  simpa using (List.mem_filter.mp hi).2

theorem run_append (s : κ → σ) (is js : List ι) :
    run key part s (is ++ js) =
      ((run key part (run key part s is).1 js).1,
        (run key part s is).2 ++ (run key part (run key part s is).1 js).2) := by
  induction is generalizing s with
  | nil => rfl
  | cons i is ih => rw [List.cons_append, run, ih, run, List.cons_append]

end Run

/-! ## The last inputs -/

/-- The last `n` members of a list. -/
def keepLast {α : Type*} (n : ℕ) (xs : List α) : List α := xs.drop (xs.length - n)

@[simp] theorem keepLast_nil {α : Type*} (n : ℕ) : keepLast n ([] : List α) = [] := by
  simp [keepLast]

theorem keepLast_append_of_le {α : Type*} {n : ℕ} (xs : List α) {ys : List α} (h : n ≤ ys.length) :
    keepLast n (xs ++ ys) = keepLast n ys := by
  have hlength : (xs ++ ys).length - n = xs.length + (ys.length - n) := by
    rw [List.length_append]
    omega
  rw [keepLast, hlength, List.drop_append, keepLast]
  simp

theorem keepLast_keepLast_append {α : Type*} (n : ℕ) (xs : List α) (x : α) :
    keepLast n (keepLast n xs ++ [x]) = keepLast n (xs ++ [x]) := by
  by_cases h : xs.length ≤ n
  · have hall : keepLast n xs = xs := by
      rw [keepLast, Nat.sub_eq_zero_of_le h, List.drop_zero]
    rw [hall]
  · have hlength : (keepLast n xs).length = n := by
      rw [keepLast, List.length_drop]
      omega
    have hsplit : xs ++ [x] = xs.take (xs.length - n) ++ (keepLast n xs ++ [x]) := by
      rw [← List.append_assoc, keepLast, List.take_append_drop]
    have hle : n ≤ (keepLast n xs ++ [x]).length := by
      rw [List.length_append, hlength]
      exact Nat.le_add_right n _
    rw [hsplit, keepLast_append_of_le _ hle]

end Rygnal.Library.Partition
