import Mathlib.Algebra.Ring.Nat
import Rygnal.Library.PyText

/-! # Fields between separators

`str.split(sep)` and `sep.join(words)` undo each other, and a stream of terminated fields is split
into its fields.
-/

namespace Rygnal.Library.PyText

variable {sep : Char}

theorem splitOn_sep (rest : Text) : splitOn sep (sep :: rest) = [] :: splitOn sep rest := by
  rw [splitOn, if_pos rfl]

theorem splitOn_ne_nil (s : Text) : splitOn sep s ≠ [] := by
  cases s with
  | nil => simp [splitOn]
  | cons c cs =>
    rw [splitOn]
    split_ifs
    · simp
    · cases splitOn sep cs <;> simp

theorem splitOn_cons {c : Char} (hc : c ≠ sep) {s w : Text} {ws : List Text}
    (h : splitOn sep s = w :: ws) : splitOn sep (c :: s) = (c :: w) :: ws := by
  rw [splitOn, if_neg hc, h]

/-- A field and the fields after its separator. -/
theorem splitOn_append {field : Text} (h : sep ∉ field) (rest : Text) :
    splitOn sep (field ++ sep :: rest) = field :: splitOn sep rest := by
  induction field with
  | nil => exact splitOn_sep rest
  | cons c cs ih =>
    rw [List.mem_cons, not_or] at h
    exact splitOn_cons (Ne.symm h.1) (ih h.2)

theorem joinWith_cons (w v : Text) (vs : List Text) :
    joinWith sep (w :: v :: vs) = w ++ sep :: joinWith sep (v :: vs) := by
  simp [joinWith, List.intercalate, List.intersperse]

theorem joinWith_splitOn (s : Text) : joinWith sep (splitOn sep s) = s := by
  induction s with
  | nil => rfl
  | cons c cs ih =>
    obtain ⟨w, ws, hsplit⟩ := List.exists_cons_of_ne_nil (@splitOn_ne_nil sep cs)
    by_cases hc : c = sep
    · subst hc
      rw [splitOn_sep, hsplit, joinWith_cons, ← hsplit, ih]
      rfl
    · rw [hsplit] at ih
      rw [splitOn_cons hc hsplit]
      cases ws with
      | nil =>
        change (c :: w) ++ [] = c :: cs
        change w ++ [] = cs at ih
        rw [List.cons_append, ih]
      | cons v vs =>
        rw [joinWith_cons] at ih ⊢
        rw [List.cons_append, ih]

theorem mem_joinWith_of_mem {w : Text} {words : List Text} (hw : w ∈ words) {c : Char}
    (hc : c ∈ w) : c ∈ joinWith sep words := by
  induction words with
  | nil => cases hw
  | cons v vs ih =>
    cases vs with
    | nil =>
      rw [List.mem_singleton.mp hw] at hc
      simpa [joinWith, List.intercalate] using hc
    | cons u us =>
      rw [joinWith_cons]
      rcases List.mem_cons.mp hw with rfl | hw
      · exact List.mem_append_left _ hc
      · exact List.mem_append_right _ (List.mem_cons_of_mem _ (ih hw))

theorem mem_of_mem_joinWith {words : List Text} {c : Char} (h : c ∈ joinWith sep words) :
    c = sep ∨ ∃ w ∈ words, c ∈ w := by
  induction words with
  | nil => cases h
  | cons v vs ih =>
    cases vs with
    | nil => exact .inr ⟨v, List.mem_singleton_self v, by simpa [joinWith, List.intercalate] using h⟩
    | cons u us =>
      rw [joinWith_cons, List.mem_append, List.mem_cons] at h
      rcases h with h | h | h
      · exact .inr ⟨v, List.mem_cons_self, h⟩
      · exact .inl h
      · rcases ih h with h | ⟨w, hw, hc⟩
        · exact .inl h
        · exact .inr ⟨w, List.mem_cons_of_mem v hw, hc⟩

theorem joinWith_sublist_cons (w : Text) (ws : List Text) :
    (joinWith sep ws).Sublist (joinWith sep (w :: ws)) := by
  cases ws with
  | nil => exact List.nil_sublist _
  | cons v vs =>
    rw [joinWith_cons]
    exact (List.sublist_cons_self sep _).trans (List.sublist_append_right w _)

theorem joinWith_cons_sublist {vs ws : List Text} (w : Text)
    (h : (joinWith sep vs).Sublist (joinWith sep ws)) (hempty : ws = [] → vs = []) :
    (joinWith sep (w :: vs)).Sublist (joinWith sep (w :: ws)) := by
  cases vs with
  | nil =>
    cases ws with
    | nil => exact List.Sublist.refl _
    | cons u us =>
      rw [joinWith_cons]
      have hone : joinWith sep [w] = w := by simp [joinWith, List.intercalate]
      rw [hone]
      exact List.sublist_append_left w _
  | cons v vs =>
    cases ws with
    | nil => cases hempty rfl
    | cons u us =>
      rw [joinWith_cons, joinWith_cons]
      exact (List.Sublist.refl w).append (h.cons_cons sep)

/-- Leaving out words leaves out their characters. -/
theorem joinWith_filter_sublist (p : Text → Bool) (words : List Text) :
    (joinWith sep (words.filter p)).Sublist (joinWith sep words) := by
  induction words with
  | nil => exact List.Sublist.refl _
  | cons w ws ih =>
    rw [List.filter_cons]
    split
    · apply joinWith_cons_sublist w ih
      rintro rfl
      rfl
    · exact ih.trans (joinWith_sublist_cons w ws)

theorem splitOn_of_notMem {field : Text} (h : sep ∉ field) : splitOn sep field = [field] := by
  induction field with
  | nil => rfl
  | cons c cs ih =>
    rw [List.mem_cons, not_or] at h
    exact splitOn_cons (Ne.symm h.1) (ih h.2)

/-- Joined words are split into the words. -/
theorem splitOn_joinWith {words : List Text} (hne : words ≠ [])
    (h : ∀ word ∈ words, sep ∉ word) : splitOn sep (joinWith sep words) = words := by
  induction words with
  | nil => exact absurd rfl hne
  | cons w ws ih =>
    rw [List.forall_mem_cons] at h
    cases ws with
    | nil =>
      change splitOn sep (w ++ []) = [w]
      rw [List.append_nil, splitOn_of_notMem h.1]
    | cons v vs =>
      rw [joinWith_cons, splitOn_append h.1, ih (by simp) h.2]

/-- No field holds the separator. -/
theorem sep_notMem_of_mem_splitOn {s field : Text} (h : field ∈ splitOn sep s) : sep ∉ field := by
  induction s generalizing field with
  | nil => simp_all [splitOn]
  | cons c cs ih =>
    obtain ⟨w, ws, hsplit⟩ := List.exists_cons_of_ne_nil (@splitOn_ne_nil sep cs)
    by_cases hc : c = sep
    · subst hc
      rw [splitOn_sep] at h
      rcases List.mem_cons.mp h with rfl | h
      · exact List.not_mem_nil
      · exact ih h
    · rw [splitOn_cons hc hsplit] at h
      rw [hsplit] at ih
      rcases List.mem_cons.mp h with rfl | h
      · rw [List.mem_cons, not_or]
        exact ⟨Ne.symm hc, ih List.mem_cons_self⟩
      · exact ih (List.mem_cons_of_mem w h)

/-- The fields, each with the separator after it. -/
def terminated (sep : Char) (fields : List Text) : Text := fields.flatMap (· ++ [sep])

theorem splitOn_terminated {fields : List Text} (h : ∀ field ∈ fields, sep ∉ field) :
    splitOn sep (terminated sep fields) = fields ++ [[]] := by
  induction fields with
  | nil => rfl
  | cons field fields ih =>
    rw [List.forall_mem_cons] at h
    rw [terminated, List.flatMap_cons, List.append_assoc, List.singleton_append,
      splitOn_append h.1]
    exact congrArg (field :: ·) (ih h.2)

/-! ## Lengths -/

/-- The length of a list of words with a separator after each. -/
def width (words : List Text) : ℕ := (words.map fun word => word.length + 1).sum

theorem width_cons (w : Text) (ws : List Text) : width (w :: ws) = w.length + 1 + width ws := rfl

theorem length_joinWith {words : List Text} (h : words ≠ []) :
    (joinWith sep words).length + 1 = width words := by
  induction words with
  | nil => exact absurd rfl h
  | cons w ws ih =>
    cases ws with
    | nil => simp [joinWith, List.intercalate, width]
    | cons v vs =>
      rw [joinWith_cons, width_cons, ← ih (List.cons_ne_nil v vs), List.length_append,
        List.length_cons]
      omega

theorem width_filter_le (p : Text → Bool) (words : List Text) :
    width (words.filter p) ≤ width words := by
  induction words with
  | nil => exact le_rfl
  | cons w ws ih =>
    rw [List.filter_cons]
    split_ifs <;> simp only [width_cons] <;> omega

/-- Words that are as wide as before are all kept. -/
theorem filter_eq_self_of_width {p : Text → Bool} {words : List Text}
    (h : width words ≤ width (words.filter p)) : ∀ word ∈ words, p word = true := by
  induction words with
  | nil => simp
  | cons w ws ih =>
    have hle := width_filter_le p ws
    rw [List.filter_cons] at h
    split_ifs at h with hw
    · rw [width_cons, width_cons] at h
      exact List.forall_mem_cons.mpr ⟨hw, ih (by omega)⟩
    · rw [width_cons] at h
      omega

end Rygnal.Library.PyText
