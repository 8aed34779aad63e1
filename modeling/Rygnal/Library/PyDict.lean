import Mathlib.Tactic.Common

/-! # Dictionaries with string keys

The entries of a Python dictionary in insertion order. Assigning to a present key keeps
its place.
-/

namespace Rygnal.Library

abbrev PyDict (α : Type*) := List (String × α)

namespace PyDict
variable {α : Type*}

/-- `d.get(key)`. -/
def get (d : PyDict α) (key : String) : Option α := d.lookup key

/-- `d[key] = value`. -/
def set : PyDict α → String → α → PyDict α
  | [], key, value => [(key, value)]
  | (k, v) :: es, key, value =>
    if k = key then (key, value) :: es else (k, v) :: set es key value

/-- `{**d, **e}`. -/
def merge (d e : PyDict α) : PyDict α := e.foldl (fun acc entry => acc.set entry.1 entry.2) d

@[simp] theorem get_nil (key : String) : get ([] : PyDict α) key = none := rfl

theorem get_cons (k : String) (v : α) (d : PyDict α) (key : String) :
    PyDict.get ((k, v) :: d) key = if k = key then some v else d.get key := by
  unfold get
  rw [List.lookup_cons]
  by_cases h : k = key
  · simp [h]
  · rw [beq_eq_false_iff_ne.mpr (Ne.symm h), if_neg h]

theorem get_set (d : PyDict α) (key key' : String) (value : α) :
    (d.set key value).get key' = if key = key' then some value else d.get key' := by
  induction d with
  | nil => rw [set, get_cons]
  | cons e d ih =>
    obtain ⟨k, v⟩ := e
    rw [set]
    split
    · rename_i hk
      subst hk
      rw [get_cons, get_cons]
      split <;> rfl
    · rename_i hk
      rw [get_cons, get_cons, ih]
      by_cases hk' : k = key'
      · rw [if_pos hk', if_neg (fun h => hk (hk'.trans h.symm)), if_pos hk']
      · rw [if_neg hk', if_neg hk']

theorem get_eq_some {d : PyDict α} (hd : (d.map Prod.fst).Nodup) {key : String} {value : α} :
    d.get key = some value ↔ (key, value) ∈ d := by
  induction d with
  | nil => simp
  | cons e d ih =>
    obtain ⟨k, v⟩ := e
    rw [List.map_cons, List.nodup_cons] at hd
    rw [get_cons, List.mem_cons, Prod.mk.injEq]
    split
    · rename_i hk
      subst hk
      have hnot : (k, value) ∉ d := fun h => hd.1 (List.mem_map.mpr ⟨_, h, rfl⟩)
      simp [hnot, eq_comm]
    · rename_i hk
      rw [ih hd.2]
      simp [Ne.symm hk]

theorem mem_of_get {d : PyDict α} {key : String} {value : α} (h : d.get key = some value) :
    (key, value) ∈ d := by
  induction d with
  | nil => cases h
  | cons e d ih =>
    obtain ⟨k, v⟩ := e
    rw [get_cons] at h
    split at h
    · rename_i hk
      cases h
      rw [hk]
      exact List.mem_cons_self
    · exact List.mem_cons_of_mem _ (ih h)

/-- The order of the entries does not matter for a lookup. -/
theorem get_of_perm {d e : PyDict α} (h : d.Perm e) (hd : (d.map Prod.fst).Nodup) (key : String) :
    d.get key = e.get key := by
  have he : (e.map Prod.fst).Nodup := (h.map Prod.fst).nodup_iff.mp hd
  ext value
  rw [get_eq_some hd, get_eq_some he, h.mem_iff]

/-- A merged dictionary takes a key from the right one when it is there. -/
theorem get_merge (d e : PyDict α) (key : String) :
    (d.merge e).get key = ((e.reverse.lookup key).or (d.get key)) := by
  unfold merge
  induction e generalizing d with
  | nil => simp
  | cons x e ih =>
    obtain ⟨k, v⟩ := x
    rw [List.foldl_cons, ih, get_set, List.reverse_cons, List.lookup_append, Option.or_assoc]
    congr 1
    rw [List.lookup_cons]
    by_cases h : k = key
    · simp [h]
    · rw [beq_eq_false_iff_ne.mpr (Ne.symm h), if_neg h]
      rfl

theorem keys_set (d : PyDict α) (key : String) (value : α) :
    (d.set key value).map Prod.fst =
      if key ∈ d.map Prod.fst then d.map Prod.fst else d.map Prod.fst ++ [key] := by
  induction d with
  | nil => rfl
  | cons e d ih =>
    obtain ⟨k, v⟩ := e
    rw [set]
    by_cases hk : k = key
    · simp [hk]
    · rw [if_neg hk, List.map_cons, ih, List.map_cons]
      by_cases hmem : key ∈ d.map Prod.fst
      · simp [hmem]
      · simp [hmem, Ne.symm hk]

theorem nodup_set {d : PyDict α} (h : (d.map Prod.fst).Nodup) (key : String) (value : α) :
    ((d.set key value).map Prod.fst).Nodup := by
  rw [keys_set]
  split
  · exact h
  · rename_i hnew
    rw [List.nodup_append]
    refine ⟨h, by simp, ?_⟩
    rintro k hk _ hkey rfl
    rw [List.mem_singleton.mp hkey] at hk
    exact hnew hk

theorem nodup_merge {d : PyDict α} (h : (d.map Prod.fst).Nodup) (e : PyDict α) :
    ((d.merge e).map Prod.fst).Nodup := by
  unfold merge
  induction e generalizing d with
  | nil => exact h
  | cons x e ih => exact ih (nodup_set h x.1 x.2)

end PyDict

end Rygnal.Library
