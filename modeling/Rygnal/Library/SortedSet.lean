import Mathlib.Data.List.Sort
import Mathlib.Data.List.Dedup

/-! # Sorted sets and sorted groups

`sorted(set(xs))`, and the sorted items of a dictionary that collects a list by a key.
-/

namespace Rygnal.Library.SortedSet

variable {α κ : Type*}

section Set
variable [LinearOrder α]

/-- `sorted(set(xs))`. -/
def sortedSet (xs : List α) : List α := xs.dedup.insertionSort (· ≤ ·)

theorem mem_sortedSet {xs : List α} {x : α} : x ∈ sortedSet xs ↔ x ∈ xs := by
  rw [sortedSet, List.mem_insertionSort, List.mem_dedup]

theorem nodup_sortedSet (xs : List α) : (sortedSet xs).Nodup :=
  (List.perm_insertionSort _ _).nodup_iff.mpr (List.nodup_dedup xs)

theorem pairwise_le_sortedSet (xs : List α) : (sortedSet xs).Pairwise (· ≤ ·) :=
  List.pairwise_insertionSort _ _

theorem pairwise_lt_sortedSet (xs : List α) : (sortedSet xs).Pairwise (· < ·) := by
  refine ((pairwise_le_sortedSet xs).and (nodup_sortedSet xs)).imp ?_
  rintro a b ⟨hle, hne⟩
  exact lt_of_le_of_ne hle hne

/-- The order and the repetitions of the members do not matter. -/
theorem sortedSet_congr {xs ys : List α} (h : ∀ x, x ∈ xs ↔ x ∈ ys) :
    sortedSet xs = sortedSet ys := by
  have hperm : (sortedSet xs).Perm (sortedSet ys) := by
    refine (List.perm_ext_iff_of_nodup (nodup_sortedSet xs) (nodup_sortedSet ys)).mpr ?_
    intro x
    rw [mem_sortedSet, mem_sortedSet, h]
  exact hperm.eq_of_pairwise' (pairwise_le_sortedSet xs) (pairwise_le_sortedSet ys)

end Set

section Groups
variable [LinearOrder κ] {key : α → κ}

/-- `sorted(grouped.items())` for the lists that `grouped[key(x)].append(x)` makes of `xs`. -/
def sortedGroups (key : α → κ) (xs : List α) : List (κ × List α) :=
  (sortedSet (xs.map key)).map fun k => (k, xs.filter fun x => key x = k)

theorem mem_sortedGroups {xs group : List α} {k : κ} :
    (k, group) ∈ sortedGroups key xs ↔ group = xs.filter (fun x => key x = k) ∧ group ≠ [] := by
  have hfound : k ∈ sortedSet (xs.map key) ↔ xs.filter (fun x => key x = k) ≠ [] := by
    rw [mem_sortedSet, List.mem_map, ne_eq, List.filter_eq_nil_iff]
    simp
  rw [sortedGroups, List.mem_map]
  constructor
  · rintro ⟨k', hk', heq⟩
    cases heq
    exact ⟨rfl, hfound.mp hk'⟩
  · rintro ⟨rfl, hne⟩
    exact ⟨k, hfound.mpr hne, rfl⟩

theorem keys_sortedGroups (key : α → κ) (xs : List α) :
    (sortedGroups key xs).map Prod.fst = sortedSet (xs.map key) := by
  rw [sortedGroups, List.map_map]
  exact List.map_id _

end Groups

end Rygnal.Library.SortedSet
