import Mathlib.Data.List.Sort
import Mathlib.Tactic.Common

/-! # Stable sorting by a key

`sorted(items, key=..)` keeps the input order of items with equal keys. The items are tagged with
their positions, and the sorted tagged list ascends strictly in key and position.
-/

namespace Rygnal.Library.StableSort
variable {α κ : Type*} [LinearOrder κ] (key : α → κ)

/-- `sorted(items, key=key)`. -/
def sortBy (items : List α) : List α := items.insertionSort fun a b => key a ≤ key b

/-- An item comes before another one: a smaller key, or an equal key and a smaller position. -/
def Precedes (p q : α × ℕ) : Prop := key p.1 < key q.1 ∨ key p.1 = key q.1 ∧ p.2 < q.2

/-- Sorting by the key of the first component. -/
def sortTagged (tagged : List (α × ℕ)) : List (α × ℕ) := sortBy (fun p => key p.1) tagged

theorem map_orderedInsert (p : α × ℕ) (ps : List (α × ℕ)) :
    (ps.orderedInsert (fun a b => key a.1 ≤ key b.1) p).map Prod.fst =
      (ps.map Prod.fst).orderedInsert (fun a b => key a ≤ key b) p.1 := by
  induction ps with
  | nil => rfl
  | cons q qs ih =>
    rw [List.orderedInsert_cons, List.map_cons, List.orderedInsert_cons]
    split
    · rfl
    · rw [List.map_cons, ih]

/-- The tags do not change the order. -/
theorem map_sortTagged (ps : List (α × ℕ)) :
    (sortTagged key ps).map Prod.fst = sortBy key (ps.map Prod.fst) := by
  induction ps with
  | nil => rfl
  | cons p ps ih =>
    change ((sortTagged key ps).orderedInsert _ p).map Prod.fst = _
    rw [map_orderedInsert, ih]
    rfl

variable {key}

/-- An insertion of the item with the smallest tag keeps the strict order. -/
theorem pairwise_orderedInsert {p : α × ℕ} {ps : List (α × ℕ)}
    (hps : ps.Pairwise (Precedes key)) (hp : ∀ q ∈ ps, p.2 < q.2) :
    (ps.orderedInsert (fun a b => key a.1 ≤ key b.1) p).Pairwise (Precedes key) := by
  induction ps with
  | nil => exact List.pairwise_singleton ..
  | cons q qs ih =>
    have hq := List.pairwise_cons.mp hps
    have hpq := List.forall_mem_cons.mp hp
    rw [List.orderedInsert_cons]
    split
    · rename_i hle
      have hfirst : Precedes key p q := hle.lt_or_eq.imp id fun heq => ⟨heq, hpq.1⟩
      apply List.pairwise_cons.mpr ⟨_, hps⟩
      intro r hr
      rcases List.mem_cons.mp hr with hr | hr
      · exact hr ▸ hfirst
      · rcases hq.1 r hr with hlt | ⟨heq, -⟩
        · exact .inl (hle.trans_lt hlt)
        · exact (heq ▸ hle).lt_or_eq.imp id fun heq => ⟨heq, hpq.2 r hr⟩
    · rename_i hlt
      apply List.pairwise_cons.mpr ⟨_, ih hq.2 hpq.2⟩
      intro r hr
      rcases List.mem_cons.mp ((List.perm_orderedInsert _ p qs).mem_iff.mp hr) with hr | hr
      · exact hr ▸ .inl (not_le.mp hlt)
      · exact hq.1 r hr

/-- Sorting a list with ascending tags gives the strict order. -/
theorem pairwise_sortTagged {ps : List (α × ℕ)} (h : ps.Pairwise fun p q => p.2 < q.2) :
    (sortTagged key ps).Pairwise (Precedes key) := by
  induction ps with
  | nil => exact List.Pairwise.nil
  | cons p ps ih =>
    have hp := List.pairwise_cons.mp h
    apply pairwise_orderedInsert (ih hp.2)
    intro q hq
    exact hp.1 q ((List.perm_insertionSort _ ps).mem_iff.mp hq)

/-- The positions of a list ascend. -/
theorem pairwise_zipIdx (items : List α) (n : ℕ) :
    (items.zipIdx n).Pairwise fun p q => p.2 < q.2 := by
  induction items generalizing n with
  | nil => exact List.Pairwise.nil
  | cons a items ih =>
    rw [List.zipIdx_cons]
    apply List.pairwise_cons.mpr ⟨_, ih (n + 1)⟩
    intro q hq
    have hbound := (List.mem_zipIdx hq).1
    omega

theorem Precedes.irrefl (p : α × ℕ) : ¬ Precedes key p p := by
  rintro (h | ⟨-, h⟩)
  · exact lt_irrefl _ h
  · exact lt_irrefl _ h

theorem Precedes.asymm {p q : α × ℕ} (h : Precedes key p q) : ¬ Precedes key q p := by
  rintro (h' | ⟨heq, h'⟩)
  · rcases h with h | ⟨heq, -⟩
    · exact lt_asymm h h'
    · exact lt_irrefl _ (heq ▸ h')
  · rcases h with h | ⟨-, h⟩
    · exact lt_irrefl _ (heq ▸ h)
    · exact lt_asymm h h'

/-- Where the sorted list is cut, exactly the items before the cut precede the item there. -/
theorem sortBy_split {items before after : List α} {x : α}
    (h : sortBy key items = before ++ x :: after) :
    ∃ i, (x, i) ∈ items.zipIdx ∧
      ∀ a, a ∈ before ↔ ∃ j, (a, j) ∈ items.zipIdx ∧ Precedes key (a, j) (x, i) := by
  have hmap := map_sortTagged key items.zipIdx
  rw [List.zipIdx_map_fst, h] at hmap
  have ⟨before', rest, htagged, hbefore, hrest⟩ := List.map_eq_append_iff.mp hmap
  have ⟨⟨y, i⟩, after', hrest', hy, _⟩ := List.map_eq_cons_iff.mp hrest
  change y = x at hy
  subst hy hrest'
  have hmem : ∀ p, p ∈ before' ++ (y, i) :: after' ↔ p ∈ items.zipIdx := by
    intro p
    rw [← htagged]
    exact (List.perm_insertionSort _ _).mem_iff
  have hpairwise : (before' ++ (y, i) :: after').Pairwise (Precedes key) := by
    rw [← htagged]
    exact pairwise_sortTagged (pairwise_zipIdx items 0)
  have ⟨_, hafter, hcross⟩ := List.pairwise_append.mp hpairwise
  refine ⟨i, (hmem _).mp (by simp), ?_⟩
  intro a
  rw [← hbefore, List.mem_map]
  constructor
  · rintro ⟨p, hp, rfl⟩
    exact ⟨p.2, (hmem p).mp (List.mem_append_left _ hp), hcross p hp _ List.mem_cons_self⟩
  · rintro ⟨j, hj, hlt⟩
    rcases List.mem_append.mp ((hmem (a, j)).mpr hj) with hp | hp
    · exact ⟨(a, j), hp, rfl⟩
    · rcases List.mem_cons.mp hp with hp | hp
      · rw [hp] at hlt
        exact absurd hlt (Precedes.irrefl _)
      · exact absurd hlt (Precedes.asymm ((List.pairwise_cons.mp hafter).1 _ hp))

theorem mem_sortBy {items : List α} {a : α} : a ∈ sortBy key items ↔ a ∈ items :=
  (List.perm_insertionSort _ items).mem_iff

end Rygnal.Library.StableSort
