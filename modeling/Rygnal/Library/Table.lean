import Mathlib.Data.List.Nodup
import Mathlib.Tactic.Common

/-! # Tables with a unique key

A table is the list of its rows in insertion order. The five operations are the SQL
statements `SELECT`, `INSERT`, `UPDATE`, `DELETE` and the row count of an update; the
lemmas say which rows they keep and that a `UNIQUE` column stays unique.
-/

namespace Rygnal.Library

/-- The rows of a table in insertion order. -/
abbrev Table (ρ : Type*) := List ρ

namespace Table
variable {ρ κ : Type*}

/-- The first row that meets the condition, as `fetchone` returns it. -/
def selectOne (p : ρ → Bool) (t : Table ρ) : Option ρ := List.find? p t

def selectAll (p : ρ → Bool) (t : Table ρ) : List ρ := List.filter p t

def insert (r : ρ) (t : Table ρ) : Table ρ := t ++ [r]

def update (p : ρ → Bool) (f : ρ → ρ) (t : Table ρ) : Table ρ :=
  List.map (fun r => if p r then f r else r) t

/-- The number of rows that an update with this condition changes. -/
def rowcount (p : ρ → Bool) (t : Table ρ) : ℕ := List.countP p t

def delete (p : ρ → Bool) (t : Table ρ) : Table ρ := List.filter (fun r => !p r) t

@[simp] theorem mem_insert {r x : ρ} {t : Table ρ} : x ∈ t.insert r ↔ x ∈ t ∨ x = r := by
  simp [insert]

@[simp] theorem mem_delete {p : ρ → Bool} {x : ρ} {t : Table ρ} :
    x ∈ t.delete p ↔ x ∈ t ∧ p x = false := by
  simp [delete]

@[simp] theorem mem_selectAll {p : ρ → Bool} {x : ρ} {t : Table ρ} :
    x ∈ t.selectAll p ↔ x ∈ t ∧ p x = true := by
  simp [selectAll]

/-- A row after an update is an old row that the condition spares, or the image of one
that it hits. -/
theorem mem_update {p : ρ → Bool} {f : ρ → ρ} {x : ρ} {t : Table ρ} :
    x ∈ t.update p f ↔ (x ∈ t ∧ p x = false) ∨ ∃ r ∈ t, p r = true ∧ f r = x := by
  simp only [update, List.mem_map]
  constructor
  · rintro ⟨r, hr, rfl⟩
    by_cases hp : p r = true
    · exact .inr ⟨r, hr, hp, by simp [hp]⟩
    · exact .inl (by simpa [hp] using hr)
  · rintro (⟨hx, hp⟩ | ⟨r, hr, hp, rfl⟩)
    · exact ⟨x, hx, by simp [hp]⟩
    · exact ⟨r, hr, by simp [hp]⟩

theorem mem_update_of_not {p : ρ → Bool} {f : ρ → ρ} {x : ρ} {t : Table ρ}
    (hx : x ∈ t) (hp : p x = false) : x ∈ t.update p f :=
  mem_update.mpr (.inl ⟨hx, hp⟩)

theorem mem_update_image {p : ρ → Bool} {f : ρ → ρ} {r : ρ} {t : Table ρ}
    (hr : r ∈ t) (hp : p r = true) : f r ∈ t.update p f :=
  mem_update.mpr (.inr ⟨r, hr, hp, rfl⟩)

/-- The column `key` carries a `UNIQUE` constraint that the rows meet. -/
def Unique (key : ρ → κ) (t : Table ρ) : Prop := (List.map key t).Nodup

theorem Unique.nil (key : ρ → κ) : Unique key ([] : Table ρ) := by simp [Unique]

theorem Unique.eq_of_key {key : ρ → κ} {t : Table ρ} (h : Unique key t) {r s : ρ}
    (hr : r ∈ t) (hs : s ∈ t) (hk : key r = key s) : r = s :=
  List.inj_on_of_nodup_map h hr hs hk

theorem Unique.insert {key : ρ → κ} {t : Table ρ} (h : Unique key t) {x : ρ}
    (hx : ∀ r ∈ t, key r ≠ key x) : Unique key (t.insert x) := by
  simp only [Unique, Table.insert, List.map_append, List.map_cons, List.map_nil]
  refine h.append (by simp) ?_
  intro k hk hk'
  obtain ⟨r, hr, rfl⟩ := List.mem_map.mp hk
  exact hx r hr (by simpa using hk')

theorem Unique.delete {key : ρ → κ} {t : Table ρ} (h : Unique key t) (p : ρ → Bool) :
    Unique key (t.delete p) :=
  h.sublist (List.filter_sublist.map key)

theorem map_update_of_key {key : ρ → κ} {p : ρ → Bool} {f : ρ → ρ}
    (hf : ∀ r, p r = true → key (f r) = key r) (t : Table ρ) :
    (t.update p f).map key = t.map key := by
  simp only [update, List.map_map]
  refine List.map_congr_left fun r _ => ?_
  by_cases hp : p r = true
  · simp [hp, hf r hp]
  · simp [hp]

theorem Unique.update {key : ρ → κ} {t : Table ρ} (h : Unique key t) {p : ρ → Bool}
    {f : ρ → ρ} (hf : ∀ r, p r = true → key (f r) = key r) : Unique key (t.update p f) := by
  unfold Unique
  rw [map_update_of_key hf]
  exact h

theorem selectOne_mem {p : ρ → Bool} {t : Table ρ} {r : ρ} (h : t.selectOne p = some r) :
    r ∈ t ∧ p r = true :=
  ⟨List.mem_of_find?_eq_some h, List.find?_some h⟩

theorem selectOne_eq_none {p : ρ → Bool} {t : Table ρ} :
    t.selectOne p = none ↔ ∀ r ∈ t, p r = false := by
  simp [selectOne, List.find?_eq_none]

/-- An update that neither hits nor creates rows of a selection leaves the selection. -/
theorem selectOne_update {p q : ρ → Bool} {f : ρ → ρ}
    (h : ∀ r, p r = true → q r = false ∧ q (f r) = false) (t : Table ρ) :
    (t.update p f).selectOne q = t.selectOne q := by
  induction t with
  | nil => rfl
  | cons r t ih =>
    simp only [update, selectOne, List.map_cons] at ih ⊢
    by_cases hp : p r = true
    · simp only [hp, if_true, List.find?_cons, (h r hp).1, (h r hp).2, ih]
    · simp only [hp, if_false, List.find?_cons, ih, Bool.false_eq_true]

/-- Under a unique key, looking a key up finds exactly the row that carries it. -/
theorem Unique.selectOne_eq_some [DecidableEq κ] {key : ρ → κ} {t : Table ρ}
    (h : Unique key t) {r : ρ} {k : κ} :
    t.selectOne (fun x => decide (key x = k)) = some r ↔ r ∈ t ∧ key r = k := by
  constructor
  · intro hr
    obtain ⟨hm, hp⟩ := selectOne_mem hr
    exact ⟨hm, of_decide_eq_true hp⟩
  · rintro ⟨hm, rfl⟩
    cases hs : t.selectOne (fun x => decide (key x = key r)) with
    | none => exact absurd (selectOne_eq_none.mp hs r hm) (by simp)
    | some s =>
      obtain ⟨hsm, hp⟩ := selectOne_mem hs
      rw [h.eq_of_key hsm hm (of_decide_eq_true hp)]

theorem exists_of_rowcount {p : ρ → Bool} {t : Table ρ} (h : t.rowcount p ≠ 0) :
    ∃ r ∈ t, p r = true :=
  List.countP_pos_iff.mp (Nat.pos_of_ne_zero h)

/-- An update whose condition fixes a unique key changes one row exactly when some row
meets the condition. -/
theorem Unique.rowcount_eq_one {key : ρ → κ} {t : Table ρ} (h : Unique key t)
    {p : ρ → Bool} {r : ρ} (hr : r ∈ t) (hp : p r = true)
    (hkey : ∀ s, p s = true → key s = key r) : t.rowcount p = 1 := by
  induction t with
  | nil => simp at hr
  | cons x t ih =>
    have hx : ∀ s ∈ t, key s ≠ key x := by
      intro s hs hk
      have hn := (List.nodup_cons.mp h).1
      exact hn (List.mem_map.mpr ⟨s, hs, hk⟩)
    rcases List.mem_cons.mp hr with rfl | hr'
    · have hzero : List.countP p t = 0 := List.countP_eq_zero.mpr fun s hs hps =>
        hx s hs (hkey s hps)
      simp [rowcount, hp, hzero]
    · have hpx : ¬ p x = true := fun hps => hx r hr' (hkey x hps).symm
      simpa [rowcount, hpx] using ih (List.nodup_cons.mp h).2 hr'

end Table

end Rygnal.Library
