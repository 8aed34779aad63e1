import Rygnal.Operations.Store

/-! # The tables of the operation store stay consistent

The leases are the leases of the reserved and applying rows, whatever transaction commits.
A transition that writes a row by its owner token is safe because a token is drawn once:
`Issue` records each draw together with the row it was drawn for.
-/

namespace Rygnal.Operations
open Rygnal.Core Rygnal.Library

/-- An owner token that `uuid.uuid4` produced: the thread that drew it and the row that it
was drawn for. -/
structure Issue where
  thread : ℕ
  record : OperationRecord
deriving DecidableEq, Repr

/-- The columns that no transition writes agree. -/
structure SameReservation (r s : OperationRecord) : Prop where
  operationKey : r.operationKey = s.operationKey
  resourceKey : r.resourceKey = s.resourceKey
  ownerToken : r.ownerToken = s.ownerToken
  ownerPid : r.ownerPid = s.ownerPid
  ownerStartToken : r.ownerStartToken = s.ownerStartToken

theorem SameReservation.refl (r : OperationRecord) : SameReservation r r :=
  ⟨rfl, rfl, rfl, rfl, rfl⟩

theorem SameReservation.symm {r s : OperationRecord} (h : SameReservation r s) :
    SameReservation s r :=
  ⟨h.1.symm, h.2.symm, h.3.symm, h.4.symm, h.5.symm⟩

theorem SameReservation.trans {r s t : OperationRecord} (h : SameReservation r s)
    (h' : SameReservation s t) : SameReservation r t :=
  ⟨h.1.trans h'.1, h.2.trans h'.2, h.3.trans h'.3, h.4.trans h'.4, h.5.trans h'.5⟩

/-- The record describes a reservation that some thread drew a token for. -/
def Genuine (issued : Table Issue) (r : OperationRecord) : Prop :=
  ∃ i ∈ issued, SameReservation r i.record

def tokensUnique (issued : Table Issue) : Prop :=
  Table.Unique (fun i : Issue => i.record.ownerToken) issued

theorem Genuine.issue_of_token {issued : Table Issue} (hu : tokensUnique issued)
    {r : OperationRecord} (h : Genuine issued r) {i : Issue} (hi : i ∈ issued)
    (ht : r.ownerToken = i.record.ownerToken) : SameReservation r i.record := by
  obtain ⟨j, hj, hr⟩ := h
  have : j = i := hu.eq_of_key hj hi (hr.ownerToken.symm.trans ht)
  exact this ▸ hr

/-- Two genuine records with one token describe one reservation. -/
theorem Genuine.sameReservation {issued : Table Issue} (hu : tokensUnique issued)
    {r s : OperationRecord} (hr : Genuine issued r) (hs : Genuine issued s)
    (ht : r.ownerToken = s.ownerToken) : SameReservation r s := by
  obtain ⟨i, hi, hsi⟩ := hs
  exact (hr.issue_of_token hu hi (ht.trans hsi.ownerToken)).trans hsi.symm

theorem Genuine.insert {issued : Table Issue} {r : OperationRecord} (h : Genuine issued r)
    (i : Issue) : Genuine (issued.insert i) r := by
  obtain ⟨j, hj, hr⟩ := h
  exact ⟨j, Table.mem_insert.mpr (.inl hj), hr⟩

theorem Genuine.issued {issued : Table Issue} (i : Issue) :
    Genuine (issued.insert i) i.record :=
  ⟨i, Table.mem_insert.mpr (.inr rfl), .refl _⟩

/-- What holds of the two tables between transactions. -/
structure Consistent (db : Database) : Prop where
  operationKeys : Table.Unique OperationRecord.operationKey db.operations
  resourceKeys : Table.Unique ResourceLease.resourceKey db.leases
  leases : ∀ lease, lease ∈ db.leases ↔
    ∃ row ∈ db.operations, row.incomplete = true ∧ row.lease = lease
  failures : ∀ row ∈ db.operations, row.state = .failed → row.retryable = true

namespace Consistent
variable {db : Database}

theorem empty : Consistent Database.empty where
  operationKeys := .nil _
  resourceKeys := .nil _
  leases _ := by simp [Database.empty]
  failures _ h := by simp [Database.empty] at h

theorem lease_mem (h : Consistent db) {row : OperationRecord} (hr : row ∈ db.operations)
    (hi : row.incomplete = true) : row.lease ∈ db.leases :=
  (h.leases row.lease).mpr ⟨row, hr, hi, rfl⟩

theorem row_of_lease (h : Consistent db) {lease : ResourceLease} (hl : lease ∈ db.leases) :
    ∃ row ∈ db.operations, row.incomplete = true ∧ row.lease = lease :=
  (h.leases lease).mp hl

theorem row_eq (h : Consistent db) {r s : OperationRecord} (hr : r ∈ db.operations)
    (hs : s ∈ db.operations) (hk : r.operationKey = s.operationKey) : r = s :=
  h.operationKeys.eq_of_key hr hs hk

/-- At most one incomplete operation for each repository. -/
theorem incomplete_unique (h : Consistent db) {r s : OperationRecord} (hr : r ∈ db.operations)
    (hs : s ∈ db.operations) (hri : r.incomplete = true) (hsi : s.incomplete = true)
    (hk : r.resourceKey = s.resourceKey) : r = s := by
  have hl : r.lease = s.lease := h.resourceKeys.eq_of_key (h.lease_mem hr hri)
    (h.lease_mem hs hsi) hk
  exact h.row_eq hr hs (congrArg ResourceLease.operationKey hl)

/-- An operation that is not incomplete has no lease. -/
theorem no_lease (h : Consistent db) {row : OperationRecord} (hr : row ∈ db.operations)
    (hi : row.incomplete = false) {lease : ResourceLease} (hl : lease ∈ db.leases) :
    lease.operationKey ≠ row.operationKey := by
  intro hk
  obtain ⟨s, hs, hsi, rfl⟩ := h.row_of_lease hl
  rw [h.row_eq hs hr hk, hi] at hsi
  exact Bool.false_ne_true hsi

theorem forget (h : Consistent db) (operationKey : String) :
    Consistent (db.forget operationKey) where
  operationKeys := h.operationKeys.delete _
  resourceKeys := h.resourceKeys.delete _
  leases lease := by
    simp only [Database.forget, Table.mem_delete]
    constructor
    · rintro ⟨hl, hk⟩
      obtain ⟨row, hr, hi, rfl⟩ := h.row_of_lease hl
      exact ⟨row, ⟨hr, hk⟩, hi, rfl⟩
    · rintro ⟨row, ⟨hr, hk⟩, hi, rfl⟩
      exact ⟨h.lease_mem hr hi, hk⟩
  failures row hr := h.failures row (Table.mem_delete.mp hr).1

theorem insertReservation (h : Consistent db) {record : OperationRecord}
    (hs : record.state = .reserved) (hk : db.readOperation record.operationKey = none)
    (hl : db.readLease record.resourceKey = none) :
    Consistent (db.insertReservation record) where
  operationKeys := h.operationKeys.insert fun row hr =>
    of_decide_eq_false (Table.selectOne_eq_none.mp hk row hr)
  resourceKeys := h.resourceKeys.insert fun lease hm =>
    of_decide_eq_false (Table.selectOne_eq_none.mp hl lease hm)
  leases lease := by
    simp only [Database.insertReservation, Table.mem_insert, h.leases]
    constructor
    · rintro (⟨row, hr, hi, rfl⟩ | rfl)
      · exact ⟨row, .inl hr, hi, rfl⟩
      · exact ⟨record, .inr rfl, by simp [OperationRecord.incomplete, hs, OperationState.incomplete],
          rfl⟩
    · rintro ⟨row, hr | rfl, hi, rfl⟩
      · exact .inl ⟨row, hr, hi, rfl⟩
      · exact .inr rfl
  failures row hr := by
    rcases Table.mem_insert.mp hr with hr | rfl
    · exact h.failures row hr
    · simp [hs]

end Consistent

/-! ## Transitions -/

namespace Database

@[simp] theorem Transition.write_state (change : Transition) (now : ℕ) (row : OperationRecord) :
    (change.write now row).state = change.nextState := rfl

@[simp] theorem Transition.write_lease (change : Transition) (now : ℕ) (row : OperationRecord) :
    (change.write now row).lease = row.lease := rfl

@[simp] theorem Transition.write_operationKey (change : Transition) (now : ℕ)
    (row : OperationRecord) : (change.write now row).operationKey = row.operationKey := rfl

@[simp] theorem Transition.write_ownerToken (change : Transition) (now : ℕ)
    (row : OperationRecord) : (change.write now row).ownerToken = row.ownerToken := rfl

theorem Transition.write_sameReservation (change : Transition) (now : ℕ)
    (row : OperationRecord) : SameReservation (change.write now row) row :=
  ⟨rfl, rfl, rfl, rfl, rfl⟩

/-- The two transitions into `failed` allow a retry. -/
def Transition.sound (change : Transition) : Prop :=
  change.nextState = .failed → change.retryable = true

theorem ownedRow_iff {record row : OperationRecord} {expected : OperationState} :
    ownedRow record expected row = true ↔ row.operationKey = record.operationKey ∧
      row.state = expected ∧ row.ownerToken = record.ownerToken := by
  simp [ownedRow]

theorem ownedLease_iff {record : OperationRecord} {lease : ResourceLease} :
    ownedLease record lease = true ↔ lease.resourceKey = record.resourceKey ∧
      lease.operationKey = record.operationKey ∧ lease.ownerToken = record.ownerToken := by
  simp [ownedLease]

theorem recoverableRow_iff {operationKey : String} {row : OperationRecord} :
    recoverableRow operationKey row = true ↔
      row.operationKey = operationKey ∧ row.incomplete = true := by
  simp [recoverableRow]

/-- What a committed owned transition did. -/
theorem ownedTransition_eq_ok {db db' : Database} {record : OperationRecord}
    {expected : OperationState} {change : Transition} {releaseResource : Bool} {now : ℕ}
    (h : db.ownedTransition record expected change releaseResource now = .ok db') :
    (∃ row ∈ db.operations, ownedRow record expected row = true) ∧
    db'.operations = db.operations.update (ownedRow record expected) (change.write now) ∧
    db'.leases = if releaseResource then db.leases.delete (ownedLease record) else db.leases := by
  unfold ownedTransition at h
  split at h
  · cases h
  · rename_i hcount
    cases h
    exact ⟨Table.exists_of_rowcount (by omega), rfl, rfl⟩

/-- What a committed recovery did. -/
theorem recoverTerminal_eq_ok {db db' : Database} {record : OperationRecord}
    {change : Transition} {now : ℕ} (h : db.recoverTerminal record change now = .ok db') :
    (∃ row ∈ db.operations, recoverableRow record.operationKey row = true) ∧
    db'.operations =
      db.operations.update (recoverableRow record.operationKey) (change.write now) ∧
    db'.leases = db.leases.delete fun lease => lease.operationKey = record.operationKey := by
  unfold recoverTerminal at h
  split at h
  · cases h
  · rename_i hcount
    cases h
    exact ⟨Table.exists_of_rowcount (by omega), rfl, rfl⟩

/-- What the reserving transaction did: nothing unless it inserted the row, after it had
deleted the row of a retryable failure or found no row for the operation. -/
theorem reserve_eq {db db' : Database} {active : ℤ → String → Bool} {record : OperationRecord}
    {outcome : ReserveOutcome} (h : db.reserve active record = (outcome, db')) :
    (outcome ≠ .inserted ∧ db' = db) ∨
    (outcome = .inserted ∧ ∃ base : Database,
      (base = db ∧ db.readOperation record.operationKey = none ∨
        ∃ row, db.readOperation record.operationKey = some row ∧ row.state = .failed ∧
          base = db.forget record.operationKey) ∧
      base.readLease record.resourceKey = none ∧ db' = base.insertReservation record) := by
  have hclaim : ∀ base : Database, claim db base active record = (outcome, db') →
      (outcome ≠ .inserted ∧ db' = db) ∨ (outcome = .inserted ∧
        base.readLease record.resourceKey = none ∧ db' = base.insertReservation record) := by
    intro base hc
    unfold claim at hc
    split at hc
    · cases hc
      exact .inl ⟨by simp, rfl⟩
    · rename_i hnone
      cases hc
      exact .inr ⟨rfl, hnone, rfl⟩
  unfold reserve at h
  split at h
  · rename_i hnone
    rcases hclaim db h with h | ⟨ho, hl, hd⟩
    · exact .inl h
    · exact .inr ⟨ho, db, .inl ⟨rfl, hnone⟩, hl, hd⟩
  · rename_i row hrow
    split at h
    · cases h
      exact .inl ⟨by simp, rfl⟩
    · rename_i hstate
      split at h
      · rcases hclaim _ h with h | ⟨ho, hl, hd⟩
        · exact .inl h
        · exact .inr ⟨ho, _, .inr ⟨row, hrow, hstate, rfl⟩, hl, hd⟩
      · cases h
        exact .inl ⟨by simp, rfl⟩
    all_goals
      cases h
      exact .inl ⟨by simp, rfl⟩

end Database

namespace Consistent
variable {db db' : Database}

/-- Writing incomplete rows that stay incomplete. -/
theorem rewrite (h : Consistent db) {p : OperationRecord → Bool} {change : Database.Transition}
    {now : ℕ} (hp : ∀ row, p row = true → row.incomplete = true)
    (hnext : change.nextState.incomplete = true)
    (ho : db'.operations = db.operations.update p (change.write now))
    (hl : db'.leases = db.leases) : Consistent db' where
  operationKeys := ho ▸ h.operationKeys.update fun _ _ => rfl
  resourceKeys := hl ▸ h.resourceKeys
  leases lease := by
    rw [hl, ho, h.leases]
    constructor
    · rintro ⟨row, hr, hi, rfl⟩
      by_cases hpr : p row = true
      · exact ⟨change.write now row, Table.mem_update_image hr hpr, hnext, rfl⟩
      · exact ⟨row, Table.mem_update_of_not hr (by simpa using hpr), hi, rfl⟩
    · rintro ⟨row, hr, hi, rfl⟩
      rcases Table.mem_update.mp hr with ⟨hr, -⟩ | ⟨s, hs, hps, rfl⟩
      · exact ⟨row, hr, hi, rfl⟩
      · exact ⟨s, hs, hp s hps, rfl⟩
  failures row hr hf := by
    rw [ho] at hr
    rcases Table.mem_update.mp hr with ⟨hr, -⟩ | ⟨s, hs, hps, rfl⟩
    · exact h.failures row hr hf
    · rw [Database.Transition.write_state] at hf
      rw [hf] at hnext
      exact absurd hnext Bool.false_ne_true

/-- Ending incomplete rows and deleting exactly their leases. -/
theorem settle (h : Consistent db) {p : OperationRecord → Bool} {q : ResourceLease → Bool}
    {change : Database.Transition} {now : ℕ}
    (hpq : ∀ row ∈ db.operations, row.incomplete = true → (p row = true ↔ q row.lease = true))
    (hnext : change.nextState.incomplete = false) (hsound : change.sound)
    (ho : db'.operations = db.operations.update p (change.write now))
    (hl : db'.leases = db.leases.delete q) : Consistent db' where
  operationKeys := ho ▸ h.operationKeys.update fun _ _ => rfl
  resourceKeys := hl ▸ h.resourceKeys.delete q
  leases lease := by
    rw [hl, ho, Table.mem_delete, h.leases]
    constructor
    · rintro ⟨⟨row, hr, hi, rfl⟩, hq⟩
      have hpr : p row = false := by
        by_contra hpr
        rw [(hpq row hr hi).mp (by simpa using hpr)] at hq
        exact absurd hq.symm Bool.false_ne_true
      exact ⟨row, Table.mem_update_of_not hr hpr, hi, rfl⟩
    · rintro ⟨row, hr, hi, rfl⟩
      rcases Table.mem_update.mp hr with ⟨hr, hpr⟩ | ⟨s, hs, hps, rfl⟩
      · refine ⟨⟨row, hr, hi, rfl⟩, ?_⟩
        by_contra hq
        rw [(hpq row hr hi).mpr (by simpa using hq)] at hpr
        exact absurd hpr.symm Bool.false_ne_true
      · change change.nextState.incomplete = true at hi
        rw [hnext] at hi
        exact absurd hi Bool.false_ne_true
  failures row hr hf := by
    rw [ho] at hr
    rcases Table.mem_update.mp hr with ⟨hr, -⟩ | ⟨s, hs, hps, rfl⟩
    · exact h.failures row hr hf
    · exact hsound hf

/-- A reservation keeps the tables consistent, refused or not. -/
theorem reserve (h : Consistent db) {active : ℤ → String → Bool} {record : OperationRecord}
    (hs : record.state = .reserved) {outcome : Database.ReserveOutcome}
    (hr : db.reserve active record = (outcome, db')) : Consistent db' := by
  rcases Database.reserve_eq hr with ⟨-, rfl⟩ | ⟨-, base, hbase, hl, rfl⟩
  · exact h
  rcases hbase with ⟨rfl, hnone⟩ | ⟨row, -, -, rfl⟩
  · exact h.insertReservation hs hnone hl
  · refine (h.forget record.operationKey).insertReservation hs ?_ hl
    refine Table.selectOne_eq_none.mpr fun row hr => ?_
    exact (Table.mem_delete.mp hr).2

theorem markApplying (h : Consistent db) {record : OperationRecord} {now : ℕ}
    (hm : db.markApplying record now = .ok db') : Consistent db' := by
  obtain ⟨-, ho, hl⟩ := Database.ownedTransition_eq_ok hm
  refine h.rewrite (fun row hrow => ?_) rfl ho hl
  simp [OperationRecord.incomplete, (Database.ownedRow_iff.mp hrow).2.1, OperationState.incomplete]

/-- An owned transition that ends the operation, for a record that a thread really holds. -/
theorem ownedTransition {issued : Table Issue} (h : Consistent db) (hu : tokensUnique issued)
    (hg : ∀ row ∈ db.operations, Genuine issued row) {record : OperationRecord}
    (hrec : Genuine issued record) {expected : OperationState} {change : Database.Transition}
    {now : ℕ} (hnext : change.nextState.incomplete = false) (hsound : change.sound)
    (hm : db.ownedTransition record expected change true now = .ok db') : Consistent db' := by
  obtain ⟨⟨hit, hhit, hown⟩, ho, hl⟩ := Database.ownedTransition_eq_ok hm
  obtain ⟨hkey, hstate, htoken⟩ := Database.ownedRow_iff.mp hown
  refine h.settle (fun row hr hi => ?_) hnext hsound ho hl
  rw [Database.ownedRow_iff, Database.ownedLease_iff]
  constructor
  · rintro ⟨hk, -, ht⟩
    exact ⟨((hg row hr).sameReservation hu hrec ht).resourceKey, hk, ht⟩
  · rintro ⟨-, hk, ht⟩
    have : row = hit := h.row_eq hr hhit (hk.trans hkey.symm)
    exact ⟨hk, this ▸ hstate, ht⟩

theorem recoverTerminal (h : Consistent db) {record : OperationRecord}
    {change : Database.Transition} {now : ℕ} (hnext : change.nextState.incomplete = false)
    (hsound : change.sound) (hm : db.recoverTerminal record change now = .ok db') :
    Consistent db' := by
  obtain ⟨-, ho, hl⟩ := Database.recoverTerminal_eq_ok hm
  refine h.settle (fun row _ hi => ?_) hnext hsound ho hl
  rw [Database.recoverableRow_iff]
  exact ⟨fun ⟨hk, _⟩ => decide_eq_true hk, fun hk => ⟨of_decide_eq_true hk, hi⟩⟩

end Consistent

end Rygnal.Operations
