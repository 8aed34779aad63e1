import Rygnal.Operations.Interleaving

/-! # Every reachable state of the operation store is consistent

Under any interleaving of the calls and of crashes the leases stay in one-to-one
correspondence with the incomplete operations, and an applied operation keeps its row.
-/

namespace Rygnal.Operations
open Rygnal.Core Rygnal.Library Rygnal.Library.PyText Rygnal.Library.Transition

/-- The tables are consistent and every record in them or in a thread's hands describes a
reservation for which its token was drawn. -/
structure World.Sound (w : World) : Prop where
  tables : Consistent w.db
  tokens : tokensUnique w.issued
  rows : ∀ row ∈ w.db.operations, Genuine w.issued row
  held : ∀ t, ∀ reservation ∈ w.held t, Genuine w.issued reservation.record

namespace World.Sound
variable {w : World}

theorem initial : World.initial.Sound where
  tables := .empty
  tokens := .nil _
  rows _ h := by simp [World.initial, Database.empty] at h
  held _ _ h := by simp [World.initial] at h

theorem setPending (h : w.Sound) (t : ℕ) (p : Pending) : (w.setPending t p).Sound :=
  ⟨h.tables, h.tokens, h.rows, h.held⟩

theorem crash (h : w.Sound) (crashed : ℕ → Bool) : { w with crashed := crashed }.Sound :=
  ⟨h.tables, h.tokens, h.rows, h.held⟩

theorem hold (h : w.Sound) (t : ℕ) {reservation : OperationReservation}
    (hr : Genuine w.issued reservation.record) : (w.hold t reservation).Sound where
  tables := h.tables
  tokens := h.tokens
  rows := h.rows
  held u r hm := by
    rcases World.mem_hold.mp hm with hm | ⟨-, rfl⟩
    · exact h.held u r hm
    · exact hr

theorem unhold (h : w.Sound) (t : ℕ) (ownerToken : String) : (w.unhold t ownerToken).Sound where
  tables := h.tables
  tokens := h.tokens
  rows := h.rows
  held u r hm := h.held u r (World.mem_unhold.mp hm).1

/-- Transitions write no column that a reservation is known by. -/
theorem rows_of_update (h : w.Sound) {p : OperationRecord → Bool} {change : Database.Transition}
    {now : ℕ} {row : OperationRecord}
    (hr : row ∈ w.db.operations.update p (change.write now)) : Genuine w.issued row := by
  rcases Table.mem_update.mp hr with ⟨hr, -⟩ | ⟨s, hs, -, rfl⟩
  · exact h.rows row hr
  · obtain ⟨i, hi, hsi⟩ := h.rows s hs
    exact ⟨i, hi, (change.write_sameReservation now s).trans hsi⟩

/-- A commit that writes rows by a transition and keeps the tables consistent. -/
theorem commit_update (h : w.Sound) {db : Database} (ht : Consistent db)
    {p : OperationRecord → Bool} {change : Database.Transition} {now : ℕ}
    (ho : db.operations = w.db.operations.update p (change.write now)) : (w.commit db).Sound where
  tables := ht
  tokens := h.tokens
  rows _ hr := h.rows_of_update (ho ▸ hr)
  held := h.held

theorem mem_of_insertReservation {base db : Database} {row record : OperationRecord}
    (hbase : ∀ r ∈ base.operations, r ∈ db.operations)
    (hr : row ∈ (base.insertReservation record).operations) :
    row ∈ db.operations ∨ row = record := by
  rcases Table.mem_insert.mp hr with hr | hr
  · exact .inl (hbase row hr)
  · exact .inr hr

theorem reserve (h : w.Sound) {active : ℤ → String → Bool} {t : ℕ} {record : OperationRecord}
    {db : Database} (hs : record.state = .reserved) (hf : w.fresh record.ownerToken = true)
    (hr : w.db.reserve active record = (.inserted, db)) :
    ((w.commit db).issue ⟨t, record⟩).Sound where
  tables := h.tables.reserve hs hr
  tokens := h.tokens.insert fun i hi => by
    simpa using List.all_eq_true.mp hf i hi
  rows row hm := by
    rcases Database.reserve_eq hr with ⟨ho, -⟩ | ⟨-, base, hbase, -, rfl⟩
    · exact absurd rfl ho
    have hsub : ∀ r ∈ base.operations, r ∈ w.db.operations := by
      rcases hbase with ⟨rfl, -⟩ | ⟨_, -, -, rfl⟩
      · exact fun r hr => hr
      · exact fun r hr => (Table.mem_delete.mp hr).1
    rcases mem_of_insertReservation hsub hm with hm | rfl
    · exact (h.rows row hm).insert _
    · exact Genuine.issued ⟨t, row⟩
  held u r hm := (h.held u r hm).insert _

end World.Sound

section Runs
variable [Digest] [UnicodeTables] {d : Deployment} {w w' : World}

theorem Stepped.sound {t : ℕ} {action : Action} (h : w.Sound) (hs : Stepped d w t action w') :
    w'.Sound := by
  cases hs with
  | same => exact h
  | rests | fails | unmodified | lists | skips | suspects | decides => exact h.setPending _ _
  | reserves _ fresh reserved committed =>
    subst reserved
    exact (h.reserve rfl fresh committed).setPending _ _
  | receives _ read =>
    exact (h.hold t (h.rows _ (Table.selectOne_mem read).1)).setPending _ _
  | marks _ committed =>
    exact h.commit_update (h.tables.markApplying committed)
      (Database.ownedTransition_eq_ok committed).2.1
  | completes _ held committed =>
    have ht := h.tables.ownedTransition h.tokens h.rows (h.held t _ held) rfl (by nofun) committed
    exact (h.commit_update ht (Database.ownedTransition_eq_ok committed).2.1).unhold _ _
  | releases _ held committed =>
    have ht := h.tables.ownedTransition h.tokens h.rows (h.held t _ held) rfl (fun _ => rfl)
      committed
    exact ((h.commit_update ht (Database.ownedTransition_eq_ok committed).2.1).unhold _ _).setPending
      _ _
  | @recovers record _ evidence _ db _ committed =>
    have ht : Consistent db := by
      cases evidence
      · exact h.tables.recoverTerminal rfl (fun _ => rfl) committed
      · exact h.tables.recoverTerminal rfl (by nofun) committed
    exact (h.commit_update ht (Database.recoverTerminal_eq_ok committed).2.1).setPending _ _

theorem step_sound {l : Label} (h : w.Sound) (hs : step d w l = some w') : w'.Sound := by
  rcases step_cases hs with ⟨p, -, rfl⟩ | ⟨t, action, -, -, hs⟩
  · exact h.crash _
  · exact hs.sound h

theorem reachable_sound (h : Reaches (step d) World.initial w) : w.Sound :=
  h.invariant (fun _ _ _ => step_sound) .initial

/-- No step touches the row of an applied operation. -/
theorem Stepped.applied_mem {t : ℕ} {action : Action} (h : w.Sound)
    (hs : Stepped d w t action w') {row : OperationRecord} (hr : row ∈ w.db.operations)
    (ha : row.state = .applied) : row ∈ w'.db.operations := by
  have owned : ∀ {record : OperationRecord} {expected : OperationState}
      {change : Database.Transition} {releaseResource : Bool} {now : ℕ} {db : Database},
      expected ≠ .applied →
      w.db.ownedTransition record expected change releaseResource now = .ok db →
      row ∈ db.operations := by
    intro record expected change releaseResource now db he hm
    rw [(Database.ownedTransition_eq_ok hm).2.1]
    refine Table.mem_update_of_not hr ?_
    rw [Bool.eq_false_iff, Ne, Database.ownedRow_iff]
    rintro ⟨-, hstate, -⟩
    exact he (hstate.symm.trans ha)
  cases hs with
  | same | rests | fails | unmodified | lists | skips | suspects | decides | receives => exact hr
  | @reserves _ _ _ _ _ record _ _ _ reserved committed =>
    rcases Database.reserve_eq committed with ⟨ho, -⟩ | ⟨-, base, hbase, -, rfl⟩
    · exact absurd rfl ho
    refine Table.mem_insert.mpr (.inl ?_)
    rcases hbase with ⟨rfl, -⟩ | ⟨failed, hread, hstate, rfl⟩
    · exact hr
    · refine Table.mem_delete.mpr ⟨hr, decide_eq_false fun hk => ?_⟩
      obtain ⟨hfm, hfk⟩ := Table.selectOne_mem hread
      have : row = failed := h.tables.row_eq hr hfm (hk.trans (of_decide_eq_true hfk).symm)
      rw [← this, ha] at hstate
      cases hstate
  | marks _ committed => exact owned (by simp) committed
  | completes _ _ committed => exact owned (by simp) committed
  | releases _ _ committed => exact owned (by simp) committed
  | recovers _ committed =>
    rw [World.setPending_db, World.commit_db, (Database.recoverTerminal_eq_ok committed).2.1]
    refine Table.mem_update_of_not hr ?_
    simp [Database.recoverableRow, OperationRecord.incomplete, ha, OperationState.incomplete]

theorem run_applied_mem {ls : List Label} (h : w.Sound) {row : OperationRecord}
    (hr : row ∈ w.db.operations) (ha : row.state = .applied)
    (hrun : run (step d) w ls = some w') : row ∈ w'.db.operations := by
  have hstep : ∀ s l u, (s.Sound ∧ row ∈ s.db.operations) → step d s l = some u →
      u.Sound ∧ row ∈ u.db.operations := by
    rintro s l u ⟨hs, hm⟩ hl
    refine ⟨step_sound hs hl, ?_⟩
    rcases step_cases hl with ⟨p, -, rfl⟩ | ⟨t, action, -, -, hl⟩
    · exact hm
    · exact hl.applied_mem hs hm ha
  exact (run_invariant hstep ⟨h, hr⟩ hrun).2

/-- A lease and an operation that name each other. -/
structure Corresponds (lease : ResourceLease) (row : OperationRecord) : Prop where
  operationKey : lease.operationKey = row.operationKey
  resourceKey : lease.resourceKey = row.resourceKey
  ownerToken : lease.ownerToken = row.ownerToken

/-- Each lease has exactly one incomplete operation, each incomplete operation exactly one
lease, and no repository has two incomplete operations. -/
structure OneToOne (db : Database) : Prop where
  rowOfLease : ∀ lease ∈ db.leases,
    ∃! row, row ∈ db.operations ∧ row.incomplete = true ∧ Corresponds lease row
  leaseOfRow : ∀ row ∈ db.operations, row.incomplete = true →
    ∃! lease, lease ∈ db.leases ∧ Corresponds lease row
  distinct : db.operations.Nodup ∧ db.leases.Nodup
  exclusive : ∀ r ∈ db.operations, ∀ s ∈ db.operations, r.incomplete = true →
    s.incomplete = true → r.resourceKey = s.resourceKey → r = s

omit [Digest] [UnicodeTables] in
theorem Consistent.oneToOne {db : Database} (h : Consistent db) : OneToOne db where
  rowOfLease lease hl := by
    obtain ⟨row, hr, hi, rfl⟩ := h.row_of_lease hl
    exact ⟨row, ⟨hr, hi, ⟨rfl, rfl, rfl⟩⟩, fun s ⟨hs, _, hc⟩ => h.row_eq hs hr hc.operationKey.symm⟩
  leaseOfRow row hr hi := ⟨row.lease, ⟨h.lease_mem hr hi, ⟨rfl, rfl, rfl⟩⟩,
    fun _ ⟨hl, hc⟩ => h.resourceKeys.eq_of_key hl (h.lease_mem hr hi) hc.resourceKey⟩
  distinct := ⟨h.operationKeys.of_map _, h.resourceKeys.of_map _⟩
  exclusive _ hr _ hs hri hsi hk := h.incomplete_unique hr hs hri hsi hk

/-- In every reachable state the leases are those of the incomplete operations, failures
can be retried and hold no lease, and applied operations keep their row in every later
state. -/
theorem reachable_store_invariants (h : Reaches (step d) World.initial w) :
    OneToOne w.db ∧
    (∀ row ∈ w.db.operations, row.state = .failed → row.retryable = true ∧
      ∀ lease ∈ w.db.leases, lease.operationKey ≠ row.operationKey) ∧
    ∀ row ∈ w.db.operations, row.state = .applied → ∀ ls w',
      run (step d) w ls = some w' → row ∈ w'.db.operations := by
  have hs := reachable_sound h
  refine ⟨hs.tables.oneToOne, fun row hr hf => ⟨hs.tables.failures row hr hf, fun lease hl => ?_⟩,
    fun row hr ha ls w' => run_applied_mem hs hr ha⟩
  exact hs.tables.no_lease hr (by simp [OperationRecord.incomplete, hf, OperationState.incomplete])
    hl

end Runs

/-! ## Five processes on one repository -/

namespace Sample

/-- SHA-256 on the texts that the sample runs hash. -/
scoped instance digest : Digest where
  sha256 text :=
    if text = "artifact_apply\x00art_5f0c\x00apr_91d2\x00p4\x00b7\x00/srv/repo" then
      "2937c343e66c5c453825b22758ca4cba1aa140eec543f3a41dab9bf229e356e4"
    else if text = "/srv/repo" then
      "203fce37fbfc82f3bd7cd983ce20b2e7db8ad25ee40b8382c9345c1ae1d6407d"
    else if text = "proc:4101:88100" then
      "51bbbb5cdc9276a21a4472ba1a77d0e46baf3cc7ba003effc4b52d855ea2c383"
    else if text = "proc:4104:88103" then
      "9d99e0bb4e17149da284c7c11eac89bfe887f3086976504fde94e327c9857c06"
    else if text = "proc:4105:88104" then
      "b5d20632fd4d1d270e1865b13e95a5135eec99223397b2f2e6e8e616fd892673"
    else text

/-- Thread `n` runs in process `n`, with pid `4101 + n`. -/
def deployment : Deployment := ⟨id, fun p => 4101 + p⟩

/-- What the system shows while the processes in `running` exist. -/
def os (running : List ℕ) (pid : ℤ) : ProcessView :=
  match running.find? fun p => (4101 + p : ℤ) = pid with
  | some p => .stat (toString pid ++ " (python3) S 1 4100 4100 0 -1 4194560 1523 0 0 0 12 3 0 0 20 0 1 0 "
      ++ toString (88100 + p) ++ " 31506432 2410 0")
  | none => .psFailed

def artifactApply : ArtifactApply := ⟨"art_5f0c", "apr_91d2", "p4", "b7", "/srv/repo"⟩

/-- Process 0 reserves the operation and crashes; process 1 recovers it, process 3 retries
and completes it. -/
def retried : List Label :=
  [.act 0 (.reserve artifactApply "9e0c" (os [0, 1, 3]) 100), .act 0 .reload, .crash 0,
    .act 1 .listIncomplete, .act 1 (.checkOwner (os [1, 3])), .act 1 (.checkEvidence false),
    .act 1 (.inspectRepository (some ⟨"b7", true⟩)), .act 1 (.recoverCommit 101),
    .act 1 .leave, .act 3 (.reserve artifactApply "41d7" (os [1, 3]) 102), .act 3 .reload]

end Sample

open Sample PyText.Ascii in
theorem retried_store_invariants : ∃ w, run (step deployment) World.initial retried = some w ∧
    w.db.leases.length = 1 ∧ OneToOne w.db := by
  have hrun : ((run (step deployment) World.initial retried).any
      fun w => w.db.leases.length = 1) = true := by decide +kernel
  obtain ⟨w, hw, hl⟩ := (Option.any_eq_true _ _).mp hrun
  exact ⟨w, hw, of_decide_eq_true hl, (reachable_store_invariants ⟨retried, hw⟩).1⟩

end Rygnal.Operations
