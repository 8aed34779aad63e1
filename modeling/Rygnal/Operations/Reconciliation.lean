import Rygnal.Operations.Reachable

/-! # A whole pass of the reconciliation

`reconcile_incomplete` from its list to its results, where no other call comes in between. The pass
is a run of the steps that the store is modelled with, and from every reachable store it ends,
settles exactly the operations that it can decide and leaves their repositories free.
-/

namespace Rygnal.Operations
open Rygnal.Core Rygnal.Library Rygnal.Library.PyText Rygnal.Library.Transition

inductive OperationRecoveryStatus where
  | active
  | appliedRecovered
  | released
  | unresolved
deriving DecidableEq, Repr

structure OperationRecoveryResult where
  operationKey : String
  artifactId : String
  status : OperationRecoveryStatus
  message : String
  targetRepoPath : String
deriving DecidableEq, Repr

/-- What the environment answers during a pass. -/
structure RecoveryAnswers where
  os : OperationRecord → ℤ → ProcessView
  hasApplyEvidence : OperationRecord → Bool
  inspectRepository : OperationRecord → Except String RepositoryState
  now : OperationRecord → ℕ

/-- What the pass finds out about one record. -/
inductive Finding where
  | active
  | evidence
  | uninspected (error : String)
  | unmodified
  | ambiguous
deriving DecidableEq, Repr

def recoveryResult (record : OperationRecord) (status : OperationRecoveryStatus) (message : String) :
    OperationRecoveryResult :=
  ⟨record.operationKey, record.artifactId, status, message, record.targetRepoPath⟩

def Finding.result (record : OperationRecord) : Finding → OperationRecoveryResult
  | .active => recoveryResult record .active "Operation owner process is still active."
  | .evidence => recoveryResult record .appliedRecovered
      "Recovered completed operation from durable approved-apply evidence."
  | .uninspected error => recoveryResult record .unresolved error
  | .unmodified => recoveryResult record .released "Released stale pre-mutation operation."
  | .ambiguous => recoveryResult record .unresolved
      ("Operation owner is gone, but repository state is mutated or ambiguous and no " ++
        "durable completion evidence exists.")

/-- The transition of a record that the pass settles, and the evidence it settles it by. -/
def Finding.settles : Finding → Option Bool
  | .evidence => some true
  | .unmodified => some false
  | _ => none

section Pass
variable [Digest] [UnicodeTables]

def finding (answers : RecoveryAnswers) (record : OperationRecord) : Finding :=
  if ownerRecordIsActive (answers.os record) record then .active
  else if answers.hasApplyEvidence record then .evidence
  else match answers.inspectRepository record with
    | .error message => .uninspected message
    | .ok repository => if repository.unmodified record then .unmodified else .ambiguous

/-- The loop of `reconcile_incomplete`. A transition that is refused raises. -/
def reconcileRecords (answers : RecoveryAnswers) :
    List OperationRecord → Database → Except OperationError (List OperationRecoveryResult) × Database
  | [], db => (.ok [], db)
  | record :: records, db =>
    let found := finding answers record
    match found.settles with
    | none =>
      let (results, db') := reconcileRecords answers records db
      (results.map (found.result record :: ·), db')
    | some evidence =>
      match db.recoverTerminal record (recoveryTransition record evidence) (answers.now record) with
      | .error e => (.error e, db)
      | .ok settled =>
        let (results, db') := reconcileRecords answers records settled
        (results.map (found.result record :: ·), db')

def reconcileIncomplete (answers : RecoveryAnswers) (db : Database) :
    Except OperationError (List OperationRecoveryResult) × Database :=
  reconcileRecords answers db.listIncomplete db

/-! ## The steps of a pass -/

/-- The labels of one record. -/
def recordLabels (answers : RecoveryAnswers) (t : ℕ) (record : OperationRecord) : List Label :=
  .act t (.checkOwner (answers.os record)) ::
    if ownerRecordIsActive (answers.os record) record then []
    else .act t (.checkEvidence (answers.hasApplyEvidence record)) ::
      if answers.hasApplyEvidence record then [.act t (.recoverCommit (answers.now record))]
      else .act t (.inspectRepository (answers.inspectRepository record).toOption) ::
        if (finding answers record).settles.isSome then [.act t (.recoverCommit (answers.now record))]
        else []

def passLabels (answers : RecoveryAnswers) (t : ℕ) (db : Database) : List Label :=
  .act t .listIncomplete :: db.listIncomplete.flatMap (recordLabels answers t)

end Pass

/-! ## What a pass leaves -/

/-- The pass leaves the record as it is. -/
def Finding.keeps (found : Finding) : Bool := found.settles.isNone

theorem recoveryTransition_settles (record : OperationRecord) (evidence : Bool) :
    (recoveryTransition record evidence).nextState.incomplete = false ∧
      (recoveryTransition record evidence).sound := by
  cases evidence with
  | true => exact ⟨rfl, fun h => by cases h⟩
  | false => exact ⟨rfl, fun _ => rfl⟩

/-- The update of a recorded incomplete operation finds its row. -/
theorem recoverTerminal_of_mem {db : Database} (h : Consistent db) {record : OperationRecord}
    (hmem : record ∈ db.operations) (hi : record.incomplete = true) (change : Database.Transition)
    (now : ℕ) : ∃ settled, db.recoverTerminal record change now = .ok settled := by
  have hcount : db.operations.rowcount (Database.recoverableRow record.operationKey) = 1 := by
    refine h.operationKeys.rowcount_eq_one hmem (Database.recoverableRow_iff.mpr ⟨rfl, hi⟩) ?_
    intro row hrow
    exact (Database.recoverableRow_iff.mp hrow).1
  rw [Database.recoverTerminal, if_neg (not_not.mpr hcount)]
  exact ⟨_, rfl⟩

/-- What one settled record changes: its own row alone, which is not incomplete any more. -/
theorem mem_recoverTerminal {db settled : Database} (h : Consistent db) {record : OperationRecord}
    (hmem : record ∈ db.operations) (hi : record.incomplete = true) {change : Database.Transition}
    {now : ℕ} (hsettled : db.recoverTerminal record change now = .ok settled) (row : OperationRecord) :
    row ∈ settled.operations ↔
      row ∈ db.operations ∧ row ≠ record ∨ row = change.write now record := by
  obtain ⟨-, ho, -⟩ := Database.recoverTerminal_eq_ok hsettled
  rw [ho, Table.mem_update]
  have hown : ∀ other ∈ db.operations,
      Database.recoverableRow record.operationKey other = true ↔ other = record := by
    intro other hother
    rw [Database.recoverableRow_iff]
    constructor
    · rintro ⟨hkey, -⟩
      exact h.row_eq hother hmem hkey
    · rintro rfl
      exact ⟨rfl, hi⟩
  constructor
  · rintro (⟨hrow, hp⟩ | ⟨other, hother, hp, rfl⟩)
    · refine .inl ⟨hrow, ?_⟩
      rintro rfl
      rw [(hown row hrow).mpr rfl] at hp
      cases hp
    · rw [(hown other hother).mp hp]
      exact .inr rfl
  · rintro (⟨hrow, hne⟩ | rfl)
    · refine .inl ⟨hrow, ?_⟩
      by_contra hp
      exact hne ((hown row hrow).mp (by simpa using hp))
    · exact .inr ⟨record, hmem, (hown record hmem).mpr rfl, rfl⟩

theorem mem_listIncomplete {db : Database} {record : OperationRecord} :
    record ∈ db.listIncomplete ↔ record ∈ db.operations ∧ record.incomplete = true := by
  rw [Database.listIncomplete, List.mem_insertionSort, Table.mem_selectAll]

theorem nodup_listIncomplete {db : Database} (h : Consistent db) : db.listIncomplete.Nodup := by
  rw [Database.listIncomplete, (List.perm_insertionSort _ _).nodup_iff]
  exact (List.Nodup.of_map _ h.operationKeys).filter _

section Pass
variable [Digest] [UnicodeTables] {answers : RecoveryAnswers}

/-- What a pass over the list `records` has done to the store. -/
structure Settles (answers : RecoveryAnswers) (records : List OperationRecord) (db db' : Database) :
    Prop where
  consistent : Consistent db'
  incomplete : ∀ row, row ∈ db'.operations ∧ row.incomplete = true ↔
    (row ∈ db.operations ∧ row.incomplete = true) ∧
      (row ∈ records → (finding answers row).keeps = true)
  complete : ∀ row ∈ db.operations, row.incomplete = false → row ∈ db'.operations
  settled : ∀ record ∈ records, ∀ evidence, (finding answers record).settles = some evidence →
    (recoveryTransition record evidence).write (answers.now record) record ∈ db'.operations

theorem reconcileRecords_settles (answers : RecoveryAnswers) {records : List OperationRecord}
    {db : Database} (h : Consistent db)
    (hmem : ∀ record ∈ records, record ∈ db.operations ∧ record.incomplete = true)
    (hnodup : records.Nodup) :
    ∃ db', reconcileRecords answers records db =
        (.ok (records.map fun record => (finding answers record).result record), db') ∧
      Settles answers records db db' := by
  induction records generalizing db with
  | nil =>
    refine ⟨db, rfl, h, ?_, fun row hrow _ => hrow, ?_⟩
    · intro row
      simp
    · intro record hrecord
      cases hrecord
  | cons record records ih =>
    rw [List.nodup_cons] at hnodup
    obtain ⟨hrecord, hi⟩ := hmem record List.mem_cons_self
    have hrest : ∀ other ∈ records, other ∈ db.operations ∧ other.incomplete = true :=
      fun other hother => hmem other (List.mem_cons_of_mem record hother)
    cases hfound : (finding answers record).settles with
    | none =>
      obtain ⟨db', hpass, hsettles⟩ := ih h hrest hnodup.2
      refine ⟨db', ?_, hsettles.consistent, ?_, hsettles.complete, ?_⟩
      · simp only [reconcileRecords, hfound, hpass]
        rfl
      · intro row
        rw [hsettles.incomplete, List.mem_cons]
        constructor
        · rintro ⟨hrow, hkeeps⟩
          refine ⟨hrow, ?_⟩
          rintro (rfl | hlater)
          · rw [Finding.keeps, hfound]
            rfl
          · exact hkeeps hlater
        · rintro ⟨hrow, hkeeps⟩
          exact ⟨hrow, fun hlater => hkeeps (.inr hlater)⟩
      · intro other hother evidence hevidence
        rcases List.mem_cons.mp hother with rfl | hlater
        · rw [hfound] at hevidence
          cases hevidence
        · exact hsettles.settled other hlater evidence hevidence
    | some evidence =>
      obtain ⟨settled, hsettled⟩ := recoverTerminal_of_mem h hrecord hi
        (recoveryTransition record evidence) (answers.now record)
      obtain ⟨hnext, hsound⟩ := recoveryTransition_settles record evidence
      have hrows := mem_recoverTerminal h hrecord hi hsettled
      have hne : ∀ other ∈ records, other ≠ record := by
        rintro other hother rfl
        exact hnodup.1 hother
      obtain ⟨db', hpass, hsettles⟩ := ih (h.recoverTerminal hnext hsound hsettled)
        (fun other hother => ⟨(hrows other).mpr (.inl ⟨(hrest other hother).1, hne other hother⟩),
          (hrest other hother).2⟩) hnodup.2
      have hwritten : ((recoveryTransition record evidence).write (answers.now record)
          record).incomplete = false := hnext
      refine ⟨db', ?_, hsettles.consistent, ?_, ?_, ?_⟩
      · simp only [reconcileRecords, hfound, hsettled, hpass]
        rfl
      · intro row
        rw [hsettles.incomplete, hrows, List.mem_cons]
        constructor
        · rintro ⟨⟨⟨hrow, hrowne⟩ | rfl, hrowi⟩, hkeeps⟩
          · refine ⟨⟨hrow, hrowi⟩, ?_⟩
            rintro (rfl | hlater)
            · exact absurd rfl hrowne
            · exact hkeeps hlater
          · rw [hwritten] at hrowi
            cases hrowi
        · rintro ⟨⟨hrow, hrowi⟩, hkeeps⟩
          refine ⟨⟨.inl ⟨hrow, ?_⟩, hrowi⟩, fun hlater => hkeeps (.inr hlater)⟩
          rintro rfl
          have hkept := hkeeps (.inl rfl)
          rw [Finding.keeps, hfound] at hkept
          cases hkept
      · intro row hrow hrowi
        refine hsettles.complete row ((hrows row).mpr (.inl ⟨hrow, ?_⟩)) hrowi
        rintro rfl
        rw [hi] at hrowi
        cases hrowi
      · intro other hother otherEvidence hevidence
        rcases List.mem_cons.mp hother with rfl | hlater
        · rw [hfound] at hevidence
          cases hevidence
          exact hsettles.complete _ ((hrows _).mpr (.inr rfl)) hwritten
        · exact hsettles.settled other hlater otherEvidence hevidence

/-! ## The pass as a run -/

variable {d : Deployment} {t : ℕ}

theorem step_act {w : World} (h : w.crashed (d.process t) = false) (action : Action) :
    step d w (.act t action) = threadStep d w t action := by
  simp [step, h]

/-- Thread `t` stands in a pass over `todo`, no other process has crashed since `crashed`. -/
structure Recovering (crashed : ℕ → Bool) (t : ℕ) (w : World) (db : Database)
    (todo : List OperationRecord) (stage : RecoveryStage) : Prop where
  db_eq : w.db = db
  crashed_eq : w.crashed = crashed
  pending : w.pending t = .recovering todo stage

section Steps
variable {crashed : ℕ → Bool} {w : World} {db : Database} {record : OperationRecord}
  {rest : List OperationRecord} {stage : RecoveryStage}

/-- A step that only moves the pass on. -/
theorem Recovering.move (h : Recovering crashed t w db (record :: rest) stage)
    (hcrashed : crashed (d.process t) = false) (action : Action) (todo : List OperationRecord)
    (stage' : RecoveryStage) (hrecovers : action.recovers = true)
    (hstep : recoveryStep w t record rest stage action =
      some (w.setPending t (.recovering todo stage'))) :
    ∃ w', step d w (.act t action) = some w' ∧ Recovering crashed t w' db todo stage' := by
  refine ⟨w.setPending t (.recovering todo stage'), ?_, h.db_eq, h.crashed_eq, ?_⟩
  · rw [step_act (by rw [h.crashed_eq, hcrashed]), ← hstep]
    cases action with
    | leave => cases hrecovers
    | _ => simp [threadStep, h.pending]
  · simp [World.setPending_pending]

/-- The commit of a record that the pass settles. -/
theorem Recovering.commit {evidence : Bool} {now : ℕ} {settled : Database}
    (h : Recovering crashed t w db (record :: rest) (.update evidence))
    (hcrashed : crashed (d.process t) = false)
    (hsettled : db.recoverTerminal record (recoveryTransition record evidence) now = .ok settled) :
    ∃ w', step d w (.act t (.recoverCommit now)) = some w' ∧
      Recovering crashed t w' settled rest .ownerCheck := by
  refine ⟨(w.commit settled).setPending t (.recovering rest .ownerCheck), ?_, rfl, h.crashed_eq, ?_⟩
  · rw [step_act (by rw [h.crashed_eq, hcrashed])]
    simp only [threadStep, h.pending, recoveryStep, h.db_eq, hsettled]
  · simp [World.setPending_pending]

/-- The steps of one record take a pass to the rest of its list. -/
theorem run_recordLabels (answers : RecoveryAnswers)
    (h : Recovering crashed t w db (record :: rest) .ownerCheck)
    (hcrashed : crashed (d.process t) = false) (db' : Database)
    (hdb : match (finding answers record).settles with
      | none => db' = db
      | some evidence => db.recoverTerminal record (recoveryTransition record evidence)
          (answers.now record) = .ok db') :
    ∃ w', run (step d) w (recordLabels answers t record) = some w' ∧
      Recovering crashed t w' db' rest .ownerCheck := by
  rw [recordLabels]
  by_cases hactive : ownerRecordIsActive (answers.os record) record = true
  · rw [if_pos hactive]
    simp only [finding, hactive, if_true, Finding.settles] at hdb
    subst hdb
    obtain ⟨w₁, h₁, hw₁⟩ := h.move (d := d) hcrashed (.checkOwner (answers.os record)) rest
      .ownerCheck rfl (by simp [recoveryStep, hactive])
    exact ⟨w₁, run_cons_eq_some.mpr ⟨w₁, h₁, rfl⟩, hw₁⟩
  rw [if_neg hactive]
  obtain ⟨w₁, h₁, hw₁⟩ := h.move (d := d) hcrashed (.checkOwner (answers.os record))
    (record :: rest) .evidenceCheck rfl (by simp [recoveryStep, hactive])
  by_cases hevidence : answers.hasApplyEvidence record = true
  · rw [if_pos hevidence]
    simp only [finding, hactive, hevidence, if_true, Finding.settles] at hdb
    obtain ⟨w₂, h₂, hw₂⟩ := hw₁.move (d := d) hcrashed
      (.checkEvidence (answers.hasApplyEvidence record)) (record :: rest) (.update true) rfl
      (by simp [recoveryStep, hevidence])
    obtain ⟨w₃, h₃, hw₃⟩ := hw₂.commit (d := d) hcrashed hdb
    exact ⟨w₃, run_cons_eq_some.mpr ⟨w₁, h₁, run_cons_eq_some.mpr ⟨w₂, h₂,
      run_cons_eq_some.mpr ⟨w₃, h₃, rfl⟩⟩⟩, hw₃⟩
  rw [if_neg hevidence]
  obtain ⟨w₂, h₂, hw₂⟩ := hw₁.move (d := d) hcrashed
    (.checkEvidence (answers.hasApplyEvidence record)) (record :: rest) .inspection rfl
    (by simp [recoveryStep, hevidence])
  have hfinding : finding answers record = match answers.inspectRepository record with
      | .error message => .uninspected message
      | .ok repository => if repository.unmodified record then .unmodified else .ambiguous := by
    simp [finding, hactive, hevidence]
  by_cases hunmodified : ∃ repository, answers.inspectRepository record = .ok repository ∧
      repository.unmodified record = true
  · obtain ⟨repository, hinspect, hunmodified⟩ := hunmodified
    simp only [hinspect, hunmodified, if_true] at hfinding
    simp only [hfinding, Finding.settles] at hdb ⊢
    obtain ⟨w₃, h₃, hw₃⟩ := hw₂.move (d := d) hcrashed
      (.inspectRepository (answers.inspectRepository record).toOption) (record :: rest)
      (.update false) rfl (by simp [recoveryStep, hinspect, Except.toOption, hunmodified])
    obtain ⟨w₄, h₄, hw₄⟩ := hw₃.commit (d := d) hcrashed hdb
    exact ⟨w₄, run_cons_eq_some.mpr ⟨w₁, h₁, run_cons_eq_some.mpr ⟨w₂, h₂,
      run_cons_eq_some.mpr ⟨w₃, h₃, run_cons_eq_some.mpr ⟨w₄, h₄, rfl⟩⟩⟩⟩, hw₄⟩
  · have hsettles : (finding answers record).settles = none := by
      rw [hfinding]
      cases hinspect : answers.inspectRepository record with
      | error message => rfl
      | ok repository =>
        have hnot : repository.unmodified record = false := by
          by_contra hne
          exact hunmodified ⟨repository, hinspect, by simpa using hne⟩
        simp [hnot, Finding.settles]
    have hany : ((answers.inspectRepository record).toOption.any fun r => r.unmodified record) =
        false := by
      cases hinspect : answers.inspectRepository record with
      | error message => rfl
      | ok repository =>
        by_contra hne
        exact hunmodified ⟨repository, hinspect, by simpa [Except.toOption] using hne⟩
    simp only [hsettles] at hdb ⊢
    subst hdb
    obtain ⟨w₃, h₃, hw₃⟩ := hw₂.move (d := d) hcrashed
      (.inspectRepository (answers.inspectRepository record).toOption) rest .ownerCheck rfl
      (by simp [recoveryStep, hany])
    exact ⟨w₃, run_cons_eq_some.mpr ⟨w₁, h₁, run_cons_eq_some.mpr ⟨w₂, h₂,
      run_cons_eq_some.mpr ⟨w₃, h₃, rfl⟩⟩⟩, hw₃⟩

/-- A pass that raises nothing is the run of its steps. -/
theorem run_records {records : List OperationRecord} {w : World} {db db' : Database}
    {results : List OperationRecoveryResult}
    (h : Recovering crashed t w db records .ownerCheck) (hcrashed : crashed (d.process t) = false)
    (hpass : reconcileRecords answers records db = (.ok results, db')) :
    ∃ w', run (step d) w (records.flatMap (recordLabels answers t)) = some w' ∧
      Recovering crashed t w' db' [] .ownerCheck := by
  induction records generalizing w db results with
  | nil =>
    cases hpass
    exact ⟨w, rfl, h⟩
  | cons record records ih =>
    rw [reconcileRecords] at hpass
    cases hsettles : (finding answers record).settles with
    | none =>
      simp only [hsettles] at hpass
      cases hrest : reconcileRecords answers records db with
      | mk restResults restDb =>
        rw [hrest] at hpass
        cases restResults with
        | error e => cases hpass
        | ok restResults =>
          cases hpass
          obtain ⟨w₁, h₁, hw₁⟩ := run_recordLabels answers h hcrashed db
            (by rw [hsettles])
          obtain ⟨w₂, h₂, hw₂⟩ := ih hw₁ hrest
          exact ⟨w₂, run_append_eq_some.mpr ⟨w₁, h₁, h₂⟩, hw₂⟩
    | some evidence =>
      simp only [hsettles] at hpass
      cases hterminal : db.recoverTerminal record (recoveryTransition record evidence)
          (answers.now record) with
      | error e =>
        rw [hterminal] at hpass
        cases hpass
      | ok settled =>
        rw [hterminal] at hpass
        cases hrest : reconcileRecords answers records settled with
        | mk restResults restDb =>
          simp only [hrest] at hpass
          cases restResults with
          | error e => cases hpass
          | ok restResults =>
            cases hpass
            obtain ⟨w₁, h₁, hw₁⟩ := run_recordLabels answers h hcrashed
              settled (by rw [hsettles]; exact hterminal)
            obtain ⟨w₂, h₂, hw₂⟩ := ih hw₁ hrest
            exact ⟨w₂, run_append_eq_some.mpr ⟨w₁, h₁, h₂⟩, hw₂⟩

end Steps

end Pass

/-- A repository that no operation occupies which the pass keeps can be reserved again: the
transaction inserts the new operation, or replays a completed one. -/
def Reservable (db : Database) : Prop :=
  ∀ (active : ℤ → String → Bool) (record : OperationRecord),
    (∀ row ∈ db.operations, row.incomplete = true →
      row.resourceKey ≠ record.resourceKey ∧ row.operationKey ≠ record.operationKey) →
    ∀ error, (db.reserve active record).1 ≠ .refused error

theorem Consistent.reservable {db : Database} (h : Consistent db) : Reservable db := by
  intro active record hfree error
  have hclaim : ∀ base : Database, (∀ lease ∈ base.leases, lease ∈ db.leases) →
      (Database.claim db base active record).1 ≠ .refused error := by
    intro base hbase
    have hlease : base.readLease record.resourceKey = none := by
      refine Table.selectOne_eq_none.mpr ?_
      intro lease hl
      obtain ⟨row, hrow, hi, rfl⟩ := h.row_of_lease (hbase lease hl)
      have hne : row.lease.resourceKey ≠ record.resourceKey := (hfree row hrow hi).1
      simpa using hne
    rw [Database.claim, hlease]
    intro hrefused
    cases hrefused
  rw [Database.reserve]
  cases hexisting : db.readOperation record.operationKey with
  | none => exact hclaim db fun _ hl => hl
  | some existing =>
    obtain ⟨hmem, hkey⟩ := h.operationKeys.selectOne_eq_some.mp hexisting
    simp only
    cases hstate : existing.state with
    | applied =>
      intro hrefused
      cases hrefused
    | failed =>
      simp only [h.failures existing hmem hstate, if_true]
      exact hclaim _ fun lease hl => (Table.mem_delete.mp hl).1
    | reserved =>
      exact absurd hkey (hfree existing hmem (by
        rw [OperationRecord.incomplete, hstate]; rfl)).2
    | applying =>
      exact absurd hkey (hfree existing hmem (by
        rw [OperationRecord.incomplete, hstate]; rfl)).2

/-- From every store that calls, crashes and passes can reach, an uninterrupted pass ends without an
error, and is a run of the store's steps. It leaves incomplete just the operations whose owner is
active or whose repository it cannot decide, and whatever repository is not theirs can be reserved
again. -/
theorem reconciliation_settles [Digest] [UnicodeTables] (d : Deployment) (w : World)
    (hreachable : Reaches (step d) World.initial w) (answers : RecoveryAnswers) :
    ∃ db', reconcileIncomplete answers w.db =
        (.ok (w.db.listIncomplete.map fun record => (finding answers record).result record), db') ∧
      Settles answers w.db.listIncomplete w.db db' ∧ OneToOne db' ∧ Reservable db' ∧
      ∀ t, w.crashed (d.process t) = false → w.pending t = .idle →
        ∃ w', run (step d) w (passLabels answers t w.db) = some w' ∧ w'.db = db' := by
  have hconsistent := (reachable_sound hreachable).tables
  obtain ⟨db', hpass, hsettles⟩ := reconcileRecords_settles answers hconsistent
    (fun record hrecord => mem_listIncomplete.mp hrecord) (nodup_listIncomplete hconsistent)
  refine ⟨db', hpass, hsettles, hsettles.consistent.oneToOne, hsettles.consistent.reservable, ?_⟩
  intro t hcrashed hidle
  have hlist : step d w (.act t .listIncomplete) =
      some (w.setPending t (.recovering w.db.listIncomplete .ownerCheck)) := by
    rw [step_act hcrashed]
    simp [threadStep, hidle]
  obtain ⟨w', hrun, hw'⟩ := run_records (d := d) (t := t)
    (w := w.setPending t (.recovering w.db.listIncomplete .ownerCheck))
    ⟨rfl, rfl, by simp [World.setPending_pending]⟩ hcrashed hpass
  exact ⟨w', run_cons_eq_some.mpr ⟨_, hlist, hrun⟩, hw'.db_eq⟩

open Rygnal.Operations.Sample PyText.Ascii
/-- Process 0 reserved the repository and crashed before it changed it. -/
theorem reconciliation_settles_sample : ∃ w db',
    run (step deployment) World.initial (retried.take 3) = some w ∧
    w.db.listIncomplete.length = 1 ∧
    reconcileIncomplete ⟨fun _ => os [1, 3], fun _ => false, fun _ => .ok ⟨"b7", true⟩, fun _ => 101⟩
      w.db = (.ok (w.db.listIncomplete.map (Finding.result · .unmodified)), db') ∧
    Reservable db' := by
  have hrun : ((run (step deployment) World.initial (retried.take 3)).any fun w =>
      w.db.listIncomplete.length = 1 ∧ ∀ record ∈ w.db.listIncomplete,
        finding ⟨fun _ => os [1, 3], fun _ => false, fun _ => .ok ⟨"b7", true⟩, fun _ => 101⟩ record =
          .unmodified) = true := by decide +kernel
  obtain ⟨w, hw, hrecords⟩ := (Option.any_eq_true _ _).mp hrun
  obtain ⟨hlength, hfound⟩ := of_decide_eq_true hrecords
  obtain ⟨db', hpass, -, -, hreservable, -⟩ := reconciliation_settles deployment w ⟨_, hw⟩
    ⟨fun _ => os [1, 3], fun _ => false, fun _ => .ok ⟨"b7", true⟩, fun _ => 101⟩
  refine ⟨w, db', hw, hlength, ?_, hreservable⟩
  rw [hpass, List.map_congr_left fun record hrecord => by rw [hfound record hrecord]]

end Rygnal.Operations
