import Mathlib.Data.List.Basic
import Rygnal.Library.Transition
import Rygnal.Migrations.Schema

/-! # Interrupted migrations

`migrate_sqlite_schema` as steps on the files: the database, its backups and the marker of an
unfinished migration. The lock admits one migration at a time. Between two steps the process may be
killed, an operation may raise, other connections may write rows and the database file may be
damaged. No step loses anything, and a later migration completes what an earlier one left.
-/

namespace Rygnal.Migrations
open Rygnal.Core Rygnal.Core.PyException Rygnal.Library.Transition

/-! ## Files -/

structure MigrationMarker where
  component : String
  targetVersion : ℤ
  checksum : String
  backup : Option String
  createdAt : String

/-- What `<database>.migration.json` is. -/
inductive MarkerFile where
  | symlink
  | malformed
  | payload (marker : MigrationMarker)

/-- `temporaries` are the process ids in the names of unfinished marker files, and the backups are
sorted by their modification times, newest first. -/
structure Disk where
  database : Database
  marker : Option MarkerFile
  temporaries : List ℕ
  backups : List (String × Database)

namespace Disk

def backup (disk : Disk) (name : String) : Option Database :=
  (disk.backups.find? fun entry => entry.1 = name).map Prod.snd

/-- A backup file is written, and is the newest one then. -/
def setBackup (disk : Disk) (name : String) (db : Database) : Disk :=
  { disk with backups := (name, db) :: disk.backups.filter fun entry => entry.1 ≠ name }

end Disk

/-! ## One migration -/

/-- Where a migration stands between two operations on the files. -/
inductive Phase where
  | recovering
  | restoring (backup : String)
  | clearing
  | checking
  | connecting
  | copying (backup : String)
  | verifying (backup : String)
  | pruning (backup : String)
  | opening (backup : Option String)
  | placing (backup : Option String)
  | migrating
  | unmarking
  | reporting
  | unmarkingAfter (e : PyException)

structure Process where
  pid : ℕ
  retention : ℕ
  phase : Phase

/-- The rest of a migration: another operation, or the end of the call. -/
inductive Next where
  | goto (phase : Phase)
  | finish (result : Except PyException MigrationSnapshot)

def fileError (cls message : String) : PyException :=
  ⟨[.other cls, .osError, .exception, .baseException], message⟩

/-- `except Exception:` around the transaction, which is rolled back in any case. -/
def afterError (e : PyException) : Next :=
  if e.isInstance [.exception] then .goto (.unmarkingAfter e) else .finish (.error e)

/-- `_recover_interrupted_migration` up to its first change of a file. -/
def recoverInterrupted (disk : Disk) : Next :=
  match disk.marker with
  | none => .goto .checking
  | some .symlink => .finish (.error (migrationError "Migration marker is a symlink."))
  | some .malformed => .finish (.error (migrationError "Migration marker is malformed."))
  | some (.payload marker) =>
    if disk.database.intact then .goto .clearing
    else match marker.backup with
      | none => .finish (.error (migrationError "Interrupted migration has no valid backup."))
      | some backup =>
        if backup = "" then
          .finish (.error (migrationError "Interrupted migration has no valid backup."))
        else if (disk.backup backup).isNone then
          .finish (.error (migrationError "Interrupted migration backup is unavailable."))
        else .goto (.restoring backup)

section Steps
variable [Digest] (plan : SchemaMigrationPlan)

def backupName (now : String) : String := plan.component ++ "." ++ now ++ ".bak"

def marking (backup : Option String) (now : String) : MarkerFile :=
  .payload ⟨plan.component, plan.targetVersion, plan.checksum, backup, now⟩

/-- The next operation of a migration, at the time `now`. -/
def advance (now : String) (process : Process) (disk : Disk) : Disk × Next :=
  match process.phase with
  | .recovering => (disk, recoverInterrupted disk)
  | .restoring backup =>
    match disk.backup backup with
    | none => (disk, .finish (.error (fileError "FileNotFoundError" backup)))
    | some db => ({ disk with database := db }, .goto .clearing)
  | .clearing => ({ disk with marker := none }, .goto .checking)
  | .checking =>
    match preflight plan disk.database with
    | .error e => (disk, .finish (.error e))
    | .ok (.current snapshot) => (disk, .finish (.ok snapshot))
    | .ok (.pending true) => (disk, .goto .connecting)
    | .ok (.pending false) => (disk, .goto (.opening none))
  | .connecting =>
    -- connecting creates the file of the copy, or opens one of the same name
    let name := backupName plan now
    (disk.setBackup name ((disk.backup name).getD .blank), .goto (.copying name))
  | .copying backup => (disk.setBackup backup disk.database, .goto (.verifying backup))
  | .verifying backup =>
    match disk.backup backup with
    | none => (disk, .finish (.error (operationalError "unable to open database file")))
    | some db =>
      if db.intact then (disk, .goto (.pruning backup))
      else (disk, .finish
        (.error (migrationError "Pre-migration backup failed integrity validation.")))
  | .pruning backup =>
    if process.retention < disk.backups.length then
      ({ disk with backups := disk.backups.eraseIdx process.retention }, .goto (.pruning backup))
    else (disk, .goto (.opening (some backup)))
  | .opening backup =>
    if process.pid ∈ disk.temporaries then
      (disk, .finish (.error (fileError "FileExistsError" "File exists")))
    else ({ disk with temporaries := process.pid :: disk.temporaries }, .goto (.placing backup))
  | .placing backup =>
    ({ disk with
        marker := some (marking plan backup now)
        temporaries := disk.temporaries.erase process.pid }, .goto .migrating)
  | .migrating =>
    match transaction plan now disk.database with
    | .error e => (disk, afterError e)
    | .ok db => ({ disk with database := db }, .goto .unmarking)
  | .unmarking => ({ disk with marker := none }, .goto .reporting)
  | .reporting => (disk, .finish (schemaSnapshot plan disk.database))
  | .unmarkingAfter e => ({ disk with marker := none }, .finish (.error e))

/-- An operation raises: the transaction is left by its `except` clause, the rest of a migration
has none. -/
def interrupted (e : PyException) : Phase → Next
  | .migrating => afterError e
  | _ => .finish (.error e)

/-! ## All migrations of one database -/

/-- `result` is that of the last migration that has ended. -/
structure World where
  disk : Disk
  process : Option Process
  result : Option (Except PyException MigrationSnapshot)

inductive Event where
  | begin (pid retention : ℕ)
  | advance (now : String)
  | raise (e : PyException)
  | crash
  | write (table : String) (rows : List (List SqlValue))
  | damage (content : Database)

def World.proceed (w : World) (process : Process) (disk : Disk) : Next → World
  | .goto phase => { w with disk := disk, process := some { process with phase := phase } }
  | .finish result => { disk := disk, process := none, result := some result }

/-- Other connections change rows, which the schema does not see. -/
def Database.setRows (db : Database) (table : String) (rows : List (List SqlValue)) : Database :=
  { db with tables := db.tables.map fun entry =>
      (entry.1, if entry.1 = table then { entry.2 with rows := rows } else entry.2) }

def retentionError : PyException :=
  .value .valueError "Backup retention must be between 1 and 50."

def step : Step World Event
  | w, .begin pid retention =>
    if w.process.isSome then none
    else if 1 ≤ retention ∧ retention ≤ 50 then
      some { w with process := some ⟨pid, retention, .recovering⟩, result := none }
    else some { w with result := some (.error retentionError) }
  | w, .advance now =>
    w.process.map fun process =>
      w.proceed process (advance plan now process w.disk).1 (advance plan now process w.disk).2
  | w, .raise e =>
    w.process.map fun process => w.proceed process w.disk (interrupted e process.phase)
  | w, .crash => w.process.map fun _ => { w with process := none, result := none }
  | w, .write table rows =>
    some { w with disk := { w.disk with database := w.disk.database.setRows table rows } }
  | w, .damage content =>
    some { w with disk := { w.disk with database := { content with intact := false } } }

end Steps

/-- No migration of the database has begun. -/
def World.start (db : Database) (temporaries : List ℕ) (backups : List (String × Database)) :
    World :=
  ⟨⟨db, none, temporaries, backups⟩, none, none⟩

/-! ## Lemmas on the files -/

/-- The marker of an interrupted migration names a backup. -/
def Disk.marksBackup (disk : Disk) : Bool :=
  match disk.marker with
  | some (.payload marker) => marker.backup.isSome
  | _ => false

theorem skeleton_setRows (db : Database) (table : String) (rows : List (List SqlValue)) :
    (db.setRows table rows).skeleton = db.skeleton := by
  simp only [Database.skeleton, Database.setRows, List.map_map]
  congr 1
  apply List.map_congr_left
  intro entry _
  by_cases h : entry.1 = table <;> simp [emptiedEntry, SqlTable.emptied, h]

theorem backup_setBackup (disk : Disk) (name : String) (db : Database) :
    (disk.setBackup name db).backup name = some db := by
  simp [Disk.backup, Disk.setBackup]

theorem backupName_ne (plan : SchemaMigrationPlan) (now : String) : backupName plan now ≠ "" := by
  intro h
  have hlength := congrArg String.length h
  simp [backupName, String.length_append] at hlength

theorem mem_of_backup {disk : Disk} {name : String} {copy : Database}
    (h : disk.backup name = some copy) :
    (name, copy) ∈ disk.backups := by
  obtain ⟨entry, he, rfl⟩ := Option.map_eq_some_iff.mp h
  have hname : entry.1 = name := by simpa using List.find?_some he
  rw [← hname]
  exact List.mem_of_find?_eq_some he

theorem proceed_database (w : World) (process : Process) (disk : Disk) (next : Next) :
    (w.proceed process disk next).disk = disk := by
  cases next <;> rfl

theorem proceed_congr {w w' : World} (h : w.result = w'.result) (process : Process) (disk : Disk)
    (next : Next) : w.proceed process disk next = w'.proceed process disk next := by
  cases next with
  | goto phase => simp only [World.proceed, h]
  | finish result => rfl

/-! ## What holds of the files -/

section Invariant
variable [Digest]

/-- A migration of the schema `sk` ends in `sk'`. -/
def Committed (plan : SchemaMigrationPlan) (sk sk' : Database) : Prop :=
  ∃ now, transaction plan now sk = .ok sk'

/-- The backup is readable and holds the schema `sk`. -/
def Disk.HasBackup (disk : Disk) (sk : Database) (name : String) : Prop :=
  name ≠ "" ∧ ∃ db, disk.backup name = some db ∧ db.intact = true ∧ db.skeleton = sk

structure DiskSound (plan : SchemaMigrationPlan) (sk : Database) (disk : Disk) : Prop where
  schema : disk.database.intact = true →
    disk.database.skeleton = sk ∨ Committed plan sk disk.database.skeleton
  retained : disk.database.intact = true → disk.database.skeleton ≠ sk →
    hasDomainState plan sk = true → ∃ name, disk.HasBackup sk name
  marked : ∀ file, disk.marker = some file →
    ∃ marker, file = .payload marker ∧ ∀ name, marker.backup = some name → disk.HasBackup sk name

/-- No migration is committed yet. -/
def Disk.Unmigrated (disk : Disk) (sk : Database) : Prop :=
  disk.database.intact = true → disk.database.skeleton = sk

/-- What the marker will say of the backup is right. -/
def Prepared (plan : SchemaMigrationPlan) (sk : Database) (disk : Disk) : Option String → Prop
  | none => hasDomainState plan sk = false
  | some name => disk.HasBackup sk name

/-- What a migration relies on before each of its operations. -/
def PhaseSound (plan : SchemaMigrationPlan) (sk : Database) (disk : Disk) : Phase → Prop
  | .recovering | .clearing | .unmarkingAfter _ => True
  | .restoring name => disk.database.intact = false ∧ disk.HasBackup sk name
  | .checking => disk.marker = none
  | .connecting => disk.marker = none ∧ disk.Unmigrated sk
  | .copying name => disk.marker = none ∧ disk.Unmigrated sk ∧ name ≠ ""
  | .verifying name => disk.marker = none ∧ disk.Unmigrated sk ∧ name ≠ "" ∧
      ∃ copy rest, disk.backups = (name, copy) :: rest ∧ (copy.intact = true → copy.skeleton = sk)
  | .pruning name => disk.marker = none ∧ disk.Unmigrated sk ∧ name ≠ "" ∧
      ∃ copy rest, disk.backups = (name, copy) :: rest ∧ copy.intact = true ∧ copy.skeleton = sk
  | .opening backup | .placing backup =>
      disk.marker = none ∧ disk.Unmigrated sk ∧ Prepared plan sk disk backup
  | .migrating => disk.Unmigrated sk ∧
      (hasDomainState plan sk = true → ∃ name, disk.HasBackup sk name)
  | .unmarking | .reporting =>
      disk.database.intact = true → Committed plan sk disk.database.skeleton

def NextSound (plan : SchemaMigrationPlan) (sk : Database) (disk : Disk) : Next → Prop
  | .goto phase => PhaseSound plan sk disk phase
  | .finish (.ok snapshot) => snapshot.integrityValid = true → snapshot.ready = true
  | .finish (.error _) => True

structure Sound (plan : SchemaMigrationPlan) (sk : Database) (w : World) : Prop where
  disk : DiskSound plan sk w.disk
  phase : ∀ process, w.process = some process →
    PhaseSound plan sk w.disk process.phase ∧ 1 ≤ process.retention
  result : ∀ snapshot, w.result = some (.ok snapshot) →
    snapshot.integrityValid = true → snapshot.ready = true

/-! ## Steps of other connections -/

variable {plan : SchemaMigrationPlan} {sk : Database} {disk : Disk} {db : Database}

/-- A change of the database that is seen as damaged, or that keeps the schema, keeps what is
known of the files. -/
theorem DiskSound.change (h : DiskSound plan sk disk)
    (hdb : db.intact = true → disk.database.intact = true ∧ db.skeleton = disk.database.skeleton) :
    DiskSound plan sk { disk with database := db } := by
  refine ⟨?_, ?_, h.marked⟩
  · intro hi
    obtain ⟨hi', hs⟩ := hdb hi
    exact hs ▸ h.schema hi'
  · intro hi hne hdomain
    obtain ⟨hi', hs⟩ := hdb hi
    exact h.retained hi' (hs ▸ hne) hdomain

theorem PhaseSound.change {phase : Phase} (h : PhaseSound plan sk disk phase)
    (hdb : db.intact = true → disk.database.intact = true ∧ db.skeleton = disk.database.skeleton) :
    PhaseSound plan sk { disk with database := db } phase := by
  have hun : disk.Unmigrated sk → Disk.Unmigrated { disk with database := db } sk := by
    intro hu hi
    obtain ⟨hi', hs⟩ := hdb hi
    exact hs.trans (hu hi')
  cases phase with
  | recovering => trivial
  | clearing => trivial
  | unmarkingAfter e => trivial
  | restoring name =>
    refine ⟨?_, h.2⟩
    by_contra hi
    obtain ⟨hi', -⟩ := hdb (by simpa using hi)
    rw [h.1] at hi'
    cases hi'
  | checking => exact h
  | connecting => exact ⟨h.1, hun h.2⟩
  | copying name => exact ⟨h.1, hun h.2.1, h.2.2⟩
  | verifying name => exact ⟨h.1, hun h.2.1, h.2.2⟩
  | pruning name => exact ⟨h.1, hun h.2.1, h.2.2⟩
  | opening backup =>
    obtain ⟨hm, hu, hp⟩ := h
    exact ⟨hm, hun hu, by cases backup <;> exact hp⟩
  | placing backup =>
    obtain ⟨hm, hu, hp⟩ := h
    exact ⟨hm, hun hu, by cases backup <;> exact hp⟩
  | migrating => exact ⟨hun h.1, h.2⟩
  | unmarking =>
    intro hi
    obtain ⟨hi', hs⟩ := hdb hi
    exact hs ▸ h hi'
  | reporting =>
    intro hi
    obtain ⟨hi', hs⟩ := hdb hi
    exact hs ▸ h hi'

theorem Sound.change {w : World} (h : Sound plan sk w)
    (hdb : db.intact = true →
      w.disk.database.intact = true ∧ db.skeleton = w.disk.database.skeleton) :
    Sound plan sk { w with disk := { w.disk with database := db } } :=
  ⟨h.disk.change hdb, fun p hp => ⟨(h.phase p hp).1.change hdb, (h.phase p hp).2⟩, h.result⟩

/-! ## Steps of a migration -/

theorem current_ready {db : Database} {snapshot : MigrationSnapshot}
    (h : preflight plan db = .ok (.current snapshot)) : snapshot.ready = true := by
  simp only [preflight, bind_eq_ok] at h
  obtain ⟨-, -, current, -, -, -, h⟩ := h
  cases current with
  | none => cases h
  | some record =>
    simp only [checkRecord, bind_eq_ok] at h
    obtain ⟨-, -, -, -, -, -, h⟩ := h
    split at h
    · rename_i hversion
      obtain ⟨-, -, h⟩ := bind_eq_ok.mp h
      cases h
      simp [MigrationSnapshot.ready, hversion]
    · cases h

/-- A migration is found to be due only where the database is intact, and `hasDomainState` is then
what the check computed. -/
theorem preflight_pending {db : Database} {domain : Bool}
    (h : preflight plan db = .ok (.pending domain)) :
    db.intact = true ∧ domain = hasDomainState plan db := by
  simp only [preflight, bind_eq_ok, assertIntegrity, raiseIf_eq_ok] at h
  obtain ⟨-, hi, current, -, -, -, h⟩ := h
  refine ⟨by simpa using hi, ?_⟩
  cases current with
  | none =>
    cases h
    rfl
  | some record =>
    simp only [checkRecord, bind_eq_ok] at h
    obtain ⟨-, -, -, -, -, -, h⟩ := h
    split at h
    · obtain ⟨-, -, h⟩ := bind_eq_ok.mp h
      cases h
    · cases h
      rfl

theorem snapshot_damaged {db : Database} {snapshot : MigrationSnapshot}
    (h : schemaSnapshot plan db = .ok snapshot) (hi : db.intact = false) :
    snapshot.integrityValid = false := by
  simp only [schemaSnapshot, bind_eq_ok, hi] at h
  obtain ⟨current, -, h⟩ := h
  cases current with
  | none =>
    cases h
    rfl
  | some record =>
    simp [bind, Except.bind] at h
    rw [← h]

/-- What is found to be due has the schema that the first migration found. -/
theorem unmigrated_of_pending (hplan : plan.Lawful) {domain : Bool} (h : DiskSound plan sk disk)
    (hpre : preflight plan disk.database = .ok (.pending domain)) :
    disk.Unmigrated sk ∧ domain = hasDomainState plan sk := by
  obtain ⟨hi, hdomain⟩ := preflight_pending hpre
  have hsk : disk.database.skeleton = sk := by
    rcases h.schema hi with hs | ⟨now, hnow⟩
    · exact hs
    · have hcurrent := preflight_of_transaction hplan hnow
      rw [preflight_skeleton hplan, hpre] at hcurrent
      cases hcurrent
  refine ⟨fun _ => hsk, ?_⟩
  rw [hdomain, ← hsk, hasDomainState_skeleton]

/-- Where the first migration is not committed, new backups are no concern of the files. -/
theorem DiskSound.of_unmigrated {backups : List (String × Database)}
    (hm : disk.marker = none) (hu : disk.Unmigrated sk) :
    DiskSound plan sk { disk with backups := backups } := by
  refine ⟨fun hi => .inl (hu hi), fun hi hne => absurd (hu hi) hne, ?_⟩
  intro file hfile
  rw [show ({ disk with backups := backups } : Disk).marker = none from hm] at hfile
  cases hfile

theorem recoverInterrupted_sound (h : DiskSound plan sk disk) :
    NextSound plan sk disk (recoverInterrupted disk) := by
  simp only [recoverInterrupted]
  cases hmarker : disk.marker with
  | none => exact hmarker
  | some file =>
    obtain ⟨marker, rfl, hbackup⟩ := h.marked file hmarker
    simp only
    by_cases hi : disk.database.intact = true
    · simp only [hi, if_true]
      trivial
    · simp only [hi]
      cases hb : marker.backup with
      | none => trivial
      | some name =>
        have hhas := hbackup name hb
        obtain ⟨hne, db, hdb, -⟩ := hbackup name hb
        simp only [hne, hdb]
        exact ⟨by simpa using hi, hhas⟩

theorem afterError_sound (e : PyException) : NextSound plan sk disk (afterError e) := by
  simp only [afterError]
  split <;> trivial

theorem interrupted_sound (e : PyException) (phase : Phase) :
    NextSound plan sk disk (interrupted e phase) := by
  cases phase with
  | migrating => exact afterError_sound e
  | _ => trivial

/-- Each operation of a migration, by the phase it is in. -/
theorem advance_sound (hplan : plan.Lawful) {process : Process} (h : DiskSound plan sk disk)
    (hphase : PhaseSound plan sk disk process.phase) (hretention : 1 ≤ process.retention)
    (now : String) :
    DiskSound plan sk (advance plan now process disk).1 ∧
      NextSound plan sk (advance plan now process disk).1 (advance plan now process disk).2 := by
  obtain ⟨pid, retention, phase⟩ := process
  cases phase with
  | recovering => exact ⟨h, recoverInterrupted_sound h⟩
  | restoring name =>
    obtain ⟨-, hne, db, hdb, hi, hs⟩ := hphase
    simp only [advance, hdb]
    exact ⟨⟨fun _ => .inl hs, fun _ hn => absurd hs hn, h.marked⟩, trivial⟩
  | clearing =>
    refine ⟨⟨h.schema, h.retained, ?_⟩, rfl⟩
    intro file hfile
    cases hfile
  | checking =>
    simp only [advance]
    cases hpre : preflight plan disk.database with
    | error e => exact ⟨h, trivial⟩
    | ok found =>
      cases found with
      | current snapshot => exact ⟨h, fun _ => current_ready hpre⟩
      | pending domain =>
        obtain ⟨hu, hdomain⟩ := unmigrated_of_pending hplan h hpre
        cases domain with
        | true => exact ⟨h, hphase, hu⟩
        | false => exact ⟨h, hphase, hu, hdomain.symm⟩
  | connecting =>
    obtain ⟨hm, hu⟩ := hphase
    exact ⟨.of_unmigrated hm hu, hm, hu, backupName_ne plan now⟩
  | copying name =>
    obtain ⟨hm, hu, hne⟩ := hphase
    exact ⟨.of_unmigrated hm hu, hm, hu, hne, _, _, rfl, hu⟩
  | verifying name =>
    obtain ⟨hm, hu, hne, copy, rest, hbackups, hcopy⟩ := hphase
    have hfound : disk.backup name = some copy := by simp [Disk.backup, hbackups]
    simp only [advance, hfound]
    by_cases hi : copy.intact = true
    · simp only [hi, if_true]
      exact ⟨h, hm, hu, hne, copy, rest, hbackups, hi, hcopy hi⟩
    · simp only [hi]
      exact ⟨h, trivial⟩
  | pruning name =>
    obtain ⟨hm, hu, hne, copy, rest, hbackups, hi, hcopy⟩ := hphase
    simp only [advance]
    by_cases hlen : retention < disk.backups.length
    · simp only [hlen, if_true]
      -- the new backup is the first entry, which the retention spares
      obtain ⟨k, rfl⟩ : ∃ k, retention = k + 1 := ⟨retention - 1, by
        have hpositive : 1 ≤ retention := hretention
        omega⟩
      refine ⟨.of_unmigrated hm hu, hm, hu, hne, copy, rest.eraseIdx k, ?_, hi, hcopy⟩
      simp [hbackups]
    · simp only [hlen, if_false]
      refine ⟨h, hm, hu, hne, copy, ?_, hi, hcopy⟩
      simp [Disk.backup, hbackups]
  | opening backup =>
    obtain ⟨hm, hu, hp⟩ := hphase
    simp only [advance]
    by_cases hpid : pid ∈ disk.temporaries
    · simp only [hpid, if_true]
      exact ⟨h, trivial⟩
    · simp only [hpid, if_false]
      exact ⟨⟨h.schema, h.retained, h.marked⟩, hm, hu, by cases backup <;> exact hp⟩
  | placing backup =>
    obtain ⟨hm, hu, hp⟩ := hphase
    simp only [advance]
    refine ⟨⟨h.schema, h.retained, ?_⟩, hu, ?_⟩
    · intro file hfile
      cases hfile
      refine ⟨_, rfl, ?_⟩
      intro name hname
      cases hname
      exact hp
    · intro hdomain
      cases backup with
      | none =>
        rw [show hasDomainState plan sk = false from hp] at hdomain
        cases hdomain
      | some name => exact ⟨name, hp⟩
  | migrating =>
    obtain ⟨hu, hretained⟩ := hphase
    simp only [advance]
    cases htx : transaction plan now disk.database with
    | error e => exact ⟨h, afterError_sound e⟩
    | ok db =>
      have hcommitted : disk.database.intact = true → Committed plan sk db.skeleton := by
        intro hi
        rw [← hu hi]
        exact ⟨now, transaction_skeleton hplan htx⟩
      have hi : disk.database.intact = true := by
        rw [← (transaction_extends hplan htx).intact]
        exact transaction_intact htx
      exact ⟨⟨fun _ => .inr (hcommitted hi), fun _ _ => hretained, h.marked⟩,
        fun _ => hcommitted hi⟩
  | unmarking =>
    refine ⟨⟨h.schema, h.retained, ?_⟩, hphase⟩
    intro file hfile
    cases hfile
  | reporting =>
    refine ⟨h, ?_⟩
    simp only [advance]
    by_cases hi : disk.database.intact = true
    · obtain ⟨at_, hcommitted⟩ := hphase hi
      have hsnapshot := snapshot_of_transaction hplan hcommitted
      rw [schemaSnapshot_skeleton hplan] at hsnapshot
      rw [hsnapshot]
      intro _
      simp [MigrationSnapshot.ready]
    · cases hs : schemaSnapshot plan disk.database with
      | error e => trivial
      | ok snapshot =>
        intro hvalid
        have hdamaged := snapshot_damaged hs (by simpa using hi)
        rw [hdamaged] at hvalid
        cases hvalid
  | unmarkingAfter e =>
    refine ⟨⟨h.schema, h.retained, ?_⟩, trivial⟩
    intro file hfile
    cases hfile

theorem Sound.proceed {w : World} {process : Process} {disk : Disk} {next : Next}
    (hdisk : DiskSound plan sk disk) (hnext : NextSound plan sk disk next)
    (hretention : 1 ≤ process.retention)
    (hresult : ∀ snapshot, w.result = some (.ok snapshot) →
      snapshot.integrityValid = true → snapshot.ready = true) :
    Sound plan sk (w.proceed process disk next) := by
  cases next with
  | goto phase =>
    refine ⟨hdisk, ?_, hresult⟩
    intro p hp
    cases hp
    exact ⟨hnext, hretention⟩
  | finish result =>
    refine ⟨hdisk, ?_, ?_⟩
    · intro p hp
      cases hp
    · intro snapshot hs
      cases hs
      exact hnext

theorem Sound.step (hplan : plan.Lawful) {w w' : World} {event : Event} (h : Sound plan sk w)
    (hstep : step plan w event = some w') : Sound plan sk w' := by
  cases event with
  | begin pid retention =>
    simp only [Migrations.step] at hstep
    split at hstep
    · cases hstep
    · split at hstep
      · rename_i hretention
        cases hstep
        refine ⟨h.disk, ?_, ?_⟩
        · intro p hp
          cases hp
          exact ⟨trivial, hretention.1⟩
        · intro snapshot hs
          cases hs
      · cases hstep
        refine ⟨h.disk, h.phase, ?_⟩
        intro snapshot hs
        cases hs
  | advance now =>
    simp only [Migrations.step, Option.map_eq_some_iff] at hstep
    obtain ⟨process, hp, rfl⟩ := hstep
    obtain ⟨hphase, hretention⟩ := h.phase process hp
    obtain ⟨hdisk, hnext⟩ := advance_sound hplan h.disk hphase hretention now
    exact .proceed hdisk hnext hretention h.result
  | raise e =>
    simp only [Migrations.step, Option.map_eq_some_iff] at hstep
    obtain ⟨process, hp, rfl⟩ := hstep
    exact .proceed h.disk (interrupted_sound e process.phase) (h.phase process hp).2 h.result
  | crash =>
    simp only [Migrations.step, Option.map_eq_some_iff] at hstep
    obtain ⟨process, -, rfl⟩ := hstep
    refine ⟨h.disk, ?_, ?_⟩
    · intro p hp
      cases hp
    · intro snapshot hs
      cases hs
  | write table rows =>
    cases hstep
    exact h.change fun hi => ⟨hi, skeleton_setRows w.disk.database table rows⟩
  | damage content =>
    cases hstep
    refine h.change ?_
    intro hi
    cases hi

theorem Sound.start (db : Database) (temporaries : List ℕ) (backups : List (String × Database)) :
    Sound plan db.skeleton (World.start db temporaries backups) := by
  refine ⟨⟨fun _ => .inl rfl, fun _ hne => absurd rfl hne, ?_⟩, ?_, ?_⟩
  · intro file hfile
    cases hfile
  · intro p hp
    cases hp
  · intro snapshot hs
    cases hs

theorem Sound.run (hplan : plan.Lawful) {temporaries : List ℕ} {backups : List (String × Database)}
    {events : List Event} {w : World}
    (h : run (Migrations.step plan) (World.start db temporaries backups) events = some w) :
    Sound plan db.skeleton w :=
  run_invariant (fun _ _ _ hw hstep => hw.step hplan hstep) (Sound.start db temporaries backups) h

/-! ## No step loses anything -/

/-- Steps of other connections, and accidents, which are no part of a migration. -/
def Event.isOutside : Event → Bool
  | .write _ _ | .damage _ => true
  | _ => false

theorem advance_extends (hplan : plan.Lawful) {process : Process}
    (hphase : PhaseSound plan sk disk process.phase) (hi : disk.database.intact = true)
    (now : String) :
    disk.database.Extends (advance plan now process disk).1.database := by
  have hsame : disk.database.Extends disk.database := .refl _
  obtain ⟨pid, retention, phase⟩ := process
  cases phase with
  | restoring name =>
    rw [hphase.1] at hi
    cases hi
  | migrating =>
    simp only [advance]
    cases htx : transaction plan now disk.database with
    | error e => exact hsame
    | ok db => exact transaction_extends hplan htx
  | checking =>
    simp only [advance]
    split <;> exact hsame
  | verifying name =>
    simp only [advance]
    split
    · exact hsame
    · split <;> exact hsame
  | pruning name =>
    simp only [advance]
    split <;> exact hsame
  | opening backup =>
    simp only [advance]
    split <;> exact hsame
  | _ => exact hsame

/-- Where the database is intact, a step of a migration extends it. -/
theorem Sound.extends_step (hplan : plan.Lawful) {w w' : World} {event : Event}
    (h : Sound plan sk w) (hstep : Migrations.step plan w event = some w')
    (hinside : event.isOutside = false)
    (hi : w.disk.database.intact = true) : w.disk.database.Extends w'.disk.database := by
  cases event with
  | begin pid retention =>
    simp only [Migrations.step] at hstep
    split at hstep
    · cases hstep
    · split at hstep <;> (cases hstep; exact .refl _)
  | advance now =>
    simp only [Migrations.step, Option.map_eq_some_iff] at hstep
    obtain ⟨process, hp, rfl⟩ := hstep
    rw [proceed_database]
    exact advance_extends hplan (h.phase process hp).1 hi now
  | raise e =>
    simp only [Migrations.step, Option.map_eq_some_iff] at hstep
    obtain ⟨process, -, rfl⟩ := hstep
    rw [proceed_database]
    exact .refl _
  | crash =>
    simp only [Migrations.step, Option.map_eq_some_iff] at hstep
    obtain ⟨process, -, rfl⟩ := hstep
    exact .refl _
  | write table rows => cases hinside
  | damage content => cases hinside

/-- What a run of migrations of the database `db` keeps, however it is interrupted. -/
structure Preserved (plan : SchemaMigrationPlan) (db : Database) (w : World) : Prop where
  schema : w.disk.database.intact = true →
    w.disk.database.skeleton = db.skeleton ∨ Committed plan db.skeleton w.disk.database.skeleton
  retained : w.disk.database.intact = true → w.disk.database.skeleton ≠ db.skeleton →
    hasDomainState plan db = true →
    ∃ name copy, (name, copy) ∈ w.disk.backups ∧ copy.intact = true ∧ copy.skeleton = db.skeleton
  lossless : ∀ event w', step plan w event = some w' → event.isOutside = false →
    w.disk.database.intact = true → w.disk.database.Extends w'.disk.database
  result : ∀ snapshot, w.result = some (.ok snapshot) → snapshot.integrityValid = true →
    snapshot.ready = true

end Invariant

namespace Sample

/-- The checksum of the audit schema. -/
scoped instance digest : Digest :=
  ⟨fun _ => "76838b11139d41a25985c5a784ef00e6f10c7e0b7d4e1e7038ab22a07d991af1"⟩

/-- An audit database from before the column `prev_event_hash`. -/
def legacyAudit : Database :=
  { Database.blank with
    tables := [("audit_events", ⟨auditColumns.filter (· ≠ "prev_event_hash"),
      [(.integer 1) :: List.replicate 15 (.text "x")]⟩)] }

/-- The migration is killed after its commit, and the database file is damaged then. -/
def interruption : List Event :=
  .begin 41 5 :: List.replicate 9 (.advance "20260101T000000") ++ [.crash, .damage .blank]

def afterDamage : Option World :=
  run (step MigratedStore.auditStore.plan) (World.start legacyAudit [] []) interruption

theorem afterDamage_facts : afterDamage.map (fun w =>
    (w.process.isNone, w.disk.marksBackup, decide (42 ∉ w.disk.temporaries))) =
      some (true, true, true) := by
  decide

end Sample

section
open Rygnal.Migrations.Sample

end

/-! ## A later migration completes -/

def Event.isWrite : Event → Bool
  | .write _ _ => true
  | _ => false

section Progress
variable [Digest]

/-- Every run of the migration in `w` that is not interrupted ends with a ready snapshot, whatever
the clock shows and other connections write in between. -/
inductive Completes (plan : SchemaMigrationPlan) : World → Prop
  | done {w : World} (snapshot : MigrationSnapshot) (ended : w.process = none)
      (result : w.result = some (.ok snapshot)) (ready : snapshot.ready = true)
      (current : preflight plan w.disk.database = .ok (.current snapshot)) : Completes plan w
  | proceed {w : World} (next : List Event → String → World)
      (taken : ∀ writes now, (∀ e ∈ writes, e.isWrite = true) →
        run (step plan) w (writes ++ [.advance now]) = some (next writes now))
      (rest : ∀ writes now, (∀ e ∈ writes, e.isWrite = true) → Completes plan (next writes now)) :
      Completes plan w

/-- The transaction succeeds on the schema. -/
def Migratable (plan : SchemaMigrationPlan) (db : Database) : Prop :=
  ∃ now migrated, transaction plan now db = .ok migrated

/-- The store can use the database: its schema is current, or due and can be migrated. -/
def Adoptable (plan : SchemaMigrationPlan) (db : Database) : Prop :=
  (∃ snapshot, preflight plan db = .ok (.current snapshot)) ∨
    (∃ domain, preflight plan db = .ok (.pending domain)) ∧ Migratable plan db

variable {plan : SchemaMigrationPlan}

theorem Migratable.of_skeleton (hplan : plan.Lawful) {db db' : Database}
    (hs : db'.skeleton = db.skeleton) (h : Migratable plan db) (now : String) :
    ∃ migrated, transaction plan now db' = .ok migrated := by
  obtain ⟨at_, migrated, htx⟩ := h
  have htx' := transaction_skeleton hplan htx
  rw [← hs] at htx'
  exact transaction_of_skeleton hplan htx'

theorem Adoptable.of_skeleton (hplan : plan.Lawful) {db db' : Database}
    (hs : db'.skeleton = db.skeleton) (h : Adoptable plan db) : Adoptable plan db' := by
  have hpre : preflight plan db' = preflight plan db := by
    rw [← preflight_skeleton hplan db', hs, preflight_skeleton hplan]
  rcases h with ⟨snapshot, hcurrent⟩ | ⟨⟨domain, hpending⟩, hmigratable⟩
  · exact .inl ⟨snapshot, hpre.trans hcurrent⟩
  · exact .inr ⟨⟨domain, hpre.trans hpending⟩, "", hmigratable.of_skeleton hplan hs ""⟩

theorem run_writes (plan : SchemaMigrationPlan) (w : World) {writes : List Event}
    (hwrites : ∀ e ∈ writes, e.isWrite = true) :
    ∃ db, run (step plan) w writes = some { w with disk := { w.disk with database := db } } ∧
      db.skeleton = w.disk.database.skeleton := by
  induction writes generalizing w with
  | nil => exact ⟨w.disk.database, rfl, rfl⟩
  | cons event writes ih =>
    have hevent := hwrites event List.mem_cons_self
    cases event with
    | write table rows =>
      obtain ⟨db, hrun, hs⟩ := ih
        { w with disk := { w.disk with database := w.disk.database.setRows table rows } }
        fun e he => hwrites e (List.mem_cons_of_mem _ he)
      exact ⟨db, hrun, hs.trans (skeleton_setRows _ _ _)⟩
    | _ => cases hevent

/-- A migration completes if it does after its next operation, whatever rows that one finds. -/
theorem Completes.of_advance {disk : Disk} {process : Process}
    {result : Option (Except PyException MigrationSnapshot)}
    (h : ∀ db now, db.skeleton = disk.database.skeleton →
      Completes plan (World.proceed ⟨disk, some process, result⟩ process
        (advance plan now process { disk with database := db }).1
        (advance plan now process { disk with database := db }).2)) :
    Completes plan ⟨disk, some process, result⟩ := by
  have hstep : ∀ writes now, (∀ e ∈ writes, e.isWrite = true) →
      ∃ w', run (step plan) ⟨disk, some process, result⟩ (writes ++ [.advance now]) = some w' ∧
        Completes plan w' := by
    intro writes now hwrites
    obtain ⟨db, hrun, hs⟩ := run_writes plan ⟨disk, some process, result⟩ hwrites
    refine ⟨_, run_append_eq_some.mpr ⟨_, hrun, rfl⟩, ?_⟩
    have hcompletes := h db now hs
    have hresult : (World.mk disk (some process) result).result =
        (World.mk { disk with database := db } (some process) result).result := rfl
    rw [proceed_congr hresult] at hcompletes
    exact hcompletes
  refine .proceed (fun writes now =>
    (run (step plan) ⟨disk, some process, result⟩ (writes ++ [.advance now])).getD
      ⟨disk, some process, result⟩) ?_ ?_
  · intro writes now hwrites
    obtain ⟨w', hw', -⟩ := hstep writes now hwrites
    rw [hw', Option.getD_some]
  · intro writes now hwrites
    obtain ⟨w', hw', hc⟩ := hstep writes now hwrites
    rw [hw', Option.getD_some]
    exact hc

variable {disk : Disk} {pid retention : ℕ} {result : Option (Except PyException MigrationSnapshot)}

/-- The database has a migrated schema, with any rows. -/
def Disk.Migrated (plan : SchemaMigrationPlan) (disk : Disk) : Prop :=
  ∃ sk, Committed plan sk disk.database.skeleton

theorem completes_reporting (hplan : plan.Lawful) (h : disk.Migrated plan) :
    Completes plan ⟨disk, some ⟨pid, retention, .reporting⟩, result⟩ := by
  refine .of_advance ?_
  intro db now hs
  obtain ⟨sk, at_, hcommitted⟩ := h
  rw [← hs] at hcommitted
  have hsnapshot := snapshot_of_transaction hplan hcommitted
  have hpre := preflight_of_transaction hplan hcommitted
  rw [schemaSnapshot_skeleton hplan] at hsnapshot
  rw [preflight_skeleton hplan] at hpre
  refine .done _ rfl ?_ (current_ready hpre) hpre
  simp only [advance, hsnapshot, World.proceed]

theorem completes_unmarking (hplan : plan.Lawful) (h : disk.Migrated plan) :
    Completes plan ⟨disk, some ⟨pid, retention, .unmarking⟩, result⟩ := by
  refine .of_advance ?_
  intro db now hs
  obtain ⟨sk, at_, hcommitted⟩ := h
  rw [← hs] at hcommitted
  exact completes_reporting hplan ⟨sk, at_, hcommitted⟩

theorem completes_migrating (hplan : plan.Lawful)
    (h : Migratable plan disk.database) :
    Completes plan ⟨disk, some ⟨pid, retention, .migrating⟩, result⟩ := by
  refine .of_advance ?_
  intro db now hs
  obtain ⟨db', hdb'⟩ := h.of_skeleton hplan hs now
  simp only [advance, hdb']
  exact completes_unmarking hplan ⟨db.skeleton, now, transaction_skeleton hplan hdb'⟩

theorem completes_placing (hplan : plan.Lawful) {backup : Option String}
    (h : Migratable plan disk.database) :
    Completes plan ⟨disk, some ⟨pid, retention, .placing backup⟩, result⟩ := by
  refine .of_advance ?_
  intro db now hs
  have hmigratable : Migratable plan db := ⟨now, h.of_skeleton hplan hs now⟩
  exact completes_migrating hplan hmigratable

theorem completes_opening (hplan : plan.Lawful) {backup : Option String}
    (hpid : pid ∉ disk.temporaries)
    (h : Migratable plan disk.database) :
    Completes plan ⟨disk, some ⟨pid, retention, .opening backup⟩, result⟩ := by
  refine .of_advance ?_
  intro db now hs
  have hmigratable : Migratable plan db := ⟨now, h.of_skeleton hplan hs now⟩
  simp only [advance, hpid, if_false]
  exact completes_placing hplan hmigratable

/-- The pruning ends, by the number of the backups. -/
theorem completes_pruning (hplan : plan.Lawful) {backup : String}
    (hpid : pid ∉ disk.temporaries)
    (h : Migratable plan disk.database) :
    Completes plan ⟨disk, some ⟨pid, retention, .pruning backup⟩, result⟩ := by
  induction hn : disk.backups.length generalizing disk with
  | zero =>
    refine .of_advance ?_
    intro db now hs
    have hmigratable : Migratable plan db := ⟨now, h.of_skeleton hplan hs now⟩
    simp only [advance, hn, Nat.not_lt_zero, if_false]
    exact completes_opening hplan hpid hmigratable
  | succ n ih =>
    refine .of_advance ?_
    intro db now hs
    have hmigratable : Migratable plan db := ⟨now, h.of_skeleton hplan hs now⟩
    by_cases hlen : retention < disk.backups.length
    · simp only [advance, hlen, if_true]
      refine ih hpid hmigratable ?_
      rw [List.length_eraseIdx_of_lt hlen, hn]
      rfl
    · simp only [advance, hlen, if_false]
      exact completes_opening hplan hpid hmigratable

theorem completes_verifying (hplan : plan.Lawful) {backup : String} {copy : Database}
    (hcopy : disk.backup backup = some copy) (hi : copy.intact = true)
    (hpid : pid ∉ disk.temporaries)
    (h : Migratable plan disk.database) :
    Completes plan ⟨disk, some ⟨pid, retention, .verifying backup⟩, result⟩ := by
  refine .of_advance ?_
  intro db now hs
  have hmigratable : Migratable plan db := ⟨now, h.of_skeleton hplan hs now⟩
  have hcopy' : Disk.backup { disk with database := db } backup = some copy := hcopy
  simp only [advance, hcopy', hi, if_true]
  exact completes_pruning hplan hpid hmigratable

theorem completes_copying (hplan : plan.Lawful) {backup : String}
    (hi : disk.database.intact = true) (hpid : pid ∉ disk.temporaries)
    (h : Migratable plan disk.database) :
    Completes plan ⟨disk, some ⟨pid, retention, .copying backup⟩, result⟩ := by
  refine .of_advance ?_
  intro db now hs
  have hmigratable : Migratable plan db := ⟨now, h.of_skeleton hplan hs now⟩
  have hi' : db.intact = true := by rw [← intact_skeleton, hs, intact_skeleton, hi]
  exact completes_verifying hplan (backup_setBackup _ backup db) hi' hpid hmigratable

theorem completes_connecting (hplan : plan.Lawful)
    (hi : disk.database.intact = true) (hpid : pid ∉ disk.temporaries)
    (h : Migratable plan disk.database) :
    Completes plan ⟨disk, some ⟨pid, retention, .connecting⟩, result⟩ := by
  refine .of_advance ?_
  intro db now hs
  have hmigratable : Migratable plan db := ⟨now, h.of_skeleton hplan hs now⟩
  have hi' : db.intact = true := by rw [← intact_skeleton, hs, intact_skeleton, hi]
  exact completes_copying hplan hi' hpid hmigratable

theorem completes_checking (hplan : plan.Lawful) (hpid : pid ∉ disk.temporaries)
    (h : Adoptable plan disk.database) :
    Completes plan ⟨disk, some ⟨pid, retention, .checking⟩, result⟩ := by
  refine .of_advance ?_
  intro db now hs
  rcases h.of_skeleton hplan hs with ⟨snapshot, hcurrent⟩ | ⟨⟨domain, hpending⟩, hmigratable⟩
  · refine .done snapshot ?_ ?_ (current_ready hcurrent) ?_
    · simp only [advance, hcurrent, World.proceed]
    · simp only [advance, hcurrent, World.proceed]
    · simp only [advance, hcurrent, World.proceed]
  · simp only [advance, hpending]
    cases domain with
    | true => exact completes_connecting hplan (preflight_pending hpending).1 hpid hmigratable
    | false => exact completes_opening hplan hpid hmigratable

theorem completes_clearing (hplan : plan.Lawful) (hpid : pid ∉ disk.temporaries)
    (h : Adoptable plan disk.database) :
    Completes plan ⟨disk, some ⟨pid, retention, .clearing⟩, result⟩ := by
  refine .of_advance ?_
  intro db now hs
  exact completes_checking hplan hpid (h.of_skeleton hplan hs)

theorem completes_restoring (hplan : plan.Lawful) {backup : String} {copy : Database}
    (hcopy : disk.backup backup = some copy) (hpid : pid ∉ disk.temporaries)
    (h : Adoptable plan copy) :
    Completes plan ⟨disk, some ⟨pid, retention, .restoring backup⟩, result⟩ := by
  refine .of_advance ?_
  intro db now hs
  have hcopy' : Disk.backup { disk with database := db } backup = some copy := hcopy
  simp only [advance, hcopy']
  exact completes_clearing hplan hpid h

theorem completes_recovering (hplan : plan.Lawful) {sk : Database} (hsound : DiskSound plan sk disk)
    (hadoptable : Adoptable plan sk)
    (hsafe : disk.database.intact = true ∨ disk.marksBackup = true)
    (hpid : pid ∉ disk.temporaries) :
    Completes plan ⟨disk, some ⟨pid, retention, .recovering⟩, result⟩ := by
  have hdatabase : disk.database.intact = true → Adoptable plan disk.database := by
    intro hi
    rcases hsound.schema hi with hs | ⟨now, hcommitted⟩
    · rw [← hs] at hadoptable
      exact hadoptable.of_skeleton hplan (skeleton_skeleton _).symm
    · have hcurrent := preflight_of_transaction hplan hcommitted
      rw [preflight_skeleton hplan] at hcurrent
      exact .inl ⟨_, hcurrent⟩
  refine .of_advance ?_
  intro db now hs
  have hi' : db.intact = disk.database.intact := by rw [← intact_skeleton, hs, intact_skeleton]
  simp only [advance, recoverInterrupted]
  cases hmarker : disk.marker with
  | none =>
    have hi : disk.database.intact = true := by simpa [Disk.marksBackup, hmarker] using hsafe
    exact completes_checking hplan hpid ((hdatabase hi).of_skeleton hplan hs)
  | some file =>
    obtain ⟨marker, rfl, hbackup⟩ := hsound.marked file hmarker
    by_cases hi : disk.database.intact = true
    · simp only [hi', hi, if_true]
      exact completes_clearing hplan hpid ((hdatabase hi).of_skeleton hplan hs)
    · have hmarks : marker.backup.isSome = true := by
        simpa [hi, Disk.marksBackup, hmarker] using hsafe
      obtain ⟨name, hname⟩ := Option.isSome_iff_exists.mp hmarks
      obtain ⟨hne, copy, hcopy, -, hsk⟩ := hbackup name hname
      have hcopy' : ∀ d m, Disk.backup ⟨d, m, disk.temporaries, disk.backups⟩ name = some copy :=
        fun _ _ => hcopy
      simp only [hi', hi, hname, hne, hcopy', Option.isNone_some, Bool.false_eq_true, if_false]
      refine completes_restoring hplan (hcopy' db _) hpid ?_
      rw [← hsk] at hadoptable
      exact hadoptable.of_skeleton hplan (skeleton_skeleton _).symm

end Progress

open Rygnal.Migrations.Sample

end Rygnal.Migrations
