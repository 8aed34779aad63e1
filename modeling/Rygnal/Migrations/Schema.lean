import Mathlib.Data.List.Basic
import Rygnal.Core.Exceptions
import Rygnal.Core.Json

/-! # Schemas of the local databases

The statements that `sqlite_migrations.py` executes on a database, its three migration plans and the
transaction that applies one. A database is kept with its rows: a migration reads only the schema,
which `skeleton` is, and `Extends` says that it loses no table, column, index or value.
-/

namespace Rygnal.Migrations
open Rygnal.Core Rygnal.Core.PyException

/-! ## Databases -/

inductive SqlValue where
  | null
  | integer (n : ℤ)
  | real (digits : String)
  | text (s : String)
deriving DecidableEq, Repr

structure SqlTable where
  columns : List String
  rows : List (List SqlValue)
deriving DecidableEq, Repr

/-- A row of `rygnal_schema_metadata`. -/
structure SchemaRecord where
  component : String
  version : ℤ
  checksum : String
  state : String
  updatedAt : String
deriving DecidableEq, Repr

/-- A row of `rygnal_migration_history`. -/
structure HistoryRecord where
  component : String
  version : ℤ
  checksum : String
  appliedAt : String
deriving DecidableEq, Repr

/-- `metadata` and `history` are `none` where their table does not exist, and `intact` says that
`PRAGMA integrity_check` answers `ok`. -/
structure Database where
  tables : List (String × SqlTable)
  indexes : List String
  metadata : Option (List SchemaRecord)
  history : Option (List HistoryRecord)
  userVersion : ℤ
  intact : Bool
deriving DecidableEq, Repr

namespace Database

/-- What a file holds that `sqlite3.connect` has just created. -/
def blank : Database := ⟨[], [], none, none, 0, true⟩

def table (db : Database) (name : String) : Option SqlTable :=
  (db.tables.find? fun entry => entry.1 = name).map Prod.snd

end Database

/-- The names of SQL are read without the case of ASCII letters. -/
def sameName (a b : String) : Bool := a.toList.map Char.toLower = b.toList.map Char.toLower

namespace Database

/-- The table that a statement names. -/
def namedTable (db : Database) (name : String) : Option SqlTable :=
  (db.tables.find? fun entry => sameName entry.1 name).map Prod.snd

def hasTableNamed (db : Database) (name : String) : Bool :=
  db.tables.any fun entry => sameName entry.1 name

def hasIndexNamed (db : Database) (name : String) : Bool := db.indexes.any (sameName name)

def tableExists (db : Database) (table : String) : Bool := (db.table table).isSome

def columnNames (db : Database) (table : String) : List String :=
  ((db.table table).map SqlTable.columns).getD []

end Database

/-! ## Statements -/

def operationalError (message : String) : PyException :=
  ⟨[.other "OperationalError", .other "DatabaseError", .exception, .baseException], message⟩

def migrationError (message : String) : PyException :=
  .runtime (.other "SQLiteMigrationError") message

/-- An exception of a class below `SQLiteMigrationError`. -/
def schemaError (cls message : String) : PyException :=
  ⟨[.other cls, .other "SQLiteMigrationError", .runtimeError, .exception, .baseException], message⟩

def validationError (message : String) : PyException :=
  schemaError "SQLiteSchemaValidationError" message

def futureSchemaError : PyException :=
  schemaError "SQLiteFutureSchemaError" "Database schema is newer than this Rygnal build."

abbrev MigrationFunction := Database → Except PyException Database
abbrev ValidationFunction := Database → Except PyException Unit

/-- `CREATE TABLE IF NOT EXISTS`. -/
def createTable (name : String) (columns : List String) : MigrationFunction := fun db =>
  if db.hasTableNamed name then .ok db
  else if db.hasIndexNamed name then
    .error (operationalError ("there is already an index named " ++ name))
  else .ok { db with tables := db.tables ++ [(name, ⟨columns, []⟩)] }

/-- A new column that holds `NULL` in every row. -/
def SqlTable.addColumn (t : SqlTable) (column : String) : SqlTable :=
  ⟨t.columns ++ [column], t.rows.map (· ++ [.null])⟩

def widen (column table : String) (tables : List (String × SqlTable)) : List (String × SqlTable) :=
  tables.map fun entry =>
    if sameName entry.1 table then (entry.1, entry.2.addColumn column) else entry

/-- `ALTER TABLE ... ADD COLUMN`. -/
def addColumn (table column : String) : MigrationFunction := fun db =>
  match db.namedTable table with
  | none => .error (operationalError ("no such table: " ++ table))
  | some t =>
    if t.columns.any (sameName column) then
      .error (operationalError ("duplicate column name: " ++ column))
    else .ok { db with tables := widen column table db.tables }

/-- `CREATE INDEX IF NOT EXISTS` on one column. -/
def createIndex (name table column : String) : MigrationFunction := fun db =>
  match db.namedTable table with
  | none => .error (operationalError ("no such table: main." ++ table))
  | some t =>
    if db.hasTableNamed name then
      .error (operationalError ("there is already a table named " ++ name))
    else if db.hasIndexNamed name then .ok db
    else if t.columns.any (sameName column) then .ok { db with indexes := db.indexes ++ [name] }
    else .error (operationalError ("table " ++ table ++ " has no column named " ++ column))

/-- The `ALTER TABLE` of a table that may have the column. -/
def addMissingColumn (table column : String) : MigrationFunction := fun db =>
  if column ∈ db.columnNames table then .ok db else addColumn table column db

def requireColumns (table : String) (required : List String) : ValidationFunction := fun db =>
  raiseIf (required.any (· ∉ db.columnNames table))
    (validationError ("Database table " ++ table ++ " is missing required columns."))

/-- The statements one after the other. -/
def execute : List MigrationFunction → MigrationFunction
  | [], db => .ok db
  | statement :: statements, db => statement db >>= execute statements

def validateAll : List ValidationFunction → ValidationFunction
  | [], _ => .ok ()
  | check :: checks, db => check db >>= fun _ => validateAll checks db

/-! ## The three plans -/

structure SchemaMigrationPlan where
  component : String
  targetVersion : ℤ
  signature : String
  domainTables : List String
  apply : MigrationFunction
  validate : ValidationFunction

def SchemaMigrationPlan.checksum [Digest] (plan : SchemaMigrationPlan) : String :=
  Digest.sha256 plan.signature

def approvalColumns : List String :=
  ["id", "approval_id", "status", "request_json", "decision_json", "created_at", "updated_at"]

def auditColumns : List String :=
  ["id", "event_id", "timestamp", "trace_id", "user_id", "agent_id", "environment", "tool_name",
    "action", "decision", "allowed", "severity", "policy_id", "reason", "prev_event_hash",
    "event_hash", "payload_json"]

def operationColumns : List String :=
  ["schema_version", "operation_key", "operation_type", "resource_key", "artifact_id",
    "approval_id", "patch_sha256", "baseline_commit_sha", "target_repo_path", "state",
    "owner_token", "owner_pid", "owner_start_token", "created_at_unix", "updated_at_unix",
    "retryable", "result_json", "error_text"]

def leaseColumns : List String :=
  ["resource_key", "operation_key", "owner_token", "owner_pid", "owner_start_token",
    "created_at_unix"]

def applyApprovalSchema : MigrationFunction := execute
  [createTable "approval_queue" approvalColumns,
    createIndex "idx_approval_queue_status" "approval_queue" "status"]

def applyAuditSchema : MigrationFunction := execute
  [createTable "audit_events" auditColumns,
    addMissingColumn "audit_events" "prev_event_hash",
    createIndex "idx_audit_events_trace_id" "audit_events" "trace_id",
    createIndex "idx_audit_events_policy_id" "audit_events" "policy_id",
    createIndex "idx_audit_events_tool_name" "audit_events" "tool_name",
    createIndex "idx_audit_events_decision" "audit_events" "decision"]

def applyOperationSchema : MigrationFunction := execute
  [createTable "operations" operationColumns,
    createTable "resource_leases" leaseColumns,
    createIndex "idx_operations_state" "operations" "state",
    createIndex "idx_operations_artifact" "operations" "artifact_id"]

def validateApprovalSchema : ValidationFunction := requireColumns "approval_queue" approvalColumns

def validateAuditSchema : ValidationFunction := requireColumns "audit_events" auditColumns

def validateOperationSchema : ValidationFunction :=
  validateAll [requireColumns "operations" operationColumns,
    requireColumns "resource_leases" leaseColumns]

def approvalSchemaSignature : String :=
  "approval_queue.v1:\napproval_queue(\n id integer primary key autoincrement,\n" ++
  " approval_id text unique not null,\n status text not null,\n request_json text not null,\n" ++
  " decision_json text,\n created_at text not null,\n updated_at text not null\n)\nindex(status)"

def auditSchemaSignature : String :=
  "audit_events.v1:\naudit_events(\n id integer primary key autoincrement,\n" ++
  " event_id text unique not null,\n timestamp text not null,\n trace_id text not null,\n" ++
  " user_id text not null,\n agent_id text not null,\n environment text not null,\n" ++
  " tool_name text not null,\n action text,\n decision text not null,\n" ++
  " allowed integer not null,\n severity text not null,\n policy_id text,\n" ++
  " reason text not null,\n prev_event_hash text,\n event_hash text unique not null,\n" ++
  " payload_json text not null\n)\nindexes(trace_id,policy_id,tool_name,decision)"

def operationSchemaSignature : String :=
  "operations.v1:\noperations(\n schema_version text not null,\n operation_key text primary key,\n" ++
  " operation_type text not null,\n resource_key text not null,\n artifact_id text not null,\n" ++
  " approval_id text not null,\n patch_sha256 text not null,\n" ++
  " baseline_commit_sha text not null,\n target_repo_path text not null,\n" ++
  " state text not null,\n owner_token text not null,\n owner_pid integer not null,\n" ++
  " owner_start_token text not null,\n created_at_unix real not null,\n" ++
  " updated_at_unix real not null,\n retryable integer not null,\n result_json text,\n" ++
  " error_text text\n)\nresource_leases(resource_key primary key,operation_key unique)\n" ++
  "indexes(state,artifact_id)"

/-- The stores whose databases are migrated when they are opened. -/
inductive MigratedStore where
  | approvalQueue
  | auditStore
  | operationStore
deriving DecidableEq, Repr

/-- The plans of `migrate_approval_database`, `migrate_audit_database` and
`migrate_operation_database`. -/
def MigratedStore.plan : MigratedStore → SchemaMigrationPlan
  | .approvalQueue => ⟨"approval_queue", 1, approvalSchemaSignature, ["approval_queue"],
      applyApprovalSchema, validateApprovalSchema⟩
  | .auditStore => ⟨"audit_store", 1, auditSchemaSignature, ["audit_events"],
      applyAuditSchema, validateAuditSchema⟩
  | .operationStore => ⟨"operation_store", 1, operationSchemaSignature,
      ["operations", "resource_leases"], applyOperationSchema, validateOperationSchema⟩

/-! ## Reading the schema -/

structure MigrationSnapshot where
  component : String
  version : ℤ
  targetVersion : ℤ
  checksumValid : Bool
  integrityValid : Bool
deriving DecidableEq, Repr

def MigrationSnapshot.ready (snapshot : MigrationSnapshot) : Bool :=
  snapshot.version = snapshot.targetVersion && snapshot.checksumValid && snapshot.integrityValid

def readSchemaRecord (db : Database) : Except PyException (Option SchemaRecord) :=
  match db.metadata with
  | none | some [] => .ok none
  | some [record] =>
    if record.state = "ready" then .ok (some record)
    else .error (validationError "Database schema metadata is not ready.")
  | some (_ :: _ :: _) =>
    .error (validationError "Database contains conflicting schema metadata.")

def assertIntegrity (db : Database) : Except PyException Unit :=
  raiseIf (!db.intact) (validationError "SQLite integrity validation failed.")

def hasDomainState (plan : SchemaMigrationPlan) (db : Database) : Bool :=
  plan.domainTables.any db.tableExists

/-- What the checks before a migration find. -/
inductive Preflight where
  | current (snapshot : MigrationSnapshot)
  | pending (hasDomainState : Bool)
deriving DecidableEq, Repr

section Migration
variable [Digest]

/-- The checks of a recorded schema. -/
def checkRecord (plan : SchemaMigrationPlan) (db : Database) (record : SchemaRecord) :
    Except PyException Preflight := do
  raiseIf (record.component ≠ plan.component)
    (validationError "Database schema component does not match the selected store.")
  raiseIf (record.version > plan.targetVersion) futureSchemaError
  raiseIf (record.version = plan.targetVersion ∧ record.checksum ≠ plan.checksum)
    (schemaError "SQLiteSchemaChecksumError"
      "Database schema checksum does not match this Rygnal build.")
  if record.version = plan.targetVersion then
    plan.validate db
    .ok (.current ⟨plan.component, record.version, plan.targetVersion, true, true⟩)
  else .ok (.pending (hasDomainState plan db))

/-- `migrate_sqlite_schema` up to its backup. -/
def preflight (plan : SchemaMigrationPlan) (db : Database) : Except PyException Preflight := do
  assertIntegrity db
  let current ← readSchemaRecord db
  raiseIf (db.userVersion > plan.targetVersion) futureSchemaError
  match current with
  | some record => checkRecord plan db record
  | none => .ok (.pending (hasDomainState plan db))

def createMetadataTables (db : Database) : Database :=
  { db with metadata := some (db.metadata.getD []), history := some (db.history.getD []) }

/-- `INSERT OR IGNORE` into a table with the key `(component, version)`. -/
def insertHistory (record : HistoryRecord) (history : List HistoryRecord) : List HistoryRecord :=
  if history.any fun old => old.component = record.component ∧ old.version = record.version then
    history
  else history ++ [record]

/-- The metadata that a migration writes: the record, the history and the user version. -/
def recordMigration (plan : SchemaMigrationPlan) (now : String) (db : Database) : Database :=
  { db with
    metadata := some [⟨plan.component, plan.targetVersion, plan.checksum, "ready", now⟩]
    history := db.history.map (insertHistory ⟨plan.component, plan.targetVersion, plan.checksum, now⟩)
    userVersion := plan.targetVersion }

/-- What the migration does between `BEGIN EXCLUSIVE` and its commit. -/
def transaction (plan : SchemaMigrationPlan) (now : String) (db : Database) :
    Except PyException Database := do
  let current ← readSchemaRecord (createMetadataTables db)
  raiseIf ((current.elim 0 SchemaRecord.version) > plan.targetVersion) futureSchemaError
  let applied ← plan.apply (createMetadataTables db)
  plan.validate applied
  assertIntegrity (recordMigration plan now applied)
  .ok (recordMigration plan now applied)

/-- The validator under `except SQLiteMigrationError`. -/
def validForSnapshot (plan : SchemaMigrationPlan) (db : Database) : Except PyException Bool :=
  match plan.validate db with
  | .ok () => .ok true
  | .error e => if e.isInstance [.other "SQLiteMigrationError"] then .ok false else .error e

/-- `schema_snapshot` with the plan's validator. -/
def schemaSnapshot (plan : SchemaMigrationPlan) (db : Database) :
    Except PyException MigrationSnapshot := do
  match ← readSchemaRecord db with
  | none => .ok ⟨plan.component, 0, plan.targetVersion, false, db.intact⟩
  | some record =>
    let checksumValid := record.component = plan.component && record.checksum = plan.checksum
    let integrityValid ←
      if db.intact && checksumValid then validForSnapshot plan db else .ok db.intact
    .ok ⟨record.component, record.version, plan.targetVersion, checksumValid, integrityValid⟩

end Migration

/-! ## Schemas without their rows -/

def SqlTable.emptied (t : SqlTable) : SqlTable := { t with rows := [] }

/-- The entry of a table without its rows. -/
def emptiedEntry (entry : String × SqlTable) : String × SqlTable := (entry.1, entry.2.emptied)

/-- All of a database but the rows of its tables. -/
def Database.skeleton (db : Database) : Database :=
  { db with tables := db.tables.map emptiedEntry }

section Skeleton
variable (db : Database)

@[simp] theorem userVersion_skeleton : db.skeleton.userVersion = db.userVersion := rfl
@[simp] theorem intact_skeleton : db.skeleton.intact = db.intact := rfl

theorem tables_skeleton : db.skeleton.tables = db.tables.map emptiedEntry := rfl

@[simp] theorem skeleton_skeleton : db.skeleton.skeleton = db.skeleton := by
  simp only [Database.skeleton, List.map_map]
  congr 1

/-- Finding an entry by its name does not depend on the rows. -/
theorem find?_emptied (p : String → Bool) (tables : List (String × SqlTable)) :
    (tables.map emptiedEntry).find? (fun entry => p entry.1) =
      (tables.find? fun entry => p entry.1).map emptiedEntry := by
  rw [List.find?_map]
  rfl

@[simp] theorem table_skeleton (name : String) :
    db.skeleton.table name = (db.table name).map SqlTable.emptied := by
  simp only [Database.table, tables_skeleton, find?_emptied fun n => decide (n = name)]
  cases db.tables.find? fun entry => decide (entry.1 = name) <;> rfl

@[simp] theorem namedTable_skeleton (name : String) :
    db.skeleton.namedTable name = (db.namedTable name).map SqlTable.emptied := by
  simp only [Database.namedTable, tables_skeleton, find?_emptied fun n => sameName n name]
  cases db.tables.find? fun entry => sameName entry.1 name <;> rfl

@[simp] theorem hasTableNamed_skeleton (name : String) :
    db.skeleton.hasTableNamed name = db.hasTableNamed name := by
  simp only [Database.hasTableNamed, tables_skeleton, List.any_map]
  rfl

@[simp] theorem hasIndexNamed_skeleton (name : String) :
    db.skeleton.hasIndexNamed name = db.hasIndexNamed name := rfl

@[simp] theorem tableExists_skeleton (name : String) :
    db.skeleton.tableExists name = db.tableExists name := by
  simp [Database.tableExists]

@[simp] theorem columnNames_skeleton (name : String) :
    db.skeleton.columnNames name = db.columnNames name := by
  simp only [Database.columnNames, table_skeleton, Option.map_map]
  rfl

@[simp] theorem hasDomainState_skeleton (plan : SchemaMigrationPlan) :
    hasDomainState plan db.skeleton = hasDomainState plan db := by
  have h : db.skeleton.tableExists = db.tableExists := funext (tableExists_skeleton db)
  rw [hasDomainState, h]
  rfl

@[simp] theorem readSchemaRecord_skeleton : readSchemaRecord db.skeleton = readSchemaRecord db := rfl

end Skeleton

/-! ## What a migration keeps -/

/-- `t'` is `t` with more columns, which hold `NULL` in the old rows. -/
def SqlTable.Widened (t t' : SqlTable) : Prop :=
  ∃ added : List String, t'.columns = t.columns ++ added ∧
    t'.rows = t.rows.map (· ++ added.map fun _ => .null)

theorem SqlTable.Widened.refl (t : SqlTable) : t.Widened t := ⟨[], by simp⟩

theorem SqlTable.Widened.trans {t u v : SqlTable} (h : t.Widened u) (h' : u.Widened v) :
    t.Widened v := by
  obtain ⟨added, hc, hr⟩ := h
  obtain ⟨more, hc', hr'⟩ := h'
  refine ⟨added ++ more, ?_, ?_⟩
  · rw [hc', hc, List.append_assoc]
  · rw [hr', hr, List.map_map]
    apply List.map_congr_left
    intro row _
    simp

theorem SqlTable.widened_addColumn (t : SqlTable) (column : String) :
    t.Widened (t.addColumn column) := ⟨[column], rfl, rfl⟩

/-- No table, column, index or value of `db` is missing in `db'`. -/
structure Database.Extends (db db' : Database) : Prop where
  tables : ∀ name t, db.table name = some t → ∃ t', db'.table name = some t' ∧ t.Widened t'
  indexes : ∀ name ∈ db.indexes, name ∈ db'.indexes
  intact : db'.intact = db.intact

namespace Database.Extends

theorem refl (db : Database) : db.Extends db :=
  ⟨fun _ t h => ⟨t, h, .refl t⟩, fun _ h => h, rfl⟩

theorem trans {db db' db'' : Database} (h : db.Extends db') (h' : db'.Extends db'') :
    db.Extends db'' := by
  refine ⟨?_, fun name hn => h'.indexes name (h.indexes name hn), h'.intact.trans h.intact⟩
  intro name t ht
  obtain ⟨t', ht', hw⟩ := h.tables name t ht
  obtain ⟨t'', ht'', hw'⟩ := h'.tables name t' ht'
  exact ⟨t'', ht'', hw.trans hw'⟩

/-- Only the metadata differs. -/
theorem of_tables {db db' : Database} (ht : db'.tables = db.tables)
    (hi : db'.indexes = db.indexes) (hintact : db'.intact = db.intact) : db.Extends db' := by
  refine ⟨?_, ?_, hintact⟩
  · intro name t h
    refine ⟨t, ?_, .refl t⟩
    rw [← h, Database.table, Database.table, ht]
  · intro name h
    rw [hi]
    exact h

end Database.Extends

/-! ## Lawful statements -/

/-- A statement reads and changes the schema alone: it commutes with leaving the rows out, writes
none of the metadata and loses nothing. -/
structure Lawful (f : MigrationFunction) : Prop where
  skeleton : ∀ db, f db.skeleton = (f db).map Database.skeleton
  frame : ∀ db db', f db = .ok db' →
    db'.metadata = db.metadata ∧ db'.history = db.history ∧ db'.userVersion = db.userVersion
  keeps : ∀ db db', f db = .ok db' → db.Extends db'

/-- What one statement does to a database. -/
inductive Alters (db : Database) : Database → Prop
  | nothing : Alters db db
  | newTable (entry : String × SqlTable) : Alters db { db with tables := db.tables ++ [entry] }
  | newColumn (column table : String) :
      Alters db { db with tables := widen column table db.tables }
  | newIndex (name : String) : Alters db { db with indexes := db.indexes ++ [name] }

theorem find?_widen (column table name : String) (tables : List (String × SqlTable)) :
    (widen column table tables).find? (fun entry => entry.1 = name) =
      (tables.find? fun entry => entry.1 = name).map fun entry =>
        if sameName entry.1 table then (entry.1, entry.2.addColumn column) else entry := by
  rw [widen, List.find?_map]
  congr 2
  funext entry
  by_cases h : sameName entry.1 table = true <;> simp [h]

theorem extends_of_alters {db db' : Database} (h : Alters db db') : db.Extends db' := by
  cases h with
  | nothing => exact .refl db
  | newTable entry =>
    refine ⟨?_, fun _ hi => hi, rfl⟩
    intro name t ht
    refine ⟨t, ?_, .refl t⟩
    simp only [Database.table, Option.map_eq_some_iff] at ht ⊢
    obtain ⟨found, hf, rfl⟩ := ht
    exact ⟨found, by rw [List.find?_append, hf, Option.some_or], rfl⟩
  | newColumn column table =>
    refine ⟨?_, fun _ hi => hi, rfl⟩
    intro name t ht
    simp only [Database.table, Option.map_eq_some_iff] at ht
    obtain ⟨found, hf, rfl⟩ := ht
    simp only [Database.table, find?_widen, hf, Option.map_some]
    by_cases hs : sameName found.1 table = true
    · exact ⟨found.2.addColumn column, by simp [hs], found.2.widened_addColumn column⟩
    · exact ⟨found.2, by simp [hs], .refl found.2⟩
  | newIndex name =>
    exact ⟨fun _ t ht => ⟨t, ht, .refl t⟩, fun _ hi => List.mem_append_left _ hi, rfl⟩

theorem Lawful.of_alters {f : MigrationFunction}
    (hskeleton : ∀ db, f db.skeleton = (f db).map Database.skeleton)
    (halters : ∀ db db', f db = .ok db' → Alters db db') : Lawful f := by
  refine ⟨hskeleton, ?_, fun db db' h => extends_of_alters (halters db db' h)⟩
  intro db db' h
  cases halters db db' h <;> exact ⟨rfl, rfl, rfl⟩

theorem lawful_createTable (name : String) (columns : List String) :
    Lawful (createTable name columns) := by
  apply Lawful.of_alters
  · intro db
    by_cases ht : db.hasTableNamed name = true
    · simp [createTable, ht, Except.map]
    · by_cases hi : db.hasIndexNamed name = true
      · simp [createTable, ht, hi, Except.map]
      · simp only [createTable, hasTableNamed_skeleton, hasIndexNamed_skeleton, ht, hi]
        simp [Except.map, Database.skeleton, emptiedEntry, SqlTable.emptied]
  · intro db db' h
    simp only [createTable] at h
    split at h
    · cases h
      exact .nothing
    · split at h
      · cases h
      · cases h
        exact .newTable _

theorem widen_emptied (column table : String) (tables : List (String × SqlTable)) :
    widen column table (tables.map emptiedEntry) = (widen column table tables).map emptiedEntry := by
  simp only [widen, List.map_map]
  apply List.map_congr_left
  intro entry _
  by_cases h : sameName entry.1 table = true
  · simp [emptiedEntry, SqlTable.emptied, SqlTable.addColumn, h]
  · simp [emptiedEntry, h]

theorem lawful_addColumn (table column : String) : Lawful (addColumn table column) := by
  apply Lawful.of_alters
  · intro db
    simp only [addColumn, namedTable_skeleton]
    cases db.namedTable table with
    | none => rfl
    | some t =>
      simp only [Option.map_some, SqlTable.emptied]
      by_cases hc : t.columns.any (sameName column) = true
      · simp [hc, Except.map]
      · simp [hc, Except.map, Database.skeleton, widen_emptied]
  · intro db db' h
    simp only [addColumn] at h
    split at h
    · cases h
    · split at h
      · cases h
      · cases h
        exact .newColumn column table

theorem lawful_addMissingColumn (table column : String) :
    Lawful (addMissingColumn table column) := by
  have hadd := lawful_addColumn table column
  refine ⟨?_, ?_, ?_⟩
  · intro db
    by_cases hc : column ∈ db.columnNames table
    · simp [addMissingColumn, hc, Except.map]
    · simp [addMissingColumn, hc, hadd.skeleton]
  · intro db db' h
    by_cases hc : column ∈ db.columnNames table
    · simp only [addMissingColumn, hc, if_true] at h
      cases h
      exact ⟨rfl, rfl, rfl⟩
    · simp only [addMissingColumn, hc, if_false] at h
      exact hadd.frame db db' h
  · intro db db' h
    by_cases hc : column ∈ db.columnNames table
    · simp only [addMissingColumn, hc, if_true] at h
      cases h
      exact .refl db
    · simp only [addMissingColumn, hc, if_false] at h
      exact hadd.keeps db db' h

theorem lawful_createIndex (name table column : String) :
    Lawful (createIndex name table column) := by
  apply Lawful.of_alters
  · intro db
    simp only [createIndex, namedTable_skeleton, hasTableNamed_skeleton, hasIndexNamed_skeleton]
    cases db.namedTable table with
    | none => rfl
    | some t =>
      simp only [Option.map_some, SqlTable.emptied]
      by_cases ht : db.hasTableNamed name = true
      · simp [ht, Except.map]
      · by_cases hi : db.hasIndexNamed name = true
        · simp [ht, hi, Except.map]
        · by_cases hc : t.columns.any (sameName column) = true
          · simp [ht, hi, hc, Except.map, Database.skeleton]
          · simp [ht, hi, hc, Except.map]
  · intro db db' h
    simp only [createIndex] at h
    split at h
    · cases h
    · split at h
      · cases h
      · split at h
        · cases h
          exact .nothing
        · split at h
          · cases h
            exact .newIndex name
          · cases h

theorem lawful_execute {statements : List MigrationFunction} (h : ∀ f ∈ statements, Lawful f) :
    Lawful (execute statements) := by
  induction statements with
  | nil =>
    refine ⟨fun _ => rfl, ?_, ?_⟩
    · intro db db' hdb
      cases hdb
      exact ⟨rfl, rfl, rfl⟩
    · intro db db' hdb
      cases hdb
      exact .refl db
  | cons f statements ih =>
    have hf := h f List.mem_cons_self
    have hrest := ih fun g hg => h g (List.mem_cons_of_mem f hg)
    refine ⟨?_, ?_, ?_⟩
    · intro db
      simp only [execute, hf.skeleton]
      cases f db with
      | error e => rfl
      | ok mid => exact hrest.skeleton mid
    · intro db db' hdb
      obtain ⟨mid, hmid, hend⟩ := bind_eq_ok.mp hdb
      obtain ⟨hm, hh, hu⟩ := hf.frame db mid hmid
      obtain ⟨hm', hh', hu'⟩ := hrest.frame mid db' hend
      exact ⟨hm'.trans hm, hh'.trans hh, hu'.trans hu⟩
    · intro db db' hdb
      obtain ⟨mid, hmid, hend⟩ := bind_eq_ok.mp hdb
      exact (hf.keeps db mid hmid).trans (hrest.keeps mid db' hend)

/-- A plan whose statements are lawful and whose validation reads the columns of the tables. -/
structure SchemaMigrationPlan.Lawful (plan : SchemaMigrationPlan) : Prop where
  apply : Migrations.Lawful plan.apply
  validate : ∀ db db' : Database, db.skeleton.tables = db'.skeleton.tables →
    plan.validate db = plan.validate db'

theorem requireColumns_congr (table : String) (required : List String) {db db' : Database}
    (h : db.skeleton.tables = db'.skeleton.tables) :
    requireColumns table required db = requireColumns table required db' := by
  have hcolumns : db.columnNames table = db'.columnNames table := by
    rw [← columnNames_skeleton db, ← columnNames_skeleton db', Database.columnNames,
      Database.columnNames, Database.table, Database.table, h]
  rw [requireColumns, requireColumns, hcolumns]

theorem lawful_plan (store : MigratedStore) : store.plan.Lawful := by
  cases store with
  | approvalQueue =>
    refine ⟨lawful_execute ?_, fun _ _ h => requireColumns_congr _ _ h⟩
    intro f hf
    simp only [List.mem_cons, List.not_mem_nil, or_false] at hf
    rcases hf with rfl | rfl
    · exact lawful_createTable _ _
    · exact lawful_createIndex _ _ _
  | auditStore =>
    refine ⟨lawful_execute ?_, fun _ _ h => requireColumns_congr _ _ h⟩
    intro f hf
    simp only [List.mem_cons, List.not_mem_nil, or_false] at hf
    rcases hf with rfl | rfl | rfl | rfl | rfl | rfl
    · exact lawful_createTable _ _
    · exact lawful_addMissingColumn _ _
    all_goals exact lawful_createIndex _ _ _
  | operationStore =>
    refine ⟨lawful_execute ?_, ?_⟩
    · intro f hf
      simp only [List.mem_cons, List.not_mem_nil, or_false] at hf
      rcases hf with rfl | rfl | rfl | rfl
      · exact lawful_createTable _ _
      · exact lawful_createTable _ _
      all_goals exact lawful_createIndex _ _ _
    · intro db db' h
      simp only [MigratedStore.plan, validateOperationSchema, validateAll, requireColumns_congr _ _ h]

/-! ## Lawful plans -/

theorem SchemaMigrationPlan.Lawful.validate_skeleton {plan : SchemaMigrationPlan} (h : plan.Lawful)
    (db : Database) : plan.validate db.skeleton = plan.validate db :=
  h.validate db.skeleton db (by rw [skeleton_skeleton])

section Plan
variable [Digest] {plan : SchemaMigrationPlan}

theorem preflight_skeleton (h : plan.Lawful) (db : Database) :
    preflight plan db.skeleton = preflight plan db := by
  simp only [preflight, checkRecord, assertIntegrity, intact_skeleton, readSchemaRecord_skeleton,
    userVersion_skeleton, hasDomainState_skeleton, h.validate_skeleton]
  rfl

theorem transaction_eq_ok {now : String} {db db' : Database} :
    transaction plan now db = .ok db' ↔
      ∃ current applied, readSchemaRecord (createMetadataTables db) = .ok current ∧
        current.elim 0 SchemaRecord.version ≤ plan.targetVersion ∧
        plan.apply (createMetadataTables db) = .ok applied ∧ plan.validate applied = .ok () ∧
        applied.intact = true ∧ recordMigration plan now applied = db' := by
  simp only [transaction, bind_eq_ok, raiseIf_eq_ok, assertIntegrity, decide_eq_false_iff_not,
    not_lt, Except.ok.injEq]
  constructor
  · rintro ⟨current, hc, -, hv, applied, ha, ⟨⟩, hval, -, hi, rfl⟩
    exact ⟨current, applied, hc, hv, ha, hval, by simpa [recordMigration] using hi, rfl⟩
  · rintro ⟨current, applied, hc, hv, ha, hval, hi, rfl⟩
    exact ⟨current, hc, (), hv, applied, ha, (), hval, (), by simpa [recordMigration] using hi, rfl⟩

/-- The transaction reads and changes the schema alone. -/
theorem transaction_skeleton (h : plan.Lawful) {now : String} {db db' : Database}
    (hdb : transaction plan now db = .ok db') :
    transaction plan now db.skeleton = .ok db'.skeleton := by
  obtain ⟨current, applied, hc, hv, ha, hval, hi, rfl⟩ := transaction_eq_ok.mp hdb
  refine transaction_eq_ok.mpr ⟨current, applied.skeleton, hc, hv, ?_, ?_, hi, rfl⟩
  · have hs := h.apply.skeleton (createMetadataTables db)
    rw [ha] at hs
    exact hs
  · rw [h.validate_skeleton]
    exact hval

/-- Where the transaction succeeds on a schema, it succeeds with every content. -/
theorem transaction_of_skeleton (h : plan.Lawful) {now now' : String} {db sk : Database}
    (hdb : transaction plan now db.skeleton = .ok sk) :
    ∃ db', transaction plan now' db = .ok db' := by
  obtain ⟨current, applied, hc, hv, ha, hval, hi, rfl⟩ := transaction_eq_ok.mp hdb
  have hs := h.apply.skeleton (createMetadataTables db)
  have ha' : plan.apply (createMetadataTables db).skeleton = .ok applied := ha
  rw [ha', eq_comm] at hs
  obtain ⟨full, hfull, rfl⟩ := map_eq_ok.mp hs
  refine ⟨_, transaction_eq_ok.mpr ⟨current, full, hc, hv, hfull, ?_, hi, rfl⟩⟩
  rw [← h.validate_skeleton]
  exact hval

theorem transaction_extends (h : plan.Lawful) {now : String} {db db' : Database}
    (hdb : transaction plan now db = .ok db') : db.Extends db' := by
  obtain ⟨current, applied, -, -, ha, -, -, rfl⟩ := transaction_eq_ok.mp hdb
  have hcreate : db.Extends (createMetadataTables db) := .of_tables rfl rfl rfl
  have hrecord : applied.Extends (recordMigration plan now applied) := .of_tables rfl rfl rfl
  exact (hcreate.trans (h.apply.keeps _ _ ha)).trans hrecord

theorem transaction_intact {now : String} {db db' : Database}
    (hdb : transaction plan now db = .ok db') : db'.intact = true := by
  obtain ⟨current, applied, -, -, -, -, hi, rfl⟩ := transaction_eq_ok.mp hdb
  exact hi

/-- A migrated schema, with any content, is found to be current. -/
theorem preflight_of_transaction (h : plan.Lawful) {now : String} {db migrated : Database}
    (hdb : transaction plan now db = .ok migrated) :
    preflight plan migrated =
      .ok (.current ⟨plan.component, plan.targetVersion, plan.targetVersion, true, true⟩) := by
  obtain ⟨current, applied, -, -, -, hval, hi, rfl⟩ := transaction_eq_ok.mp hdb
  have hvalid : plan.validate (recordMigration plan now applied) = .ok () := by
    rw [← hval]
    exact h.validate _ _ rfl
  have hintact : (recordMigration plan now applied).intact = true := hi
  simp only [preflight, assertIntegrity, hintact]
  simp [recordMigration, readSchemaRecord, checkRecord, bind, Except.bind, raiseIf]
  simp [recordMigration] at hvalid
  simp [hvalid]

theorem snapshot_of_transaction (h : plan.Lawful) {now : String} {db migrated : Database}
    (hdb : transaction plan now db = .ok migrated) :
    schemaSnapshot plan migrated =
      .ok ⟨plan.component, plan.targetVersion, plan.targetVersion, true, true⟩ := by
  obtain ⟨current, applied, -, -, -, hval, hi, rfl⟩ := transaction_eq_ok.mp hdb
  have hvalid : plan.validate (recordMigration plan now applied) = .ok () := by
    rw [← hval]
    exact h.validate _ _ rfl
  have hintact : (recordMigration plan now applied).intact = true := hi
  have hread : readSchemaRecord (recordMigration plan now applied) =
      .ok (some ⟨plan.component, plan.targetVersion, plan.checksum, "ready", now⟩) := rfl
  simp [schemaSnapshot, hread, hintact, validForSnapshot, hvalid, bind, Except.bind]

theorem schemaSnapshot_skeleton (h : plan.Lawful) (db : Database) :
    schemaSnapshot plan db.skeleton = schemaSnapshot plan db := by
  simp only [schemaSnapshot, validForSnapshot, readSchemaRecord_skeleton, intact_skeleton,
    h.validate_skeleton]

end Plan

end Rygnal.Migrations
