import WebSupervisor.Errors
import WebSupervisor.Library.Connection
import WebSupervisor.Library.Table
import WebSupervisor.Models

/-! Opening a registry file, from `db.py`. A file is its version and its tables.
Indexes are left out, because they hold no rows of their own; so are the pragmas of
the connection. -/

namespace WebSupervisor.Schema
open Library

inductive SqlValue where
  | null
  | integer (value : Int)
  | real (value : Time)
  | text (value : String)
  deriving DecidableEq

/-- The values of a row by column. A column without a value is NULL. -/
abbrev SqlRow := List (String × SqlValue)

def SqlRow.get (row : SqlRow) (column : String) : SqlValue := (row.lookup column).getD .null

def SqlRow.set (row : SqlRow) (column : String) (value : SqlValue) : SqlRow := (column, value) :: row

structure SqlTable where
  name : String
  columns : List String
  rows : List SqlRow := []
  deriving DecidableEq

structure RegistryFile where
  userVersion : Int := 0
  tables : Table SqlTable SqlTable.name := .empty

def schemaVersion : Int := 10

/-- A `CREATE TABLE IF NOT EXISTS` of the schema, with its columns. -/
structure TableDefinition where
  name : String
  columns : List String

def schemaV5 : List TableDefinition :=
  [⟨"tasks", ["task_id", "project", "objective", "cwd", "state", "lsm_session_id", "checkpoint_json",
     "current_worker_id", "recovery_attempts", "max_recovery_attempts", "created_at", "updated_at"]⟩,
   ⟨"workers", ["worker_id", "task_id", "conversation_url", "conversation_id", "status", "started_at",
     "last_seen_at", "ended_at"]⟩,
   ⟨"task_jobs", ["task_id", "job_id"]⟩,
   ⟨"browser_observations", ["id", "worker_id", "observed_at", "payload_json"]⟩,
   ⟨"network_observations", ["id", "worker_id", "observed_at", "payload_json"]⟩,
   ⟨"lsm_observations", ["id", "task_id", "observed_at", "payload_json"]⟩,
   ⟨"workspace_observations", ["id", "task_id", "observed_at", "payload_json"]⟩,
   ⟨"reconciliation_records", ["id", "reconcile_id", "task_id", "created_at", "state", "confidence", "fence_token",
     "payload_json"]⟩,
   ⟨"recovery_events", ["id", "task_id", "created_at", "action", "safe_to_dispatch", "reason", "payload_json"]⟩,
   ⟨"watchdog_leases", ["name", "owner_id", "pid", "host", "started_at", "heartbeat_at", "expires_at"]⟩,
   ⟨"action_attempts", ["attempt_id", "task_id", "worker_id", "state", "created_at", "updated_at", "payload_json"]⟩,
   ⟨"worker_window_bindings", ["worker_id", "window_handle", "browser_pid", "chrome_executable",
     "conversation_url", "source", "bound_at", "observed_at", "expires_at"]⟩,
   ⟨"probe_window_slots", ["slot_id", "owner_token", "target_worker_id", "target_conversation_url", "actual_url",
     "window_handle", "browser_pid", "chrome_executable", "source", "bound_at", "observed_at", "expires_at"]⟩,
   ⟨"probe_mutation_operations", ["operation_id", "nonce", "kind", "state", "slot_id", "target_task_id",
     "target_worker_id", "created_at", "updated_at", "payload_json"]⟩,
   ⟨"page_capabilities", ["capability_id", "kind", "scope_host", "browser_family", "browser_major", "platform",
     "surface", "isolation_mode", "evaluator_version", "evidence_digest", "source_experiment_id", "observed_at",
     "recorded_at", "expires_at", "payload_json"]⟩]

def schemaV6 : List TableDefinition :=
  [⟨"worker_protocol_tasks", ["task_id", "revision", "generation", "task_status", "current_worker_id",
     "handoff_target_worker_id", "handoff_requested_at", "parent_task_id", "root_task_id", "child_key",
     "completed_at", "completion_ref"]⟩,
   ⟨"worker_protocol_leases", ["worker_id", "task_id", "conversation_ref", "status", "registered_at", "generation",
     "claimed_at", "last_heartbeat_at", "lease_expires_at", "ended_at", "superseded_by"]⟩,
   ⟨"worker_protocol_events", ["id", "task_id", "revision", "event_index", "kind", "at", "worker_id", "generation",
     "related_worker_id", "ref"]⟩]

def schemaV7 : List TableDefinition :=
  [⟨"child_dispatches", ["dispatch_id", "parent_task_id", "child_task_id", "child_key", "prompt_text",
     "prompt_sha256", "expected_branch", "base_ref", "created_at", "updated_at", "payload_json"]⟩,
   ⟨"replacement_attempts", ["attempt_id", "task_id", "candidate_worker_id", "state", "created_at", "updated_at",
     "payload_json"]⟩]

def schemaV8 : List TableDefinition :=
  [⟨"child_spawn_attempts", ["attempt_id", "child_task_id", "state", "created_at", "updated_at", "payload_json"]⟩]

def schemaV10 : List TableDefinition :=
  [⟨"runtime_cooldowns", ["name", "until_at", "reason", "updated_at", "payload_json"]⟩]

/-- Version 9 has no statements. -/
def schema : List TableDefinition := schemaV5 ++ schemaV6 ++ schemaV7 ++ schemaV8 ++ schemaV10

def createTable (definition : TableDefinition) (file : RegistryFile) : RegistryFile :=
  { file with
    tables := (file.tables.insert? { name := definition.name, columns := definition.columns }).getD file.tables }

/-- The columns of `PRAGMA table_info`. -/
def tableInfo (name : String) (file : RegistryFile) : List String :=
  ((file.tables.find? name).map (·.columns)).getD []

/-- A change of the table of this name, if there is one. -/
def changeTable (name : String) (change : SqlTable → SqlTable) (kept : ∀ table, (change table).name = table.name)
    (file : RegistryFile) : RegistryFile :=
  { file with tables := file.tables.update (fun table => table.name == name) change kept }

/-- `ALTER TABLE … ADD COLUMN …`. -/
def addColumn (name column : String) : RegistryFile → RegistryFile :=
  changeTable name (fun table => { table with columns := table.columns ++ [column] }) (fun _ => rfl)

def childDispatches : String := "child_dispatches"
def webColumn : String := "web_project_url"
def legacyColumn : String := "chatgpt_" ++ "project_url"

/-- The new values of a row of `child_dispatches`. -/
def copyRow (row : SqlRow) : SqlRow :=
  if row.get webColumn = .null ∧ row.get legacyColumn ≠ .null then row.set webColumn (row.get legacyColumn) else row

/-- `UPDATE child_dispatches SET web_project_url = … WHERE web_project_url IS NULL AND … IS NOT NULL`. -/
def copyLegacy : RegistryFile → RegistryFile :=
  changeTable childDispatches (fun table => { table with rows := table.rows.map copyRow }) (fun _ => rfl)

def setUserVersion (version : Int) (file : RegistryFile) : RegistryFile := { file with userVersion := version }

/-- Only the step of the version commits. -/
def connect (file : RegistryFile) : Except SupervisorError (Connection RegistryFile) :=
  let version := file.userVersion
  if version < 0 ∨ version > schemaVersion then
    .error (.runtime ("unsupported LWS registry schema version " ++ toString version ++ "; expected <= " ++
      toString schemaVersion))
  else
    let conn := ({ file } : Connection RegistryFile).executescript (schema.map createTable)
    let columns := tableInfo childDispatches conn.content
    let conn := if webColumn ∈ columns then conn else conn.execute (addColumn childDispatches webColumn)
    let conn := if legacyColumn ∈ columns then conn.executeRows copyLegacy else conn
    .ok (if version < schemaVersion then (conn.execute (setUserVersion schemaVersion)).commit else conn)

/-- The connection of a file that has been opened and closed this often. Closing a
connection drops its open transaction. -/
def reopen (file : RegistryFile) : Nat → Except SupervisorError (Connection RegistryFile)
  | 0 => connect file
  | count + 1 => do
    let earlier ← reopen file count
    connect earlier.file

end WebSupervisor.Schema
