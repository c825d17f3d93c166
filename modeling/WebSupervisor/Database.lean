import Mathlib
import WebSupervisor.Library.Table
import WebSupervisor.Attempts
import WebSupervisor.ProbeOps

/-! The registry database of `db.py`. Primary keys and unique indexes are part
of the tables. Foreign keys are left out: no modelled statement deletes a row
that another table refers to, and each insert follows the insert or the lookup
of the rows it refers to in the same transaction. -/

namespace WebSupervisor
open Library WorkerProtocol

/-- A row of `worker_protocol_tasks`. -/
structure ProtocolTask where
  taskId : String
  revision : Int
  generation : Int
  taskStatus : DurableTaskStatus
  currentWorkerId : Option String
  handoffTargetWorkerId : Option String
  handoffRequestedAt : Option Time
  parentTaskId : Option String
  rootTaskId : String
  childKey : Option String
  completedAt : Option Time
  completionRef : Option String
  deriving DecidableEq

/-- A row of `worker_protocol_events`. -/
structure ProtocolEventRow where
  event : ProtocolEvent
  eventIndex : Nat
  deriving DecidableEq

def ProtocolEventRow.key (row : ProtocolEventRow) : String × Int × Nat :=
  (row.event.taskId, row.event.revision, row.eventIndex)

/-- The durable state. A row of `worker_protocol_leases` has the columns of a
`WorkerLease`. The two lists stand in the order of their row ids. -/
structure Database where
  tasks : Table TaskRecord TaskRecord.taskId := .empty
  workers : Table WorkerRecord WorkerRecord.workerId := .empty
  windowBindings : Table WorkerWindowBinding WorkerWindowBinding.workerId := .empty
  protocolTasks : Table ProtocolTask ProtocolTask.taskId := .empty
  protocolLeases : Table WorkerLease WorkerLease.workerId := .empty
  protocolEvents : Table ProtocolEventRow ProtocolEventRow.key := .empty
  actionAttempts : IndexedTable ActionAttempt ActionAttempt.attemptId ActionAttempt.unresolvedTask := .empty
  childDispatches : Table ChildDispatchRecord ChildDispatchRecord.childTaskId := .empty
  replacementAttempts :
    IndexedTable ReplacementAttempt ReplacementAttempt.attemptId ReplacementAttempt.unresolvedTask := .empty
  childSpawnAttempts : IndexedTable ChildSpawnRow ChildSpawnRow.attemptId ChildSpawnRow.unresolvedTask := .empty
  probeMutationOperations :
    IndexedTable ProbeMutationOperation ProbeMutationOperation.operationId ProbeMutationOperation.unresolvedIndex :=
      .empty
  probeWindowSlots : Table ProbeWindowSlotBinding ProbeWindowSlotBinding.slotId := .empty
  runtimeCooldowns : Table RuntimeCooldown RuntimeCooldown.name := .empty
  watchdogLeases : Table WatchdogLease WatchdogLease.name := .empty
  reconciliations : List ReconciliationRecord := []
  browserObservations : List BrowserObservation := []

/-- The work of one transaction. An error rolls the transaction back. -/
abbrev Transaction (α : Type) := Database → Except SupervisorError (α × Database)

/-- The database after a transaction, committed or rolled back. -/
def Transaction.after {α : Type} (transaction : Transaction α) (db : Database) : Database :=
  match transaction db with
  | .ok (_, next) => next
  | .error _ => db

theorem Transaction.returned {α : Type} {transaction : Transaction α} {db : Database} {value : α}
    (first : (transaction db).map Prod.fst = .ok value) : transaction db = .ok (value, transaction.after db) := by
  unfold Transaction.after
  cases result : transaction db with
  | error error =>
    rw [result] at first
    cases first
  | ok pair =>
    rw [result] at first
    cases first
    rfl

end WebSupervisor
