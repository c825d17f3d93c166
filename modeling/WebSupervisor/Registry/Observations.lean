import WebSupervisor.Library.Retention
import WebSupervisor.Registry.Actions

/-! The browser observations of `registry.py`. The table keeps the newest ones of
each worker; rows stand in the order of their row ids. -/

namespace WebSupervisor.Registry
open Library

def observationRetentionPerEntity : Nat := 2000

def recordBrowserObservation (db : Database) (obs : BrowserObservation) : Database :=
  let seen := updateWorker db obs.workerId (fun worker => { worker with lastSeenAt := some obs.observedAt })
  { seen with
    browserObservations := record BrowserObservation.workerId BrowserObservation.observedAt
      observationRetentionPerEntity db.browserObservations obs }

/-- The observations of the worker, newest first. -/
def browserObservationHistory (db : Database) (workerId : Option String) (limit : Int) : List BrowserObservation :=
  let wanted := workerId.getD ""
  if wanted = "" then []
  else
    newest BrowserObservation.workerId BrowserObservation.observedAt wanted
      (max 1 (min limit observationRetentionPerEntity)).toNat db.browserObservations

/-- `ORDER BY created_at DESC`. Rows of one time stand in row order. -/
def actionAttempts (db : Database) (taskId : String) (limit : Nat) : Except SupervisorError (List ActionAttempt) := do
  let _ ← getTask db taskId
  let rows := db.actionAttempts.rows.filter (·.taskId = taskId)
  pure ((rows.insertionSort (fun first second => second.createdAt ≤ first.createdAt)).take (max 1 (min limit 200)))

end WebSupervisor.Registry
