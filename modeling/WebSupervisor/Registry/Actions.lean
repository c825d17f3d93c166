import WebSupervisor.Registry.Workers

/-! The action methods of `registry.py`. Arming is one transaction. Every other
method reads the attempt, checks it, and writes the whole row back in a later
statement. -/

namespace WebSupervisor.Registry
open Library

def getActionAttempt (db : Database) (attemptId : String) : Except SupervisorError ActionAttempt :=
  match db.actionAttempts.find? attemptId with
  | none => .error (.key ("unknown action attempt: " ++ attemptId))
  | some attempt => .ok attempt

/-- At most one row of a task is unresolved, so that the order of the query does
not matter. -/
def findUnresolved (db : Database) (taskId : String) : Option ActionAttempt :=
  db.actionAttempts.rows.find? (fun attempt => attempt.taskId = taskId ∧ attempt.state.Unresolved)

def unresolvedActionAttempt (db : Database) (taskId : String) : Except SupervisorError (Option ActionAttempt) := do
  let _ ← getTask db taskId
  pure (findUnresolved db taskId)

/-- `ORDER BY created_at DESC, id DESC LIMIT 1`. -/
def latestReconciliation (db : Database) (taskId : String) : Except SupervisorError (Option ReconciliationRecord) := do
  let _ ← getTask db taskId
  let rows := db.reconciliations.filter (·.taskId = taskId)
  pure (rows.foldl (fun latest row =>
    if latest.all (·.createdAt ≤ row.createdAt) then some row else latest) none)

/-- `ORDER BY observed_at DESC LIMIT 1`, read from the index, where rows of one
time stand in row order. -/
def latestBrowserObservation (db : Database) (workerId : String) : Option BrowserObservation :=
  let rows := db.browserObservations.filter (·.workerId = workerId)
  rows.foldl (fun latest row => if latest.all (·.observedAt < row.observedAt) then some row else latest) none

def getWorkerWindowBinding (db : Database) (workerId : String) (now : Time) (requireFresh : Bool) :
    Option WorkerWindowBinding :=
  (db.windowBindings.find? workerId).filter (fun binding => !requireFresh || binding.isFresh now)

def insertActionAttempt (db : Database) (attempt : ActionAttempt) : Except SupervisorError Database :=
  match db.actionAttempts.insert attempt with
  | .error .key => .error (.integrity "UNIQUE constraint failed: action_attempts.attempt_id")
  | .error .index => .error (.integrity "UNIQUE constraint failed: action_attempts.task_id")
  | .ok actionAttempts => .ok { db with actionAttempts }

/-- The worker fence of the two arming methods. -/
def requireAuthoritative (db : Database) (attempt : ActionAttempt) (task : TaskRecord) (lost : String) :
    Except SupervisorError Unit := do
  let worker ← getWorker db attempt.workerId
  refuse (worker.taskId ≠ attempt.taskId) (.value "action attempt worker belongs to a different task")
  refuse (task.currentWorkerId ≠ some attempt.workerId ∨ worker.status ≠ .active) (.runtime lost)

def requireNoUnresolved (db : Database) (attempt : ActionAttempt) : Except SupervisorError Unit :=
  match findUnresolved db attempt.taskId with
  | none => .ok ()
  | some unresolved =>
    .error (.runtime ("task " ++ attempt.taskId ++ " already has unresolved action " ++ unresolved.attemptId))

def recordCurrentWorkerActionAttempt (attempt : ActionAttempt) : Transaction Unit := fun db => do
  refuse (attempt.state ≠ .armed) (.value "current-worker action must be ARMED before durable recording")
  let task ← getTask db attempt.taskId
  refuse (task.state ∈ [.completed, .abandoned]) (.runtime "terminal task cannot arm a current-worker action")
  requireAuthoritative db attempt task "current-worker action worker is no longer authoritative"
  requireNoUnresolved db attempt
  let db ← insertActionAttempt db attempt
  pure ((), db)

def recordRecoveryActionAttempt (attempt : ActionAttempt) : Transaction Unit := fun db => do
  refuse (attempt.state ≠ .armed) (.value "recovery action must be ARMED before durable recording")
  let task ← getTask db attempt.taskId
  refuse (task.state ∈ [.completed, .abandoned]) (.runtime "terminal task cannot arm a recovery action")
  refuse (task.maxRecoveryAttempts ≤ task.recoveryAttempts) (.runtime "recovery attempt budget is exhausted")
  requireAuthoritative db attempt task "recovery action worker is no longer the active current worker"
  requireNoUnresolved db attempt
  let db ← insertActionAttempt db attempt
  pure ((), updateTask db attempt.taskId (fun task =>
    { task with recoveryAttempts := task.recoveryAttempts + 1, updatedAt := attempt.createdAt }))

/-- One statement of a transaction, with the checks on its result. -/
abbrev Statement := Database → Except SupervisorError Database

/-- The statements of a transaction from a position on, and its commit. A fault
is an exception raised at a position; whatever is raised, the caller rolls back. -/
def runStatements (fault : Option (Nat × SupervisorError)) : Nat → List Statement → Statement
  | position, statements, db =>
    match fault.filter (·.1 = position), statements with
    | some (_, error), _ => .error error
    | none, [] => .ok db
    | none, statement :: rest => do runStatements fault (position + 1) rest (← statement db)

/-- The transaction of `record_current_worker_action_attempt`, statement by
statement. -/
def currentWorkerStatements (attempt : ActionAttempt) : List Statement :=
  [fun db => do
    let task ← getTask db attempt.taskId
    refuse (task.state ∈ [.completed, .abandoned]) (.runtime "terminal task cannot arm a current-worker action")
    pure db,
  fun db => do
    let task ← getTask db attempt.taskId
    requireAuthoritative db attempt task "current-worker action worker is no longer authoritative"
    pure db,
  fun db => do
    requireNoUnresolved db attempt
    pure db,
  fun db => insertActionAttempt db attempt]

/-- The transaction of `record_recovery_action_attempt`, statement by statement. -/
def recoveryStatements (attempt : ActionAttempt) : List Statement :=
  [fun db => do
    let task ← getTask db attempt.taskId
    refuse (task.state ∈ [.completed, .abandoned]) (.runtime "terminal task cannot arm a recovery action")
    refuse (task.maxRecoveryAttempts ≤ task.recoveryAttempts) (.runtime "recovery attempt budget is exhausted")
    pure db,
  fun db => do
    let task ← getTask db attempt.taskId
    requireAuthoritative db attempt task "recovery action worker is no longer the active current worker"
    pure db,
  fun db => do
    requireNoUnresolved db attempt
    pure db,
  fun db => insertActionAttempt db attempt,
  fun db => pure (updateTask db attempt.taskId (fun task =>
    { task with recoveryAttempts := task.recoveryAttempts + 1, updatedAt := attempt.createdAt }))]

/-- A recording call during which a fault may occur. -/
def recordWithFault (fault : Option (Nat × SupervisorError)) (charged : Bool) (attempt : ActionAttempt) :
    Transaction Unit := fun db => do
  refuse (attempt.state ≠ .armed) (.value (if charged then "recovery action must be ARMED before durable recording"
    else "current-worker action must be ARMED before durable recording"))
  let after ← runStatements fault 0 (if charged then recoveryStatements attempt else currentWorkerStatements attempt) db
  pure ((), after)

/-- The statement of `_replace_action_attempt`. -/
def replaceActionAttempt (attempt : ActionAttempt) : Transaction Unit := fun db =>
  match db.actionAttempts.find? attempt.attemptId with
  | none => .error (.key ("unknown action attempt: " ++ attempt.attemptId))
  | some _ =>
    match db.actionAttempts.replace? attempt with
    | none => .error (.integrity "UNIQUE constraint failed: action_attempts.task_id")
    | some actionAttempts => .ok ((), { db with actionAttempts })

/-- A change of one attempt: what the method makes of the attempt it has read. -/
structure Revision where
  attemptId : String
  change : ActionAttempt → Except SupervisorError ActionAttempt

def refuseTerminal (attemptId : String) (attempt : ActionAttempt) : Except SupervisorError Unit :=
  refuse (¬ attempt.state.Unresolved) (.runtime ("action " ++ attemptId ++ " is already terminal"))

def submittedRevision (attemptId transportName : String) (now : Time) : Revision where
  attemptId
  change attempt := do
    refuse (attempt.state ≠ .armed) (.runtime ("action " ++ attemptId ++ " is not ARMED"))
    pure { attempt with
      state := .submitted, transportName := some transportName, submittedAt := some now, updatedAt := now }

def reconcileRequiredRevision (attemptId error : String) (transportName : Option String) (now : Time) : Revision where
  attemptId
  change attempt := do
    refuseTerminal attemptId attempt
    pure { attempt with
      state := .reconcileRequired, transportName := orText transportName attempt.transportName,
      lastError := some (clip 1000 error), updatedAt := now }

def failedRevision (attemptId error : String) (transportName : Option String) (now : Time) : Revision where
  attemptId
  change attempt := do
    refuseTerminal attemptId attempt
    pure { attempt with
      state := .failed, transportName := orText transportName attempt.transportName,
      lastError := some (clip 1000 error), updatedAt := now }

def acknowledgedRevision (acknowledgement : ActionAcknowledgement) : Revision where
  attemptId := acknowledgement.attemptId
  change attempt := do
    validateAcknowledgement attempt acknowledgement
    let signature := acknowledgement.textSignature.getD ""
    pure { attempt with
      state := .acknowledged
      acknowledgedAt := some acknowledgement.observedAt
      acknowledgementKind := some acknowledgement.kind
      acknowledgementHash := some acknowledgement.evidenceHash
      metadata :=
        if signature = "" then attempt.metadata
        else attempt.metadata.set "ack_uia_text_signature" (.text signature)
      lastError := none
      updatedAt := acknowledgement.observedAt }

/-- The signature has been stripped. -/
def browserSignatureRevision (attemptId signature : String) : Revision where
  attemptId
  change attempt := do
    refuse (attempt.state ≠ .acknowledged)
      (.runtime "browser acknowledgement signature requires ACKNOWLEDGED action")
    pure { attempt with metadata := attempt.metadata.set "ack_browser_signature" (.text signature) }

def cancelledRevision (attemptId reason : String) (now : Time) : Revision where
  attemptId
  change attempt := do
    refuseTerminal attemptId attempt
    pure { attempt with state := .cancelled, lastError := some (clip 1000 reason), updatedAt := now }

section Programs
open Program
variable {ρ : Type} {ω : ρ → Type}

/-- Read and check, write back, and read what is stored. -/
def reviseAction (revision : Revision) : ExceptT SupervisorError (Program Database ω) ActionAttempt := do
  let changed ← check (fun db => do
    let attempt ← getActionAttempt db revision.attemptId
    revision.change attempt)
  transaction (replaceActionAttempt changed)
  check (fun db => getActionAttempt db changed.attemptId)

def markActionSubmitted (attemptId transportName : String) (now : Time) :
    ExceptT SupervisorError (Program Database ω) ActionAttempt :=
  reviseAction (submittedRevision attemptId transportName now)

def markActionReconcileRequired (attemptId error : String) (transportName : Option String) (now : Time) :
    ExceptT SupervisorError (Program Database ω) ActionAttempt :=
  reviseAction (reconcileRequiredRevision attemptId error transportName now)

def failActionAttempt (attemptId error : String) (transportName : Option String) (now : Time) :
    ExceptT SupervisorError (Program Database ω) ActionAttempt :=
  reviseAction (failedRevision attemptId error transportName now)

def acknowledgeAction (acknowledgement : ActionAcknowledgement) :
    ExceptT SupervisorError (Program Database ω) ActionAttempt :=
  reviseAction (acknowledgedRevision acknowledgement)

def recordActionAckBrowserSignature (attemptId messageSignature : String) :
    ExceptT SupervisorError (Program Database ω) ActionAttempt := do
  let signature := strip messageSignature
  ensure (refuse (signature = "") (.value "message_signature must be non-empty"))
  reviseAction (browserSignatureRevision attemptId signature)

def cancelActionAttempt (attemptId reason : String) (now : Time) :
    ExceptT SupervisorError (Program Database ω) ActionAttempt :=
  reviseAction (cancelledRevision attemptId reason now)

/-- One call of a method that revises an attempt. -/
inductive ActionMethod where
  | markSubmitted (attemptId transportName : String) (now : Time)
  | markReconcileRequired (attemptId error : String) (transportName : Option String) (now : Time)
  | fail (attemptId error : String) (transportName : Option String) (now : Time)
  | acknowledge (acknowledgement : ActionAcknowledgement)
  | recordAckBrowserSignature (attemptId messageSignature : String)
  | cancel (attemptId reason : String) (now : Time)

def ActionMethod.program : ActionMethod → ExceptT SupervisorError (Program Database ω) ActionAttempt
  | .markSubmitted attemptId transportName now => markActionSubmitted attemptId transportName now
  | .markReconcileRequired attemptId error transportName now =>
    markActionReconcileRequired attemptId error transportName now
  | .fail attemptId error transportName now => failActionAttempt attemptId error transportName now
  | .acknowledge acknowledgement => acknowledgeAction acknowledgement
  | .recordAckBrowserSignature attemptId signature => recordActionAckBrowserSignature attemptId signature
  | .cancel attemptId reason now => cancelActionAttempt attemptId reason now

end Programs

end WebSupervisor.Registry
