import WebSupervisor.Registry.Workers

/-! The child dispatch lookup and the replacement methods of `registry.py`. The
methods read, check and write in separate statements. -/

namespace WebSupervisor.Registry
open Library

def getChildDispatch (db : Database) (childTaskId : String) : Except SupervisorError ChildDispatchRecord :=
  match db.childDispatches.find? childTaskId with
  | none => .error (.key ("unknown child dispatch: " ++ childTaskId))
  | some dispatch => .ok dispatch

def getReplacementAttempt (db : Database) (attemptId : String) : Except SupervisorError ReplacementAttempt :=
  match db.replacementAttempts.find? attemptId with
  | none => .error (.key ("unknown replacement attempt: " ++ attemptId))
  | some attempt => .ok attempt

/-- At most one row of a task is unresolved, so that the order of the query does
not matter. -/
def unresolvedReplacementAttempt (db : Database) (taskId : String) : Option ReplacementAttempt :=
  db.replacementAttempts.rows.find? (fun attempt => attempt.taskId = taskId ∧ attempt.state.Unresolved)

/-- The checks of a new attempt against its candidate. -/
def requireRecordable (attempt : ReplacementAttempt) (worker : WorkerRecord) : Except SupervisorError Unit := do
  refuse (worker.taskId ≠ attempt.taskId) (.value "replacement candidate belongs to a different task")
  refuse (attempt.state ≠ .armed) (.value "replacement attempt must be ARMED before durable recording")

def requireNoReplacement (attempt : ReplacementAttempt) : Option ReplacementAttempt → Except SupervisorError Unit
  | none => .ok ()
  | some unresolved =>
    refuse (unresolved.attemptId ≠ attempt.attemptId)
      (.runtime ("task " ++ attempt.taskId ++ " already has unresolved replacement " ++ unresolved.attemptId))

def insertReplacementAttempt (attempt : ReplacementAttempt) : Transaction Unit := fun db =>
  match db.replacementAttempts.insert attempt with
  | .error .key => .error (.integrity "UNIQUE constraint failed: replacement_attempts.attempt_id")
  | .error .index => .error (.integrity "UNIQUE constraint failed: replacement_attempts.task_id")
  | .ok replacementAttempts => .ok ((), { db with replacementAttempts })

/-- The states that an attempt may go to. -/
def ReplacementAttemptState.allowed : ReplacementAttemptState → List ReplacementAttemptState
  | .armed => [.lsmTakeoverSubmitted, .failed]
  | .lsmTakeoverSubmitted => [.reconcileRequired, .completed]
  | .reconcileRequired => [.reconcileRequired, .completed]
  | .completed | .failed => []

/-- `str(text).strip() or None` in place of the old value, when a text is given. -/
def givenText (given old : Option String) : Option String :=
  match given with
  | none => old
  | some text => if strip text = "" then none else some (strip text)

def updatedReplacement (attempt : ReplacementAttempt) (state : ReplacementAttemptState)
    (newActiveRunId lastError : Option String) (now : Time) : ReplacementAttempt :=
  { attempt with
    state
    updatedAt := now
    newActiveRunId := givenText newActiveRunId attempt.newActiveRunId
    lastError := (lastError.map (clip 1000)).or attempt.lastError }

/-- The UPDATE of one row. -/
def replaceReplacementAttempt (attempt : ReplacementAttempt) : Transaction Unit := fun db =>
  match db.replacementAttempts.find? attempt.attemptId with
  | none => .error (.key ("unknown replacement attempt: " ++ attempt.attemptId))
  | some _ =>
    match db.replacementAttempts.replace? attempt with
    | none => .error (.integrity "UNIQUE constraint failed: replacement_attempts.task_id")
    | some replacementAttempts => .ok ((), { db with replacementAttempts })

def requireAllowedReplacement (attempt : ReplacementAttempt) (state : ReplacementAttemptState) :
    Except SupervisorError Unit :=
  refuse (state ∉ ReplacementAttemptState.allowed attempt.state)
    (.runtime ("invalid replacement transition " ++ attempt.state.value ++ " -> " ++ state.value))

section Programs
open Program
variable {ρ : Type} {ω : ρ → Type}

def recordReplacementAttempt (attempt : ReplacementAttempt) :
    ExceptT SupervisorError (Program Database ω) ReplacementAttempt := do
  let _ ← check (fun db => getChildDispatch db attempt.taskId)
  let worker ← check (fun db => getWorker db attempt.candidateWorkerId)
  ensure (requireRecordable attempt worker)
  let unresolved ← check (fun db => .ok (unresolvedReplacementAttempt db attempt.taskId))
  ensure (requireNoReplacement attempt unresolved)
  transaction (insertReplacementAttempt attempt)
  check (fun db => getReplacementAttempt db attempt.attemptId)

/-- The write and the answer of an update, with the attempt as it was read. -/
def writeReplacement (attempt : ReplacementAttempt) (state : ReplacementAttemptState)
    (newActiveRunId lastError : Option String) (now : Time) :
    ExceptT SupervisorError (Program Database ω) ReplacementAttempt := do
  ensure (requireAllowedReplacement attempt state)
  transaction (replaceReplacementAttempt (updatedReplacement attempt state newActiveRunId lastError now))
  check (fun db => getReplacementAttempt db attempt.attemptId)

/-- An update to the state that the attempt already has returns it as it is. -/
def updateReplacementAttempt (attemptId : String) (state : ReplacementAttemptState)
    (newActiveRunId lastError : Option String) (now : Time) :
    ExceptT SupervisorError (Program Database ω) ReplacementAttempt := do
  let attempt ← check (fun db => getReplacementAttempt db attemptId)
  if state = attempt.state then
    pure attempt
  else
    writeReplacement attempt state newActiveRunId lastError now

/-- `submit_replacement` of `replacement.py`. The record that it returns tells
the caller to issue the takeover. -/
def submitReplacement (attemptId : String) (now : Time) :
    ExceptT SupervisorError (Program Database ω) ReplacementAttempt := do
  let attempt ← check (fun db => getReplacementAttempt db attemptId)
  ensure (refuse (attempt.state ≠ .armed) (.runtime ("replacement " ++ attemptId ++ " is not ARMED")))
  updateReplacementAttempt attemptId .lsmTakeoverSubmitted none none now

end Programs

end WebSupervisor.Registry
