import WebSupervisor.Registry.Actions
import WebSupervisor.Registry.ChildSpawns

/-! `complete_child_dispatch` of `registry.py`. The checks for unresolved work are
separate reads; the worker and the task are completed in two later transactions. -/

namespace WebSupervisor.Registry
open Library WorkerProtocol WorkerPersistence

/-- The refusal of a child that has unresolved work of one kind. -/
def requireNothing (kind : String) (unresolved : Option (String × String)) : Except SupervisorError Unit :=
  match unresolved with
  | none => .ok ()
  | some (attemptId, state) =>
    .error (.runtime ("child has unresolved " ++ kind ++ " " ++ attemptId ++ " in state " ++ state))

def requireNoActionOfChild (unresolved : Option ActionAttempt) : Except SupervisorError Unit :=
  requireNothing "external action" (unresolved.map (fun attempt => (attempt.attemptId, attempt.state.value)))

def requireNoReplacementOfChild (unresolved : Option ReplacementAttempt) : Except SupervisorError Unit :=
  requireNothing "replacement" (unresolved.map (fun attempt => (attempt.attemptId, attempt.state.value)))

def requireNoSpawnOfChild (unresolved : Option ChildSpawnAttempt) : Except SupervisorError Unit :=
  requireNothing "spawn" (unresolved.map (fun attempt => (attempt.attemptId, attempt.state.value)))

section Programs
open Program
variable {ρ : Type} {ω : ρ → Type}

/-- A child that is completed already. The canonical row may lag behind. -/
def confirmCompleted (childTaskId completionRef : String) (state : WorkerTaskState) (updatedAt : Time) :
    ExceptT SupervisorError (Program Database ω) WorkerTaskState := do
  ensure (refuse (state.completionRef ≠ some completionRef)
    (SupervisorError.runtime "child is already completed with a different completion_ref"))
  let task ← check (fun db => getTask db childTaskId)
  if task.state ≠ .completed then do
    updateState childTaskId .completed updatedAt
    pure state
  else
    pure state

/-- An expired lease cannot complete its worker, which is abandoned instead. -/
def endWorker (childTaskId workerId : String) (state : WorkerTaskState) (now : Time) :
    ExceptT SupervisorError (Program Database ω) WorkerTaskState := do
  let completed ← transaction (protocolCompleteWorker childTaskId workerId state.generation state.revision now)
  if completed.accepted then
    pure completed.state
  else do
    ensure (refuse (completed.code ≠ .leaseExpired)
      (SupervisorError.runtime ("current child worker completion rejected: " ++ completed.code.value)))
    let abandoned ← transaction (protocolAbandonWorker childTaskId workerId state.generation state.revision now)
    ensure (refuse (abandoned.accepted = false)
      (SupervisorError.runtime ("expired current child worker abandonment rejected: " ++ abandoned.code.value)))
    pure abandoned.state

def endCurrentWorker (childTaskId : String) (state : WorkerTaskState) (now : Time) :
    ExceptT SupervisorError (Program Database ω) WorkerTaskState :=
  match state.currentWorkerId with
  | none => pure state
  | some workerId => endWorker childTaskId workerId state now

def finishChildTask (childTaskId completionRef : String) (state : WorkerTaskState) (now updatedAt : Time) :
    ExceptT SupervisorError (Program Database ω) WorkerTaskState := do
  let ended ← endCurrentWorker childTaskId state now
  let completed ← transaction (protocolCompleteTask childTaskId completionRef ended.revision now)
  ensure (refuse (completed.accepted = false)
    (SupervisorError.runtime ("child task completion rejected: " ++ completed.code.value)))
  updateState childTaskId .completed updatedAt
  pure completed.state

/-- `updatedAt` is the clock of the last write. -/
def completeChildDispatch (childTaskId givenRef : String) (now updatedAt : Time) :
    ExceptT SupervisorError (Program Database ω) WorkerTaskState := do
  let _ ← check (fun db => getChildDispatch db childTaskId)
  let completionRef := strip givenRef
  ensure (refuse (completionRef = "") (SupervisorError.value "completion_ref must be non-empty"))
  let action ← check (fun db => unresolvedActionAttempt db childTaskId)
  ensure (requireNoActionOfChild action)
  let replacement ← check (fun db => .ok (unresolvedReplacementAttempt db childTaskId))
  ensure (requireNoReplacementOfChild replacement)
  let spawn ← unresolvedChildSpawnAttempt childTaskId
  ensure (requireNoSpawnOfChild spawn)
  let state ← check (fun db => loadWorkerProtocol db childTaskId)
  if state.taskStatus = .completed then
    confirmCompleted childTaskId completionRef state updatedAt
  else
    finishChildTask childTaskId completionRef state now updatedAt

end Programs

end WebSupervisor.Registry
