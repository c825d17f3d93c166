import WebSupervisor.Registry.Actions

/-! The execution of a recovery action and its acknowledgement, from
`action_runtime.py` and `dispatch_runtime.py`. The transport and the observer
are the environment. -/

namespace WebSupervisor.ActionRuntime
open Library Library.Program Registry

/-- What a transport does with one intent. -/
inductive SubmitAnswer where
  | returned (result : TransportSubmission)
  | disabled (message : String)
  | raised (exception : Raised)
  deriving DecidableEq

inductive Request where
  | transportFactory (binding : WorkerWindowBinding)
  | submit (intent : ActionIntent)
  | observerFactory (chromeExecutable : String)
  | observe (workerId conversationUrl expectedNonce : String) (expectedHwnd expectedBrowserPid : Int)
  deriving DecidableEq

/-- A transport is known by its name. -/
abbrev Answer : Request → Type
  | .transportFactory _ => Except Raised String
  | .submit _ => SubmitAnswer
  | .observerFactory _ => Except Raised Unit
  | .observe .. => Except Raised UiaAckObservation

abbrev Runtime := ExceptT SupervisorError (Program Database Answer)

/-- An exception that the caller does not catch. -/
def uncaught {α : Type} : Except Raised α → Except SupervisorError α
  | .ok value => .ok value
  | .error exception => .error (.raised exception.kind exception.message)

structure SubmitOutcome where
  attemptId : String
  state : ActionAttemptState
  submitted : Bool
  sideEffectPossible : Bool
  transportName : Option String
  detail : String

/-- The durable consequence of what the transport did. -/
def settleSubmission (attemptId transportName : String) (markedAt : Time) : SubmitAnswer → Runtime SubmitOutcome
  | .disabled message => ensure (.error (.transportDisabled message))
  | .raised exception => do
    let updated ← markActionReconcileRequired attemptId
      ("transport raised " ++ exception.text) (some transportName) markedAt
    return { attemptId, state := updated.state, submitted := false, sideEffectPossible := true,
             transportName := updated.transportName,
             detail := (orText updated.lastError (some "transport outcome ambiguous")).getD "" }
  | .returned result =>
    if result.submitted then do
      let updated ← markActionSubmitted attemptId result.transportName markedAt
      return { attemptId, state := updated.state, submitted := true, sideEffectPossible := true,
               transportName := some result.transportName, detail := result.detail }
    else if result.sideEffectPossible then do
      let error := if result.detail = "" then "transport could not prove whether the side effect occurred"
        else result.detail
      let updated ← markActionReconcileRequired attemptId error (some result.transportName) markedAt
      return { attemptId, state := updated.state, submitted := false, sideEffectPossible := true,
               transportName := some result.transportName, detail := result.detail }
    else do
      let error := if result.detail = "" then "transport proved no side effect occurred" else result.detail
      let updated ← failActionAttempt attemptId error (some result.transportName) markedAt
      return { attemptId, state := updated.state, submitted := false, sideEffectPossible := false,
               transportName := some result.transportName, detail := result.detail }

/-- `markedAt` is the clock when the outcome is written. -/
def submitArmedAction (attemptId prompt transportName : String) (markedAt : Time) : Runtime SubmitOutcome := do
  let intent ← check (fun db => do
    let attempt ← getActionAttempt db attemptId
    intentFromAttempt attempt prompt)
  let answer ← ask (.submit intent) .ok
  settleSubmission attemptId transportName markedAt answer

def requireNoUnresolvedAction (db : Database) (taskId : String) : Except SupervisorError Unit := do
  match ← unresolvedActionAttempt db taskId with
  | none => pure ()
  | some unresolved =>
    .error (.blocked ("task " ++ taskId ++ " has unresolved action " ++ unresolved.attemptId ++
      " in state " ++ unresolved.state.value ++ "; reconcile or cancel it before any new send"))

structure DispatchExecutionPolicy where
  enabled : Bool := false
  confirmedTaskId : Option String := none
  consumeRecoveryBudget : Bool := true
  attemptMetadata : Metadata := []

structure DispatchExecutionResult where
  taskId : String
  attemptId : String
  state : ActionAttemptState
  submitted : Bool
  sideEffectPossible : Bool
  detail : String

/-- The arguments of an execution, with the identifiers it generates and the
clock at its last write. -/
structure RecoveryExecution where
  plan : DispatchPlan
  recommendation : RecoveryRecommendation
  policy : DispatchExecutionPolicy
  now : Time
  nonce : String
  suffix : String
  markedAt : Time

def RecoveryExecution.prompt (execution : RecoveryExecution) : String := execution.recommendation.prompt.getD ""

/-- The checks that need no registry. -/
def RecoveryExecution.admit (execution : RecoveryExecution) : Except SupervisorError Unit := do
  refuse (execution.policy.enabled = false)
    (.dispatchDisabled "recovery execution is disabled; explicit opt-in is required")
  refuse (execution.policy.confirmedTaskId ≠ some execution.plan.taskId)
    (.dispatchDisabled "explicit task confirmation does not match the dispatch plan")
  refuse (execution.plan.action ≠ .continueCurrentWorker)
    (.blocked "only current-worker continuation is supported by the explicit executor")
  refuse (execution.plan.candidateReady = false ∨ execution.plan.transportEnabled = false ∨
      execution.plan.wouldDispatch = false)
    (.blocked "dispatch plan is not execution-ready")
  refuse (execution.prompt = "" ∨ execution.recommendation.action ≠ "reconcile_then_continue")
    (.blocked "recovery recommendation does not contain the canonical continuation prompt")

def currentWorkerOf (task : TaskRecord) : Except SupervisorError String :=
  if task.currentWorkerId.getD "" = "" then .error (.blocked "task has no current worker")
  else .ok (task.currentWorkerId.getD "")

def RecoveryExecution.fenceHolds (execution : RecoveryExecution) (found : Option ReconciliationRecord) :
    Except SupervisorError ReconciliationRecord :=
  match found with
  | none => .error (.blocked "latest reconciliation disappeared before execution")
  | some current => do
    refuse (some current.reconcileId ≠ execution.plan.currentReconcileId)
      (.blocked "a newer reconciliation exists; rebuild the dispatch plan")
    refuse (some current.fenceToken ≠ execution.plan.fenceToken)
      (.blocked "reconciliation fence changed before execution")
    pure current

def leaseMatches (worker : WorkerRecord) (found : Option WorkerWindowBinding) :
    Except SupervisorError WorkerWindowBinding :=
  match found with
  | none => .error (.blocked "fresh exact-window lease is required before recovery execution")
  | some binding => do
    refuse (rstripSlash binding.conversationUrl ≠ rstripSlash worker.conversationUrl)
      (.blocked "fresh window lease no longer matches the current worker URL")
    pure binding

def signatureOf (now : Time) (found : Option BrowserObservation) : Except SupervisorError String :=
  match found with
  | none => .error (.blocked "fresh browser signature is required before write-ahead arming")
  | some browser => do
    refuse (browser.messageSignature.getD "" = "")
      (.blocked "fresh browser signature is required before write-ahead arming")
    refuse (now + 1 < browser.observedAt) (.blocked "browser observation timestamp is from the future")
    pure (browser.messageSignature.getD "")

/-- The write-ahead record in the budget mode of the policy. -/
def RecoveryExecution.arm (execution : RecoveryExecution) (attempt : ActionAttempt) : Transaction Unit :=
  if execution.policy.consumeRecoveryBudget then recordRecoveryActionAttempt attempt
  else recordCurrentWorkerActionAttempt attempt

def executeCurrentWorkerRecovery (execution : RecoveryExecution) : Runtime DispatchExecutionResult := do
  ensure execution.admit
  let task ← check (fun db => getTask db execution.plan.taskId)
  let workerId ← ensure (currentWorkerOf task)
  let worker ← check (fun db => getWorker db workerId)
  ensure (refuse (worker.status ≠ .active) (.blocked "current worker is not active"))
  check (fun db => requireNoUnresolvedAction db task.taskId)
  let current ← check (fun db => do execution.fenceHolds (← latestReconciliation db task.taskId))
  let binding ← check (fun db => leaseMatches worker (getWorkerWindowBinding db worker.workerId execution.now true))
  let signature ← check (fun db => signatureOf execution.now (latestBrowserObservation db worker.workerId))
  let transportName ← ask (.transportFactory binding) uncaught
  let attempt ← ensure (buildActionAttempt execution.plan task worker execution.prompt current.fenceVersion
    (some signature) execution.now execution.nonce execution.suffix)
  let attempt := { attempt with metadata := attempt.metadata.update execution.policy.attemptMetadata }
  transaction (execution.arm attempt)
  let outcome ← submitArmedAction attempt.attemptId execution.prompt transportName execution.markedAt
  return { taskId := task.taskId, attemptId := attempt.attemptId, state := outcome.state,
           submitted := outcome.submitted, sideEffectPossible := outcome.sideEffectPossible,
           detail := outcome.detail }

structure ActionReconcileResult where
  attemptId : String
  state : ActionAttemptState
  acknowledged : Bool
  detail : String
  observation : Option UiaAckObservation := none

/-- The current worker of an unresolved attempt, as far as it is still active. -/
def requireActiveWorker (worker : WorkerRecord) : Except SupervisorError Unit :=
  refuse (worker.status ≠ .active) (.blocked "action acknowledgement requires an active current worker")

def acknowledgementLease (found : Option WorkerWindowBinding) : Except SupervisorError WorkerWindowBinding :=
  match found with
  | none => .error (.blocked "fresh exact-window lease is required for action acknowledgement")
  | some binding => .ok binding

def acknowledgeObserved (attempt : ActionAttempt) (observation : UiaAckObservation) : Runtime ActionReconcileResult :=
  match acknowledgementFromUiaObservation attempt observation 1 (some 1) true with
  | none =>
    return { attemptId := attempt.attemptId, state := attempt.state, acknowledged := false,
             detail := "positive single-turn completion acknowledgement is not yet available",
             observation := some observation }
  | some ack => do
    let updated ← acknowledgeAction ack
    return { attemptId := updated.attemptId, state := updated.state, acknowledged := true,
             detail := "action acknowledged from exact-window nonce/hash evidence",
             observation := some observation }

def reconcileUnresolved (attempt : ActionAttempt) (now : Time) : Runtime ActionReconcileResult := do
  let task ← check (fun db => getTask db attempt.taskId)
  ensure (refuse (task.currentWorkerId ≠ some attempt.workerId)
    (.blocked "action attempt no longer belongs to the task's current worker"))
  let worker ← check (fun db => getWorker db attempt.workerId)
  ensure (requireActiveWorker worker)
  let binding ← check (fun db => acknowledgementLease (getWorkerWindowBinding db worker.workerId now true))
  ask (.observerFactory binding.chromeExecutable) uncaught
  let observation ← ask (.observe worker.workerId worker.conversationUrl ("LWS-ACTION-" ++ attempt.nonce)
    binding.windowHandle binding.browserPid) uncaught
  acknowledgeObserved attempt observation

def reconcileActionWithUia (attemptId : String) (now : Time) : Runtime ActionReconcileResult := do
  let attempt ← check (fun db => getActionAttempt db attemptId)
  if attempt.state.Unresolved then
    reconcileUnresolved attempt now
  else
    return { attemptId := attempt.attemptId, state := attempt.state,
             acknowledged := decide (attempt.state = .acknowledged), detail := "action attempt is already terminal" }

end WebSupervisor.ActionRuntime
