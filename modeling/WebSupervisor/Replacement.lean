import WebSupervisor.ChildSpawn

/-! The replacement of a child's worker, from `replacement.py`: the takeover of its
logical session is armed, and the protocol follows when it is observed. The registry
is read and written in separate steps; the caller's clock is an argument, and the
identifier of a new attempt is drawn by the environment. -/

namespace WebSupervisor.Replacement
open Library Library.Program Registry WorkerProtocol

/-- `_fresh`. -/
def fresh (observedAt now maxAgeS : Time) : Bool := decide (0 ≤ now - observedAt ∧ now - observedAt ≤ maxAgeS)

def safeLsm (taskSessionId : Option String) (lsm : Option LsmObservation) (now maxAgeS : Time) : List String :=
  if taskSessionId.getD "" = "" then ["child has no bound durable LSM logical session"]
  else
    match lsm with
    | none => ["fresh LSM observation is required"]
    | some lsm =>
      (if lsm.sessionId ≠ taskSessionId then ["LSM observation belongs to a different logical session"] else []) ++
      (if fresh lsm.observedAt now maxAgeS then [] else ["LSM observation is stale or from the future"]) ++
      (if lsm.inFlightCalls ≠ 0 then ["LSM has " ++ toString lsm.inFlightCalls ++ " in-flight tool call(s)"] else []) ++
      (if lsm.activeJobs ≠ 0 then ["LSM has " ++ toString lsm.activeJobs ++ " active tracked job(s)"] else []) ++
      (if lsm.continuationPending = some true then ["LSM has a pending continuation"] else [])

/-- The checks of `_fresh_workspace` of `child_spawn.py`, with a demand of its own. -/
def safeWorkspace (dispatch : ChildDispatchRecord) (workspace : Option WorkspaceObservation) (now maxAgeS : Time) :
    List String :=
  match workspace with
  | none => ["fresh workspace observation is required"]
  | some workspace => ChildSpawn.freshWorkspace dispatch (some workspace) now maxAgeS

def unresolvedBlockers (action : Option ActionAttempt) (probe : Option ProbeMutationOperation) : List String :=
  (match action with
    | none => []
    | some attempt => ["unresolved external browser action " ++ attempt.attemptId ++ " is " ++ attempt.state.value]) ++
  (match probe with
    | none => []
    | some operation => ["global probe mutation " ++ operation.operationId ++ " is " ++ operation.state.value])

/-- The arguments of `complete_replacement`, with the clock that it reads. -/
structure CompletionArgs where
  attemptId : String
  newActiveRunId : String
  lsm : Option LsmObservation
  workspace : Option WorkspaceObservation
  leaseSeconds : Time := 7200
  now : Time
  maxEvidenceAgeS : Time := 60

/-- What `complete_replacement` reads of the registry beside the attempt. -/
structure CompletionEvidence where
  action : Option ActionAttempt
  probe : Option ProbeMutationOperation
  dispatch : ChildDispatchRecord
  protocol : WorkerTaskState

/-- `_completion_blockers`, on what it has read. -/
def completionBlockers (attempt : ReplacementAttempt) (found : CompletionEvidence) (args : CompletionArgs) : List String :=
  unresolvedBlockers found.action found.probe ++
  safeLsm (some attempt.lsmSessionId) args.lsm args.now args.maxEvidenceAgeS ++
  safeWorkspace found.dispatch args.workspace args.now args.maxEvidenceAgeS ++
  (match args.lsm with
    | none => []
    | some lsm =>
      (if strip args.newActiveRunId = "" then ["new LSM active run id is required"]
        else if lsm.activeRunId ≠ some args.newActiveRunId then
          ["observed LSM active run does not match the reported takeover result"]
        else []) ++
      (if attempt.previousActiveRunId.getD "" ≠ "" ∧ some args.newActiveRunId = attempt.previousActiveRunId then
        ["LSM active run did not change across takeover"] else [])) ++
  (match args.workspace with
    | none => []
    | some workspace =>
      (if workspace.gitHead ≠ attempt.workspaceGitHead then
        ["workspace HEAD changed while replacement was in flight"] else []) ++
      (if workspace.gitStatusHash ≠ attempt.workspaceStatusHash then
        ["workspace status changed while replacement was in flight"] else []) ++
      (if attempt.expectedBranch.getD "" ≠ "" ∧ workspace.gitBranch ≠ attempt.expectedBranch then
        ["workspace branch changed while replacement was in flight"] else []))

/-- The candidate already has the authority: the protocol moved, and the attempt was not completed. -/
def alreadyClaimed (attempt : ReplacementAttempt) (state : WorkerTaskState) : Bool :=
  state.currentWorkerId = some attempt.candidateWorkerId &&
    (workerById state attempt.candidateWorkerId).any (fun candidate => candidate.status = .active)

/-- What the protocol has against the completion. -/
def protocolBlockers (attempt : ReplacementAttempt) (state : WorkerTaskState) : List String :=
  if (workerById state attempt.candidateWorkerId).isNone then
    ["replacement candidate disappeared from worker protocol"]
  else if alreadyClaimed attempt state then
    if state.generation ≤ attempt.previousGeneration then ["candidate is active without a newer protocol generation"]
    else []
  else if state.revision ≠ attempt.expectedRevision then
    ["worker protocol revision changed from " ++ toString attempt.expectedRevision ++ " to " ++ toString state.revision]
  else []

def joined (blockers : List String) : String := "; ".intercalate blockers

section Programs
variable {ρ : Type} {ω : ρ → Type}

/-- The reads of `complete_replacement`, each a statement of its own. -/
def readEvidence (attempt : ReplacementAttempt) : ExceptT SupervisorError (Program Database ω) CompletionEvidence := do
  let action ← check (fun db => unresolvedActionAttempt db attempt.taskId)
  let probe ← check (fun db => .ok (unresolvedProbeMutationOperation db))
  let dispatch ← check (fun db => getChildDispatch db attempt.taskId)
  let protocol ← check (fun db => WorkerPersistence.loadWorkerProtocol db attempt.taskId)
  pure { action, probe, dispatch, protocol }

/-- The blockers are recorded, and raised. -/
def blockReplacement (args : CompletionArgs) (blockers : List String) :
    ExceptT SupervisorError (Program Database ω) ReplacementAttempt := do
  let _ ← updateReplacementAttempt args.attemptId .reconcileRequired (some args.newActiveRunId) (some (joined blockers))
    args.now
  ensure (.error (.replacementBlocked blockers))

def claimCandidate (args : CompletionArgs) (attempt : ReplacementAttempt) (state : WorkerTaskState) :
    ExceptT SupervisorError (Program Database ω) WorkerTaskState := do
  let claimed ← transaction
    (protocolClaimWorker attempt.taskId attempt.candidateWorkerId state.revision args.leaseSeconds args.now)
  ensure (refuse (claimed.accepted = false)
    (SupervisorError.runtime ("replacement claim rejected: " ++ claimed.code.value)))
  pure claimed.state

/-- The candidate takes the place of the current worker. -/
def supersedeWorker (args : CompletionArgs) (attempt : ReplacementAttempt) (state : WorkerTaskState) (current : String) :
    ExceptT SupervisorError (Program Database ω) WorkerTaskState := do
  ensure (refuse (some current ≠ attempt.previousWorkerId ∨ state.generation ≠ attempt.previousGeneration)
    (SupervisorError.replacementBlocked ["current worker/generation changed since replacement was armed"]))
  let eligibility ← ensure ((takeoverEligibility state attempt.candidateWorkerId args.now).mapError .protocol)
  if eligibility.eligible then do
    let takeover ← transaction
      (protocolTakeoverWorker attempt.taskId attempt.candidateWorkerId state.revision args.leaseSeconds args.now)
    ensure (refuse (takeover.accepted = false)
      (SupervisorError.runtime ("replacement takeover rejected: " ++ takeover.code.value)))
    pure takeover.state
  else if eligibility.reason = .activeLeaseFresh then do
    let abandoned ← transaction
      (protocolAbandonWorker attempt.taskId current state.generation state.revision args.now)
    ensure (refuse (abandoned.accepted = false)
      (SupervisorError.runtime ("old worker fence rejected: " ++ abandoned.code.value)))
    claimCandidate args attempt abandoned.state
  else
    ensure (.error (.replacementBlocked
      ["worker protocol replacement ceased to be eligible: " ++ eligibility.reason.value]))

/-- The transition of the protocol to the candidate. -/
def publishCandidate (args : CompletionArgs) (attempt : ReplacementAttempt) (state : WorkerTaskState) :
    ExceptT SupervisorError (Program Database ω) WorkerTaskState :=
  match state.currentWorkerId with
  | none => claimCandidate args attempt state
  | some current => supersedeWorker args attempt state current

/-- The attempt is completed in the end, with the run that was reported. -/
def finishReplacement (args : CompletionArgs) : ExceptT SupervisorError (Program Database ω) ReplacementAttempt :=
  updateReplacementAttempt args.attemptId .completed (some args.newActiveRunId) none args.now

def completeReplacement (args : CompletionArgs) : ExceptT SupervisorError (Program Database ω) ReplacementAttempt := do
  let attempt ← check (fun db => getReplacementAttempt db args.attemptId)
  ensure (refuse (attempt.state ∉ [.lsmTakeoverSubmitted, .reconcileRequired])
    (SupervisorError.runtime ("replacement " ++ args.attemptId ++ " is not awaiting LSM reconciliation")))
  let found ← readEvidence attempt
  let blockers := completionBlockers attempt found args ++ protocolBlockers attempt found.protocol
  if blockers ≠ [] then
    blockReplacement args blockers
  else if alreadyClaimed attempt found.protocol then
    -- A crash after the transition of the protocol, before the attempt was completed.
    finishReplacement args
  else do
    let published ← publishCandidate args attempt found.protocol
    ensure (refuse (published.currentWorkerId ≠ some attempt.candidateWorkerId)
      (SupervisorError.runtime "replacement transition did not publish candidate authority"))
    finishReplacement args

end Programs

end WebSupervisor.Replacement
