import Mathlib
import WebSupervisor.Library.Checks
import WebSupervisor.Library.Runs
import WebSupervisor.Models

/-! The worker lease protocol of `worker_protocol.py`. Transitions are pure: a
conflict is a rejected decision, and only corrupt snapshots or malformed
arguments raise. -/

namespace WebSupervisor.WorkerProtocol
open Library

inductive WorkerLeaseStatus where
  | candidate | active | superseded | completed | abandoned
  deriving DecidableEq

def WorkerLeaseStatus.value : WorkerLeaseStatus → String
  | .candidate => "candidate"
  | .active => "active"
  | .superseded => "superseded"
  | .completed => "completed"
  | .abandoned => "abandoned"

inductive DurableTaskStatus where
  | opened | completed
  deriving DecidableEq

inductive DecisionCode where
  | registered | alreadyRegistered | claimed | heartbeatRecorded | handoffRequested | takeoverGranted
  | workerCompleted | workerAbandoned | taskCompleted | staleRevision | taskClosed | unknownWorker
  | notCandidate | activeWorkerPresent | noActiveWorker | fencedWorker | staleGeneration | leaseExpired
  | clockRollback | invalidHandoffTarget | takeoverNotEligible | activeWorkerMustEnd | completionRefRequired
  deriving DecidableEq

def DecisionCode.value : DecisionCode → String
  | .registered => "registered"
  | .alreadyRegistered => "already_registered"
  | .claimed => "claimed"
  | .heartbeatRecorded => "heartbeat_recorded"
  | .handoffRequested => "handoff_requested"
  | .takeoverGranted => "takeover_granted"
  | .workerCompleted => "worker_completed"
  | .workerAbandoned => "worker_abandoned"
  | .taskCompleted => "task_completed"
  | .staleRevision => "stale_revision"
  | .taskClosed => "task_closed"
  | .unknownWorker => "unknown_worker"
  | .notCandidate => "not_candidate"
  | .activeWorkerPresent => "active_worker_present"
  | .noActiveWorker => "no_active_worker"
  | .fencedWorker => "fenced_worker"
  | .staleGeneration => "stale_generation"
  | .leaseExpired => "lease_expired"
  | .clockRollback => "clock_rollback"
  | .invalidHandoffTarget => "invalid_handoff_target"
  | .takeoverNotEligible => "takeover_not_eligible"
  | .activeWorkerMustEnd => "active_worker_must_end"
  | .completionRefRequired => "completion_ref_required"

inductive EventKind where
  | workerRegistered | leaseClaimed | heartbeatAccepted | handoffRequested | workerSuperseded
  | leaseTakenOver | workerCompleted | workerAbandoned | taskCompleted
  deriving DecidableEq

inductive TakeoverReason where
  | handoff | leaseExpired | activeLeaseFresh | noActiveWorker | unknownCandidate | notCandidate | taskClosed
  deriving DecidableEq

def TakeoverReason.value : TakeoverReason → String
  | .handoff => "handoff"
  | .leaseExpired => "lease_expired"
  | .activeLeaseFresh => "active_lease_fresh"
  | .noActiveWorker => "no_active_worker"
  | .unknownCandidate => "unknown_candidate"
  | .notCandidate => "not_candidate"
  | .taskClosed => "task_closed"

/-- What a transition raises: `ValueError`, `ProtocolInvariantError`, or a
failed `assert`. -/
inductive ProtocolError where
  | value (message : String)
  | invariant (message : String)
  | assertion
  deriving DecidableEq

def ProtocolError.message : ProtocolError → String
  | .value message => message
  | .invariant message => message
  | .assertion => ""

structure TaskLineage where
  taskId : String
  parentTaskId : Option String
  rootTaskId : String
  childKey : Option String := none
  deriving DecidableEq

structure WorkerLease where
  workerId : String
  taskId : String
  conversationRef : Option String
  status : WorkerLeaseStatus
  registeredAt : Time
  generation : Option Int := none
  claimedAt : Option Time := none
  lastHeartbeatAt : Option Time := none
  leaseExpiresAt : Option Time := none
  endedAt : Option Time := none
  supersededBy : Option String := none
  deriving DecidableEq

structure WorkerTaskState where
  lineage : TaskLineage
  revision : Int := 0
  generation : Int := 0
  taskStatus : DurableTaskStatus := .opened
  currentWorkerId : Option String := none
  handoffTargetWorkerId : Option String := none
  handoffRequestedAt : Option Time := none
  workers : List WorkerLease := []
  completedAt : Option Time := none
  completionRef : Option String := none
  deriving DecidableEq

def WorkerTaskState.taskId (state : WorkerTaskState) : String := state.lineage.taskId

structure ProtocolEvent where
  kind : EventKind
  taskId : String
  revision : Int
  time : Time
  workerId : Option String := none
  generation : Option Int := none
  relatedWorkerId : Option String := none
  ref : Option String := none
  deriving DecidableEq

structure ProtocolDecision where
  accepted : Bool
  code : DecisionCode
  expectedRevision : Int
  state : WorkerTaskState
  events : List ProtocolEvent := []
  deriving DecidableEq

def ProtocolDecision.mutated (decision : ProtocolDecision) : Bool :=
  decision.accepted && decision.state.revision == decision.expectedRevision + 1

structure TakeoverEligibility where
  eligible : Bool
  reason : TakeoverReason
  activeWorkerId : Option String
  generation : Int
  deriving DecidableEq

def workerById (state : WorkerTaskState) (workerId : String) : Option WorkerLease :=
  state.workers.find? (fun worker => worker.workerId == workerId)

def leaseIsFresh (state : WorkerTaskState) (workerId : String) (now : Time) : Bool :=
  match workerById state workerId with
  | none => false
  | some worker =>
    state.taskStatus == .opened && state.currentWorkerId == some workerId &&
    worker.status == .active && worker.generation == some state.generation &&
    match worker.leaseExpiresAt with
    | none => false
    | some expiry => decide (now < expiry)

def refuseInvariant (bad : Prop) [Decidable bad] (message : String) : Except ProtocolError Unit :=
  refuse bad (.invariant message)

/-- The clauses about the current worker. -/
def validateCurrent (state : WorkerTaskState) : Except ProtocolError Unit :=
  let active := state.workers.filter (fun worker => worker.status == .active)
  match state.currentWorkerId with
  | none => refuseInvariant (active ≠ []) "active worker exists without current_worker_id"
  | some current =>
    match active with
    | [worker] => do
      refuseInvariant (worker.workerId ≠ current) "current_worker_id must identify exactly one active worker"
      refuseInvariant (worker.generation ≠ some state.generation ∨ state.generation ≤ 0)
        "current worker must own the current positive generation"
      refuseInvariant (worker.leaseExpiresAt = none) "current worker requires a lease expiry"
    | _ => .error (.invariant "current_worker_id must identify exactly one active worker")

/-- The clauses about a pending handoff. -/
def validateHandoff (state : WorkerTaskState) : Except ProtocolError Unit :=
  match state.handoffTargetWorkerId with
  | some targetId => do
    refuseInvariant (state.currentWorkerId = none ∨ state.handoffRequestedAt = none)
      "handoff requires a current worker and request timestamp"
    refuseInvariant ((workerById state targetId).map (·.status) ≠ some .candidate)
      "handoff target must be a registered candidate"
  | none => refuseInvariant (state.handoffRequestedAt ≠ none) "handoff timestamp cannot exist without a target"

/-- The clauses about a completed task. An empty reference counts as missing. -/
def validateCompletion (state : WorkerTaskState) : Except ProtocolError Unit :=
  if state.taskStatus = .completed then do
    refuseInvariant (state.currentWorkerId ≠ none) "completed durable task cannot retain an active worker"
    refuseInvariant (state.completedAt = none ∨ state.completionRef.getD "" = "")
      "completed durable task requires completion metadata"
  else
    .ok ()

def validateState (state : WorkerTaskState) : Except ProtocolError Unit := do
  refuseInvariant (state.revision < 0 ∨ state.generation < 0) "revision and generation must be non-negative"
  refuseInvariant (state.lineage.parentTaskId = none ∧ state.lineage.rootTaskId ≠ state.taskId)
    "root task must name itself as root_task_id"
  refuseInvariant ((state.workers.map (·.workerId)).dedup.length ≠ state.workers.length)
    "worker ids must be unique per durable task"
  refuseInvariant (∃ worker ∈ state.workers, worker.taskId ≠ state.taskId)
    "every worker must be registered against this durable task"
  validateCurrent state
  validateHandoff state
  validateCompletion state

/-- The lineage of a new snapshot. A root task names itself; a child receives
its root explicitly. -/
def newLineage (taskId : String) (parentTaskId rootTaskId childKey : Option String) :
    Except ProtocolError TaskLineage :=
  match parentTaskId with
  | none => do
    refuse (rootTaskId ≠ none ∧ rootTaskId ≠ some taskId)
      (ProtocolError.value "a root task's root_task_id must equal task_id")
    pure { taskId, parentTaskId := none, rootTaskId := taskId, childKey }
  | some parent => do
    refuse (strip parent = "") (ProtocolError.value "parent_task_id must be non-empty when supplied")
    refuse (strip (rootTaskId.getD "") = "") (ProtocolError.value "child tasks require an explicit root_task_id")
    pure { taskId, parentTaskId := some (strip parent), rootTaskId := strip (rootTaskId.getD ""), childKey }

def newTaskState (taskId : String) (parentTaskId rootTaskId childKey : Option String) :
    Except ProtocolError WorkerTaskState := do
  refuse (strip taskId = "") (ProtocolError.value "task_id must be non-empty")
  let lineage ← newLineage (strip taskId) parentTaskId rootTaskId childKey
  let state : WorkerTaskState := { lineage }
  validateState state
  pure state

def takeoverEligibility (state : WorkerTaskState) (candidateWorkerId : String) (now : Time) :
    Except ProtocolError TakeoverEligibility := do
  validateState state
  let answer (eligible : Bool) (reason : TakeoverReason) : TakeoverEligibility :=
    { eligible, reason, activeWorkerId := state.currentWorkerId, generation := state.generation }
  if state.taskStatus ≠ .opened then
    pure (answer false .taskClosed)
  else
    match workerById state candidateWorkerId with
    | none => pure (answer false .unknownCandidate)
    | some candidate =>
      if candidate.status ≠ .candidate then
        pure (answer false .notCandidate)
      else
        match state.currentWorkerId with
        | none => pure (answer false .noActiveWorker)
        | some current =>
          if state.handoffTargetWorkerId = some candidateWorkerId then
            pure (answer true .handoff)
          else if leaseIsFresh state current now then
            pure (answer false .activeLeaseFresh)
          else
            pure (answer true .leaseExpired)

def sortedWorkers (workers : List WorkerLease) : List WorkerLease :=
  workers.insertionSort (fun first second => first.workerId ≤ second.workerId)

def replaceWorker (workers : List WorkerLease) (updated : WorkerLease) : List WorkerLease :=
  sortedWorkers (workers.map (fun worker => if worker.workerId = updated.workerId then updated else worker))

def reject (state : WorkerTaskState) (code : DecisionCode) : ProtocolDecision :=
  { accepted := false, code, expectedRevision := state.revision, state }

/-- Stamp the next revision on the state and its events. The candidate state
is validated again before the decision is returned. -/
def accept (previous candidate : WorkerTaskState) (code : DecisionCode) (events : List ProtocolEvent) :
    Except ProtocolError ProtocolDecision := do
  let revision := previous.revision + 1
  let state := { candidate with revision }
  validateState state
  pure { accepted := true, code, expectedRevision := previous.revision, state,
         events := events.map (fun event => { event with revision }) }

def preflight (state : WorkerTaskState) (expectedRevision : Int) : Except ProtocolError (Option ProtocolDecision) := do
  validateState state
  if expectedRevision ≠ state.revision then
    pure (some { accepted := false, code := .staleRevision, expectedRevision, state })
  else
    pure none

def requirePositiveLease (leaseSeconds : Time) : Except ProtocolError Unit :=
  refuse (leaseSeconds ≤ 0) (.value "lease_seconds must be positive")

/-- Why the named worker may not act at `now`, or nothing when it holds a fresh
lease on the current generation. -/
def authorityRejection (state : WorkerTaskState) (workerId : String) (generation : Int) (now : Time) :
    Option ProtocolDecision :=
  if state.taskStatus ≠ .opened then
    some (reject state .taskClosed)
  else
    match workerById state workerId with
    | none => some (reject state .unknownWorker)
    | some worker =>
      if state.currentWorkerId ≠ some workerId ∨ worker.status ≠ .active then
        some (reject state .fencedWorker)
      else if generation ≠ state.generation ∨ worker.generation ≠ some generation then
        some (reject state .staleGeneration)
      else if ∃ stamp ∈ [worker.claimedAt, worker.lastHeartbeatAt].reduceOption.max?, now < stamp then
        some (reject state .clockRollback)
      else if !leaseIsFresh state workerId now then
        some (reject state .leaseExpired)
      else
        none

def registerWorker (state : WorkerTaskState) (workerId : String) (conversationRef : Option String)
    (now : Time) (expectedRevision : Int) : Except ProtocolError ProtocolDecision :=
  answerOr (preflight state expectedRevision) <|
  if state.taskStatus ≠ .opened then
    .ok (reject state .taskClosed)
  else do
    let workerId := strip workerId
    refuse (workerId = "") (ProtocolError.value "worker_id must be non-empty")
    match workerById state workerId with
    | some _ =>
      pure { accepted := true, code := .alreadyRegistered, expectedRevision := state.revision, state }
    | none =>
      let worker : WorkerLease :=
        { workerId, taskId := state.taskId, conversationRef, status := .candidate, registeredAt := now }
      accept state { state with workers := sortedWorkers (state.workers ++ [worker]) } .registered
        [{ kind := .workerRegistered, taskId := state.taskId, revision := 0, time := now, workerId := some workerId }]

/-- The lease that a successful claim or takeover gives to a candidate. -/
def claimedLease (worker : WorkerLease) (generation : Int) (now leaseSeconds : Time) : WorkerLease :=
  { worker with
    status := .active
    generation := some generation
    claimedAt := some now
    lastHeartbeatAt := some now
    leaseExpiresAt := some (now + leaseSeconds) }

def claimWorker (state : WorkerTaskState) (workerId : String) (now leaseSeconds : Time)
    (expectedRevision : Int) : Except ProtocolError ProtocolDecision := do
  requirePositiveLease leaseSeconds
  answerOr (preflight state expectedRevision) <|
    if state.taskStatus ≠ .opened then
      .ok (reject state .taskClosed)
    else
      match workerById state workerId with
      | none => .ok (reject state .unknownWorker)
      | some worker =>
        if worker.status ≠ .candidate then
          .ok (reject state .notCandidate)
        else if state.currentWorkerId ≠ none then
          .ok (reject state .activeWorkerPresent)
        else
          let generation := state.generation + 1
          accept state
            { state with
              generation
              currentWorkerId := some workerId
              handoffTargetWorkerId := none
              handoffRequestedAt := none
              workers := replaceWorker state.workers (claimedLease worker generation now leaseSeconds) }
            .claimed
            [{ kind := .leaseClaimed, taskId := state.taskId, revision := 0, time := now,
               workerId := some workerId, generation := some generation }]

/-- The lease after an accepted heartbeat. -/
def renewedLease (worker : WorkerLease) (now leaseSeconds : Time) : WorkerLease :=
  { worker with lastHeartbeatAt := some now, leaseExpiresAt := some (now + leaseSeconds) }

def heartbeatWorker (state : WorkerTaskState) (workerId : String) (generation : Int) (now leaseSeconds : Time)
    (expectedRevision : Int) : Except ProtocolError ProtocolDecision := do
  requirePositiveLease leaseSeconds
  answerOr (preflight state expectedRevision) <|
    match authorityRejection state workerId generation now with
    | some rejection => .ok rejection
    | none =>
      match workerById state workerId with
      | none => .error .assertion
      | some worker =>
        accept state
          { state with workers := replaceWorker state.workers (renewedLease worker now leaseSeconds) }
          .heartbeatRecorded
          [{ kind := .heartbeatAccepted, taskId := state.taskId, revision := 0, time := now,
             workerId := some workerId, generation := some generation }]

def requestHandoff (state : WorkerTaskState) (workerId targetWorkerId : String) (generation : Int) (now : Time)
    (expectedRevision : Int) : Except ProtocolError ProtocolDecision :=
  answerOr (preflight state expectedRevision) <|
  match authorityRejection state workerId generation now with
  | some rejection => .ok rejection
  | none =>
    if (workerById state targetWorkerId).map (·.status) ≠ some .candidate then
      .ok (reject state .invalidHandoffTarget)
    else
      accept state
        { state with handoffTargetWorkerId := some targetWorkerId, handoffRequestedAt := some now }
        .handoffRequested
        [{ kind := .handoffRequested, taskId := state.taskId, revision := 0, time := now,
           workerId := some workerId, generation := some generation, relatedWorkerId := some targetWorkerId }]

/-- The lease of a worker that a successor has replaced. Its expiry is kept. -/
def supersededLease (worker : WorkerLease) (candidateWorkerId : String) (now : Time) : WorkerLease :=
  { worker with status := .superseded, endedAt := some now, supersededBy := some candidateWorkerId }

/-- The code of a rejected takeover. -/
def takeoverRejection : TakeoverReason → DecisionCode
  | .taskClosed => .taskClosed
  | .unknownCandidate => .unknownWorker
  | .notCandidate => .notCandidate
  | .noActiveWorker => .noActiveWorker
  | _ => .takeoverNotEligible

def takeoverWorker (state : WorkerTaskState) (candidateWorkerId : String) (now leaseSeconds : Time)
    (expectedRevision : Int) : Except ProtocolError ProtocolDecision := do
  requirePositiveLease leaseSeconds
  answerOr (preflight state expectedRevision) <| do
    let eligibility ← takeoverEligibility state candidateWorkerId now
    if !eligibility.eligible then
      pure (reject state (takeoverRejection eligibility.reason))
    else
      match state.currentWorkerId with
      | none => .error .assertion
      | some oldWorkerId =>
        match workerById state oldWorkerId, workerById state candidateWorkerId with
        | some oldWorker, some candidate =>
          let generation := state.generation + 1
          let workers := replaceWorker state.workers (supersededLease oldWorker candidateWorkerId now)
          let workers := replaceWorker workers (claimedLease candidate generation now leaseSeconds)
          accept state
            { state with
              generation
              currentWorkerId := some candidateWorkerId
              handoffTargetWorkerId := none
              handoffRequestedAt := none
              workers }
            .takeoverGranted
            [{ kind := .workerSuperseded, taskId := state.taskId, revision := 0, time := now,
               workerId := some oldWorkerId, generation := oldWorker.generation,
               relatedWorkerId := some candidateWorkerId },
             { kind := .leaseTakenOver, taskId := state.taskId, revision := 0, time := now,
               workerId := some candidateWorkerId, generation := some generation,
               relatedWorkerId := some oldWorkerId, ref := some eligibility.reason.value }]
        | _, _ => .error .assertion

/-- The lease of a worker whose authority ends at `now`. -/
def endedLease (worker : WorkerLease) (status : WorkerLeaseStatus) (now : Time) : WorkerLease :=
  { worker with status, endedAt := some now, leaseExpiresAt := some now }

/-- The state after the current worker has ended without a successor. -/
def withoutCurrent (state : WorkerTaskState) (ended : WorkerLease) : WorkerTaskState :=
  { state with
    currentWorkerId := none
    handoffTargetWorkerId := none
    handoffRequestedAt := none
    workers := replaceWorker state.workers ended }

def completeWorker (state : WorkerTaskState) (workerId : String) (generation : Int) (now : Time)
    (expectedRevision : Int) : Except ProtocolError ProtocolDecision :=
  answerOr (preflight state expectedRevision) <|
  match authorityRejection state workerId generation now with
  | some rejection => .ok rejection
  | none =>
    match workerById state workerId with
    | none => .error .assertion
    | some worker =>
      accept state (withoutCurrent state (endedLease worker .completed now)) .workerCompleted
        [{ kind := .workerCompleted, taskId := state.taskId, revision := 0, time := now,
           workerId := some workerId, generation := some generation }]

/-- Fence a disappeared conversation. Neither the clock nor the lease is
consulted, and the task stays open. -/
def abandonWorker (state : WorkerTaskState) (workerId : String) (generation : Int) (now : Time)
    (expectedRevision : Int) : Except ProtocolError ProtocolDecision :=
  answerOr (preflight state expectedRevision) <|
  if state.taskStatus ≠ .opened then
    .ok (reject state .taskClosed)
  else
    match workerById state workerId with
    | none => .ok (reject state .unknownWorker)
    | some worker =>
      if state.currentWorkerId ≠ some workerId ∨ worker.status ≠ .active then
        .ok (reject state .fencedWorker)
      else if generation ≠ state.generation ∨ worker.generation ≠ some generation then
        .ok (reject state .staleGeneration)
      else
        accept state (withoutCurrent state (endedLease worker .abandoned now)) .workerAbandoned
          [{ kind := .workerAbandoned, taskId := state.taskId, revision := 0, time := now,
             workerId := some workerId, generation := some generation }]

def completeTask (state : WorkerTaskState) (completionRef : String) (now : Time)
    (expectedRevision : Int) : Except ProtocolError ProtocolDecision :=
  answerOr (preflight state expectedRevision) <|
  if state.taskStatus ≠ .opened then
    .ok (reject state .taskClosed)
  else if state.currentWorkerId ≠ none then
    .ok (reject state .activeWorkerMustEnd)
  else
    let completionRef := strip completionRef
    if completionRef = "" then
      .ok (reject state .completionRefRequired)
    else
      accept state
        { state with
          taskStatus := .completed, completedAt := some now, completionRef := some completionRef }
        .taskCompleted
        [{ kind := .taskCompleted, taskId := state.taskId, revision := 0, time := now,
           generation := some state.generation, ref := some completionRef }]

/-- One call of the protocol with its arguments. -/
inductive Call where
  | registerWorker (workerId : String) (conversationRef : Option String) (now : Time) (expectedRevision : Int)
  | claimWorker (workerId : String) (now leaseSeconds : Time) (expectedRevision : Int)
  | heartbeatWorker (workerId : String) (generation : Int) (now leaseSeconds : Time) (expectedRevision : Int)
  | requestHandoff (workerId targetWorkerId : String) (generation : Int) (now : Time) (expectedRevision : Int)
  | takeoverWorker (candidateWorkerId : String) (now leaseSeconds : Time) (expectedRevision : Int)
  | completeWorker (workerId : String) (generation : Int) (now : Time) (expectedRevision : Int)
  | abandonWorker (workerId : String) (generation : Int) (now : Time) (expectedRevision : Int)
  | completeTask (completionRef : String) (now : Time) (expectedRevision : Int)
  deriving DecidableEq

def Call.expectedRevision : Call → Int
  | .registerWorker _ _ _ revision | .claimWorker _ _ _ revision | .heartbeatWorker _ _ _ _ revision
  | .requestHandoff _ _ _ _ revision | .takeoverWorker _ _ _ revision | .completeWorker _ _ _ revision
  | .abandonWorker _ _ _ revision | .completeTask _ _ revision => revision

def perform (state : WorkerTaskState) : Call → Except ProtocolError ProtocolDecision
  | .registerWorker workerId conversationRef now revision => registerWorker state workerId conversationRef now revision
  | .claimWorker workerId now lease revision => claimWorker state workerId now lease revision
  | .heartbeatWorker workerId generation now lease revision =>
    heartbeatWorker state workerId generation now lease revision
  | .requestHandoff workerId target generation now revision =>
    requestHandoff state workerId target generation now revision
  | .takeoverWorker candidate now lease revision => takeoverWorker state candidate now lease revision
  | .completeWorker workerId generation now revision => completeWorker state workerId generation now revision
  | .abandonWorker workerId generation now revision => abandonWorker state workerId generation now revision
  | .completeTask completionRef now revision => completeTask state completionRef now revision

/-- The state a caller holds after one call. A call that raises returns nothing
and the caller keeps its snapshot. -/
def advance (state : WorkerTaskState) (call : Call) : WorkerTaskState :=
  match perform state call with
  | .ok decision => decision.state
  | .error _ => state

end WebSupervisor.WorkerProtocol
