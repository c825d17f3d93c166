import WebSupervisor.Registry.Observations

/-! The wall clock of a work turn, from `overrun_continuation.py`. -/

namespace WebSupervisor.OverrunContinuation
open Library Registry

/-- The part of the policy that the clock reads. -/
structure OverrunContinuationPolicy where
  overrunAfterS : Time := 25 * 60 + 20
  sampleLeadS : Time := 60

structure OverrunClock where
  taskId : String
  workerId : String
  anchorAt : Time
  elapsedS : Time
  dueAt : Time
  due : Bool
  sampleDue : Bool
  deriving DecidableEq

/-- The rest of the loop once a generating sample was found. -/
def runStart (earliest : Time) : List BrowserObservation → Time
  | [] => earliest
  | observed :: older => if observed.generating = some true then runStart observed.observedAt older else earliest

/-- The loop over the history, newest first. -/
def generationStart : List BrowserObservation → Option Time
  | [] => none
  | observed :: older =>
    if observed.generating = some true then some (runStart observed.observedAt older) else generationStart older

def latestObservedGenerationStartedAt (db : Database) (workerId : String) : Option Time :=
  generationStart (browserObservationHistory db (some workerId) 2000)

/-- Membership in `_EFFECTIVE_CONTINUE_STATES`. -/
def effectiveContinue (workerId : String) (attempt : ActionAttempt) : Bool :=
  attempt.workerId = workerId ∧ attempt.action = "CONTINUE_CURRENT_WORKER" ∧
    attempt.state ∈ [.submitted, .reconcileRequired, .acknowledged]

def effectiveContinueAt (db : Database) (taskId workerId : String) : Except SupervisorError (Option Time) := do
  let attempts ← actionAttempts db taskId 200
  pure ((attempts.find? (effectiveContinue workerId)).map (fun attempt =>
    attempt.submittedAt.getD (if attempt.updatedAt ≠ 0 then attempt.updatedAt else attempt.createdAt)))

/-- The later one of the anchor and a time that may be missing. -/
def laterOf (anchor : Time) (other : Option Time) : Time := (other.map (max anchor)).getD anchor

def overrunClock (db : Database) (taskId : String) (policy : OverrunContinuationPolicy) (now : Time) :
    Except SupervisorError (Option OverrunClock) := do
  let task ← getTask db taskId
  let workerId := task.currentWorkerId.getD ""
  if task.state = .completed ∨ task.state = .abandoned ∨ workerId = "" then
    pure none
  else do
    let worker ← getWorker db workerId
    if worker.status ≠ .active then
      pure none
    else do
      let continued ← effectiveContinueAt db taskId worker.workerId
      let anchor := laterOf (laterOf worker.startedAt continued) (latestObservedGenerationStartedAt db worker.workerId)
      let threshold := max 1 policy.overrunAfterS
      let lead := max 0 (min policy.sampleLeadS threshold)
      let elapsed := now - anchor
      pure (some
        { taskId
          workerId := worker.workerId
          anchorAt := anchor
          elapsedS := elapsed
          dueAt := anchor + threshold
          due := threshold ≤ elapsed ∧ 0 ≤ elapsed
          sampleDue := threshold - lead ≤ elapsed ∧ 0 ≤ elapsed })

end WebSupervisor.OverrunContinuation
