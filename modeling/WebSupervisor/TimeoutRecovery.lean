import WebSupervisor.Dispatcher
import WebSupervisor.Registry.Observations

/-! The gate of `timeout_recovery.py` for resident recovery of delivery errors.
`lowercase` is the case mapping of the host language. -/

namespace WebSupervisor
open Library Registry Dispatcher

/-- `text.split()`. -/
def splitSpace (text : String) : List String :=
  ((text.toList.splitOnP isSpace).filter (· ≠ [])).map String.ofList

namespace TimeoutRecovery

def recoverableDeliveryErrors : List String :=
  ["message delivery timed out", "error in message stream", "there was an error generating a response",
    "something went wrong"]

structure TimeoutRecoveryPolicy where
  enabled : Bool := false
  cooldownS : Time := 60

variable (lowercase : String → String)

def normalizedVisibleError (browser : Option BrowserObservation) : Option String :=
  let text := (browser.bind (·.visibleError)).getD ""
  if text = "" then none else some (" ".intercalate (splitSpace (lowercase (strip text))))

def isRecoverableDeliveryError (browser : Option BrowserObservation) : Bool :=
  match normalizedVisibleError lowercase browser with
  | none => false
  | some marker => recoverableDeliveryErrors.any (fun known => known.toList <:+: marker.toList)

/-- The loop over the history, newest first. `full` is the answer at its end. -/
def shadowedIn (marker : String) (full : Bool) : List BrowserObservation → Bool
  | [] => full
  | observed :: older =>
    if normalizedVisibleError lowercase (some observed) ≠ some marker then false
    else if observed.generating = some true then true
    else shadowedIn marker full older

def errorShadowedByActiveGeneration (db : Database) (taskId : String) (browser : Option BrowserObservation) :
    Except SupervisorError Bool :=
  match browser, normalizedVisibleError lowercase browser with
  | some observed, some marker => do
    let task ← getTask db taskId
    let workerId := task.currentWorkerId.getD ""
    if workerId = "" ∨ observed.workerId ≠ workerId then
      pure true
    else
      let history := browserObservationHistory db task.currentWorkerId observationRetentionPerEntity
      pure (shadowedIn lowercase marker (observationRetentionPerEntity ≤ history.length) history)
  | _, _ => pure false

/-- Whether the browser still shows what it showed when the last acknowledged
action was acknowledged. -/
def acknowledgedStateIsUnchanged (db : Database) (taskId : String) (browser : Option BrowserObservation) :
    Except SupervisorError Bool :=
  let signature := (browser.bind (·.messageSignature)).getD ""
  if signature = "" then
    pure false
  else do
    let attempts ← actionAttempts db taskId 20
    match attempts.find? (·.state = .acknowledged) with
    | none => pure false
    | some attempt =>
      let shown := (attempt.metadata.get "ack_browser_signature").textOrEmpty
      pure (shown ≠ "" ∧ shown = signature)

/-- The checks of the gate. `elapsed` is the time since the last action. -/
def timeoutChecks (browser : Option BrowserObservation) (policy : TimeoutRecoveryPolicy) (acknowledged shadowed : Bool)
    (elapsed : Option Time) : List Check :=
  [⟨"timeout_autorecovery_enabled", policy.enabled, "resident timeout autorecovery is not explicitly enabled"⟩,
    ⟨"explicit_recoverable_delivery_error", isRecoverableDeliveryError lowercase browser,
      "no explicit recoverable web chat delivery error is present"⟩,
    ⟨"timeout_state_not_already_acknowledged", !acknowledged,
      "current UI signature already has a positive recovery acknowledgement"⟩,
    ⟨"timeout_error_not_shadowed_by_newer_generation", !shadowed,
      "visible delivery error coexisted with a newer active generation; wait for the stale banner to clear"⟩,
    ⟨"timeout_recovery_cooldown_elapsed", elapsed.all (fun elapsed => max 0 policy.cooldownS ≤ elapsed ∧ 0 ≤ elapsed),
      "resident timeout recovery cooldown has not elapsed"⟩]

/-- The plan with the checks of the gate added. -/
def gatedPlan (plan : DispatchPlan) (checks : List Check) : DispatchPlan :=
  let blockers := plan.blockers ++ blockersOf checks
  let allowed := plan.candidateReady && blockers.isEmpty
  { plan with
    candidateReady := allowed
    wouldDispatch := allowed && plan.transportEnabled
    checks := checks.foldl (fun result check => setCheck result check.name check.passed) plan.checks
    blockers
    reason :=
      if allowed then "explicit delivery timeout is stable across all recovery fences"
      else "resident timeout recovery is blocked by deterministic safety gates" }

def gateTimeoutDispatchPlan (db : Database) (plan : DispatchPlan) (browser : Option BrowserObservation)
    (policy : TimeoutRecoveryPolicy) (now : Time) : Except SupervisorError DispatchPlan := do
  let acknowledged ← acknowledgedStateIsUnchanged db plan.taskId browser
  let shadowed ← errorShadowedByActiveGeneration lowercase db plan.taskId browser
  let recent ← actionAttempts db plan.taskId 1
  let elapsed := recent.head?.map (fun attempt => now - attempt.createdAt)
  pure (gatedPlan plan (timeoutChecks lowercase browser policy acknowledged shadowed elapsed))

end TimeoutRecovery

end WebSupervisor
