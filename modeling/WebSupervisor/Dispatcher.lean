import WebSupervisor.Actions
import WebSupervisor.Reconcile

/-! Planning of a recovery action from two reconciliation records, from
`dispatcher.py`, and the gate of `actions.py` on a plan. `lowercase` is the case
mapping of the host language. -/

namespace WebSupervisor
open Library

def SupervisorState.value : SupervisorState → String
  | .queued => "QUEUED"
  | .starting => "STARTING"
  | .running => "RUNNING"
  | .suspect => "SUSPECT"
  | .reconciling => "RECONCILING"
  | .recovering => "RECOVERING"
  | .blocked => "BLOCKED"
  | .needsHuman => "NEEDS_HUMAN"
  | .completed => "COMPLETED"
  | .abandoned => "ABANDONED"

namespace Dispatcher

structure DispatchPolicy where
  maxReconciliationAgeS : Time := 120
  minReconciliationSeparationS : Time := 3
  maxBrowserObservationAgeS : Time := 30
  maxNetworkObservationAgeS : Time := 30
  minDomQuietS : Time := 5
  minNetworkQuietS : Time := 5
  transportEnabled : Bool := false

/-- `checks[name] = passed`. -/
def setCheck (checks : List (String × Bool)) (name : String) (passed : Bool) : List (String × Bool) :=
  if checks.any (·.1 = name) then checks.map (fun check => if check.1 = name then (name, passed) else check)
  else checks ++ [(name, passed)]

/-- A check and what it adds to the blockers when it fails. -/
structure Check where
  name : String
  passed : Bool
  blocker : String

def blockersOf (checks : List Check) : List String := (checks.filter (!·.passed)).map (·.blocker)

theorem blockersOf_eq_nil {checks : List Check} : blockersOf checks = [] ↔ ∀ check ∈ checks, check.passed = true := by
  simp [blockersOf]

/-- The schemes of `uses_netloc`. -/
private def usesNetloc : List String :=
  ["ftp", "http", "gopher", "nntp", "telnet", "imap", "wais", "file", "mms", "https", "shttp", "snews", "prospero",
    "rtsp", "rtsps", "rtspu", "rsync", "svn", "svn+ssh", "sftp", "nfs", "git", "git+ssh", "ws", "wss", "itms-services"]

/-- `urlunsplit` without a fragment. -/
private def urlunsplit (scheme netloc path query : String) : String :=
  let body :=
    if netloc ≠ "" then "//" ++ netloc ++ (if path ≠ "" ∧ path.toList.head? ≠ some '/' then "/" ++ path else path)
    else if path.toList.take 2 = ['/', '/'] ∨ scheme ∈ usesNetloc ∧ (path = "" ∨ path.toList.head? = some '/') then
      "//" ++ path
    else path
  let address := if scheme = "" then body else scheme ++ ":" ++ body
  if query = "" then address else address ++ "?" ++ query

section Planning
variable (lowercase : String → String)

/-- `_normalize_url`. The split may raise. -/
def normalizeUrl (value : String) : Except SupervisorError String :=
  match urlsplit (strip value) with
  | none => .error (.value "Invalid URL")
  | some parsed =>
    let path := rstripSlash parsed.path
    .ok (urlunsplit (lowercase parsed.scheme) (lowercase parsed.netloc) (if path = "" then "/" else path) parsed.query)

def actionFromRecommendation (recommendation : RecoveryRecommendation) : DispatchAction :=
  if recommendation.action = "none" then .none
  else if recommendation.action = "observe" then .observe
  else if recommendation.action = "human_decision" then .humanDecision
  else if recommendation.action = "reconcile_then_continue" then .continueCurrentWorker
  else .humanDecision

/-- `0.0 <= now - at <= max(1.0, limit)`. -/
def fresh (now sampled limit : Time) : Bool := 0 ≤ now - sampled ∧ now - sampled ≤ max 1 limit

variable (task : TaskRecord) (previous current : Option ReconciliationRecord) (policy : DispatchPolicy) (now : Time)

/-- The budget and the current record. -/
def currentChecks : List Check :=
  [⟨"recovery_budget_available", task.recoveryAttempts < task.maxRecoveryAttempts,
      "recovery attempt budget is exhausted"⟩,
    ⟨"current_reconciliation_present", current.isSome, "no current reconciliation record"⟩] ++
  match current with
  | none => []
  | some record =>
    [⟨"current_reconciliation_fresh", fresh now record.createdAt policy.maxReconciliationAgeS,
        "current reconciliation record is stale or from the future"⟩,
      ⟨"current_worker_matches_task", record.currentWorkerId = task.currentWorkerId,
        "current worker changed after task registration/reconciliation"⟩,
      ⟨"recovery_state_allowed", record.state = .suspect ∨ record.state = .reconciling,
        "current state " ++ record.state.value ++ " is not a recoverable stalled state"⟩]

/-- `test` of both records, and false where one is missing. -/
def both (test : ReconciliationRecord → ReconciliationRecord → Bool) : Bool :=
  match previous, current with
  | some first, some second => test first second
  | _, _ => false

/-- The two samples. -/
def pairChecks : List Check :=
  [⟨"previous_reconciliation_present", previous.isSome, "two-phase dispatch requires a previous reconciliation record"⟩,
    ⟨"distinct_reconciliation_samples", both previous current (fun first second => first.reconcileId ≠ second.reconcileId),
      "dispatch requires two distinct reconciliation samples"⟩,
    ⟨"previous_reconciliation_fresh",
      previous.any (fun record => fresh now record.createdAt policy.maxReconciliationAgeS),
      "previous reconciliation record is stale or from the future"⟩,
    ⟨"reconciliation_separation_sufficient",
      both previous current (fun first second =>
        max 0 policy.minReconciliationSeparationS ≤ second.createdAt - first.createdAt),
      "reconciliation samples are too close together to prove stability"⟩,
    ⟨"fence_stable", both previous current fenceMatches, "reconciliation fence changed between samples"⟩]

variable (snapshot : Snapshot)

def lsmChecks : List Check :=
  let lsm := snapshot.lsm.map (·.facts)
  [⟨"lsm_present", lsm.any (·.sessionId = task.lsmSessionId),
      "durable LSM session evidence is missing or belongs to a different session"⟩,
    ⟨"lsm_session_active", lsm.bind (·.sessionStatus) = some "active", "durable LSM session is not active"⟩,
    ⟨"lsm_no_inflight_calls", lsm.all (·.inFlightCalls = 0), "LSM has an in-flight tool call"⟩,
    ⟨"lsm_no_active_jobs", lsm.all (·.activeJobs = 0), "LSM has a tracked active job"⟩,
    ⟨"lsm_no_continuation_pending", lsm.all (·.continuationPending ≠ some true), "LSM continuation is already pending"⟩,
    ⟨"workspace_exists", snapshot.workspace.any (·.facts.cwdExists), "registered workspace does not exist"⟩]

def registeredUrl : String := (snapshot.task.bind (·.registeredWorkerUrl)).getD ""

def workerChecks : List Check :=
  [⟨"registered_worker_active", snapshot.task.bind (·.registeredWorkerStatus) = some .active,
      "registered current worker is not marked active"⟩,
    ⟨"registered_worker_url_present", registeredUrl snapshot ≠ "",
      "registered current worker URL is missing from the reconciliation fence"⟩]

/-- `bool(registered_worker_url and _normalize_url(…) == _normalize_url(…))`. -/
def urlMatches (browser : BrowserFacts) : Except SupervisorError Bool :=
  if registeredUrl snapshot = "" then pure false
  else do
    let shown ← normalizeUrl lowercase (browser.url.getD "")
    let registered ← normalizeUrl lowercase (registeredUrl snapshot)
    pure (shown = registered)

def browserChecks : Except SupervisorError (List Check) :=
  match snapshot.browser with
  | none =>
    pure [⟨"browser_worker_observed", false,
      "current browser worker is not positively observed; automatic takeover requires a " ++
        "separate explicit new-worker binding protocol"⟩]
  | some ⟨observedAt, browser⟩ => do
    let matching ← urlMatches lowercase snapshot browser
    pure
      [⟨"browser_worker_observed", some browser.workerId = task.currentWorkerId,
          "browser observation does not belong to the current worker"⟩,
        ⟨"browser_url_matches_registered", matching, "browser URL does not exactly match the registered worker URL"⟩,
        ⟨"browser_observation_fresh", fresh now observedAt policy.maxBrowserObservationAgeS,
          "browser observation is too stale for recovery dispatch"⟩,
        ⟨"browser_not_generating", browser.generating ≠ some true, "browser still reports active generation"⟩,
        ⟨"composer_available", browser.composerPresent = some true ∨ browser.sendButtonReady = some true,
          "no positive composer-presence evidence"⟩,
        ⟨"dom_quiet_enough", browser.lastDomChangeAt.any (fun changed => max 0 policy.minDomQuietS ≤ now - changed),
          "DOM/UI has not been stably quiet for the required interval"⟩]

/-- Network observation is optional. -/
def networkChecks : List Check :=
  match snapshot.network with
  | none => [⟨"network_quiet_enough", true, ""⟩]
  | some ⟨observedAt, network⟩ =>
    [⟨"network_observation_fresh", fresh now observedAt policy.maxNetworkObservationAgeS,
        "network observation is too stale for recovery dispatch"⟩,
      ⟨"network_quiet_enough", network.quietSinceAt.any (fun quiet => max 0 policy.minNetworkQuietS ≤ now - quiet),
        "network lifecycle is not stably quiet for the required interval"⟩]

/-- The plan when the recommendation asks to continue. -/
def continuePlan : Except SupervisorError DispatchPlan := do
  let snapshot := (current.map (·.snapshot)).getD {}
  let observed ← browserChecks lowercase task policy now snapshot
  let checks := currentChecks task current policy now ++ pairChecks previous current policy now ++
    lsmChecks task snapshot ++ workerChecks snapshot ++ observed ++ networkChecks policy now snapshot
  let action : DispatchAction := if snapshot.browser = none then .takeoverNewWorker else .continueCurrentWorker
  let blockers := blockersOf checks
  let ready := blockers.isEmpty && action = .continueCurrentWorker
  pure
    { taskId := task.taskId
      createdAt := now
      action
      candidateReady := ready
      transportEnabled := policy.transportEnabled
      wouldDispatch := ready && policy.transportEnabled
      reason :=
        if ready && !policy.transportEnabled then
          "all deterministic preconditions are satisfied, but transport is disabled for this plan; dry-run only"
        else if ready then "all deterministic preconditions are satisfied"
        else if action = .takeoverNewWorker then
          "takeover requires a separately bound replacement worker and remains disabled"
        else "recovery dispatch is blocked by one or more deterministic preconditions"
      previousReconcileId := previous.map (·.reconcileId)
      currentReconcileId := current.map (·.reconcileId)
      fenceToken := current.map (·.fenceToken)
      checks := checks.map (fun check => (check.name, check.passed))
      blockers }

def buildDispatchPlan (recommendation : RecoveryRecommendation) : Except SupervisorError DispatchPlan :=
  let action := actionFromRecommendation recommendation
  if action = .none ∨ action = .observe ∨ action = .humanDecision then
    pure
      { taskId := task.taskId
        createdAt := now
        action
        candidateReady := false
        transportEnabled := policy.transportEnabled
        wouldDispatch := false
        reason := recommendation.reason
        previousReconcileId := previous.map (·.reconcileId)
        currentReconcileId := current.map (·.reconcileId)
        fenceToken := current.map (·.fenceToken)
        blockers := ["recovery recommendation does not request a continue/takeover action"] }
  else
    continuePlan lowercase task previous current policy now

end Planning

/-- `apply_unresolved_action_gate` of `actions.py`. -/
def applyUnresolvedActionGate (plan : DispatchPlan) (attempt : Option ActionAttempt) : DispatchPlan :=
  match attempt.filter (fun attempt => attempt.state.Unresolved) with
  | none =>
    if plan.checks.any (·.1 = "no_unresolved_action_attempt") then plan
    else { plan with checks := plan.checks ++ [("no_unresolved_action_attempt", true)] }
  | some attempt =>
    let blocker := "prior action " ++ attempt.attemptId ++ " is unresolved in state " ++ attempt.state.value ++
      "; reconcile/acknowledge/cancel it before any new send"
    { plan with
      checks := setCheck plan.checks "no_unresolved_action_attempt" false
      blockers := if blocker ∈ plan.blockers then plan.blockers else plan.blockers ++ [blocker]
      candidateReady := false
      wouldDispatch := false
      reason := "a prior action outcome is unresolved; duplicate dispatch is fenced" }

end Dispatcher

end WebSupervisor
