import WebSupervisor.Actions
import WebSupervisor.Dispatcher
import WebSupervisor.Library.Fairness
import WebSupervisor.ProbeOps
import WebSupervisor.Reconcile

/-! Recovery planning, from `orchestration.py`, and the match of a page capability
with its context, from `capabilities.py`. Nothing here writes: a plan is a function
of its inputs, the policy and the clock. -/

namespace WebSupervisor
open Library

inductive OrchestrationDecisionKind where
  | observe | reconcile | recommendAction | waitCooldown | blockedHuman
  deriving DecidableEq

def OrchestrationDecisionKind.value : OrchestrationDecisionKind → String
  | .observe => "observe"
  | .reconcile => "reconcile"
  | .recommendAction => "recommend-action"
  | .waitCooldown => "wait/cooldown"
  | .blockedHuman => "blocked/human"

structure OrchestrationPolicy where
  maxLsmObservationAgeS : Time := 30
  maxWorkspaceObservationAgeS : Time := 30
  maxReconciliationAgeS : Time := 120
  minReconciliationSeparationS : Time := 3
  recoveryCooldownS : Time := 60
  baseBackoffS : Time := 5
  maxBackoffS : Time := 60
  maxSelectedTasks : Int := 1
  deriving DecidableEq

inductive PageCapabilityKind where
  | generation | toolExecution
  deriving DecidableEq

structure PageCapabilityRecord where
  kind : PageCapabilityKind
  scopeHost : String
  browserFamily : String
  browserMajor : Int
  platform : String
  surface : String
  evaluatorVersion : String
  observedAt : Time
  expiresAt : Time
  deriving DecidableEq

def PageCapabilityRecord.isFresh (capability : PageCapabilityRecord) (now : Time) : Bool :=
  capability.observedAt ≤ now ∧ now < capability.expiresAt

structure CapabilityContext where
  scopeHost : String
  browserFamily : String
  browserMajor : Int
  platform : String
  surface : String
  deriving DecidableEq

/-- `checkpointGitHead` is `str` of the entry `git_head` of the task's checkpoint,
where that entry counts as true. -/
structure TaskOrchestrationInput where
  task : TaskRecord
  checkpointGitHead : Option String := none
  assessment : Assessment
  worker : Option WorkerRecord := none
  lsm : Option LsmObservation := none
  workspace : Option WorkspaceObservation := none
  previousReconciliation : Option ReconciliationRecord := none
  currentReconciliation : Option ReconciliationRecord := none
  unresolvedAction : Option ActionAttempt := none
  unresolvedProbeMutation : Option ProbeMutationOperation := none
  workerLeaseExpiresAt : Option Time := none
  lastRecoveryAt : Option Time := none
  lastScheduledAt : Option Time := none
  consecutiveWaits : Int := 0
  requiresExactWindowBinding : Bool := true
  windowBinding : Option WorkerWindowBinding := none
  pageContinuityRelevant : Bool := false
  pageCapability : Option PageCapabilityRecord := none
  capabilityContext : Option CapabilityContext := none
  pageCapabilityKind : PageCapabilityKind := .generation
  reconcileBlockers : List String := []
  humanBlockers : List String := []
  schedulingHistoryKnown : Bool := true
  deriving DecidableEq

/-- A dictionary of checks in insertion order. -/
abbrev Checks := List (String × Bool)

structure OrchestrationDecision where
  taskId : String
  kind : OrchestrationDecisionKind
  reason : String
  selected : Bool := false
  retryAfterS : Option Time := none
  checks : Checks := []
  blockers : List String := []
  deferredKind : Option OrchestrationDecisionKind := none
  mutationAllowed : Bool := false
  deriving DecidableEq

/-- The case mappings of the host language. -/
structure CaseMapping where
  lower : String → String
  casefold : String → String

namespace Orchestration

/-- Membership in `_RECOVERY_STATES`. -/
def recoveryState (state : SupervisorState) : Bool := state ∈ [.suspect, .reconciling, .recovering]

/-- `_age_is_fresh`. -/
def ageIsFresh (observedAt now maxAgeS : Time) : Bool := 0 ≤ now - observedAt ∧ now - observedAt ≤ max 1 maxAgeS

/-- `_bounded_backoff`. -/
def boundedBackoff (policy : OrchestrationPolicy) (consecutiveWaits : Int) : Time :=
  let base := max (1 / 10) policy.baseBackoffS
  let maximum := max base policy.maxBackoffS
  let exponent := min 16 (max 0 consecutiveWaits)
  min maximum (base * 2 ^ exponent.toNat)

def pageCloseEvaluatorVersion : String := "page-close-v2"

/-- The names of the checks that fail, from `capability_matches_context`. -/
def capabilityBlockers (text : CaseMapping) (capability : PageCapabilityRecord) (context : CapabilityContext)
    (expectedKind : PageCapabilityKind) (now : Time) : List String :=
  let checks : Checks :=
    [("kind", capability.kind = expectedKind),
     ("evaluator_version", capability.evaluatorVersion = pageCloseEvaluatorVersion),
     ("scope_host", text.lower capability.scopeHost = text.lower context.scopeHost),
     ("browser_family", text.lower capability.browserFamily = text.lower context.browserFamily),
     ("browser_major", capability.browserMajor = context.browserMajor),
     ("platform", text.lower capability.platform = text.lower context.platform),
     ("surface", text.lower capability.surface = text.lower context.surface),
     ("fresh", capability.isFresh now)]
  (checks.filter (fun check => !check.2)).map (·.1)

/-- The spelling in which working directories are compared. -/
def directory (text : CaseMapping) (cwd : String) : String :=
  text.casefold (rstripSlash (cwd.map (fun c => if c = '\\' then '/' else c)))

section Gates
variable (text : CaseMapping) (item : TaskOrchestrationInput) (now : Time) (policy : OrchestrationPolicy)

/-- `_decision`. A gate that does not let a task pass ends with one. -/
def decision (kind : OrchestrationDecisionKind) (reason : String) (checks : Checks) (blockers : List String)
    (retryAfterS : Option Time) : OrchestrationDecision :=
  { taskId := item.task.taskId, kind, reason, retryAfterS, checks, blockers }

def blockedHuman (reason : String) (checks : Checks) (blockers : List String) : OrchestrationDecision :=
  decision item .blockedHuman reason checks blockers none

/-- The decisions that are to be taken again after the backoff. -/
def again (kind : OrchestrationDecisionKind) (reason : String) (checks : Checks) : OrchestrationDecision :=
  decision item kind reason checks [] (some (boundedBackoff policy item.consecutiveWaits))

/-- A task with the given fact does not pass. -/
def stopAt {α : Type} (found : Option α) (stop : α → OrchestrationDecision) : Except OrchestrationDecision Unit :=
  match found with
  | none => .ok ()
  | some fact => .error (stop fact)

/-- A task without the given fact does not pass. -/
def need {α : Type} (found : Option α) (stop : OrchestrationDecision) : Except OrchestrationDecision α :=
  match found with
  | none => .error stop
  | some fact => .ok fact

/-- The states of the task and of its assessment. -/
def stateGate : Except OrchestrationDecision Unit := do
  refuse (item.task.state ∈ [.blocked, .needsHuman])
    (blockedHuman item ("durable task state " ++ item.task.state.value ++ " requires explicit human resolution") [] [])
  refuse (item.assessment.state ∈ [.blocked, .needsHuman])
    (blockedHuman item ("current assessment " ++ item.assessment.state.value ++ " requires explicit human resolution") [] [])
  refuse (item.task.state ∈ [.completed, .abandoned] ∨ item.assessment.state ∈ [.completed, .abandoned])
    (decision item .observe "task is terminal; no recovery scheduling is appropriate" [] [] none)
  refuse (item.assessment.state ∈ [.running, .starting, .queued])
    (again item policy .observe "current assessment still indicates live or not-yet-stalled work" [])
  refuse (recoveryState item.task.state = false ∧ recoveryState item.assessment.state = false)
    (again item policy .observe "task is not in a recovery-eligible state" [])

/-- Unresolved mutations, the budget and what the caller reports. -/
def fenceGate : Except OrchestrationDecision Checks := do
  let probe := item.unresolvedProbeMutation.filter (fun operation => operation.state.Unresolved)
  let checks : Checks := [("no_unresolved_probe_mutation", probe.isNone)]
  stopAt probe (fun operation => blockedHuman item
    "a global probe-window mutation outcome is unresolved; do not overlap recovery mutation" checks
    ["unresolved probe mutation " ++ operation.operationId ++ " is " ++ operation.state.value])
  let action := item.unresolvedAction.filter (fun attempt => attempt.state.Unresolved)
  let checks := checks ++ [("no_unresolved_action_attempt", action.isNone)]
  stopAt action (fun attempt => blockedHuman item
    "a prior external action outcome is unresolved; never replay an ambiguous action" checks
    ["unresolved action attempt " ++ attempt.attemptId ++ " is " ++ attempt.state.value])
  let budget := decide (item.task.recoveryAttempts < item.task.maxRecoveryAttempts)
  let checks := checks ++ [("recovery_budget_available", budget)]
  refuse (budget = false)
    (blockedHuman item "recovery budget is exhausted" checks ["recovery-attempt budget exhausted"])
  let checks := checks ++ [("no_external_human_blockers", item.humanBlockers.isEmpty)]
  refuse (item.humanBlockers ≠ [])
    (blockedHuman item "external durable evidence requires explicit human resolution" checks item.humanBlockers)
  let checks := checks ++ [("no_external_reconcile_blockers", item.reconcileBlockers.isEmpty)]
  refuse (item.reconcileBlockers ≠ [])
    (decision item .reconcile "external durable evidence must be reconciled before recovery" checks
      item.reconcileBlockers (some (boundedBackoff policy item.consecutiveWaits)))
  pure checks

/-- The session of the task. -/
def lsmGate (checks : Checks) : Except OrchestrationDecision Checks := do
  let own := item.lsm.filter (fun lsm => lsm.taskId = item.task.taskId ∧ lsm.sessionId = item.task.lsmSessionId)
  let checks := checks ++ [("lsm_present", own.isSome)]
  let lsm ← need own
    (again item policy .reconcile "durable LSM session evidence is missing or belongs to another session" checks)
  let recent := ageIsFresh lsm.observedAt now policy.maxLsmObservationAgeS
  let checks := checks ++ [("lsm_fresh", recent)]
  refuse (recent = false)
    (again item policy .reconcile "LSM evidence is stale; refresh durable runtime state before recovery" checks)
  refuse (lsm.sessionStatus = some "completed" ∨ lsm.sessionStatus = some "cancelled")
    (decision item .observe ("durable LSM session is already " ++ lsm.sessionStatus.getD "") checks [] none)
  refuse (lsm.planStatus = some "blocked") (blockedHuman item "durable Goal plan is blocked" checks [])
  let checks := checks ++ [("lsm_no_inflight_calls", decide (lsm.inFlightCalls = 0)),
    ("lsm_no_active_jobs", decide (lsm.activeJobs = 0)),
    ("lsm_no_continuation_pending", decide (lsm.continuationPending ≠ some true))]
  refuse (lsm.inFlightCalls ≠ 0 ∨ lsm.activeJobs ≠ 0)
    (again item policy .observe "durable Local Shell work is still active; do not compete with it" checks)
  refuse (lsm.continuationPending = some true)
    (again item policy .observe "LSM continuation is already pending; supervisor must not race it" checks)
  pure checks

/-- The working directory of the task. -/
def workspaceGate (checks : Checks) : Except OrchestrationDecision Checks := do
  let checks := checks ++ [("workspace_present", item.workspace.isSome)]
  let workspace ← need item.workspace (again item policy .reconcile "workspace/Git evidence is missing" checks)
  let sameTask := decide (workspace.taskId = item.task.taskId)
  let sameCwd := decide (directory text workspace.cwd = directory text item.task.cwd)
  let checks := checks ++ [("workspace_task_matches", sameTask), ("workspace_cwd_matches", sameCwd)]
  refuse (sameTask = false ∨ sameCwd = false)
    (again item policy .reconcile "workspace evidence belongs to a different task or working directory" checks)
  let recent := ageIsFresh workspace.observedAt now policy.maxWorkspaceObservationAgeS
  let checks := checks ++ [("workspace_fresh", recent)]
  refuse (recent = false) (again item policy .reconcile "workspace/Git evidence is stale" checks)
  let checks := checks ++ [("workspace_exists", workspace.cwdExists)]
  refuse (workspace.cwdExists = false) (blockedHuman item "registered workspace no longer exists" checks [])
  let checks := checks ++ [("workspace_probe_clean", workspace.error.isNone)]
  refuse (workspace.error ≠ none) (again item policy .reconcile "workspace/Git probe reported an error" checks)
  let sameHead := item.checkpointGitHead.all (fun head => workspace.gitHead = some head)
  let checks := checks ++ [("checkpoint_git_head_matches", sameHead)]
  refuse (sameHead = false)
    (again item policy .reconcile "Git HEAD changed relative to the durable task checkpoint" checks)
  pure checks

/-- The current worker, which the later gates read. -/
def workerGate (checks : Checks) : Except OrchestrationDecision (WorkerRecord × Checks) := do
  let gates : Checks :=
    [("worker_present", item.worker.isSome),
     ("worker_is_current", item.worker.any (fun worker => item.task.currentWorkerId.getD "" ≠ "" ∧
        some worker.workerId = item.task.currentWorkerId ∧ worker.taskId = item.task.taskId)),
     ("worker_active", item.worker.any (fun worker => worker.status = .active)),
     ("worker_lease_fresh", item.workerLeaseExpiresAt.any (fun expiresAt => now < expiresAt))]
  let checks := checks ++ gates
  let lost := again item policy .reconcile "current worker lease is missing, stale, or no longer owns the task" checks
  let worker ← need item.worker lost
  refuse (gates.all (·.2) = false) lost
  pure (worker, checks)

def cooldownGate (checks : Checks) : Except OrchestrationDecision Checks :=
  match item.lastRecoveryAt with
  | none => .ok (checks ++ [("recovery_cooldown_elapsed", true)])
  | some lastRecoveryAt => do
    let elapsed := now - lastRecoveryAt
    refuse (elapsed < 0) (again item policy .reconcile "recorded recovery timestamp is in the future" checks)
    let remaining := max 0 (policy.recoveryCooldownS - elapsed)
    let checks := checks ++ [("recovery_cooldown_elapsed", decide (remaining ≤ 0))]
    refuse (0 < remaining)
      (decision item .waitCooldown "recovery cooldown has not elapsed" checks []
        (some (min remaining (max (1 / 10) policy.maxBackoffS))))
    pure checks

/-- The two samples of the reconciliation. -/
def reconciliationGate (checks : Checks) : Except OrchestrationDecision Checks := do
  let checks := checks ++ [("previous_reconciliation_present", item.previousReconciliation.isSome),
    ("current_reconciliation_present", item.currentReconciliation.isSome)]
  let missing := again item policy .reconcile "two semantic reconciliation samples are required before recovery" checks
  let previous ← need item.previousReconciliation missing
  let current ← need item.currentReconciliation missing
  let gates : Checks :=
    [("distinct_reconciliation_samples", previous.reconcileId ≠ current.reconcileId),
     ("previous_reconciliation_fresh", ageIsFresh previous.createdAt now policy.maxReconciliationAgeS),
     ("current_reconciliation_fresh", ageIsFresh current.createdAt now policy.maxReconciliationAgeS),
     ("reconciliation_separation_sufficient",
        max 0 policy.minReconciliationSeparationS ≤ current.createdAt - previous.createdAt),
     ("reconciliation_fence_stable", fenceMatches previous current),
     ("reconciliation_task_matches", previous.taskId = item.task.taskId ∧ current.taskId = item.task.taskId),
     ("reconciliation_worker_matches", current.currentWorkerId = item.task.currentWorkerId ∧
        previous.currentWorkerId = item.task.currentWorkerId),
     ("reconciliation_state_recovery_eligible", recoveryState previous.state ∧ recoveryState current.state ∧
        previous.requiresReconcile ∧ current.requiresReconcile)]
  let checks := checks ++ gates
  refuse (gates.all (·.2) = false)
    (again item policy .reconcile "semantic reconciliation is not yet stable and fresh across two samples" checks)
  pure checks

def bindingGate (worker : WorkerRecord) (checks : Checks) : Except OrchestrationDecision Checks :=
  if item.requiresExactWindowBinding = false then .ok checks
  else do
    let gates : Checks :=
      [("window_binding_present", item.windowBinding.isSome),
       ("window_binding_current_worker", item.windowBinding.any (fun binding => binding.workerId = worker.workerId)),
       ("window_binding_fresh", item.windowBinding.any (fun binding => binding.isFresh now)),
       ("window_binding_url_matches",
          item.windowBinding.any (fun binding => binding.conversationUrl = worker.conversationUrl))]
    let checks := checks ++ gates
    refuse (gates.all (·.2) = false)
      (again item policy .reconcile "exact-window binding is missing or stale for the current worker" checks)
    pure checks

def pageGate (checks : Checks) : Except OrchestrationDecision Checks :=
  if item.pageContinuityRelevant = false then .ok checks
  else do
    let checks := checks ++ [("page_capability_present", item.pageCapability.isSome && item.capabilityContext.isSome)]
    let unproved := blockedHuman item "page-continuity behavior lacks durable capability provenance" checks
      ["a dedicated accepted page-close/reopen experiment is required"]
    let capability ← need item.pageCapability unproved
    let context ← need item.capabilityContext unproved
    let blockers := capabilityBlockers text capability context item.pageCapabilityKind now
    let checks := checks ++ [("page_capability_matches_runtime", blockers.isEmpty)]
    refuse (blockers ≠ [])
      (blockedHuman item "page-continuity capability provenance is stale or mismatched" checks
        (blockers.map ("page capability check failed: " ++ ·)))
    pure checks

/-- All gates of `evaluate_task`, in order. -/
def gates : Except OrchestrationDecision Checks := do
  stateGate item policy
  let checks ← fenceGate item policy
  let checks ← lsmGate item now policy checks
  let checks ← workspaceGate text item now policy checks
  let (worker, checks) ← workerGate item now policy checks
  let checks ← cooldownGate item now policy checks
  let checks ← reconciliationGate item now policy checks
  let checks ← bindingGate item now policy worker checks
  pageGate text item now checks

def evaluateTask : OrchestrationDecision :=
  match gates text item now policy with
  | .error decision => decision
  | .ok checks =>
    decision item .recommendAction
      "all deterministic recovery gates are satisfied; surface an explicit action recommendation only" checks [] none

end Gates

/-- `_FAIRNESS_STATE_RANK`. -/
def fairnessStateRank : SupervisorState → Nat
  | .recovering => 0
  | .reconciling => 1
  | .suspect => 2
  | _ => 99

def fairnessStamp (item : TaskOrchestrationInput) : Time := item.lastScheduledAt.getD item.task.createdAt

/-- `_fairness_key`. -/
def fairnessKey (item : TaskOrchestrationInput) : Time ×ₗ Nat ×ₗ String :=
  toLex (fairnessStamp item, toLex (fairnessStateRank item.task.state, item.task.taskId))

/-- The first input of each task, in the order of the inputs. -/
def uniqueItems (items : List TaskOrchestrationInput) : List TaskOrchestrationInput :=
  items.foldl (fun unique item =>
    if item.task.taskId ∈ unique.map (·.task.taskId) then unique else unique ++ [item]) []

/-- Membership in `duplicate_ids`. -/
def duplicated (items : List TaskOrchestrationInput) (taskId : String) : Bool :=
  1 < (items.map (·.task.taskId)).count taskId

def canonicalItems (items : List TaskOrchestrationInput) : List TaskOrchestrationInput :=
  (uniqueItems items).insertionSort (fun first second => first.task.taskId ≤ second.task.taskId)

/-- An input with the decision on it, in place of the dictionary `by_task`. -/
structure Judged where
  item : TaskOrchestrationInput
  decision : OrchestrationDecision
  deriving DecidableEq

section Planning
variable (text : CaseMapping) (items : List TaskOrchestrationInput) (now : Time) (policy : OrchestrationPolicy)

/-- A task with several inputs is to be reconciled, whatever its first input says. -/
def judgeItem (item : TaskOrchestrationInput) : Judged :=
  let decision := evaluateTask text item now policy
  { item
    decision :=
      if duplicated items item.task.taskId then
        { decision with
          kind := .reconcile
          reason := "duplicate orchestration inputs exist for one durable task; reconcile caller state"
          selected := false
          blockers := decision.blockers ++ ["duplicate durable task input"]
          mutationAllowed := false }
      else decision }

/-- The decisions of a plan before its slots are given out. -/
def judge : List Judged := (canonicalItems items).map (judgeItem text items now policy)

end Planning

/-- The kinds that ask for a slot. -/
def Judged.actionable (judged : Judged) : Bool := judged.decision.kind ∈ [.reconcile, .recommendAction]

/-- The task asks for a slot without a scheduling history. -/
def Judged.unknownSchedule (judged : Judged) : Bool := judged.actionable && !judged.item.schedulingHistoryKnown

def actionable (judged : List Judged) : List Judged :=
  judged.filter (fun entry => entry.actionable && !entry.unknownSchedule)

/-- The slots go to the tasks with the least fairness keys. -/
def selectedIds (judged : List Judged) (policy : OrchestrationPolicy) : List String :=
  (oldest (fun entry => fairnessKey entry.item) (max 0 policy.maxSelectedTasks).toNat (actionable judged)).map
    (·.decision.taskId)

/-- The decision of the plan on one task. -/
def settled (judged : List Judged) (policy : OrchestrationPolicy) (entry : Judged) : OrchestrationDecision :=
  let decision := entry.decision
  if entry.unknownSchedule then
    { decision with
      kind := .waitCooldown
      reason := "scheduler selection withheld because durable scheduling history is " ++
        "unavailable; supply it explicitly to the adapter"
      selected := false
      retryAfterS := some (max (1 / 10) policy.maxBackoffS)
      deferredKind := some decision.kind
      blockers := decision.blockers ++ ["durable scheduling history unavailable"] }
  else if decision.taskId ∈ selectedIds judged policy then { decision with selected := true }
  else if decision ∈ (actionable judged).map (·.decision) then
    { decision with
      kind := .waitCooldown
      reason := "fairness slot deferred " ++ decision.kind.value ++ "; another recovery task " ++
        "has older scheduler service"
      selected := false
      retryAfterS := some (boundedBackoff policy entry.item.consecutiveWaits)
      deferredKind := some decision.kind }
  else decision

def planOrchestration (text : CaseMapping) (items : List TaskOrchestrationInput) (now : Time)
    (policy : OrchestrationPolicy) : List OrchestrationDecision :=
  let judged := judge text items now policy
  judged.map (settled judged policy)

end Orchestration

end WebSupervisor
