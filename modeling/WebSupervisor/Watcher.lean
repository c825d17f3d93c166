import WebSupervisor.ChildPrompt
import WebSupervisor.Dispatcher

/-! The assessment of a task, from `watcher.py`, and the advice on it, from `recovery.py`.
Both are read-only. Of a checkpoint the model keeps its JSON text and its entry
`git_head`. -/

namespace WebSupervisor.Watcher
open Library ChildSpawn

structure WatchPolicy where
  browserSuspectAfterS : Time := 120
  networkSuspectAfterS : Time := 180
  lsmSuspectAfterS : Time := 180
  hardStallAfterS : Time := 600

structure Checkpoint where
  json : String
  gitHead : Option String := none

/-- A text that is neither absent nor empty. -/
def given (text : Option String) : Option String := text.filter (· ≠ "")

/-- `str(value).lower()`. -/
def lowered (value : Bool) : String := if value then "true" else "false"

def silence (now since : Time) : Time := max 0 (now - since)

section Evidence

def workspaceEvidence (checkpoint : Checkpoint) (workspace : WorkspaceObservation) : List String :=
  ["workspace.cwd_exists=" ++ lowered workspace.cwdExists] ++
  (workspace.isGitRepo.map (fun repo => "workspace.git_repo=" ++ lowered repo)).toList ++
  ((given workspace.gitHead).map (fun head => "workspace.git_head=" ++ clip 12 head)).toList ++
  (workspace.gitDirty.map (fun dirty => "workspace.git_dirty=" ++ lowered dirty)).toList ++
  ((given workspace.error).map (fun error => "workspace.error=" ++ clip 160 error)).toList ++
  ((given checkpoint.gitHead).bind (fun recorded => (given workspace.gitHead).map (fun head =>
    "workspace.checkpoint_head_match=" ++ lowered (recorded = head)))).toList

def lsmEvidence (lsm : LsmObservation) : List String :=
  ["lsm.session=" ++ (given lsm.sessionStatus).getD "unknown", "lsm.plan=" ++ (given lsm.planStatus).getD "none"] ++
  (if lsm.inFlightCalls ≠ 0 then ["lsm.in_flight=" ++ toString lsm.inFlightCalls] else []) ++
  (if lsm.activeJobs ≠ 0 then ["lsm.active_jobs=" ++ toString lsm.activeJobs] else []) ++
  (if lsm.failedJobs ≠ 0 then ["lsm.failed_jobs=" ++ toString lsm.failedJobs] else [])

def domSilence (now : Time) (browser : BrowserObservation) : Option Time := browser.lastDomChangeAt.map (silence now)

def browserEvidence (now : Time) (browser : BrowserObservation) : List String :=
  ["browser.observation_age_s=" ++ fixedPoint 0 (silence now browser.observedAt)] ++
  ((domSilence now browser).map (fun quiet => "browser.dom_silence_s=" ++ fixedPoint 0 quiet)).toList ++
  ((given browser.visibleError).map (fun error => "browser.error=" ++ clip 120 error)).toList ++
  (browser.pendingToolCalls.map (fun calls => "browser.pending_tool_calls=" ++ toString calls)).toList

def networkSilence (now : Time) (network : NetworkObservation) : Option Time := network.quietSinceAt.map (silence now)

def networkEvidence (now : Time) (network : NetworkObservation) : List String :=
  ["network.observation_age_s=" ++ fixedPoint 0 (silence now network.observedAt)] ++
  ((networkSilence now network).map (fun quiet => "network.silence_s=" ++ fixedPoint 0 quiet)).toList ++
  ["network.sample_events=" ++ toString network.eventCount] ++
  (if network.loadingFailed ≠ 0 then ["network.loading_failed=" ++ toString network.loadingFailed] else [])

def lsmSilence (now : Time) (lsm : LsmObservation) : Option Time := lsm.recentEventAt.map (silence now)

end Evidence

/-- What the session says on its own. -/
def sessionVerdict (evidence : List String) (lsm : LsmObservation) : Option Assessment :=
  if lsm.sessionStatus = some "completed" then
    some { state := .completed, reason := "durable LSM session is completed", confidence := "high", evidence }
  else if lsm.sessionStatus = some "cancelled" then
    some { state := .abandoned, reason := "durable LSM session is cancelled", confidence := "high", evidence }
  else if lsm.planStatus = some "blocked" then
    some { state := .blocked, reason := "durable Goal plan is blocked", confidence := "high", evidence }
  else if lsm.planStatus = some "completed" ∧ lsm.inFlightCalls = 0 ∧ lsm.activeJobs = 0 then
    some
      { state := .completed, reason := "durable Goal plan completed with no tracked active work", confidence := "high"
        evidence }
  else if 0 < lsm.inFlightCalls ∨ 0 < lsm.activeJobs then
    some
      { state := .running, reason := "durable Local Shell work is still active; UI state cannot override it"
        confidence := "high", evidence }
  else none

/-- The composer looks idle while a tool call remains pending. -/
def contradictory (policy : WatchPolicy) (now : Time) (browser : BrowserObservation) : Bool :=
  browser.sendButtonReady = some true ∧ 0 < browser.pendingToolCalls.getD 0 ∧
    (domSilence now browser).all (fun quiet => policy.browserSuspectAfterS ≤ quiet)

section Verdict
variable (policy : WatchPolicy) (now : Time) (task : TaskRecord) (browser : Option BrowserObservation)
  (lsm : Option LsmObservation) (network : Option NetworkObservation) (evidence : List String)

/-- Neither the page nor the session has moved for long. -/
def stallVerdict (domQuiet lsmQuiet : Time) : Assessment :=
  match network.bind (networkSilence now) with
  | some networkQuiet =>
    if networkQuiet < policy.networkSuspectAfterS then
      { state := .reconciling
        reason :=
          "DOM and LSM are silent but network lifecycle activity is recent; " ++
            "reconcile conflicting evidence before recovery"
        confidence := "medium", evidence, requiresReconcile := true }
    else
      { state := .suspect, reason := "browser DOM, network lifecycle, and durable LSM activity are silent"
        confidence := if policy.hardStallAfterS ≤ min (min domQuiet lsmQuiet) networkQuiet then "high" else "medium"
        evidence, requiresReconcile := true }
  | none =>
    { state := .suspect, reason := "both browser DOM and durable LSM activity are silent"
      confidence := if policy.hardStallAfterS ≤ min domQuiet lsmQuiet then "high" else "medium"
      evidence, requiresReconcile := true }

/-- The verdict when no silence is long enough. -/
def calmVerdict : Assessment :=
  if browser.any (fun browser => browser.generating = some true) then
    { state := .running, reason := "browser reports active generation", confidence := "medium", evidence }
  else if lsm.any (fun lsm => lsm.planStatus = some "active") then
    { state := .running, reason := "Goal plan remains active and no stall threshold has been crossed"
      confidence := "medium", evidence }
  else if task.state = .queued ∨ task.state = .starting then
    { state := task.state, reason := "no contradictory runtime evidence", confidence := "medium", evidence }
  else
    { state := .suspect, reason := "insufficient fresh evidence to prove progress or completion", confidence := "low"
      evidence, requiresReconcile := true }

/-- The verdict on observations of a task that the session does not decide. -/
def observedVerdict : Assessment :=
  if browser.any (fun browser => (given browser.visibleError).isSome) then
    { state := .reconciling
      reason := "web chat reports an error; reconcile durable LSM/workspace state before any retry"
      confidence := "high", evidence, requiresReconcile := true }
  else if browser.any (contradictory policy now) then
    { state := .reconciling
      reason := "composer is ready while a tool call still appears pending; delivery lifecycle is contradictory"
      confidence := "high", evidence, requiresReconcile := true }
  else if lsm.any (fun lsm => lsm.planStatus = some "active" ∧ lsm.continuationPending = some true) then
    { state := .running, reason := "LSM continuation is already pending; supervisor must not compete with it"
      confidence := "high", evidence }
  else if lsm.any (fun lsm => lsm.planStatus = some "active" ∧ lsm.continuationDue = some true) then
    if (network.bind (networkSilence now)).any (fun quiet => quiet < policy.networkSuspectAfterS) then
      { state := .reconciling
        reason :=
          "Goal lease is due but network lifecycle activity is recent; evidence conflicts, so do not race the worker"
        confidence := "medium", evidence, requiresReconcile := true }
    else
      { state := .suspect, reason := "Goal plan execution lease expired with no durable work in flight"
        confidence := "high", evidence, requiresReconcile := true }
  else
    match browser.bind (domSilence now), lsm.bind (lsmSilence now) with
    | some domQuiet, some lsmQuiet =>
      if policy.browserSuspectAfterS ≤ domQuiet ∧ policy.lsmSuspectAfterS ≤ lsmQuiet then
        stallVerdict policy now network evidence domQuiet lsmQuiet
      else calmVerdict task browser lsm evidence
    | _, _ => calmVerdict task browser lsm evidence

end Verdict

def assess (task : TaskRecord) (checkpoint : Checkpoint) (browser : Option BrowserObservation)
    (lsm : Option LsmObservation) (workspace : Option WorkspaceObservation) (network : Option NetworkObservation)
    (now : Time) (policy : WatchPolicy) : Assessment :=
  if task.state = .completed then
    { state := .completed, reason := "task is already durably completed", confidence := "high" }
  else if task.state = .abandoned then
    { state := .abandoned, reason := "task was explicitly abandoned", confidence := "high" }
  else
    let durable := (workspace.map (workspaceEvidence checkpoint)).getD [] ++ (lsm.map lsmEvidence).getD []
    match lsm.bind (sessionVerdict durable) with
    | some verdict => verdict
    | none =>
      if workspace.any (fun workspace => !workspace.cwdExists) then
        { state := .needsHuman, reason := "registered working directory no longer exists", confidence := "high"
          evidence := durable, requiresReconcile := true }
      else
        observedVerdict policy now task browser lsm network
          (durable ++ (browser.map (browserEvidence now)).getD [] ++ (network.map (networkEvidence now)).getD [] ++
            ((lsm.bind (lsmSilence now)).map (fun quiet => "lsm.event_silence_s=" ++ fixedPoint 0 quiet)).toList)

end WebSupervisor.Watcher
