import WebSupervisor.ChildPrompt
import WebSupervisor.Registry.Tasks

/-! One advancement of the children of a parent, from `child_batch.py`. The step looks at
every child before it touches the browser; a window is opened only while the pool has room,
and one that a child no longer needs is used again. -/

namespace WebSupervisor.ChildBatch
open Library Library.Program Registry ChildSpawn

structure ChildBatchEvent where
  childTaskId : String
  action : String
  detail : String
  attemptId : Option String := none
  sourceChildTaskId : Option String := none
  windowHandle : Option Int := none
  deriving DecidableEq

structure ChildBatchReport where
  parentTaskId : String
  maxWindows : Int
  totalChildren : Nat
  dispatchedChildren : Nat := 0
  boundSessionChildren : Nat := 0
  pendingChildren : Nat := 0
  poolWindows : Nat := 0
  waitingForBinding : List String := []
  stopped : Bool := false
  stopReason : Option String := none
  events : List ChildBatchEvent := []
  deriving DecidableEq

/-- `_ReusableWindow`, whose source is a bound worker or a completed spawn. -/
structure ReusableWindow where
  childTaskId : String
  terminal : Bool
  source : ReuseSource
  deriving DecidableEq

/-- Membership in `_AMBIGUOUS_STATES`. -/
def Ambiguous (state : ChildSpawnAttemptState) : Prop :=
  state ∈ [.windowOpenSubmitted, .promptSubmitted, .reconcileRequired]

instance (state : ChildSpawnAttemptState) : Decidable (Ambiguous state) := inferInstanceAs (Decidable (_ ∈ _))

abbrev WindowKey := Int × Int

/-- `_window_key`. -/
def windowKey (windowHandle browserPid : Option Int) : Option WindowKey :=
  if windowHandle.getD 0 = 0 ∨ browserPid.getD 0 = 0 then none else some (windowHandle.getD 0, browserPid.getD 0)

section Pool

/-- The three results of `_pool_snapshot`. The windows are a set. -/
structure Pool where
  windows : List WindowKey := []
  reusable : List ReusableWindow := []
  waiting : List String := []
  deriving DecidableEq

def Pool.addWindow (pool : Pool) (window : WindowKey) : Pool :=
  { pool with windows := if window ∈ pool.windows then pool.windows else pool.windows ++ [window] }

/-- What a task with a bound worker adds. -/
def Pool.addBound (pool : Pool) (task : TaskRecord) (worker : WorkerRecord) (binding : WorkerWindowBinding) : Pool :=
  let pool := pool.addWindow (binding.windowHandle, binding.browserPid)
  let terminal := task.state = .completed
  if terminal ∨ task.lsmSessionId.getD "" ≠ "" then
    { pool with
      reusable := pool.reusable ++ [{ childTaskId := task.taskId, terminal, source := .worker worker binding }] }
  else
    { pool with waiting := pool.waiting ++ [task.taskId] }

def Pool.addSpawn (pool : Pool) (unresolved : Option ChildSpawnAttempt) : Pool :=
  match unresolved.bind (fun attempt => windowKey attempt.windowHandle attempt.browserPid) with
  | none => pool
  | some window => pool.addWindow window

/-- The binding of the current worker, if the task has one. -/
def boundWorker (task : TaskRecord) : Spawning (Option (WorkerRecord × WorkerWindowBinding)) :=
  let current := task.currentWorkerId.getD ""
  if current = "" then
    pure none
  else do
    let worker ← check (fun db => getWorker db current)
    let binding ← check (fun db => .ok (getWorkerWindowBinding db worker.workerId 0 false))
    pure (binding.map (fun binding => (worker, binding)))

/-- The windows of current workers and of unresolved spawns. -/
def currentOwners (pool : Pool) : List String → Spawning Pool
  | [] => pure pool
  | childTaskId :: rest => do
    let task ← check (fun db => getTask db childTaskId)
    let bound ← boundWorker task
    let unresolved ← unresolvedChildSpawnAttempt childTaskId
    currentOwners ((bound.elim pool (fun found => pool.addBound task found.1 found.2)).addSpawn unresolved) rest

/-- `(updated_at, created_at, attempt_id)` of the first is greater. -/
def newerSpawn (first second : ChildSpawnAttempt) : Bool :=
  decide (second.updatedAt < first.updatedAt) ||
    decide (first.updatedAt = second.updatedAt) && (decide (second.createdAt < first.createdAt) ||
      decide (first.createdAt = second.createdAt) && decide (second.attemptId < first.attemptId))

/-- The window of a completed spawn whose page nobody has taken or closed. -/
def completedWindow (attempt : ChildSpawnAttempt) : Option WindowKey :=
  if attempt.state = .completed ∧ spawnPageUnconsumed attempt = true ∧ attempt.conversationUrl.getD "" ≠ "" then
    windowKey attempt.windowHandle attempt.browserPid
  else
    none

/-- One entry of `latest_completed_by_window`, a dictionary in insertion order. -/
def keepLatest (latest : List (WindowKey × ChildSpawnAttempt)) (attempt : ChildSpawnAttempt) :
    List (WindowKey × ChildSpawnAttempt) :=
  match completedWindow attempt with
  | none => latest
  | some window =>
    if latest.any (·.1 = window) then
      latest.map (fun entry => if entry.1 = window ∧ newerSpawn attempt entry.2 = true then (window, attempt) else entry)
    else
      latest ++ [(window, attempt)]

def latestCompleted (latest : List (WindowKey × ChildSpawnAttempt)) :
    List String → Spawning (List (WindowKey × ChildSpawnAttempt))
  | [] => pure latest
  | childTaskId :: rest => do
    let attempts ← childSpawnAttempts childTaskId 50
    latestCompleted (attempts.foldl keepLatest latest) rest

/-- The completed spawns whose windows have no current owner. -/
def completedOwners (pool : Pool) : List (WindowKey × ChildSpawnAttempt) → Spawning Pool
  | [] => pure pool
  | (window, attempt) :: rest =>
    if window ∈ pool.windows then
      completedOwners pool rest
    else do
      let task ← check (fun db => getTask db attempt.childTaskId)
      if task.state ≠ .completed then
        completedOwners pool rest
      else
        let item : ReusableWindow :=
          { childTaskId := attempt.childTaskId, terminal := true, source := .completedSpawn attempt }
        completedOwners { pool.addWindow window with reusable := pool.reusable ++ [item] } rest

/-- Terminal pages first, then the order of the children. -/
def reclaimOrder (childTaskIds : List String) (items : List ReusableWindow) : List ReusableWindow :=
  let rank (item : ReusableWindow) : Nat := if item.terminal then 0 else 1
  items.insertionSort (fun first second =>
    rank first < rank second ∨
      rank first = rank second ∧ childTaskIds.idxOf first.childTaskId ≤ childTaskIds.idxOf second.childTaskId)

/-- `_pool_snapshot`. -/
def poolSnapshot (childTaskIds : List String) : Spawning Pool := do
  let pool ← currentOwners {} childTaskIds
  let latest ← latestCompleted [] childTaskIds
  let pool ← completedOwners pool latest
  pure { pool with reusable := reclaimOrder childTaskIds pool.reusable }

end Pool

section Report

def ChildBatchReport.event (report : ChildBatchReport) (event : ChildBatchEvent) : ChildBatchReport :=
  { report with events := report.events ++ [event] }

def ChildBatchReport.wait (report : ChildBatchReport) (childTaskId : String) : ChildBatchReport :=
  if childTaskId ∈ report.waitingForBinding then report
  else { report with waitingForBinding := report.waitingForBinding ++ [childTaskId] }

/-- `_stop`. -/
def stop (report : ChildBatchReport) (childTaskId reason action : String) (attempt : Option ChildSpawnAttempt) :
    ChildBatchReport :=
  { report with stopped := true, stopReason := some reason }.event
    { childTaskId, action, detail := reason, attemptId := attempt.map ChildSpawnAttempt.attemptId
      windowHandle := attempt.bind ChildSpawnAttempt.windowHandle }

/-- The number of children for which a reading holds. -/
def countChildren (holds : String → Spawning Bool) : List String → Spawning Nat
  | [] => pure 0
  | childTaskId :: rest => do
    let one ← holds childTaskId
    let others ← countChildren holds rest
    return others + if one then 1 else 0

def dispatched (childTaskId : String) : Spawning Bool := do
  let task ← check (fun db => getTask db childTaskId)
  if task.state = .completed then pure true
  else do
    let protocol ← check (fun db => WorkerPersistence.loadWorkerProtocol db childTaskId)
    pure (0 < protocol.generation)

def boundSession (childTaskId : String) : Spawning Bool := do
  let task ← check (fun db => getTask db childTaskId)
  pure (task.lsmSessionId.getD "" ≠ "")

def pendingChild (childTaskId : String) : Spawning Bool := do
  let task ← check (fun db => getTask db childTaskId)
  if task.state = .completed then pure false
  else do
    let task ← check (fun db => getTask db childTaskId)
    pure (task.currentWorkerId = none)

/-- `_refresh_counts`. -/
def refreshCounts (childTaskIds : List String) (report : ChildBatchReport) : Spawning ChildBatchReport := do
  let pool ← poolSnapshot childTaskIds
  let waiting := (pool.waiting.foldl ChildBatchReport.wait report).waitingForBinding
  let sorted := waiting.insertionSort (fun first second => childTaskIds.idxOf first ≤ childTaskIds.idxOf second)
  let dispatchedChildren ← countChildren dispatched childTaskIds
  let boundSessionChildren ← countChildren boundSession childTaskIds
  let pendingChildren ← countChildren pendingChild childTaskIds
  pure { report with
    poolWindows := pool.windows.length, waitingForBinding := sorted, dispatchedChildren, boundSessionChildren
    pendingChildren }

end Report

/-- The arguments of `advance_child_dispatch_batch`, and `str` of a float. -/
structure BatchArgs where
  parentTaskId : String
  maxWindows : Int
  chromeExecutable : String
  leaseSeconds : Time := 7200
  maxEvidenceAgeS : Time := 60
  closeTerminalPages : Bool := true
  waitsForDelivery : Bool := true
  printed : Time → String := fun _ => ""

/-- `SELECT … ORDER BY created_at, dispatch_id`. -/
def childDispatchesForParent (db : Database) (parentTaskId : String) : List ChildDispatchRecord :=
  (db.childDispatches.rows.filter (·.parentTaskId = parentTaskId)).insertionSort (fun first second =>
    first.createdAt < second.createdAt ∨ first.createdAt = second.createdAt ∧ first.dispatchId ≤ second.dispatchId)

/-- Whether the loop over the children goes on. -/
inductive Advanced where
  | next (report : ChildBatchReport)
  | ended (report : ChildBatchReport)

/-- What a child has that stops the whole step before it touches the browser. -/
def childBlocker (report : ChildBatchReport) (childTaskId : String) : Spawning (Option ChildBatchReport) := do
  let action ← check (fun db => unresolvedActionAttempt db childTaskId)
  match action with
  | some action => pure (some (stop report childTaskId
      ("child has unresolved external action " ++ action.attemptId ++ " in " ++ action.state.value ++
        "; reconcile before batch dispatch") "ambiguous_stop" none))
  | none => do
    let replacement ← check (fun db => .ok (unresolvedReplacementAttempt db childTaskId))
    match replacement with
    | some replacement => pure (some (stop report childTaskId
        ("child has unresolved replacement " ++ replacement.attemptId ++ " in " ++ replacement.state.value ++
          "; reconcile before batch dispatch") "ambiguous_stop" none))
    | none => do
      let unresolved ← unresolvedChildSpawnAttempt childTaskId
      match unresolved.filter (fun attempt => Ambiguous attempt.state) with
      | some attempt => pure (some (stop report childTaskId
          ("child has unresolved spawn " ++ attempt.attemptId ++ " in " ++ attempt.state.value ++
            "; reconcile before batch dispatch") "ambiguous_stop" (some attempt)))
      | none => pure none

/-- The report of the first child that stops the step. -/
def preflight (report : ChildBatchReport) : List String → Spawning (Option ChildBatchReport)
  | [] => pure none
  | childTaskId :: rest => do
    let blocked ← childBlocker report childTaskId
    match blocked with
    | some report => pure (some report)
    | none => preflight report rest

/-- `except ChildSpawnBlocked`: its blockers, or the exception again. -/
def blockersOf {α : Type} : Except SupervisorError α → Except SupervisorError (Except (List String) α)
  | .ok value => .ok (.ok value)
  | .error (.childSpawnBlocked blockers) => .ok (.error blockers)
  | .error error => .error error

/-- A part under `try`, of which `ChildSpawnBlocked` is caught. -/
def catching {α : Type} (part : Spawning α) : Spawning (Except (List String) α) := do
  let outcome ← attempt part
  ensure (blockersOf outcome)

/-- The attempt of a child that has none: it is armed on fresh evidence. -/
def armChild (args : BatchArgs) (childTaskId : String) : Spawning (Except (List String) ChildSpawnAttempt) :=
  catching (do
    let workspace ← ask (.workspace childTaskId) id
    armChildSpawn childTaskId args.chromeExecutable (some workspace) none args.maxEvidenceAgeS)

/-- The texts of an event about a window. -/
def sourceKind (item : ReusableWindow) : String :=
  match item.source with
  | .completedSpawn _ => "terminal completed-spawn record"
  | _ => if item.terminal then "terminal completion" else "durable LSM binding"

def openedEvent (childTaskId : String) (source : Option ReusableWindow) (opened : ChildSpawnAttempt) : ChildBatchEvent :=
  match source with
  | none =>
    { childTaskId, action := "opened_window", attemptId := some opened.attemptId, windowHandle := opened.windowHandle
      detail := "opened one new dispatcher window within the configured pool bound" }
  | some item =>
    { childTaskId, action := "reused_window", attemptId := some opened.attemptId, windowHandle := opened.windowHandle
      sourceChildTaskId := some item.childTaskId
      detail := "reused exact HWND from " ++ item.childTaskId ++ " after " ++ sourceKind item }

/-- The call that opens the window of an attempt. -/
def openFrom (attemptId : String) (source : Option ReusableWindow) : Spawning ChildSpawnAttempt :=
  match source.map ReusableWindow.source with
  | some (.worker worker binding) => executeChildSpawnOpen attemptId (some worker) (some binding) none none
  | some (.completedSpawn spawn) => executeChildSpawnOpen attemptId none none (some spawn) none
  | _ => executeChildSpawnOpen attemptId none none none none

/-- The report when an attempt has not come as far as the step needs. -/
def halt (report : ChildBatchReport) (childTaskId part failed : String) (attempt : ChildSpawnAttempt) : ChildBatchReport :=
  let reason := (orText attempt.lastError (some (part ++ " ended in " ++ attempt.state.value))).getD ""
  stop report childTaskId reason (if Ambiguous attempt.state then "ambiguous_stop" else failed) (some attempt)

/-- The prompt of a child whose window is bound. -/
def sendChild (args : BatchArgs) (childTaskId : String) (report : ChildBatchReport) (attempt : ChildSpawnAttempt) :
    Spawning Advanced := do
  let outcome ← catching (executeChildSpawnPrompt attempt.attemptId
    { leaseSeconds := args.leaseSeconds, waitsForDelivery := args.waitsForDelivery, printed := args.printed })
  match outcome with
  | .error blockers => pure (.ended (stop report childTaskId (String.intercalate "; " blockers) "send_blocked" (some attempt)))
  | .ok sent => do
    let report := report.event
      { childTaskId, action := if sent.state = .completed then "sent" else "send_incomplete"
        detail := (orText sent.lastError (some "persisted child prompt delivered to the exact bound conversation")).getD ""
        attemptId := some sent.attemptId, windowHandle := sent.windowHandle }
    if sent.state ≠ .completed then
      pure (.ended (halt report childTaskId "send" "send_paused" sent))
    else do
      let task ← check (fun db => getTask db childTaskId)
      pure (.next (if task.lsmSessionId.getD "" = "" then
        { report with waitingForBinding := report.waitingForBinding ++ [childTaskId] } else report))

/-- The window and the prompt of a child whose attempt is armed. -/
def openChild (args : BatchArgs) (childTaskIds : List String) (childTaskId : String) (report : ChildBatchReport)
    (attempt : ChildSpawnAttempt) : Spawning Advanced := do
  let pool ← poolSnapshot childTaskIds
  let report := pool.waiting.foldl ChildBatchReport.wait { report with poolWindows := pool.windows.length }
  let source := pool.reusable.find? (·.childTaskId ≠ childTaskId)
  if source = none ∧ args.maxWindows ≤ pool.windows.length then do
    let report ← refreshCounts childTaskIds (report.event
      { childTaskId, action := "pool_wait", attemptId := some attempt.attemptId
        detail := "dispatcher pool is full (" ++ toString pool.windows.length ++ "/" ++ toString args.maxWindows ++
          "); waiting for an existing child to bind a durable LSM session" })
    pure (.ended report)
  else do
    let outcome ← catching (openFrom attempt.attemptId source)
    match outcome with
    | .error blockers =>
      pure (.ended (stop report childTaskId (String.intercalate "; " blockers) "open_blocked" (some attempt)))
    | .ok opened =>
      let report := report.event (openedEvent childTaskId source opened)
      if opened.state ≠ .windowBound then
        pure (.ended (halt report childTaskId "open" "open_failed" opened))
      else
        sendChild args childTaskId report opened

/-- A child that has an attempt, or has just got one. -/
def driveChild (args : BatchArgs) (childTaskIds : List String) (childTaskId : String) (report : ChildBatchReport)
    (attempt : ChildSpawnAttempt) : Spawning Advanced :=
  match attempt.state with
  | .armed => openChild args childTaskIds childTaskId report attempt
  | .windowBound => sendChild args childTaskId report attempt
  | _ => pure (.next report)

/-- A child that has neither finished nor a worker. -/
def startChild (args : BatchArgs) (childTaskIds : List String) (childTaskId : String) (report : ChildBatchReport) :
    Spawning Advanced := do
  let unresolved ← unresolvedChildSpawnAttempt childTaskId
  match unresolved with
  | some attempt => driveChild args childTaskIds childTaskId report attempt
  | none => do
    let outcome ← armChild args childTaskId
    match outcome with
    | .error blockers => pure (.ended (stop report childTaskId (String.intercalate "; " blockers) "arm_blocked" none))
    | .ok attempt =>
      driveChild args childTaskIds childTaskId (report.event
        { childTaskId, action := "armed", detail := "spawn authority persisted; no browser mutation yet"
          attemptId := some attempt.attemptId }) attempt

/-- One round of the loop over the dispatches. -/
def advanceChild (args : BatchArgs) (childTaskIds : List String) (childTaskId : String) (report : ChildBatchReport) :
    Spawning Advanced := do
  let task ← check (fun db => getTask db childTaskId)
  if task.state = .completed then
    pure (.next (report.event { childTaskId, action := "terminal", detail := "child is already durably completed" }))
  else if task.currentWorkerId.getD "" ≠ "" then
    pure (.next (if task.lsmSessionId.getD "" ≠ "" then
      report.event
        { childTaskId, action := "session_bound", detail := "child worker is durable; its exact page may be recycled" }
    else
      (report.wait childTaskId).event
        { childTaskId, action := "awaiting_lsm_binding"
          detail := "child keeps its page until a durable LSM session is bound" }))
  else
    startChild args childTaskIds childTaskId report

def advanceChildren (args : BatchArgs) (childTaskIds : List String) (report : ChildBatchReport) :
    List String → Spawning Advanced
  | [] => pure (.next report)
  | childTaskId :: rest => do
    let advanced ← advanceChild args childTaskIds childTaskId report
    match advanced with
    | .ended report => pure (.ended report)
    | .next report => advanceChildren args childTaskIds report rest

/-- A close that is done, or that finds the window gone. -/
def closeProven (result : ChildSpawnExecution) : Bool :=
  result.changed ||
    (!result.sideEffectPossible && result.detail.toList.tails.any ("already absent".toList.isPrefixOf ·))

def closedEvent (item : ReusableWindow) (result : ChildSpawnExecution) (windowHandle : Option Int) : ChildBatchEvent :=
  { childTaskId := item.childTaskId, action := "closed_terminal_window"
    detail := if result.detail = "" then "closed exact terminal child window" else result.detail, windowHandle }

def closeStop (report : ChildBatchReport) (item : ReusableWindow) (result : ChildSpawnExecution) : ChildBatchReport :=
  stop report item.childTaskId
    (if result.detail = "" then "terminal page close could not be proven safe" else result.detail) "terminal_close_stop" none

/-- The page of a child that has finished is closed, and what names it is taken back. -/
def closeTerminal (args : BatchArgs) (report : ChildBatchReport) (item : ReusableWindow) : Spawning Advanced :=
  match item.source with
  | .worker worker binding => do
    let result ← transport (.closeWorkerBindingAuthorized worker binding)
    if closeProven result then do
      let _ ← clearWorkerWindowBinding worker.workerId
      pure (.next (report.event (closedEvent item result (some binding.windowHandle))))
    else
      pure (.ended (closeStop report item result))
  | .completedSpawn spawn => do
    let result ← transport (.closeCompletedSpawnAuthorized spawn)
    if closeProven result then do
      let closedAt ← ask .clock .ok
      let now ← ask .clock .ok
      let _ ← annotateChildSpawnAttempt spawn.attemptId [("window_closed_at", .number closedAt (args.printed closedAt))] now
      pure (.next (report.event (closedEvent item result spawn.windowHandle)))
    else
      pure (.ended (closeStop report item result))
  | .fresh => pure (.next report)

def closeTerminals (args : BatchArgs) (report : ChildBatchReport) : List ReusableWindow → Spawning Advanced
  | [] => pure (.next report)
  | item :: rest => do
    let advanced ← closeTerminal args report item
    match advanced with
    | .ended report => pure (.ended report)
    | .next report => closeTerminals args report rest

/-- What follows when every child has been looked at. -/
def finishBatch (args : BatchArgs) (childTaskIds : List String) (report : ChildBatchReport) : Spawning ChildBatchReport := do
  let report ← refreshCounts childTaskIds report
  if !args.closeTerminalPages || report.pendingChildren ≠ 0 then
    pure report
  else do
    let pool ← poolSnapshot childTaskIds
    let advanced ← closeTerminals args report (pool.reusable.filter (·.terminal))
    match advanced with
    | .ended report => pure report
    | .next report => refreshCounts childTaskIds report

end WebSupervisor.ChildBatch
