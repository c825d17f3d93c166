import WebSupervisor.OverrunContinuation
import WebSupervisor.Registry.Tasks
import WebSupervisor.Registry.Windows
import WebSupervisor.Urls

/-! The discovery of visible conversations, from `cli.py`. Each conversation gets a task
of its own that watches it, and the window in which it was seen is bound to the task's
worker. What the probe has found is an argument, as are the clocks and the drawn ids. -/

namespace WebSupervisor.WatcherSync
open Library Library.Program Registry

/-- `AUTO_WATCH_TASK_PREFIX`. -/
def autoWatchTaskPrefix : String := "watch-chat-"

/-- One row of `discover_conversations`. -/
structure DiscoveredRow where
  url : String
  windowHandle : Int
  browserPid : Int
  observedAt : Time

/-- The id of a new worker, if one is added for a row, and the clocks on the way. -/
structure Draws where
  workerId : String
  now : Time
  workerNow : Time
  checkpointNow : Time

/-- What stays the same for all rows: `str(Path.cwd())`, the executable of the probe and
the policy's bound on the age of an observation. -/
structure Watching where
  cwd : String
  chromeExecutable : Option String
  maxBrowserObservationAgeS : Time

section Programs
variable {ρ : Type} {ω : ρ → Type}

/-- The statement of `set_checkpoint`, of which the model keeps the time. -/
def setCheckpoint (taskId : String) (now : Time) : Transaction Unit := fun db =>
  .ok ((), updateTask db taskId (fun task => { task with updatedAt := now }))

/-- The task that watches the conversation. `KeyError` of `get_task` is caught. -/
def watchTask (watching : Watching) (taskId url conversationId : String) (draws : Draws) :
    ExceptT SupervisorError (Program Database ω) TaskRecord := do
  let found ← check (fun db => .ok (db.tasks.find? taskId))
  match found with
  | some task => pure task
  | none => do
    let task ← registerTask
      { taskId := some taskId, project := "chatgpt-autowatch"
        objective := "automatic 25m20 visible-conversation watchdog", cwd := watching.cwd
        conversationUrl := some url, conversationId := some conversationId, generatedTaskId := ""
        generatedWorkerId := draws.workerId, now := draws.now, workerNow := draws.workerNow }
    transaction (setCheckpoint taskId draws.checkpointNow)
    pure task

/-- The current worker of the task, or a new one where it has none or its conversation
is not the one that was seen. -/
def watchWorker (task : TaskRecord) (url conversationId : String) (draws : Draws) :
    ExceptT SupervisorError (Program Database ω) WorkerRecord := do
  let added := addWorker task.taskId url (some conversationId) true draws.workerId draws.workerNow
  let current := task.currentWorkerId.getD ""
  if current = "" then
    added
  else do
    let worker ← check (fun db => getWorker db current)
    if normalizeUrl worker.conversationUrl ≠ normalizeUrl url then added else pure worker

/-- One round of the loop. -/
def watchRow (watching : Watching) (row : DiscoveredRow) (draws : Draws) :
    ExceptT SupervisorError (Program Database ω) (Option String) :=
  let url := strip row.url
  match conversationIdFromUrl url with
  | none => pure none
  | some conversationId => do
    let taskId := autoWatchTaskPrefix ++ lower conversationId
    let task ← watchTask watching taskId url conversationId draws
    let worker ← watchWorker task url conversationId draws
    let _ ← bindWorkerWindow
      { workerId := worker.workerId, windowHandle := row.windowHandle, browserPid := row.browserPid
        chromeExecutable := watching.chromeExecutable.getD "", conversationUrl := url
        source := "windows_uia_autodiscovery", observedAt := row.observedAt
        ttlS := max 60 (watching.maxBrowserObservationAgeS + 30) }
    pure (some taskId)

def watchRows (watching : Watching) : List (DiscoveredRow × Draws) → ExceptT SupervisorError (Program Database ω) (List String)
  | [] => pure []
  | (row, draws) :: rest => do
    let taskId ← watchRow watching row draws
    let discovered ← watchRows watching rest
    pure (taskId.toList ++ discovered)

/-- `_sync_visible_conversation_watchers`. There are no rows when the probe is unavailable. -/
def syncVisibleConversationWatchers (watching : Watching) (rows : Option (List (DiscoveredRow × Draws))) :
    ExceptT SupervisorError (Program Database ω) (List String) :=
  match rows with
  | none => pure []
  | some rows => watchRows watching rows

end Programs

end WebSupervisor.WatcherSync
