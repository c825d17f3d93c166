import WebSupervisor.Library.Alone
import WebSupervisor.Registry.Replacements

/-! The methods of `registry.py` that create tasks and their lineage. Ids that a
method draws are arguments. -/

namespace WebSupervisor.Registry
open Library WorkerProtocol WorkerPersistence

/-- The arguments of `register_task`. -/
structure TaskArgs where
  taskId : Option String
  project : String
  objective : String
  cwd : String
  lsmSessionId : Option String := none
  conversationUrl : Option String := none
  conversationId : Option String := none
  generatedTaskId : String
  generatedWorkerId : String
  now : Time
  workerNow : Time

/-- `task_id or f"task_{uuid}"`. -/
def TaskArgs.chosenId (args : TaskArgs) : String :=
  if args.taskId.getD "" = "" then args.generatedTaskId else args.taskId.getD ""

def insertTask (task : TaskRecord) : Transaction Unit := fun db =>
  match db.tasks.insert? task with
  | none => .error (.integrity "UNIQUE constraint failed: tasks.task_id")
  | some tasks => .ok ((), { db with tasks })

/-- The arguments of `create_child_dispatch`. -/
structure DispatchArgs where
  parentTaskId : String
  childKey : String
  project : String
  objective : String
  cwd : String
  promptText : String
  childTaskId : Option String := none
  expectedBranch : Option String := none
  baseRef : Option String := none
  webProjectUrl : Option String := none
  metadata : Json.Entries := .nil
  generatedTaskId : String
  dispatchId : String
  now : Time

/-- `_optional_text`. -/
def optionalText : Option String → Option String
  | none => none
  | some text => if strip text = "" then none else some (strip text)

namespace DispatchArgs

/-- The arguments as the method uses them. -/
def cleaned (args : DispatchArgs) : DispatchArgs :=
  { args with
    parentTaskId := strip args.parentTaskId
    childKey := strip args.childKey
    project := strip args.project
    objective := strip args.objective
    cwd := strip args.cwd
    expectedBranch := optionalText args.expectedBranch
    baseRef := optionalText args.baseRef
    webProjectUrl := optionalText args.webProjectUrl }

/-- `str(child_task_id or f"task_{uuid}").strip()`. -/
def chosenId (args : DispatchArgs) : String :=
  strip (if args.childTaskId.getD "" = "" then args.generatedTaskId else args.childTaskId.getD "")

/-- The checks before the first statement, on cleaned arguments. -/
def accept (args : DispatchArgs) : Except SupervisorError Unit := do
  refuse (args.parentTaskId = "" ∨ args.childKey = "" ∨ args.project = "" ∨ args.objective = "" ∨ args.cwd = "")
    (SupervisorError.value "parent task, child key, project, objective, and cwd are required")
  refuse (strip args.promptText = "") (SupervisorError.value "child dispatch prompt must be non-empty")
  refuse (args.promptText.utf8ByteSize > 256 * 1024) (SupervisorError.value "child dispatch prompt exceeds 256 KiB")
  refuse (args.chosenId = "" ∨ args.chosenId = args.parentTaskId)
    (SupervisorError.value "child_task_id must identify a different non-empty task")

/-- The new rows of the child. -/
def task (args : DispatchArgs) : TaskRecord :=
  { taskId := args.chosenId, project := args.project, objective := args.objective, cwd := args.cwd, state := .queued
    createdAt := args.now, updatedAt := args.now }

def protocolTask (args : DispatchArgs) (rootTaskId : String) : ProtocolTask where
  taskId := args.chosenId
  revision := 0
  generation := 0
  taskStatus := .opened
  currentWorkerId := none
  handoffTargetWorkerId := none
  handoffRequestedAt := none
  parentTaskId := some args.parentTaskId
  rootTaskId
  childKey := some args.childKey
  completedAt := none
  completionRef := none

def record (args : DispatchArgs) (metadata : Json.Object) : ChildDispatchRecord where
  dispatchId := args.dispatchId
  parentTaskId := args.parentTaskId
  childTaskId := args.chosenId
  childKey := args.childKey
  promptText := args.promptText
  promptSha256 := sha256 args.promptText
  expectedBranch := args.expectedBranch
  baseRef := args.baseRef
  webProjectUrl := args.webProjectUrl
  createdAt := args.now
  updatedAt := args.now
  metadata

/-- The stored dispatch and the task of its child repeat the contract. The metadata
that are compared have been decoded on one side only. -/
def sameContract (args : DispatchArgs) (found : ChildDispatchRecord) (child : Option TaskRecord) : Bool :=
  decide ((child.map (·.project), child.map (·.objective), child.map (·.cwd)) =
      (some args.project, some args.objective, some args.cwd) ∧
    (found.promptSha256, found.expectedBranch, found.baseRef, found.webProjectUrl) =
      (sha256 args.promptText, args.expectedBranch, args.baseRef, args.webProjectUrl) ∧
    found.metadata.entries.normal = args.metadata.normal ∧ args.chosenId = found.childTaskId)

end DispatchArgs

/-- `WHERE parent_task_id = ? AND child_key = ?`. -/
def dispatchByKey (db : Database) (parentTaskId childKey : String) : Option ChildDispatchRecord :=
  db.childDispatches.rows.find? (fun row => row.parentTaskId = parentTaskId ∧ row.childKey = childKey)

/-- The three inserts for a new child. The metadata are encoded for the third one;
the text of the exception, which names a type, is left out. -/
def insertChild (args : DispatchArgs) (rootTaskId : String) (db : Database) : Except SupervisorError Database := do
  let (_, db) ← insertTask args.task db
  match db.protocolTasks.insert? (args.protocolTask rootTaskId) with
  | none => .error (.integrity "UNIQUE constraint failed: worker_protocol_tasks.task_id")
  | some protocolTasks =>
    match args.metadata.decoded with
    | none => .error (.raised "TypeError" "")
    | some metadata =>
      match db.childDispatches.insert? (args.record metadata) with
      | none => .error (.integrity "UNIQUE constraint failed: child_dispatches.child_task_id")
      | some childDispatches => .ok { db with protocolTasks, childDispatches }

theorem insertChild_ok {args : DispatchArgs} {rootTaskId : String} {db after : Database}
    (done : insertChild args rootTaskId db = .ok after) :
    ∃ middle protocolTasks metadata childDispatches, insertTask args.task db = .ok ((), middle) ∧
      middle.protocolTasks.insert? (args.protocolTask rootTaskId) = some protocolTasks ∧
      args.metadata.decoded = some metadata ∧
      middle.childDispatches.insert? (args.record metadata) = some childDispatches ∧
      after = { middle with protocolTasks, childDispatches } := by
  simp only [insertChild, bind_eq_ok] at done
  obtain ⟨⟨⟨⟩, middle⟩, first, rest⟩ := done
  split at rest
  next => cases rest
  next protocolTasks grown =>
    split at rest
    next => cases rest
    next metadata encoded =>
      split at rest
      next => cases rest
      next childDispatches listed =>
        cases rest
        exact ⟨middle, protocolTasks, metadata, childDispatches, first, grown, encoded, listed, rfl⟩

/-- The transaction of `create_child_dispatch`. It returns the dispatch that was
already there. -/
def createChildDispatchWrite (args : DispatchArgs) : Transaction (Option ChildDispatchRecord) := fun db => do
  refuse (db.tasks.find? args.parentTaskId = none) (.key ("unknown parent task: " ++ args.parentTaskId))
  match db.protocolTasks.find? args.parentTaskId with
  | none => .error (.runtime "parent task must have worker protocol state before dispatch")
  | some parent => do
    refuse (parent.taskStatus ≠ .opened) (.runtime "completed parent task cannot create new child dispatches")
    match dispatchByKey db args.parentTaskId args.childKey with
    | some found => do
      refuse (args.sameContract found (db.tasks.find? found.childTaskId) = false)
        (.runtime "child key already exists with a different dispatch contract")
      pure (some found, db)
    | none => do
      refuse (db.tasks.find? args.chosenId ≠ none)
        (.runtime "child_task_id already exists without this dispatch contract")
      let next ← insertChild args parent.rootTaskId db
      pure (none, next)

section Programs
open Program
variable {ρ : Type} {ω : ρ → Type}

def registerTask (args : TaskArgs) : ExceptT SupervisorError (Program Database ω) TaskRecord := do
  transaction (insertTask
    { taskId := args.chosenId, project := args.project, objective := args.objective, cwd := args.cwd, state := .queued
      lsmSessionId := args.lsmSessionId, createdAt := args.now, updatedAt := args.now })
  let task ← check (fun db => getTask db args.chosenId)
  if args.conversationUrl.getD "" = "" then
    pure task
  else do
    let _ ← addWorker args.chosenId (args.conversationUrl.getD "") args.conversationId true args.generatedWorkerId
      args.workerNow
    check (fun db => getTask db args.chosenId)

/-- A parent without protocol state becomes a root task. -/
def requireParentProtocol (parentTaskId : String) : ExceptT SupervisorError (Program Database ω) Unit := do
  let bootstrapped ← check (fun db => .ok (protocolStateExists db parentTaskId))
  if bootstrapped then
    pure ()
  else do
    let _ ← transaction (bootstrapWorkerProtocol parentTaskId none none none)
    pure ()

def createChildDispatch (given : DispatchArgs) : ExceptT SupervisorError (Program Database ω) ChildDispatchRecord := do
  let args := given.cleaned
  ensure args.accept
  requireParentProtocol args.parentTaskId
  let found ← transaction (createChildDispatchWrite args)
  match found with
  | some record => pure record
  | none => check (fun db => getChildDispatch db args.chosenId)

end Programs

/-- One call that may create a task or its protocol state. -/
inductive LineageCall where
  | registerTask (args : TaskArgs)
  | bootstrapWorkerProtocol (taskId : String) (parentTaskId rootTaskId childKey : Option String)
  | createChildDispatch (args : DispatchArgs)

/-- The database after a call, whether it has returned or raised. -/
def LineageCall.perform (db : Database) : LineageCall → Database
  | .registerTask args => ((Registry.registerTask args).run.alone db).2
  | .bootstrapWorkerProtocol taskId parent root childKey =>
    (WorkerPersistence.bootstrapWorkerProtocol taskId parent root childKey).after db
  | .createChildDispatch args => ((Registry.createChildDispatch args).run.alone db).2

end WebSupervisor.Registry
