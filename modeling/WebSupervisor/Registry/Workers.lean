import WebSupervisor.Library.Program
import WebSupervisor.WorkerPersistence

/-! The task and worker methods of `registry.py`. The protocol methods are single
transactions. The older writers read the protocol in one step and write in a
later one, with nothing that holds the database in between. -/

namespace WebSupervisor.Registry
open Library WorkerProtocol WorkerPersistence

/-- `workerId or f"worker_{uuid}"`. The generated id is an argument. -/
def workerIdOr (workerId : Option String) (generated : String) : String :=
  if workerId.getD "" = "" then generated else workerId.getD ""

def protocolRegisterWorker (taskId conversationUrl : String) (expectedRevision : Int) (workerId : Option String)
    (generated : String) (now : Time) : Transaction ProtocolDecision := fun db => do
  let conversationUrl := strip conversationUrl
  refuse (conversationUrl = "") (SupervisorError.value "conversation_url must be non-empty")
  applyWorkerProtocolTransition taskId expectedRevision (fun state =>
    registerWorker state (workerIdOr workerId generated) (some conversationUrl) now expectedRevision) db

def protocolClaimWorker (taskId workerId : String) (expectedRevision : Int) (leaseSeconds now : Time) :
    Transaction ProtocolDecision :=
  applyWorkerProtocolTransition taskId expectedRevision (fun state =>
    claimWorker state workerId now leaseSeconds expectedRevision)

def protocolHeartbeatWorker (taskId workerId : String) (generation expectedRevision : Int) (leaseSeconds now : Time) :
    Transaction ProtocolDecision :=
  applyWorkerProtocolTransition taskId expectedRevision (fun state =>
    heartbeatWorker state workerId generation now leaseSeconds expectedRevision)

def protocolRequestHandoff (taskId workerId targetWorkerId : String) (generation expectedRevision : Int) (now : Time) :
    Transaction ProtocolDecision :=
  applyWorkerProtocolTransition taskId expectedRevision (fun state =>
    requestHandoff state workerId targetWorkerId generation now expectedRevision)

def protocolTakeoverWorker (taskId candidateWorkerId : String) (expectedRevision : Int) (leaseSeconds now : Time) :
    Transaction ProtocolDecision :=
  applyWorkerProtocolTransition taskId expectedRevision (fun state =>
    takeoverWorker state candidateWorkerId now leaseSeconds expectedRevision)

def protocolCompleteWorker (taskId workerId : String) (generation expectedRevision : Int) (now : Time) :
    Transaction ProtocolDecision :=
  applyWorkerProtocolTransition taskId expectedRevision (fun state =>
    completeWorker state workerId generation now expectedRevision)

def protocolAbandonWorker (taskId workerId : String) (generation expectedRevision : Int) (now : Time) :
    Transaction ProtocolDecision :=
  applyWorkerProtocolTransition taskId expectedRevision (fun state =>
    abandonWorker state workerId generation now expectedRevision)

def protocolCompleteTask (taskId completionRef : String) (expectedRevision : Int) (now : Time) :
    Transaction ProtocolDecision :=
  applyWorkerProtocolTransition taskId expectedRevision (fun state =>
    completeTask state completionRef now expectedRevision)

/-- One call of a protocol method with its arguments after the task id. -/
inductive ProtocolMethod where
  | registerWorker (conversationUrl : String) (expectedRevision : Int) (workerId : Option String)
      (generated : String) (now : Time)
  | claimWorker (workerId : String) (expectedRevision : Int) (leaseSeconds now : Time)
  | heartbeatWorker (workerId : String) (generation expectedRevision : Int) (leaseSeconds now : Time)
  | requestHandoff (workerId targetWorkerId : String) (generation expectedRevision : Int) (now : Time)
  | takeoverWorker (candidateWorkerId : String) (expectedRevision : Int) (leaseSeconds now : Time)
  | completeWorker (workerId : String) (generation expectedRevision : Int) (now : Time)
  | abandonWorker (workerId : String) (generation expectedRevision : Int) (now : Time)
  | completeTask (completionRef : String) (expectedRevision : Int) (now : Time)

def ProtocolMethod.transaction (taskId : String) : ProtocolMethod → Transaction ProtocolDecision
  | .registerWorker url revision workerId generated now =>
    protocolRegisterWorker taskId url revision workerId generated now
  | .claimWorker workerId revision lease now => protocolClaimWorker taskId workerId revision lease now
  | .heartbeatWorker workerId generation revision lease now =>
    protocolHeartbeatWorker taskId workerId generation revision lease now
  | .requestHandoff workerId target generation revision now =>
    protocolRequestHandoff taskId workerId target generation revision now
  | .takeoverWorker candidate revision lease now => protocolTakeoverWorker taskId candidate revision lease now
  | .completeWorker workerId generation revision now => protocolCompleteWorker taskId workerId generation revision now
  | .abandonWorker workerId generation revision now => protocolAbandonWorker taskId workerId generation revision now
  | .completeTask completionRef revision now => protocolCompleteTask taskId completionRef revision now

/-- The pure call that a protocol method runs on the loaded snapshot. -/
def ProtocolMethod.call : ProtocolMethod → Call
  | .registerWorker url revision workerId generated now =>
    .registerWorker (workerIdOr workerId generated) (some (strip url)) now revision
  | .claimWorker workerId revision lease now => .claimWorker workerId now lease revision
  | .heartbeatWorker workerId generation revision lease now => .heartbeatWorker workerId generation now lease revision
  | .requestHandoff workerId target generation revision now => .requestHandoff workerId target generation now revision
  | .takeoverWorker candidate revision lease now => .takeoverWorker candidate now lease revision
  | .completeWorker workerId generation revision now => .completeWorker workerId generation now revision
  | .abandonWorker workerId generation revision now => .abandonWorker workerId generation now revision
  | .completeTask completionRef revision now => .completeTask completionRef now revision

def getTask (db : Database) (taskId : String) : Except SupervisorError TaskRecord :=
  match db.tasks.find? taskId with
  | none => .error (.key ("unknown task: " ++ taskId))
  | some task => .ok task

def getWorker (db : Database) (workerId : String) : Except SupervisorError WorkerRecord :=
  match db.workers.find? workerId with
  | none => .error (.key ("unknown worker: " ++ workerId))
  | some worker => .ok worker

/-- `UPDATE tasks … WHERE task_id = ?`. -/
def updateTask (db : Database) (taskId : String) (change : TaskRecord → TaskRecord) : Database :=
  match db.tasks.find? taskId with
  | none => db
  | some task => { db with tasks := db.tasks.replace (change task) }

/-- `UPDATE workers … WHERE worker_id = ?`. -/
def updateWorker (db : Database) (workerId : String) (change : WorkerRecord → WorkerRecord) : Database :=
  match db.workers.find? workerId with
  | none => db
  | some worker => { db with workers := db.workers.replace (change worker) }

def deleteWindowBinding (db : Database) (workerId : String) : Database :=
  { db with windowBindings := db.windowBindings.delete workerId }

def updateStateCheck (taskId : String) (state : SupervisorState) (db : Database) : Except SupervisorError Unit :=
  if protocolStateExists db taskId then do
    let protocol ← loadWorkerProtocol db taskId
    if protocol.taskStatus = .completed then
      refuse (state ≠ .completed)
        (.runtime "completed worker protocol task cannot be reopened by legacy update_state")
    else
      refuse (state ∈ [.completed, .abandoned])
        (.runtime "use worker-protocol task semantics for a protocol-initialized durable task")
  else
    .ok ()

def updateStateWrite (taskId : String) (state : SupervisorState) (now : Time) : Transaction Unit := fun db =>
  .ok ((), updateTask db taskId (fun task => { task with state, updatedAt := now }))

def addWorkerCheck (taskId : String) (db : Database) : Except SupervisorError Unit := do
  let _ ← getTask db taskId
  refuse (protocolStateExists db taskId = true)
    (SupervisorError.runtime "use protocol_register_worker for a protocol-initialized durable task")

/-- The transaction of `add_worker`. The worker it replaces loses its status and
its window binding. -/
def addWorkerWrite (taskId conversationUrl : String) (conversationId : Option String) (makeCurrent : Bool)
    (workerId : String) (now : Time) : Transaction Unit := fun db =>
  match db.tasks.find? taskId with
  | none => .error (.integrity "FOREIGN KEY constraint failed")
  | some task => do
    let db ← insertWorker db
      { workerId, taskId, conversationUrl, conversationId, status := .active, startedAt := now }
    if !makeCurrent then
      pure ((), db)
    else
      let old := task.currentWorkerId.getD ""
      let db :=
        if old = "" then
          db
        else
          deleteWindowBinding
            (updateWorker db old (fun worker => { worker with status := .superseded, endedAt := some now })) old
      pure ((), updateTask db taskId (fun task => { task with currentWorkerId := some workerId, updatedAt := now }))

def setWorkerStatusCheck (workerId : String) (db : Database) : Except SupervisorError Unit := do
  let worker ← getWorker db workerId
  refuse (protocolStateExists db worker.taskId = true)
    (SupervisorError.runtime "use worker-protocol transitions for a protocol-initialized durable task")

def setWorkerStatusWrite (workerId : String) (status : WorkerStatus) (now : Time) : Transaction Unit := fun db =>
  let endedAt := if status = .superseded ∨ status = .dead then some now else none
  let db := updateWorker db workerId (fun worker => { worker with status, endedAt })
  .ok ((), if status = .active then db else deleteWindowBinding db workerId)

section Programs
open Program
variable {ρ : Type} {ω : ρ → Type}

def updateState (taskId : String) (state : SupervisorState) (now : Time) :
    ExceptT SupervisorError (Program Database ω) Unit := do
  check (updateStateCheck taskId state)
  transaction (updateStateWrite taskId state now)

/-- The id of the new worker is drawn by the method and given here. -/
def addWorker (taskId conversationUrl : String) (conversationId : Option String) (makeCurrent : Bool)
    (workerId : String) (now : Time) : ExceptT SupervisorError (Program Database ω) WorkerRecord := do
  check (addWorkerCheck taskId)
  transaction (addWorkerWrite taskId conversationUrl conversationId makeCurrent workerId now)
  check (fun db => getWorker db workerId)

def setWorkerStatus (workerId : String) (status : WorkerStatus) (now : Time) :
    ExceptT SupervisorError (Program Database ω) WorkerRecord := do
  check (setWorkerStatusCheck workerId)
  transaction (setWorkerStatusWrite workerId status now)
  check (fun db => getWorker db workerId)

end Programs

end WebSupervisor.Registry
