import WebSupervisor.Database

/-! The durable form of the worker protocol, from `worker_persistence.py`. Each
`BEGIN IMMEDIATE` block is one transaction over the database. -/

namespace WebSupervisor.WorkerPersistence
open Library WorkerProtocol

def refusePersistence (bad : Prop) [Decidable bad] (message : String) : Except SupervisorError Unit :=
  refuse bad (.persistence message)

/-- Two lists name the same set of ids. -/
def sameIds (first second : List String) : Bool :=
  first.all (second.contains ·) && second.all (first.contains ·)

def protocolStateExists (db : Database) (taskId : String) : Bool :=
  (db.protocolTasks.find? taskId).isSome

/-- `SELECT * FROM workers WHERE task_id = ? ORDER BY worker_id`. -/
def workersForTask (db : Database) (taskId : String) : List WorkerRecord :=
  (db.workers.rows.filter (·.taskId == taskId)).insertionSort (fun first second => first.workerId ≤ second.workerId)

/-- `SELECT * FROM worker_protocol_leases WHERE task_id = ? ORDER BY worker_id`. -/
def leasesForTask (db : Database) (taskId : String) : List WorkerLease :=
  sortedWorkers (db.protocolLeases.rows.filter (·.taskId == taskId))

/-- The columns of `worker_protocol_tasks` for a snapshot. -/
def taskValues (state : WorkerTaskState) : ProtocolTask where
  taskId := state.taskId
  revision := state.revision
  generation := state.generation
  taskStatus := state.taskStatus
  currentWorkerId := state.currentWorkerId
  handoffTargetWorkerId := state.handoffTargetWorkerId
  handoffRequestedAt := state.handoffRequestedAt
  parentTaskId := state.lineage.parentTaskId
  rootTaskId := state.lineage.rootTaskId
  childKey := state.lineage.childKey
  completedAt := state.completedAt
  completionRef := state.completionRef

/-- The snapshot that a stored row and its leases describe. -/
def stateFromRow (row : ProtocolTask) (workers : List WorkerLease) : WorkerTaskState where
  lineage :=
    { taskId := row.taskId, parentTaskId := row.parentTaskId, rootTaskId := row.rootTaskId, childKey := row.childKey }
  revision := row.revision
  generation := row.generation
  taskStatus := row.taskStatus
  currentWorkerId := row.currentWorkerId
  handoffTargetWorkerId := row.handoffTargetWorkerId
  handoffRequestedAt := row.handoffRequestedAt
  workers
  completedAt := row.completedAt
  completionRef := row.completionRef

def legacyStatus : WorkerLeaseStatus → WorkerStatus
  | .candidate => .parked
  | .active => .active
  | .superseded => .superseded
  | .completed => .dead
  | .abandoned => .dead

def validateLineageReferences (db : Database) (state : WorkerTaskState) : Except SupervisorError Unit := do
  refusePersistence (db.tasks.find? state.lineage.rootTaskId = none) "protocol root_task_id no longer exists"
  match state.lineage.parentTaskId with
  | none => pure ()
  | some parent => do
    refusePersistence (db.tasks.find? parent = none) "protocol parent_task_id no longer exists"
    refusePersistence (∃ row ∈ db.protocolTasks.find? parent, row.rootTaskId ≠ state.lineage.rootTaskId)
      "protocol child root disagrees with parent root"

/-- The checks of one lease against its canonical worker row. -/
def validateLegacyWorker (canonical : List WorkerRecord) (protocolIds : List String) (lease : WorkerLease) :
    Except SupervisorError Unit :=
  match canonical.find? (·.workerId == lease.workerId) with
  | none => .error (.key lease.workerId)
  | some row => do
    refusePersistence (row.taskId ≠ lease.taskId) "worker durable task identity mismatch"
    refusePersistence (some row.conversationUrl ≠ lease.conversationRef) "worker conversation reference mismatch"
    refusePersistence (row.startedAt ≠ lease.registeredAt) "worker registration timestamp mismatch"
    refusePersistence (row.status ≠ legacyStatus lease.status)
      ("legacy worker status " ++ row.status.value ++ " disagrees with protocol " ++ lease.status.value)
    refusePersistence (lease.status ∈ [.superseded, .completed, .abandoned] ∧ row.endedAt = none)
      "terminal protocol worker lacks legacy ended_at"
    refusePersistence (∃ successor ∈ lease.supersededBy, successor ∉ protocolIds)
      "superseded_by identifies a foreign worker"

/-- The canonical task state must be terminal exactly when the protocol is. -/
def validateTaskState (task : TaskRecord) (state : WorkerTaskState) : Except SupervisorError Unit :=
  if state.taskStatus = .completed then
    refusePersistence (task.state ≠ .completed) "completed protocol task disagrees with canonical task state"
  else
    refusePersistence (task.state ∈ [.completed, .abandoned])
      "canonical terminal task state disagrees with open worker protocol"

def validateLegacyConsistency (db : Database) (state : WorkerTaskState) : Except SupervisorError Unit :=
  match db.tasks.find? state.taskId with
  | none => .error (.persistence "canonical task row is missing")
  | some task => do
    refusePersistence (task.currentWorkerId ≠ state.currentWorkerId)
      "tasks.current_worker_id disagrees with persisted worker protocol"
    validateTaskState task state
    let canonical := workersForTask db state.taskId
    let protocolIds := state.workers.map (·.workerId)
    refusePersistence (sameIds (canonical.map (·.workerId)) protocolIds = false)
      "canonical workers and protocol workers do not have identical identities"
    state.workers.forM (validateLegacyWorker canonical protocolIds)

def loadWorkerProtocol (db : Database) (taskId : String) : Except SupervisorError WorkerTaskState :=
  match db.protocolTasks.find? taskId with
  | none =>
    if db.tasks.find? taskId = none then
      .error (.key ("unknown task: " ++ taskId))
    else
      .error (.persistence ("worker protocol is not bootstrapped for task " ++ taskId))
  | some row =>
    let state := stateFromRow row (leasesForTask db taskId)
    match validateState state with
    | .error error =>
      .error (.persistence ("persisted worker protocol is invalid for task " ++ taskId ++ ": " ++ error.message))
    | .ok _ => do
      validateLineageReferences db state
      validateLegacyConsistency db state
      pure state

/-- The canonical row of a lease after a transition: a new candidate gets a
row, an existing row only changes its status and stamps. -/
def syncedWorker (existing : Option WorkerRecord) (lease : WorkerLease) (conversationUrl : String) : WorkerRecord :=
  match existing with
  | none =>
    { workerId := lease.workerId, taskId := lease.taskId, conversationUrl, conversationId := none
      status := legacyStatus lease.status, startedAt := lease.registeredAt, lastSeenAt := lease.lastHeartbeatAt
      endedAt := lease.endedAt }
  | some row =>
    { row with status := legacyStatus lease.status, lastSeenAt := lease.lastHeartbeatAt, endedAt := lease.endedAt }

def insertWorker (db : Database) (row : WorkerRecord) : Except SupervisorError Database :=
  match db.workers.insert? row with
  | none => .error (.integrity "UNIQUE constraint failed: workers.worker_id")
  | some workers => .ok { db with workers }

/-- Create or update the canonical row of one lease. `existing` was read before
the loop over the leases. -/
def writeLegacyWorker (existing : List WorkerRecord) (db : Database) (lease : WorkerLease) :
    Except SupervisorError Database :=
  let url := lease.conversationRef.getD ""
  match existing.find? (·.workerId == lease.workerId) with
  | none => do
    refusePersistence (lease.status ≠ .candidate ∨ url = "")
      "only a registered protocol candidate may create a canonical worker row"
    insertWorker db (syncedWorker none lease url)
  | some row => do
    refusePersistence (row.taskId ≠ lease.taskId) "worker id already belongs to another task"
    refusePersistence (some row.conversationUrl ≠ lease.conversationRef)
      "protocol transition may not change canonical conversation URL"
    pure { db with workers := db.workers.replace (syncedWorker (some row) lease url) }

/-- One round of the loop in `_sync_legacy_workers`. Only an active worker keeps
its window binding. -/
def syncLegacyWorker (existing : List WorkerRecord) (db : Database) (lease : WorkerLease) :
    Except SupervisorError Database := do
  let db ← writeLegacyWorker existing db lease
  pure (if lease.status = .active then db else { db with windowBindings := db.windowBindings.delete lease.workerId })

def syncLegacyWorkers (db : Database) (state : WorkerTaskState) : Except SupervisorError Database := do
  let existing := workersForTask db state.taskId
  let db ← state.workers.foldlM (syncLegacyWorker existing) db
  refusePersistence
    (sameIds ((workersForTask db state.taskId).map (·.workerId)) (state.workers.map (·.workerId)) = false)
    "protocol transition cannot ignore or delete canonical worker identities"
  pure db

def upsertProtocolLease (db : Database) (lease : WorkerLease) : Except SupervisorError Database := do
  refusePersistence (lease.conversationRef.getD "" = "")
    "persisted worker protocol requires a canonical conversation reference"
  pure { db with protocolLeases := db.protocolLeases.upsert lease }

/-- The index of each event among the events of its revision. -/
def indexEvents (seen : List ProtocolEvent) : List ProtocolEvent → List ProtocolEventRow
  | [] => []
  | event :: events =>
    { event, eventIndex := seen.countP (·.revision == event.revision) } :: indexEvents (event :: seen) events

def insertEvent (db : Database) (row : ProtocolEventRow) : Except SupervisorError Database :=
  match db.protocolEvents.insert? row with
  | none => .error (.integrity ("UNIQUE constraint failed: worker_protocol_events.task_id, " ++
      "worker_protocol_events.revision, worker_protocol_events.event_index"))
  | some protocolEvents => .ok { db with protocolEvents }

def appendEvents (db : Database) (events : List ProtocolEvent) : Except SupervisorError Database :=
  (indexEvents [] events).foldlM insertEvent db

/-- The task row after a transition. An open protocol leaves the state of the
task as it is. -/
def transitionedTask (task : TaskRecord) (decision : ProtocolDecision) : TaskRecord :=
  { task with
    currentWorkerId := decision.state.currentWorkerId
    state := if decision.state.taskStatus = .completed then .completed else task.state
    updatedAt := (decision.events.map (·.time)).foldl max task.updatedAt }

def persistDecision (db : Database) (previous : WorkerTaskState) (decision : ProtocolDecision)
    (expectedRevision : Int) : Except SupervisorError Database := do
  let state := decision.state
  let db ← syncLegacyWorkers db state
  match db.tasks.find? state.taskId with
  | none => .error (.persistence "canonical task disappeared during transition")
  | some task => do
    let db := { db with tasks := db.tasks.replace (transitionedTask task decision) }
    refusePersistence ((db.protocolTasks.find? state.taskId).map (·.revision) ≠ some expectedRevision)
      "worker protocol revision compare-and-swap failed during commit"
    let db := { db with protocolTasks := db.protocolTasks.replace (taskValues state) }
    let db ← state.workers.foldlM upsertProtocolLease db
    let db ← appendEvents db decision.events
    refusePersistence (previous.lineage ≠ state.lineage) "pure transition may not mutate task lineage"
    pure db

/-- Apply one pure transition and store its accepted mutation in one
transaction. A decision that changes nothing is returned after a rollback. -/
def applyWorkerProtocolTransition (taskId : String) (expectedRevision : Int)
    (transition : WorkerTaskState → Except ProtocolError ProtocolDecision) : Transaction ProtocolDecision :=
  fun db => do
    let state ← loadWorkerProtocol db taskId
    let decision ← (transition state).mapError .protocol
    refusePersistence (decision.expectedRevision ≠ expectedRevision)
      "transition decision expected_revision does not match registry request"
    refusePersistence (decision.state.taskId ≠ taskId) "transition changed durable task identity"
    if !decision.mutated then
      pure (decision, db)
    else do
      refusePersistence (decision.accepted = false) "rejected transition cannot be a mutation"
      refusePersistence (decision.state.revision ≠ expectedRevision + 1)
        "accepted mutation must advance one revision"
      refusePersistence (decision.events = []) "accepted protocol mutation must append an event"
      refusePersistence (∃ event ∈ decision.events, event.taskId ≠ taskId ∨ event.revision ≠ decision.state.revision)
        "protocol event task/revision mismatch"
      (validateState decision.state).mapError .protocol
      let next ← persistDecision db state decision expectedRevision
      let reloaded ← loadWorkerProtocol next taskId
      refusePersistence (reloaded ≠ decision.state)
        "persisted worker protocol does not round-trip to the accepted pure state"
      pure (decision, next)

/-- The checks of `_state_from_legacy` that read the task and all its workers. -/
def checkLegacyAuthority (task : TaskRecord) (workers : List WorkerRecord) : Except SupervisorError Unit := do
  refusePersistence (task.state = .abandoned) "legacy ABANDONED task meaning is ambiguous for protocol bootstrap"
  refusePersistence (∃ row ∈ workers, row.status = .parked)
    "legacy PARKED workers have ambiguous protocol authority; reconcile before bootstrap"
  let active := (workers.filter (·.status == .active)).map (·.workerId)
  match task.currentWorkerId with
  | none => refusePersistence (active ≠ []) "legacy ACTIVE worker exists without tasks.current_worker_id"
  | some current =>
    match workers.find? (·.workerId == current) with
    | none =>
      .error (.persistence "tasks.current_worker_id does not identify a worker in the same task")
    | some row => do
      refusePersistence (row.status ≠ .active ∨ active ≠ [current])
        "legacy current worker is not the sole ACTIVE worker"
      refusePersistence (task.state = .completed)
        "legacy COMPLETED task cannot retain an ACTIVE current worker"

/-- The lease of one legacy worker. An active worker gets generation 1 and a
lease that has already run out at its last durable stamp. -/
def leaseFromLegacy (taskId : String) (row : WorkerRecord) : Except SupervisorError WorkerLease :=
  match row.status with
  | .active => do
    refusePersistence (row.endedAt ≠ none) "legacy ACTIVE worker unexpectedly has terminal ended_at"
    let heartbeat := row.lastSeenAt.getD row.startedAt
    pure { workerId := row.workerId, taskId, conversationRef := some row.conversationUrl, status := .active
           registeredAt := row.startedAt, generation := some 1, claimedAt := some row.startedAt
           lastHeartbeatAt := some heartbeat, leaseExpiresAt := some heartbeat }
  | .superseded => do
    refusePersistence (row.endedAt = none) "legacy SUPERSEDED worker lacks terminal ended_at evidence"
    pure { workerId := row.workerId, taskId, conversationRef := some row.conversationUrl, status := .superseded
           registeredAt := row.startedAt, lastHeartbeatAt := row.lastSeenAt, endedAt := row.endedAt }
  | .dead => do
    refusePersistence (row.endedAt = none) "legacy DEAD worker lacks terminal ended_at evidence"
    pure { workerId := row.workerId, taskId, conversationRef := some row.conversationUrl, status := .abandoned
           registeredAt := row.startedAt, lastHeartbeatAt := row.lastSeenAt, endedAt := row.endedAt }
  | .parked =>
    .error (.persistence ("unsupported legacy worker status for bootstrap: " ++ row.status.value))

def stateFromLegacy (task : TaskRecord) (workers : List WorkerRecord) (lineage : TaskLineage) :
    Except SupervisorError WorkerTaskState := do
  checkLegacyAuthority task workers
  let leases ← workers.mapM (leaseFromLegacy task.taskId)
  let completed := task.state = .completed
  let state : WorkerTaskState :=
    { lineage
      revision := 0
      generation := if task.currentWorkerId = none then 0 else 1
      taskStatus := if completed then .completed else .opened
      currentWorkerId := task.currentWorkerId
      workers := sortedWorkers leases
      completedAt := if completed then some task.updatedAt else none
      completionRef := if completed then some "legacy:supervisor-state:COMPLETED" else none }
  match validateState state with
  | .error error =>
    .error (.persistence ("legacy worker bootstrap is not a valid protocol snapshot: " ++ error.message))
  | .ok _ => pure state

def optionalNonempty (value : Option String) (name : String) : Except SupervisorError (Option String) :=
  match value with
  | none => .ok none
  | some value => do
    refusePersistence (strip value = "") (name ++ " must be non-empty when supplied")
    pure (some (strip value))

/-- The root of a child: the requested one, otherwise the root of its parent. -/
def childRoot (rootTaskId : Option String) (parentProtocol : Option ProtocolTask) : Except SupervisorError String :=
  match rootTaskId, parentProtocol with
  | some root, _ => .ok root
  | none, some row => .ok row.rootTaskId
  | none, none => .error (.persistence "child bootstrap requires root_task_id until parent protocol state exists")

def resolveLineage (db : Database) (taskId : String) (parentTaskId rootTaskId childKey : Option String) :
    Except SupervisorError TaskLineage := do
  let childKey ← optionalNonempty childKey "child_key"
  match parentTaskId with
  | none => do
    refusePersistence (rootTaskId ≠ none ∧ rootTaskId ≠ some taskId)
      "root protocol task must name itself as root_task_id"
    pure { taskId, parentTaskId := none, rootTaskId := taskId, childKey }
  | some parent => do
    let parent := strip parent
    refusePersistence (parent = "" ∨ parent = taskId) "parent_task_id must name a different durable task"
    refusePersistence (db.tasks.find? parent = none) "parent_task_id does not exist"
    let parentProtocol := db.protocolTasks.find? parent
    let root ← childRoot rootTaskId parentProtocol
    let root := strip root
    refusePersistence (root = "" ∨ root = taskId) "child root_task_id must name an ancestor task"
    refusePersistence (db.tasks.find? root = none) "root_task_id does not exist"
    refusePersistence (∃ row ∈ parentProtocol, row.rootTaskId ≠ root)
      "child root_task_id disagrees with parent lineage"
    pure { taskId, parentTaskId := some parent, rootTaskId := root, childKey }

/-- A repeated bootstrap must name the lineage that is already stored. -/
def requireRequestedLineage (state : WorkerTaskState) (parentTaskId rootTaskId childKey : Option String) :
    Except SupervisorError Unit :=
  if parentTaskId = none ∧ rootTaskId = none ∧ childKey = none then
    .ok ()
  else
    let actual := (state.lineage.parentTaskId, some state.lineage.rootTaskId, state.lineage.childKey)
    let expected := (parentTaskId.map strip, some ((rootTaskId.map strip).getD state.lineage.rootTaskId),
      childKey.map strip)
    refuse (actual ≠ expected) (.lineage actual expected)

def insertProtocolSnapshot (db : Database) (state : WorkerTaskState) : Except SupervisorError Database :=
  match db.protocolTasks.insert? (taskValues state) with
  | none => .error (.integrity "UNIQUE constraint failed: worker_protocol_tasks.task_id")
  | some protocolTasks => state.workers.foldlM upsertProtocolLease { db with protocolTasks }

/-- Create protocol metadata for an existing task. Legacy authority is never
refreshed: an active worker starts with a lease that has run out. -/
def bootstrapWorkerProtocol (taskId : String) (parentTaskId rootTaskId childKey : Option String) :
    Transaction WorkerTaskState :=
  fun db => do
    if protocolStateExists db taskId then
      let state ← loadWorkerProtocol db taskId
      requireRequestedLineage state parentTaskId rootTaskId childKey
      pure (state, db)
    else
      match db.tasks.find? taskId with
      | none => .error (.key ("unknown task: " ++ taskId))
      | some task => do
        let lineage ← resolveLineage db taskId parentTaskId rootTaskId childKey
        let state ← stateFromLegacy task (workersForTask db taskId) lineage
        let next ← insertProtocolSnapshot db state
        pure (state, next)

end WebSupervisor.WorkerPersistence
