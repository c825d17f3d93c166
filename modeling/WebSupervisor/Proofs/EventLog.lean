import WebSupervisor.Proofs.WorkerPersistenceRefinement

/-! The event log of the durable protocol. Every transition appends events of one
new revision, and these events say everything that it changes in the fields which
a reader of the log follows. -/

namespace WebSupervisor.WorkerPersistence.Proofs
open Library WorkerProtocol WorkerProtocol.Proofs Registry

/-- What the log says about one worker. -/
structure LoggedWorker where
  status : WorkerLeaseStatus
  generation : Option Int := none
  claimedAt : Option Time := none
  lastHeartbeatAt : Option Time := none
  endedAt : Option Time := none
  supersededBy : Option String := none
  deriving DecidableEq

/-- What the log says about a task. The worker ids are those that have an entry. -/
structure LoggedTask where
  taskStatus : DurableTaskStatus
  completionRef : Option String
  completedAt : Option Time
  generation : Int
  currentWorkerId : Option String
  handoffTargetWorkerId : Option String
  handoffRequestedAt : Option Time
  workers : String → Option LoggedWorker

def loggedWorker (lease : WorkerLease) : LoggedWorker where
  status := lease.status
  generation := lease.generation
  claimedAt := lease.claimedAt
  lastHeartbeatAt := lease.lastHeartbeatAt
  endedAt := lease.endedAt
  supersededBy := lease.supersededBy

def loggedWorkers (workers : List WorkerLease) (workerId : String) : Option LoggedWorker :=
  (workers.find? (fun worker => worker.workerId == workerId)).map loggedWorker

def loggedTask (state : WorkerTaskState) : LoggedTask where
  taskStatus := state.taskStatus
  completionRef := state.completionRef
  completedAt := state.completedAt
  generation := state.generation
  currentWorkerId := state.currentWorkerId
  handoffTargetWorkerId := state.handoffTargetWorkerId
  handoffRequestedAt := state.handoffRequestedAt
  workers := loggedWorkers state.workers

namespace LoggedTask

def setWorker (task : LoggedTask) (workerId : String) (worker : LoggedWorker) : LoggedTask :=
  { task with workers := Function.update task.workers workerId (some worker) }

/-- Change the entry of the worker that an event names. -/
def changeWorker (task : LoggedTask) (workerId : Option String) (change : LoggedWorker → LoggedWorker) : LoggedTask :=
  match workerId with
  | none => task
  | some workerId =>
    match task.workers workerId with
    | none => task
    | some worker => task.setWorker workerId (change worker)

/-- The worker of the event becomes the current one. -/
def claim (task : LoggedTask) (event : ProtocolEvent) : LoggedTask :=
  { task.changeWorker event.workerId (fun worker =>
      { worker with
        status := .active, generation := event.generation, claimedAt := some event.time
        lastHeartbeatAt := some event.time }) with
    generation := event.generation.getD task.generation
    currentWorkerId := event.workerId
    handoffTargetWorkerId := none
    handoffRequestedAt := none }

/-- The current worker ends without a successor. -/
def finish (task : LoggedTask) (event : ProtocolEvent) (status : WorkerLeaseStatus) : LoggedTask :=
  { task.changeWorker event.workerId (fun worker => { worker with status, endedAt := some event.time }) with
    currentWorkerId := none
    handoffTargetWorkerId := none
    handoffRequestedAt := none }

/-- The effect of one logged event. -/
def applyEvent (task : LoggedTask) (event : ProtocolEvent) : LoggedTask :=
  match event.kind with
  | .workerRegistered =>
    match event.workerId with
    | none => task
    | some workerId => task.setWorker workerId { status := .candidate }
  | .leaseClaimed | .leaseTakenOver => task.claim event
  | .heartbeatAccepted =>
    task.changeWorker event.workerId (fun worker => { worker with lastHeartbeatAt := some event.time })
  | .handoffRequested =>
    { task with handoffTargetWorkerId := event.relatedWorkerId, handoffRequestedAt := some event.time }
  | .workerSuperseded =>
    task.changeWorker event.workerId (fun worker =>
      { worker with status := .superseded, endedAt := some event.time, supersededBy := event.relatedWorkerId })
  | .workerCompleted => task.finish event .completed
  | .workerAbandoned => task.finish event .abandoned
  | .taskCompleted =>
    { task with taskStatus := .completed, completedAt := some event.time, completionRef := event.ref }

end LoggedTask

section Workers
variable {workers later : List WorkerLease} {updated : WorkerLease}

private theorem find_lease {workerId : String} {worker : WorkerLease} (distinct : Distinct workers) :
    workers.find? (fun worker => worker.workerId == workerId) = some worker ↔
      worker ∈ workers ∧ worker.workerId = workerId := by
  constructor
  · intro found
    exact ⟨List.mem_of_find?_eq_some found, by simpa using List.find?_some found⟩
  · rintro ⟨member, rfl⟩
    cases found : workers.find? (fun other => other.workerId == worker.workerId) with
    | none =>
      have absent := List.find?_eq_none.mp found worker member
      simp at absent
    | some other =>
      have same : other.workerId = worker.workerId := by simpa using List.find?_some found
      rw [distinct.eq (List.mem_of_find?_eq_some found) member same]

private theorem logged_written (distinct : Distinct workers) (laterDistinct : Distinct later)
    (written : ∀ worker, worker ∈ later ↔ worker = updated ∨ worker ∈ workers ∧ worker.workerId ≠ updated.workerId) :
    loggedWorkers later = Function.update (loggedWorkers workers) updated.workerId (some (loggedWorker updated)) := by
  funext workerId
  have found : later.find? (fun worker => worker.workerId == workerId) =
      if workerId = updated.workerId then some updated
      else workers.find? (fun worker => worker.workerId == workerId) := by
    ext worker
    rw [find_lease laterDistinct, written]
    split
    next same =>
      rw [Option.some.injEq]
      constructor
      · rintro ⟨rfl | ⟨_, other⟩, named⟩
        · rfl
        · exact absurd (named.trans same) other
      · rintro rfl
        exact ⟨Or.inl rfl, same.symm⟩
    next different =>
      rw [find_lease distinct]
      constructor
      · rintro ⟨rfl | ⟨member, _⟩, named⟩
        · exact absurd named.symm different
        · exact ⟨member, named⟩
      · rintro ⟨member, rfl⟩
        exact ⟨Or.inr ⟨member, different⟩, rfl⟩
  rw [loggedWorkers, found, Function.update_apply]
  split
  · rfl
  · rfl

private theorem logged_replace (distinct : Distinct workers) {worker : WorkerLease} (member : worker ∈ workers)
    (same : worker.workerId = updated.workerId) :
    loggedWorkers (replaceWorker workers updated) =
      Function.update (loggedWorkers workers) updated.workerId (some (loggedWorker updated)) := by
  refine logged_written distinct (distinct.replace updated) (fun other => ?_)
  rw [mem_replaceWorker, and_iff_left ⟨worker, member, same⟩]

private theorem logged_register (distinct : Distinct workers)
    (fresh : ∀ old ∈ workers, old.workerId ≠ updated.workerId) :
    loggedWorkers (sortedWorkers (workers ++ [updated])) =
      Function.update (loggedWorkers workers) updated.workerId (some (loggedWorker updated)) := by
  refine logged_written distinct (distinct.register updated fresh) (fun other => ?_)
  rw [mem_sortedWorkers, List.mem_append, List.mem_singleton, or_comm]
  exact or_congr_right ⟨fun old => ⟨old, fresh other old⟩, fun old => old.1⟩

end Workers

section Changes
variable {state : WorkerTaskState} {call : Call} {outcome : Outcome}

private theorem logged_found {workerId : String} {worker : WorkerLease} (found : workerById state workerId = some worker) :
    loggedWorkers state.workers workerId = some (loggedWorker worker) := congrArg (Option.map loggedWorker) found

private theorem changeWorker_found {workerId : String} {worker : WorkerLease} (found : workerById state workerId = some worker)
    (change : LoggedWorker → LoggedWorker) :
    (loggedTask state).changeWorker (some workerId) change =
      (loggedTask state).setWorker workerId (change (loggedWorker worker)) := by
  simp only [LoggedTask.changeWorker, loggedTask, logged_found found]

private theorem logged_over (distinct : Distinct state.workers) {workerId : String} {worker : WorkerLease}
    (found : workerById state workerId = some worker) (updated : WorkerLease) (same : updated.workerId = worker.workerId) :
    loggedWorkers (replaceWorker state.workers updated) =
      Function.update (loggedWorkers state.workers) workerId (some (loggedWorker updated)) := by
  obtain ⟨member, rfl⟩ := workerById_some found
  rw [logged_replace distinct member same.symm, same]

/-- The events of a change say everything that it changes. -/
theorem change_logged (valid : Valid state) (change : Change state call outcome) :
    outcome.events.foldl LoggedTask.applyEvent (loggedTask state) = loggedTask outcome.state := by
  cases change with
  | @register workerId conversationRef now isOpen named fresh =>
    have entries := @logged_register state.workers
      { workerId := strip workerId, taskId := state.taskId, conversationRef, status := .candidate, registeredAt := now }
      valid.distinct (workerById_none.mp fresh)
    simp only [List.foldl_cons, List.foldl_nil, LoggedTask.applyEvent, LoggedTask.setWorker, loggedTask, entries]
    rfl
  | @claim workerId now lease worker isOpen found candidate idle =>
    have entries := logged_over valid.distinct found (claimedLease worker (state.generation + 1) now lease) rfl
    simp only [List.foldl_cons, List.foldl_nil, LoggedTask.applyEvent, LoggedTask.claim, changeWorker_found found]
    simp only [LoggedTask.setWorker, loggedTask, entries]
    rfl
  | @heartbeat workerId generation now lease worker authorized =>
    have entries := logged_over valid.distinct authorized.found (renewedLease worker now lease) rfl
    simp only [List.foldl_cons, List.foldl_nil, LoggedTask.applyEvent, changeWorker_found authorized.found]
    simp only [LoggedTask.setWorker, loggedTask, entries]
    rfl
  | handoff authorized found status => rfl
  | @takeover candidateId oldId now lease old candidate reason isOpen found status current holder eligible =>
    have different : candidateId ≠ oldId := by
      rintro rfl
      have active := (valid.holder current found).2.2
      rw [status] at active
      cases active
    have entries := logged_over valid.distinct holder (supersededLease old candidateId now) rfl
    let middle : WorkerTaskState :=
      { state with workers := replaceWorker state.workers (supersededLease old candidateId now) }
    have distinct : Distinct middle.workers := valid.distinct.replace _
    have still : workerById middle candidateId = some candidate := by
      obtain ⟨member, rfl⟩ := workerById_some found
      refine workerById_of_mem distinct (mem_replaceWorker.mpr (Or.inr ⟨member, fun same => different ?_⟩))
      exact same.trans (workerById_some holder).2
    have later := logged_over distinct still (claimedLease candidate (state.generation + 1) now lease) rfl
    have ended : LoggedTask.applyEvent (loggedTask state)
        { kind := .workerSuperseded, taskId := state.taskId, revision := 0, time := now, workerId := some oldId,
          generation := old.generation, relatedWorkerId := some candidateId } = loggedTask middle := by
      simp only [LoggedTask.applyEvent, changeWorker_found holder]
      simp only [LoggedTask.setWorker, loggedTask, middle, entries]
      rfl
    rw [List.foldl_cons, ended]
    simp only [List.foldl_cons, List.foldl_nil, LoggedTask.applyEvent, LoggedTask.claim, changeWorker_found still]
    simp only [LoggedTask.setWorker, loggedTask]
    rw [later]
    rfl
  | @complete workerId generation now worker authorized =>
    have entries := logged_over valid.distinct authorized.found (endedLease worker .completed now) rfl
    simp only [List.foldl_cons, List.foldl_nil, LoggedTask.applyEvent, LoggedTask.finish,
      changeWorker_found authorized.found]
    simp only [LoggedTask.setWorker, withoutCurrent, loggedTask, entries]
    rfl
  | @abandon workerId generation now worker isOpen found current active named held =>
    have entries := logged_over valid.distinct found (endedLease worker .abandoned now) rfl
    simp only [List.foldl_cons, List.foldl_nil, LoggedTask.applyEvent, LoggedTask.finish, changeWorker_found found]
    simp only [LoggedTask.setWorker, withoutCurrent, loggedTask, entries]
    rfl
  | finish isOpen idle named => rfl

end Changes

section Rows
variable {db after : Database} {taskId : String} {call : Call} {answer : ProtocolDecision}

def eventRows (db : Database) (taskId : String) : List ProtocolEventRow :=
  db.protocolEvents.rows.filter (·.event.taskId == taskId)

/-- The order of `ORDER BY revision, event_index`. -/
def RowBefore (first second : ProtocolEventRow) : Prop :=
  first.event.revision < second.event.revision ∨
    first.event.revision = second.event.revision ∧ first.eventIndex ≤ second.eventIndex

instance RowBefore.decidable : DecidableRel RowBefore := fun _ _ => inferInstanceAs (Decidable (_ ∨ _))

/-- The rows of a task in their order. -/
def orderedEventRows (db : Database) (taskId : String) : List ProtocolEventRow :=
  (eventRows db taskId).insertionSort RowBefore

private theorem filter_index {events : List ProtocolEvent} (same : ∀ event ∈ events, event.taskId = taskId)
    (wanted : String) : (indexEvents [] events).filter (·.event.taskId == wanted) =
      if wanted = taskId then indexEvents [] events else [] := by
  split
  next own =>
    refine List.filter_eq_self.mpr (fun row member => ?_)
    rw [same row.event (indexEvents_event member), own, beq_self_eq_true]
  next other =>
    refine List.filter_eq_nil_iff.mpr (fun row member => ?_)
    rw [same row.event (indexEvents_event member), beq_iff_eq]
    exact fun equal => other equal.symm

private theorem indexEvents_events (seen events : List ProtocolEvent) :
    (indexEvents seen events).map (·.event) = events := by
  induction events generalizing seen with
  | nil => rfl
  | cons event events ih => rw [indexEvents, List.map_cons, ih]

private theorem indexEvents_ordered {seen events : List ProtocolEvent} {revision : Int}
    (same : ∀ event ∈ events, event.revision = revision) : (indexEvents seen events).Pairwise RowBefore := by
  induction events generalizing seen with
  | nil => exact .nil
  | cons event events ih =>
    obtain ⟨first, rest⟩ := List.forall_mem_cons.mp same
    refine .cons (fun row member => ?_) (ih rest)
    have bound := indexEvents_bound rest member
    rw [List.countP_cons] at bound
    refine Or.inr ⟨first.trans (rest _ (indexEvents_event member)).symm, ?_⟩
    show seen.countP (·.revision == event.revision) ≤ row.eventIndex
    rw [first]
    omega

end Rows

/-- The log of a task since its bootstrap, in the order of its rows. -/
structure LogOf (initial : WorkerTaskState) (db : Database) (state : WorkerTaskState) : Prop where
  ordered : (eventRows db state.taskId).Pairwise RowBefore
  covered : ∀ revision, (∃ row ∈ eventRows db state.taskId, row.event.revision = revision) ↔
    1 ≤ revision ∧ revision ≤ state.revision
  replayed : ((eventRows db state.taskId).map (·.event)).foldl LoggedTask.applyEvent (loggedTask initial) =
    loggedTask state

section Runs
variable {db : Database} {initial state : WorkerTaskState}

private theorem LogOf.append (log : LogOf initial db state) (durable : Durable db state) {call : Call}
    {outcome : Outcome} (change : Change state call outcome) {after : Database}
    (rows : after.protocolEvents.rows = db.protocolEvents.rows ++ indexEvents [] (decision state outcome).events)
    (nonempty : (decision state outcome).events ≠ [])
    (events : ∀ event ∈ (decision state outcome).events, event.taskId = state.taskId ∧
      event.revision = state.revision + 1) :
    LogOf initial after (stamped state outcome.state) := by
  have task : (stamped state outcome.state).taskId = state.taskId := congrArg TaskLineage.taskId change.lineage
  have grown : eventRows after state.taskId =
      eventRows db state.taskId ++ indexEvents [] (decision state outcome).events := by
    rw [eventRows, rows, List.filter_append, filter_index (fun event member => (events event member).1), if_pos rfl]
    rfl
  have old (row : ProtocolEventRow) (member : row ∈ eventRows db state.taskId) : row.event.revision ≤ state.revision := by
    obtain ⟨present, named⟩ := List.mem_filter.mp member
    exact durable.stored.events row present (by simpa using named)
  have new (row : ProtocolEventRow) (member : row ∈ indexEvents [] (decision state outcome).events) :
      row.event.revision = state.revision + 1 := (events _ (indexEvents_event member)).2
  have advanced : (stamped state outcome.state).revision = state.revision + 1 := rfl
  refine ⟨?_, fun revision => ?_, ?_⟩
  · rw [task, grown, List.pairwise_append]
    refine ⟨log.ordered, indexEvents_ordered (fun event member => (events event member).2), fun first older second newer => ?_⟩
    have below := old first older
    have above := new second newer
    exact Or.inl (by omega)
  · rw [task, grown, advanced]
    have nonnegative := durable.stored.sound.valid.revision
    constructor
    · rintro ⟨row, member, rfl⟩
      rcases List.mem_append.mp member with older | newer
      · have both := (log.covered row.event.revision).mp ⟨row, older, rfl⟩
        omega
      · have above := new row newer
        omega
    · rintro ⟨positive, bound⟩
      by_cases last : revision = state.revision + 1
      · obtain ⟨row, member⟩ := List.exists_mem_of_ne_nil (indexEvents [] (decision state outcome).events) (by
          intro empty
          apply nonempty
          rw [← indexEvents_events [] (decision state outcome).events, empty, List.map_nil])
        exact ⟨row, List.mem_append_right _ member, (new row member).trans last.symm⟩
      · obtain ⟨row, member, named⟩ := (log.covered revision).mpr ⟨positive, by omega⟩
        exact ⟨row, List.mem_append_left _ member, named⟩
  · rw [task, grown, List.map_append, List.foldl_append, log.replayed, indexEvents_events]
    have stampedEvents : (decision state outcome).events =
        outcome.events.map (fun event => { event with revision := state.revision + 1 }) := rfl
    rw [stampedEvents, List.foldl_map]
    exact change_logged durable.stored.sound.valid change

private theorem own_logged (durable : Durable db state) (log : LogOf initial db state) {call : Call} {after : Database}
    {answer : ProtocolDecision} (returned : transitionOf state.taskId call db = .ok (answer, after)) :
    LogOf initial after (advance state call) := by
  obtain ⟨previous, decided, loaded, stored⟩ := applied_cases returned
  cases loaded.symm.trans durable.load
  have moved : advance state call = answer.state := by rw [advance, decided]
  rw [moved]
  rcases perform_spec durable.stored.sound.valid call with (⟨message, raised⟩ | ⟨quiet, same, kept, unmoved, _⟩) |
    ⟨outcome, change, same⟩
  · rw [raised] at decided
    cases decided
  · obtain rfl := Except.ok.inj (same.symm.trans decided)
    rcases stored with ⟨_, rfl⟩ | ⟨mutated, _⟩
    · rw [kept]
      exact log
    · rw [unmoved] at mutated
      cases mutated
  · obtain rfl := Except.ok.inj (same.symm.trans decided)
    rcases stored with ⟨unmoved, _⟩ | ⟨_, applied⟩
    · rw [decision_mutated] at unmoved
      cases unmoved
    · exact log.append durable change applied.persisted.appended applied.logged applied.events

private theorem serve_logged (durable : Durable db state) (log : LogOf initial db state) (call : ProtocolCall) :
    LogOf initial (serve db call)
      (if call.taskId = state.taskId ∧ (call.transaction db).isOk then advance state call.method.call else state) := by
  cases result : call.transaction db with
  | error error =>
    rw [if_neg (by simp [Except.isOk, Except.toBool]), serve, Transaction.after, result]
    exact log
  | ok pair =>
    obtain ⟨answer, after⟩ := pair
    have left : serve db call = after := by rw [serve, Transaction.after, result]
    rw [left]
    rcases method_cases call.method call.taskId db with ⟨_, raised⟩ | ⟨_, transition⟩
    · rw [ProtocolCall.transaction, raised] at result
      cases result
    · have returned := transition.symm.trans result
      by_cases own : call.taskId = state.taskId
      · rw [if_pos ⟨own, rfl⟩]
        rw [own] at returned
        exact own_logged durable log returned
      · rw [if_neg (fun both => own both.1)]
        obtain ⟨_, _, _, ⟨_, rfl⟩ | ⟨_, applied⟩⟩ := applied_cases returned
        · exact log
        · have same : eventRows after state.taskId = eventRows db state.taskId := by
            rw [eventRows, applied.persisted.appended, List.filter_append,
              filter_index (fun event member => (applied.events event member).1), if_neg (Ne.symm own), List.append_nil]
            rfl
          exact ⟨same ▸ log.ordered, same ▸ log.covered, same ▸ log.replayed⟩

private theorem run_logged (durable : Durable db state) (log : LogOf initial db state) (calls : List ProtocolCall) :
    LogOf initial (run serve db calls) (run advance state (answered state.taskId db calls)) := by
  induction calls generalizing db state with
  | nil => exact log
  | cons call calls ih =>
    have next := serve_durable durable call
    have logged := serve_logged durable log call
    rw [run_cons, answered]
    split at next
    next returned =>
      rw [if_pos returned] at logged
      rw [if_pos returned, run_cons]
      have task : (advance state call.method.call).taskId = state.taskId :=
        congrArg TaskLineage.taskId (advance_grows durable.stored.sound.valid call.method.call).lineage
      rw [← task]
      exact ih next logged
    next ignored =>
      rw [if_neg ignored] at logged
      rw [if_neg ignored]
      exact ih next logged

end Runs

/-- After any interleaving of protocol calls, the event rows of a bootstrapped task
cover every revision up to the present one, and in their order they turn the
bootstrap snapshot into the present one. -/
theorem event_log_complete {start db : Database} {taskId : String} {parent root childKey : Option String}
    {initial : WorkerTaskState} (untouched : Untouched start taskId)
    (booted : bootstrapWorkerProtocol taskId parent root childKey start = .ok (initial, db))
    (calls : List ProtocolCall) :
    let now := run serve db calls
    ∃ state, loadWorkerProtocol now taskId = .ok state ∧
      (∀ revision, (∃ row ∈ orderedEventRows now taskId, row.event.revision = revision) ↔
        1 ≤ revision ∧ revision ≤ state.revision) ∧
      ((orderedEventRows now taskId).map (·.event)).foldl LoggedTask.applyEvent (loggedTask initial) =
        loggedTask state := by
  intro now
  obtain ⟨first, rfl⟩ := bootstrap_durable untouched booted
  obtain ⟨kept, zero⟩ := bootstrap_unlogged untouched booted
  have empty : eventRows db initial.taskId = [] := by
    refine List.filter_eq_nil_iff.mpr (fun row member => ?_)
    rw [kept] at member
    simpa using untouched.events row member
  have log : LogOf initial db initial := by
    refine ⟨by rw [empty]; exact .nil, fun revision => ?_, by rw [empty]; rfl⟩
    rw [empty, zero]
    constructor
    · rintro ⟨_, member, _⟩
      cases member
    · omega
  have durable := run_durable first calls
  have reached := run_logged first log calls
  have task : (run advance initial (answered initial.taskId db calls)).taskId = initial.taskId :=
    congrArg TaskLineage.taskId (run_forward first.stored.sound.valid _).lineage
  have loads := durable.load
  obtain ⟨ordered, covered, replayed⟩ := reached
  rw [task] at loads ordered covered replayed
  have sorted : orderedEventRows now initial.taskId = eventRows now initial.taskId := ordered.insertionSort_eq
  rw [sorted]
  exact ⟨_, loads, covered, replayed⟩

/-- A handoff to a second worker, logged with the two events of its takeover. -/
theorem event_log_complete_takeover :
    let start : Database := { tasks := ⟨[{ taskId := "task", state := .queued }], by decide⟩ }
    let bootstrap := bootstrapWorkerProtocol "task" none none none
    let calls : List ProtocolCall :=
      [⟨"task", .registerWorker "https://chatgpt.com/c/1" 0 (some "first") "worker_1" 2⟩,
       ⟨"task", .claimWorker "first" 1 60 3⟩,
       ⟨"task", .registerWorker "https://chatgpt.com/c/2" 2 (some "second") "worker_2" 4⟩,
       ⟨"task", .requestHandoff "first" "second" 1 3 5⟩,
       ⟨"task", .takeoverWorker "second" 4 60 6⟩]
    let now := run serve (Transaction.after bootstrap start) calls
    ∃ initial state, bootstrap start = .ok (initial, Transaction.after bootstrap start) ∧
      (orderedEventRows now "task").map (fun row => (row.event.revision, row.eventIndex)) =
        [(1, 0), (2, 0), (3, 0), (4, 0), (5, 0), (5, 1)] ∧
      loadWorkerProtocol now "task" = .ok state ∧
      ((orderedEventRows now "task").map (·.event)).foldl LoggedTask.applyEvent (loggedTask initial) =
        loggedTask state := by
  intro start bootstrap calls now
  let initial : WorkerTaskState := { lineage := { taskId := "task", parentTaskId := none, rootTaskId := "task" } }
  have booted : bootstrap start = .ok (initial, Transaction.after bootstrap start) :=
    Transaction.returned (by decide +kernel)
  obtain ⟨state, loads, _, replayed⟩ := event_log_complete ⟨by decide, by decide, by decide⟩ booted calls
  exact ⟨initial, state, booted, by decide +kernel, loads, replayed⟩

end WebSupervisor.WorkerPersistence.Proofs
