import WebSupervisor.Library.Stops
import WebSupervisor.Proofs.ChildCompletion

/-! A completion that was stopped on its way. Its steps pass through two kinds of
registries only, one in which the child is still open and one in which it is
finished, and the same call finishes from each of them. -/

namespace WebSupervisor.Registry.Proofs
open Library Library.Program WorkerProtocol WorkerProtocol.Proofs WorkerPersistence WorkerPersistence.Proofs

/-- The events of a kind in the log of a task. -/
def loggedEvents (db : Database) (taskId : String) (kind : EventKind) : Nat :=
  db.protocolEvents.rows.countP (fun row => row.event.taskId = taskId ∧ row.event.kind = kind)

/-- A dispatched child without unresolved work. -/
structure Settled (child : String) (db : Database) : Prop where
  dispatch : ∃ dispatch, db.childDispatches.find? child = some dispatch
  idle : ¬ OpenWork db child

/-- The child is open, its log has no completion, and its current worker has
last been heard of before `now`. -/
structure OpenChild (child : String) (now : Time) (db : Database) (state : WorkerTaskState) : Prop
    extends Settled child db where
  durable : Durable db state
  named : state.taskId = child
  opened : state.taskStatus = .opened
  unlogged : loggedEvents db child .taskCompleted = 0
  heard : ∀ worker ∈ state.workers, state.currentWorkerId = some worker.workerId →
    (∀ stamp, worker.claimedAt = some stamp → stamp ≤ now) ∧ ∀ stamp, worker.lastHeartbeatAt = some stamp → stamp ≤ now

/-- The child is completed with the reference, once, and so is its task. -/
structure Finished (child completionRef : String) (db : Database) (state : WorkerTaskState) : Prop
    extends Settled child db where
  durable : Durable db state
  named : state.taskId = child
  completed : state.taskStatus = .completed
  ref : state.completionRef = some completionRef
  logged : loggedEvents db child .taskCompleted = 1
  closed : TaskClosed db child

/-- What a completing call leaves at any of its steps. -/
def Resumable (child completionRef : String) (now : Time) (db : Database) : Prop :=
  (∃ state, OpenChild child now db state) ∨ ∃ state, Finished child completionRef db state

section Scan
variable {db after : Database} {child : String}

/-- The rows of a scan are there, and their payloads are resolved. -/
private def Resolved (db : Database) (rows : List (String × ChildSpawnAttemptState)) : Prop :=
  ∀ entry ∈ rows, ∃ row ∈ db.childSpawnAttempts.toTable, row.attemptId = entry.1 ∧ ¬ row.payload.state.Unresolved

private theorem Resolved.found {rows : List (String × ChildSpawnAttemptState)} {entry : String × ChildSpawnAttemptState}
    (resolved : Resolved db (entry :: rows)) :
    (∃ row ∈ db.childSpawnAttempts.toTable, row.attemptId = entry.1 ∧ ¬ row.payload.state.Unresolved ∧
      getChildSpawnAttempt db entry.1 = .ok row.payload) ∧ Resolved db rows := by
  obtain ⟨⟨row, member, named, past⟩, others⟩ := List.forall_mem_cons.mp resolved
  have found := Table.find?_some.mpr ⟨member, named⟩
  exact ⟨⟨row, member, named, past, by rw [getChildSpawnAttempt, found]⟩, others⟩

private theorem repairSpawnState_resolved {row : ChildSpawnRow} (member : row ∈ db.childSpawnAttempts.toTable)
    (past : ¬ row.payload.state.Unresolved) :
    ∃ after, repairSpawnState row.payload db = .ok ((), after) ∧
      ∀ rows, Resolved db rows → Resolved after rows := by
  have found : db.childSpawnAttempts.find? row.payload.attemptId = some row := Table.find?_some.mpr ⟨member, rfl⟩
  have replaced : ∃ table, db.childSpawnAttempts.replace? { row with state := row.payload.state } = some table := by
    unfold IndexedTable.replace?
    split
    next clash => exact absurd (if_neg past) clash.1
    next => exact ⟨_, rfl⟩
  obtain ⟨table, written⟩ := replaced
  refine ⟨{ db with childSpawnAttempts := table }, ?_, fun rows resolved entry inside => ?_⟩
  · unfold repairSpawnState writeSpawnRow
    rw [found]
    dsimp only
    rw [written]
  · obtain ⟨old, present, named, done⟩ := resolved entry inside
    rw [IndexedTable.replace?_some written]
    by_cases same : old.attemptId = row.attemptId
    · have one := Table.eq_of_key present member same
      refine ⟨{ row with state := row.payload.state }, Table.mem_replace.mpr (.inl ⟨rfl, row, member, rfl⟩), ?_, ?_⟩
      · rw [← named, one]
        rfl
      · exact past
    · exact ⟨old, Table.mem_replace.mpr (.inr ⟨present, same⟩), named, done⟩

private theorem repairingScan_resolved {rows : List (String × ChildSpawnAttemptState)} (resolved : Resolved db rows) :
    ∃ after, repairingScan rows db = .ok (none, after) := by
  induction rows generalizing db with
  | nil => exact ⟨db, rfl⟩
  | cons entry rows ih =>
    obtain ⟨⟨row, member, named, past, found⟩, others⟩ := resolved.found
    unfold repairingScan
    simp only [found, Bind.bind, Except.bind, if_neg past]
    split
    next =>
      obtain ⟨next, repaired, kept⟩ := repairSpawnState_resolved member past
      rw [repaired]
      exact ih (kept rows others)
    next => exact ih others

private theorem scanSpawns_resolved {through : Database → Prop} {rows : List (String × ChildSpawnAttemptState)}
    (resolved : Resolved db rows) (columns : ∀ after, OnlyColumns db after → through after) :
    Leads through (fun result after => result = .ok none ∧ OnlyColumns db after)
      (scanSpawns (ω := NoAnswer) rows).run db := by
  have here := columns db (.refl db)
  induction rows with
  | nil => exact .returned here ⟨rfl, .refl db⟩
  | cons entry rows ih =>
    obtain ⟨⟨row, member, named, past, found⟩, others⟩ := resolved.found
    refine .checked here found ?_
    split
    next =>
      obtain ⟨next, repaired, kept⟩ := repairSpawnState_resolved member past
      obtain ⟨after, scanned⟩ := repairingScan_resolved (kept rows others)
      have done : repairAndScan row.payload rows db = .ok (none, after) := by
        unfold repairAndScan
        simp only [repaired, Bind.bind, Except.bind, if_neg past, scanned]
      have changed := repairAndScan_columns done
      refine ⟨here, ?_⟩
      dsimp only
      rw [done]
      exact ⟨columns after changed, rfl, changed⟩
    next =>
      exact ih others

private theorem Settled.resolved (settled : Settled child db) : Resolved db (spawnRows db child) := by
  intro entry inside
  obtain ⟨row, member, rfl⟩ := List.mem_map.mp inside
  have found := List.mem_filter.mp ((List.perm_insertionSort _ _).mem_iff.mp member)
  have own : row.payload.childTaskId = child := by simpa using found.2
  exact ⟨row, found.1, rfl, fun unresolved => settled.idle (.inr (.inr ⟨row, found.1, own, unresolved⟩))⟩

end Scan

section Decisions
variable {state : WorkerTaskState} {workerId : String} {now : Time}

private theorem end_current (valid : Valid state) (opened : state.taskStatus = .opened)
    (current : state.currentWorkerId = some workerId)
    (heard : ∀ worker ∈ state.workers, state.currentWorkerId = some worker.workerId →
      (∀ stamp, worker.claimedAt = some stamp → stamp ≤ now) ∧
        ∀ stamp, worker.lastHeartbeatAt = some stamp → stamp ≤ now) :
    ∃ worker, workerById state workerId = some worker ∧
      (Authorized state workerId state.generation now worker ∧
          authorityRejection state workerId state.generation now = none ∨
        authorityRejection state workerId state.generation now = some (reject state .leaseExpired) ∧
          worker.status = .active ∧ worker.generation = some state.generation) := by
  obtain ⟨worker, member, named, active, held, _, _⟩ := valid.current workerId current
  have found : workerById state workerId = some worker := named ▸ workerById_of_mem valid.distinct member
  obtain ⟨claimed, heartbeat⟩ := heard worker member (current.trans (congrArg some named.symm))
  refine ⟨worker, found, ?_⟩
  have timely : ¬ ∃ stamp ∈ [worker.claimedAt, worker.lastHeartbeatAt].reduceOption.max?, now < stamp := by
    rintro ⟨stamp, largest, early⟩
    have inside := List.max?_mem largest
    simp only [List.reduceOption_mem_iff, List.mem_cons, List.not_mem_nil, or_false] at inside
    rcases inside with same | same
    · exact absurd early (not_lt.mpr (claimed stamp same.symm))
    · exact absurd early (not_lt.mpr (heartbeat stamp same.symm))
  rcases authorityRejection_cases state workerId state.generation now with ⟨code, rejected⟩ | ⟨passed, other, authorized⟩
  · refine .inr ⟨?_, active, held⟩
    unfold authorityRejection at rejected ⊢
    simp only [opened, found, current, active, held, timely, ne_eq, not_true, or_self, if_false] at rejected ⊢
    split
    next => rfl
    next fresh =>
      rw [if_neg fresh] at rejected
      cases rejected
  · cases found.symm.trans authorized.found
    exact .inl ⟨authorized, passed⟩

private theorem completeWorker_performed (valid : Valid state) {worker : WorkerLease}
    (authorized : Authorized state workerId state.generation now worker)
    (passed : authorityRejection state workerId state.generation now = none) :
    ∃ events, Change state (.completeWorker workerId state.generation now state.revision)
        ⟨withoutCurrent state (endedLease worker .completed now), .workerCompleted, events⟩ ∧
      completeWorker state workerId state.generation now state.revision =
        .ok (decision state ⟨withoutCurrent state (endedLease worker .completed now), .workerCompleted, events⟩) ∧
      ∀ event ∈ events, event.kind ≠ .taskCompleted := by
  refine ⟨_, .complete authorized, ?_, by simp⟩
  rw [← accept_change valid (.complete authorized)]
  unfold completeWorker
  rw [preflight_valid valid]
  simp [answerOr, passed, authorized.found]

private theorem abandonWorker_performed (valid : Valid state) {worker : WorkerLease}
    (opened : state.taskStatus = .opened) (found : workerById state workerId = some worker)
    (current : state.currentWorkerId = some workerId) (active : worker.status = .active)
    (held : worker.generation = some state.generation) :
    ∃ events, Change state (.abandonWorker workerId state.generation now state.revision)
        ⟨withoutCurrent state (endedLease worker .abandoned now), .workerAbandoned, events⟩ ∧
      abandonWorker state workerId state.generation now state.revision =
        .ok (decision state ⟨withoutCurrent state (endedLease worker .abandoned now), .workerAbandoned, events⟩) ∧
      ∀ event ∈ events, event.kind ≠ .taskCompleted := by
  have change := @Change.abandon state workerId state.generation now worker opened found current active rfl held
  refine ⟨_, change, ?_, by simp⟩
  rw [← accept_change valid change]
  unfold abandonWorker
  rw [preflight_valid valid]
  simp [answerOr, opened, found, current, active, held]

private theorem completeTask_performed (valid : Valid state) {completionRef : String}
    (opened : state.taskStatus = .opened) (idle : state.currentWorkerId = none) (given : strip completionRef ≠ "") :
    ∃ event, Change state (.completeTask completionRef now state.revision)
        ⟨{ state with taskStatus := .completed, completedAt := some now, completionRef := some (strip completionRef) },
          .taskCompleted, [event]⟩ ∧
      completeTask state completionRef now state.revision = .ok (decision state
        ⟨{ state with taskStatus := .completed, completedAt := some now, completionRef := some (strip completionRef) },
          .taskCompleted, [event]⟩) ∧
      event.kind = .taskCompleted ∧ event.taskId = state.taskId := by
  have change := @Change.finish state completionRef now opened idle given
  refine ⟨_, change, ?_, rfl, rfl⟩
  rw [← accept_change valid change]
  unfold completeTask
  rw [preflight_valid valid]
  simp [answerOr, opened, idle, given]

end Decisions

section Steps
variable {db after : Database} {child completionRef : String} {state : WorkerTaskState} {now : Time}

private theorem method_moves (durable : Durable db state) (method : ProtocolMethod) {outcome : Outcome}
    (performed : perform state method.call = .ok (decision state outcome))
    (plain : ∀ workerId ref now revision, method.call ≠ .registerWorker workerId ref now revision) :
    ∃ after, method.transaction state.taskId db = .ok (decision state outcome, after) ∧
      Durable after (stamped state outcome.state) ∧ Persisted db after (decision state outcome) := by
  rcases method_spec durable method with ⟨error, _, raised⟩ | ⟨answer, after, returned, same, next, _⟩
  · exfalso
    rcases raised with ⟨message, refused, _⟩ | ⟨⟨_, _, _, _, _, rfl, _⟩, _⟩ | ⟨⟨_, _, _, _, called, _⟩, _⟩
    · rw [performed] at refused
      cases refused
    · exact plain _ _ _ _ rfl
    · exact plain _ _ _ _ called
  · cases performed.symm.trans same
    refine ⟨after, returned, next, ?_⟩
    rcases method_cases method state.taskId db with ⟨_, raised⟩ | ⟨_, transition⟩
    · rw [raised] at returned
      cases returned
    · obtain ⟨_, _, _, ⟨unmoved, _⟩ | ⟨_, applied⟩⟩ := applied_cases (transition.symm.trans returned)
      · rw [decision_mutated] at unmoved
        cases unmoved
      · exact applied.persisted

private theorem method_rejected (durable : Durable db state) (method : ProtocolMethod) {code : DecisionCode}
    (performed : perform state method.call = .ok (reject state code))
    (plain : ∀ workerId ref now revision, method.call ≠ .registerWorker workerId ref now revision) :
    method.transaction state.taskId db = .ok (reject state code, db) := by
  rcases method_spec durable method with ⟨error, _, raised⟩ | ⟨answer, after, returned, same, _, unmoved⟩
  · exfalso
    rcases raised with ⟨message, refused, _⟩ | ⟨⟨_, _, _, _, _, rfl, _⟩, _⟩ | ⟨⟨_, _, _, _, called, _⟩, _⟩
    · rw [performed] at refused
      cases refused
    · exact plain _ _ _ _ rfl
    · exact plain _ _ _ _ called
  · cases performed.symm.trans same
    rw [returned, (unmoved (by simp [reject, ProtocolDecision.mutated])).2]

private theorem Settled.records (settled : Settled child db) (records : SameRecords db after) : Settled child after := by
  refine ⟨?_, fun work => settled.idle (SameRecords.work records work)⟩
  rw [records.dispatches]
  exact settled.dispatch

private theorem loggedEvents_persisted {decided : ProtocolDecision} (persisted : Persisted db after decided)
    (kind : EventKind) : loggedEvents after child kind = loggedEvents db child kind +
      (indexEvents [] decided.events).countP (fun row => row.event.taskId = child ∧ row.event.kind = kind) := by
  unfold loggedEvents
  rw [persisted.appended, List.countP_append]

private theorem OpenChild.ended (isOpen : OpenChild child now db state) {ended : WorkerLease} {code : DecisionCode}
    {events : List ProtocolEvent} (durable : Durable after (stamped state (withoutCurrent state ended)))
    (persisted : Persisted db after (decision state ⟨withoutCurrent state ended, code, events⟩))
    (others : ∀ event ∈ events, event.kind ≠ .taskCompleted) :
    OpenChild child now after (stamped state (withoutCurrent state ended)) := by
  refine ⟨Settled.records isOpen.toSettled persisted.records, durable, isOpen.named, isOpen.opened, ?_, ?_⟩
  · rw [loggedEvents_persisted persisted, isOpen.unlogged, Nat.zero_add, List.countP_eq_zero]
    intro row member
    have inside := indexEvents_event member
    obtain ⟨event, original, same⟩ := List.mem_map.mp inside
    have kind : row.event.kind ≠ .taskCompleted := by
      rw [← same]
      exact others event original
    simp [kind]
  · rintro worker _ ⟨⟩

private theorem taskClosed_completed (durable : Durable db state) (completed : state.taskStatus = .completed) :
    TaskClosed db state.taskId := by
  obtain ⟨task, member, named, _, closed, _⟩ := durable.consistent.task
  have found : db.tasks.find? state.taskId = some task := Table.find?_some.mpr ⟨member, named⟩
  rw [TaskClosed, found, Option.map_some, closed completed]

private theorem OpenChild.finished (isOpen : OpenChild child now db state) {next : WorkerTaskState} {event : ProtocolEvent}
    {code : DecisionCode} (durable : Durable after (stamped state next))
    (persisted : Persisted db after (decision state ⟨next, code, [event]⟩)) (kind : event.kind = .taskCompleted)
    (own : event.taskId = state.taskId) (named : next.taskId = state.taskId) (completed : next.taskStatus = .completed)
    (ref : next.completionRef = some completionRef) : Finished child completionRef after (stamped state next) := by
  refine ⟨Settled.records isOpen.toSettled persisted.records, durable, named.trans isOpen.named, completed, ref, ?_, ?_⟩
  · rw [loggedEvents_persisted persisted, isOpen.unlogged]
    simp [decision, indexEvents, kind, own.trans isOpen.named]
  · have closed := taskClosed_completed durable completed
    exact (named.trans isOpen.named) ▸ closed

private theorem protocolStateExists_durable (durable : Durable db state) : protocolStateExists db state.taskId = true := by
  have found : db.protocolTasks.find? state.taskId = some (taskValues state) :=
    Table.find?_some.mpr ⟨durable.stored.row, rfl⟩
  rw [protocolStateExists, found]
  rfl

private theorem Finished.updated (finished : Finished child completionRef db state) (clock : Time) :
    ∃ after, updateStateWrite child .completed clock db = .ok ((), after) ∧ Finished child completionRef after state := by
  obtain ⟨settled, durable, rfl, completed, ref, logged, _⟩ := finished
  refine ⟨_, rfl, ?_⟩
  unfold updateTask
  obtain ⟨task, member, named, current, _, _⟩ := durable.consistent.task
  have found : db.tasks.find? state.taskId = some task := Table.find?_some.mpr ⟨member, named⟩
  rw [found]
  dsimp only
  set changed : TaskRecord := { task with state := .completed, updatedAt := clock } with changedIs
  have next : Durable { db with tasks := db.tasks.replace changed } state := by
    refine ⟨⟨durable.stored.sound, durable.stored.row, durable.stored.leases, durable.stored.events⟩,
      ⟨replaced_key durable.rooted.root, fun parent chosen => ?_⟩,
      ⟨⟨changed, Table.mem_replace.mpr (.inl ⟨rfl, task, member, rfl⟩), named, current, fun _ => rfl, ?_⟩,
        durable.consistent.workers, durable.consistent.canonical, durable.consistent.successor⟩⟩
    · obtain ⟨parentTask, agreed⟩ := durable.rooted.parent parent chosen
      exact ⟨replaced_key parentTask, agreed⟩
    · rw [completed]
      exact nofun
  exact ⟨⟨settled.dispatch, settled.idle⟩, next, rfl, completed, ref, logged, taskClosed_completed next completed⟩

end Steps

section Calls
variable {db : Database} {child completionRef : String} {state : WorkerTaskState} {now clock : Time}

theorem OpenChild.later (isOpen : OpenChild child now db state) (order : now ≤ clock) : OpenChild child clock db state :=
  ⟨isOpen.toSettled, isOpen.durable, isOpen.named, isOpen.opened, isOpen.unlogged, fun worker member current =>
    ⟨fun stamp same => ((isOpen.heard worker member current).1 stamp same).trans order,
      fun stamp same => ((isOpen.heard worker member current).2 stamp same).trans order⟩⟩

theorem Resumable.later (resumable : Resumable child completionRef now db) (order : now ≤ clock) :
    Resumable child completionRef clock db :=
  resumable.imp_left (fun ⟨state, isOpen⟩ => ⟨state, isOpen.later order⟩)

/-- How a completing call ends. -/
private def Ends (child completionRef : String) (result : Except SupervisorError WorkerTaskState) (after : Database) : Prop :=
  ∃ final, result = .ok final ∧ Finished child completionRef after final

private theorem updateState_leads {value : WorkerTaskState} (finished : Finished child completionRef db value) :
    Leads (Resumable child completionRef now) (Ends child completionRef)
      (do updateState child .completed clock; pure value : ExceptT SupervisorError (Program Database NoAnswer) _).run db := by
  have here : Resumable child completionRef now db := .inr ⟨value, finished⟩
  obtain ⟨after, written, still⟩ := finished.updated clock
  have checked : updateStateCheck child .completed db = .ok () := by
    obtain ⟨_, durable, rfl, completed, _⟩ := finished
    simp only [updateStateCheck, protocolStateExists_durable durable, durable.load, if_true, completed, Bind.bind,
      Except.bind]
    rfl
  have ends : Leads (Resumable child completionRef now) (fun result last => result = .ok () ∧ last = after)
      (updateState (ω := NoAnswer) child .completed clock).run db :=
    .checked here checked ⟨here, by dsimp only; rw [written]; exact ⟨.inr ⟨value, still⟩, rfl, rfl⟩⟩
  refine ends.andThen ?_ ?_
  · rintro _ _ _ ⟨_, rfl⟩
    exact .returned (.inr ⟨value, still⟩) ⟨value, rfl, still⟩
  · rintro _ _ _ ⟨⟨⟩, _⟩

private theorem endWorker_leads {workerId : String} (isOpen : OpenChild child now db state)
    (current : state.currentWorkerId = some workerId) :
    Leads (Resumable child completionRef now)
      (fun result after => ∃ next, result = .ok next ∧ OpenChild child now after next ∧ next.currentWorkerId = none)
      (endWorker (ω := NoAnswer) child workerId state now).run db := by
  have here : Resumable child completionRef now db := .inl ⟨state, isOpen⟩
  obtain rfl := isOpen.named
  have valid := isOpen.durable.stored.sound.valid
  obtain ⟨worker, found, ⟨authorized, passed⟩ | ⟨expired, active, held⟩⟩ :=
    end_current valid isOpen.opened current isOpen.heard
  · obtain ⟨events, _, performed, others⟩ := completeWorker_performed valid authorized passed
    obtain ⟨after, returned, durable, persisted⟩ := method_moves isOpen.durable
      (.completeWorker workerId state.generation state.revision now) performed (by simp [ProtocolMethod.call])
    have next := isOpen.ended durable persisted others
    exact .committed here returned (.returned (.inl ⟨_, next⟩) ⟨_, rfl, next, rfl⟩)
  · have refused : completeWorker state workerId state.generation now state.revision = .ok (reject state .leaseExpired) := by
      unfold completeWorker
      rw [preflight_valid valid]
      simp [answerOr, expired]
    have rejected := method_rejected isOpen.durable (.completeWorker workerId state.generation state.revision now) refused (by simp [ProtocolMethod.call])
    obtain ⟨events, _, performed, others⟩ := abandonWorker_performed valid isOpen.opened found current active held
    obtain ⟨after, returned, durable, persisted⟩ := method_moves isOpen.durable
      (.abandonWorker workerId state.generation state.revision now) performed (by simp [ProtocolMethod.call])
    have next := isOpen.ended durable persisted others
    refine .committed here rejected ?_
    refine .ensured rfl (.committed here returned (.ensured rfl ?_))
    exact .returned (.inl ⟨_, next⟩) ⟨_, rfl, next, rfl⟩

private theorem finishChildTask_leads (isOpen : OpenChild child now db state) (given : completionRef ≠ "")
    (plain : strip completionRef = completionRef) :
    Leads (Resumable child completionRef now) (Ends child completionRef)
      (finishChildTask (ω := NoAnswer) child completionRef state now clock).run db := by
  have ends : Leads (Resumable child completionRef now)
      (fun result after => ∃ next, result = .ok next ∧ OpenChild child now after next ∧ next.currentWorkerId = none)
      (endCurrentWorker (ω := NoAnswer) child state now).run db := by
    unfold endCurrentWorker
    split
    next idle => exact .returned (.inl ⟨state, isOpen⟩) ⟨state, rfl, isOpen, idle⟩
    next workerId current => exact endWorker_leads isOpen current
  refine ends.andThen ?_ ?_
  · rintro ended after here ⟨_, ⟨⟩, stillOpen, idle⟩
    obtain rfl := stillOpen.named
    have valid := stillOpen.durable.stored.sound.valid
    obtain ⟨event, _, performed, kind, own⟩ :=
      @completeTask_performed ended now valid completionRef stillOpen.opened idle (plain.symm ▸ given)
    obtain ⟨last, returned, durable, persisted⟩ := method_moves stillOpen.durable
      (.completeTask completionRef ended.revision now) performed nofun
    have finished := stillOpen.finished durable persisted kind own rfl rfl (congrArg some plain)
    exact .committed here returned (.ensured rfl (updateState_leads finished))
  · rintro _ _ _ ⟨_, ⟨⟩, _⟩

private theorem confirmCompleted_leads (finished : Finished child completionRef db state) :
    Leads (Resumable child completionRef now) (Ends child completionRef)
      (confirmCompleted (ω := NoAnswer) child completionRef state clock).run db := by
  have here : Resumable child completionRef now db := .inr ⟨state, finished⟩
  have same : refuse (state.completionRef ≠ some completionRef)
      (SupervisorError.runtime "child is already completed with a different completion_ref") = .ok () := by
    simp [refuse, finished.ref]
  have closed := finished.closed
  unfold TaskClosed at closed
  obtain ⟨task, found, completed⟩ := Option.map_eq_some_iff.mp closed
  have read : getTask db child = .ok task := by rw [getTask, found]
  refine .ensured same (.checked here read ?_)
  rw [if_neg (not_not.mpr completed)]
  exact .returned here ⟨state, rfl, finished⟩

private theorem OnlyColumns.settled {after : Database} (settled : Settled child db) (columns : OnlyColumns db after) :
    Settled child after := by
  obtain ⟨shape, payloads⟩ := columns
  refine ⟨by rw [shape]; exact settled.dispatch, fun work => settled.idle ?_⟩
  rcases work with actions | replacements | ⟨row, member, named, unresolved⟩
  · rw [shape] at actions
    exact .inl actions
  · rw [shape] at replacements
    exact .inr (.inl replacements)
  · obtain ⟨old, present, same⟩ := payloads row member
    exact .inr (.inr ⟨old, present, same ▸ named, same ▸ unresolved⟩)

private theorem OnlyColumns.durable {after : Database} (durable : Durable db state) (columns : OnlyColumns db after) :
    Durable after state := by
  rw [columns.1]
  exact ⟨⟨durable.stored.sound, durable.stored.row, durable.stored.leases, durable.stored.events⟩,
    ⟨durable.rooted.root, durable.rooted.parent⟩, ⟨durable.consistent.task, durable.consistent.workers,
      durable.consistent.canonical, durable.consistent.successor⟩⟩

private theorem OnlyColumns.logged {after : Database} (columns : OnlyColumns db after) (kind : EventKind) :
    loggedEvents after child kind = loggedEvents db child kind := by
  rw [columns.1]
  rfl

private theorem OnlyColumns.resumable {after : Database} (resumable : Resumable child completionRef now db)
    (columns : OnlyColumns db after) : Resumable child completionRef now after := by
  rcases resumable with ⟨state, isOpen⟩ | ⟨state, finished⟩
  · exact .inl ⟨state, columns.settled isOpen.toSettled, columns.durable isOpen.durable, isOpen.named, isOpen.opened,
      by rw [columns.logged, isOpen.unlogged], isOpen.heard⟩
  · have durable := columns.durable finished.durable
    have closed := taskClosed_completed durable finished.completed
    exact .inr ⟨state, columns.settled finished.toSettled, durable, finished.named, finished.completed, finished.ref,
      by rw [columns.logged, finished.logged], finished.named ▸ closed⟩

private theorem unresolved_none (settled : Settled child db) :
    findUnresolved db child = none ∧ unresolvedReplacementAttempt db child = none := by
  constructor
  · refine List.find?_eq_none.mpr (fun attempt member => ?_)
    simp only [decide_eq_true_eq]
    exact fun both => settled.idle (.inl ⟨attempt, member, both⟩)
  · refine List.find?_eq_none.mpr (fun attempt member => ?_)
    simp only [decide_eq_true_eq]
    exact fun both => settled.idle (.inr (.inl ⟨attempt, member, both⟩))

/-- A completing call passes through resumable registries and finishes. -/
theorem completeChildDispatch_leads {givenRef : String} (given : strip givenRef ≠ "")
    (resumable : Resumable child (strip givenRef) now db) :
    Leads (Resumable child (strip givenRef) now) (Ends child (strip givenRef))
      (completeChildDispatch (ω := NoAnswer) child givenRef now clock).run db := by
  have settled : Settled child db := resumable.elim (fun ⟨_, isOpen⟩ => isOpen.toSettled) (fun ⟨_, done⟩ => done.toSettled)
  obtain ⟨dispatch, found⟩ := settled.dispatch
  obtain ⟨noAction, noReplacement⟩ := unresolved_none settled
  have action : unresolvedActionAttempt db child = .ok none := by
    have durable : ∃ state, Durable db state ∧ state.taskId = child :=
      resumable.elim (fun ⟨state, isOpen⟩ => ⟨state, isOpen.durable, isOpen.named⟩)
        (fun ⟨state, done⟩ => ⟨state, done.durable, done.named⟩)
    obtain ⟨state, durable, rfl⟩ := durable
    obtain ⟨task, member, named, _⟩ := durable.consistent.task
    have present : db.tasks.find? state.taskId = some task := Table.find?_some.mpr ⟨member, named⟩
    rw [unresolvedActionAttempt, getTask, present, noAction]
    rfl
  refine .checked resumable (show getChildDispatch db child = .ok dispatch by rw [getChildDispatch, found]) ?_
  refine .ensured (show refuse (strip givenRef = "") _ = .ok () by rw [refuse, if_neg given]) ?_
  refine .checked resumable action (.ensured rfl ?_)
  refine .checked resumable (show Except.ok (unresolvedReplacementAttempt db child) = .ok none by rw [noReplacement])
    (.ensured rfl ?_)
  have scan : Leads (Resumable child (strip givenRef) now) (fun result after => result = .ok none ∧ OnlyColumns db after)
      (unresolvedChildSpawnAttempt (ω := NoAnswer) child).run db :=
    .checked resumable rfl (scanSpawns_resolved settled.resolved (fun after columns => columns.resumable resumable))
  refine scan.andThen ?_ ?_
  · rintro _ after here ⟨⟨⟩, _⟩
    refine .ensured rfl ?_
    rcases here with ⟨state, isOpen⟩ | ⟨state, finished⟩
    · refine .checked (.inl ⟨state, isOpen⟩) (isOpen.named ▸ isOpen.durable.load) ?_
      rw [if_neg (by rw [isOpen.opened]; decide)]
      exact finishChildTask_leads isOpen given (strip_strip givenRef)
    · refine .checked (.inr ⟨state, finished⟩) (finished.named ▸ finished.durable.load) ?_
      rw [if_pos finished.completed]
      exact confirmCompleted_leads finished
  · rintro _ _ _ ⟨⟨⟩, _⟩

end Calls

section Logged
variable {db : Database} {state : WorkerTaskState}

private theorem change_completes {call : Call} {outcome : Outcome} (change : Change state call outcome)
    (stillOpen : outcome.state.taskStatus = .opened) : ∀ event ∈ outcome.events, event.kind ≠ .taskCompleted := by
  cases change
  case finish => cases stillOpen
  all_goals simp

/-- An open task has no completion in its log. -/
def Unlogged (db : Database) (state : WorkerTaskState) : Prop :=
  state.taskStatus = .opened → loggedEvents db state.taskId .taskCompleted = 0

private theorem serve_unlogged (durable : Durable db state) (unlogged : Unlogged db state) (call : ProtocolCall) :
    Unlogged (serve db call)
      (if call.taskId = state.taskId ∧ (call.transaction db).isOk then advance state call.method.call else state) := by
  cases result : call.transaction db with
  | error error =>
    rw [if_neg (by simp [Except.isOk, Except.toBool]), serve, Transaction.after, result]
    exact unlogged
  | ok pair =>
    obtain ⟨answer, after⟩ := pair
    have left : serve db call = after := by rw [serve, Transaction.after, result]
    rw [left]
    rcases method_cases call.method call.taskId db with ⟨_, raised⟩ | ⟨_, transition⟩
    · rw [ProtocolCall.transaction, raised] at result
      cases result
    obtain ⟨previous, decided, loaded, stored⟩ := applied_cases (transition.symm.trans result)
    by_cases own : call.taskId = state.taskId
    · rw [if_pos ⟨own, rfl⟩]
      cases (own ▸ loaded).symm.trans durable.load
      have moved : advance state call.method.call = answer.state := by rw [advance, decided]
      rw [moved]
      rcases perform_spec durable.stored.sound.valid call.method.call with
        (⟨_, raised⟩ | ⟨quiet, same, kept, unmoved, _⟩) | ⟨outcome, change, same⟩
      · rw [raised] at decided
        cases decided
      · cases same.symm.trans decided
        rcases stored with ⟨_, rfl⟩ | ⟨mutated, _⟩
        · rw [kept]
          exact unlogged
        · rw [unmoved] at mutated
          cases mutated
      · cases same.symm.trans decided
        rcases stored with ⟨unmoved, _⟩ | ⟨_, applied⟩
        · rw [decision_mutated] at unmoved
          cases unmoved
        · intro stillOpen
          have before : loggedEvents db (decision state outcome).state.taskId .taskCompleted = 0 := by
            rw [applied.task, own]
            exact unlogged change.opened
          rw [loggedEvents_persisted applied.persisted, before, Nat.zero_add, List.countP_eq_zero]
          intro row member
          obtain ⟨event, original, same⟩ := List.mem_map.mp (indexEvents_event member)
          have kind : row.event.kind ≠ .taskCompleted := by
            rw [← same]
            exact change_completes change stillOpen event original
          simp [kind]
    · rw [if_neg (fun both => own both.1)]
      intro opened
      rcases stored with ⟨_, rfl⟩ | ⟨_, applied⟩
      · exact unlogged opened
      · rw [loggedEvents_persisted applied.persisted, unlogged opened, Nat.zero_add, List.countP_eq_zero]
        intro row member
        have other := (applied.events _ (indexEvents_event member)).1
        simp [other, own]

/-- The log of an open task since its bootstrap has no completion. -/
theorem run_unlogged (durable : Durable db state) (unlogged : Unlogged db state) (calls : List ProtocolCall) :
    Unlogged (run serve db calls) (run advance state (answered state.taskId db calls)) := by
  induction calls generalizing db state with
  | nil => exact unlogged
  | cons call calls ih =>
    have next := serve_durable durable call
    have kept := serve_unlogged durable unlogged call
    rw [run_cons, answered]
    split at next
    next returned =>
      rw [if_pos returned] at kept
      rw [if_pos returned, run_cons]
      have task : (advance state call.method.call).taskId = state.taskId :=
        congrArg TaskLineage.taskId (advance_grows durable.stored.sound.valid call.method.call).lineage
      rw [← task]
      exact ih next kept
    next ignored =>
      rw [if_neg ignored] at kept
      rw [if_neg ignored]
      exact ih next kept

end Logged

section Later
variable {db : Database} {child completionRef : String}

/-- The stored protocol row of the child is completed with the reference. -/
def CompletedWith (child completionRef : String) (db : Database) : Prop :=
  ∃ row, db.protocolTasks.find? child = some row ∧ row.taskStatus = .completed ∧ row.completionRef = some completionRef

/-- No completion is taken back. -/
def KeepsCompletions (before after : Database) : Prop :=
  ∀ child completionRef, CompletedWith child completionRef before → CompletedWith child completionRef after

private theorem KeepsCompletions.of_rows {before after : Database} (same : after.protocolTasks = before.protocolTasks) :
    KeepsCompletions before after := by
  intro child completionRef completed
  unfold CompletedWith
  rw [same]
  exact completed

private theorem KeepsCompletions.refl (db : Database) : KeepsCompletions db db := .of_rows rfl

private theorem protocol_keeps {named : String} {before after : Database} {method : ProtocolMethod}
    {answer : ProtocolDecision} (returned : method.transaction named before = .ok (answer, after)) :
    KeepsCompletions before after := by
  rcases method_cases method named before with ⟨_, raised⟩ | ⟨_, same⟩
  · rw [raised] at returned
    cases returned
  obtain ⟨previous, decided, loaded, ⟨_, rfl⟩ | ⟨_, applied⟩⟩ := applied_cases (same.symm.trans returned)
  · exact .refl after
  · rintro child completionRef ⟨row, found, completed, ref⟩
    obtain ⟨sameTask, valid, _, _, stored, _⟩ := load_consistent loaded
    have present : before.protocolTasks.find? (taskValues answer.state).taskId = some (taskValues previous) :=
      Table.find?_some.mpr ⟨stored, sameTask.trans applied.task.symm⟩
    have rows : after.protocolTasks.find? child =
        if child = answer.state.taskId then some (taskValues answer.state) else before.protocolTasks.find? child := by
      rw [applied.persisted.protocol]
      exact Table.find?_replace ⟨taskValues previous, stored, sameTask.trans applied.task.symm⟩ child
    by_cases own : child = answer.state.taskId
    · obtain rfl := own
      cases found.symm.trans present
      -- A completed task refuses every change.
      have closed := (advance_grows valid method.call).closed completed
      rw [advance, decided] at closed
      refine ⟨_, rows.trans (if_pos rfl), ?_, ?_⟩
      · exact (congrArg WorkerTaskState.taskStatus closed).trans completed
      · exact (congrArg WorkerTaskState.completionRef closed).trans ref
    · exact ⟨row, rows.trans ((if_neg own).trans found), completed, ref⟩

private theorem keeps_covers : Covers KeepsCompletions where
  refl := .refl
  protocol := protocol_keeps
  update written := by
    cases written
    refine .of_rows ?_
    unfold updateTask
    split <;> rfl
  columns columns := .of_rows (by rw [columns.1])
  recoveryAction recorded := by
    simp only [recordRecoveryActionAttempt, bind_eq_ok] at recorded
    obtain ⟨_, _, _, _, _, _, _, _, _, _, _, _, middle, inserted, same⟩ := recorded
    cases same
    refine .of_rows ?_
    unfold insertActionAttempt at inserted
    unfold updateTask
    split at inserted <;> cases inserted
    split <;> rfl
  currentWorkerAction recorded := by
    simp only [recordCurrentWorkerActionAttempt, bind_eq_ok] at recorded
    obtain ⟨_, _, _, _, _, _, _, _, _, _, middle, inserted, same⟩ := recorded
    cases same
    refine .of_rows ?_
    unfold insertActionAttempt at inserted
    split at inserted <;> cases inserted
    rfl
  replacement inserted := by
    unfold insertReplacementAttempt at inserted
    split at inserted <;> cases inserted
    exact .of_rows rfl
  spawn inserted := by
    unfold insertChildSpawnAttempt at inserted
    split at inserted <;> cases inserted
    exact .of_rows rfl

/-- What may be called after a completion, on any task. -/
inductive LaterCall where
  | protocol (call : ProtocolCall)
  | completion (call : CompletionCall)

def LaterCall.body : LaterCall → Program Database NoAnswer Unit
  | .protocol method => (fun _ => ()) <$> (transaction method.transaction).run
  | .completion completing => completing.body

def laterMachine : Machine Database NoAnswer LaterCall Unit := { body := LaterCall.body }

private theorem later_effects (call : LaterCall) : (laterMachine.body call).Effects KeepsCompletions := by
  cases call with
  | protocol method => exact .map (protocol_effects keeps_covers method.taskId method.method)
  | completion completing => exact keeps_covers.effects completing

private theorem Finished.completedWith {state : WorkerTaskState} (finished : Finished child completionRef db state) :
    CompletedWith child completionRef db :=
  ⟨taskValues state, Table.find?_some.mpr ⟨finished.durable.stored.row, finished.named⟩, finished.completed, finished.ref⟩

private theorem completed_refuses {givenRef : String} {now clock : Time} (completed : CompletedWith child completionRef db)
    (other : strip givenRef ≠ completionRef) :
    Leads (OnlyColumns db) (fun result _ => ∃ error, result = .error error)
      (completeChildDispatch (ω := NoAnswer) child givenRef now clock).run db := by
  have here := OnlyColumns.refl db
  refine .reads here (fun _ _ => ?_) (fun error _ => ⟨error, rfl⟩)
  refine .decides here (fun _ _ => ?_) (fun error _ => ⟨error, rfl⟩)
  refine .reads here (fun _ _ => .decides here (fun _ _ => ?_) (fun error _ => ⟨error, rfl⟩)) (fun error _ => ⟨error, rfl⟩)
  refine .reads here (fun _ _ => .decides here (fun _ _ => ?_) (fun error _ => ⟨error, rfl⟩)) (fun error _ => ⟨error, rfl⟩)
  refine (Leads.effects (unresolvedSpawn_effects child) .trans here).andThen ?_ ?_
  · intro _ after columns _
    refine .decides columns (fun _ _ => ?_) (fun error _ => ⟨error, rfl⟩)
    refine .reads columns (fun state loaded => ?_) (fun error _ => ⟨error, rfl⟩)
    obtain ⟨row, found, status, ref⟩ := keeps_covers.columns columns child completionRef completed
    obtain ⟨named, _, _, _, stored, _⟩ := load_consistent loaded
    cases found.symm.trans (Table.find?_some.mpr ⟨stored, named⟩)
    rw [if_pos (show state.taskStatus = .completed from status)]
    refine .decides columns (fun _ passed => absurd ?_ other) (fun error _ => ⟨error, rfl⟩)
    rw [refuse_eq_ok, not_not] at passed
    exact (Option.some.inj (ref.symm.trans passed)).symm
  · rintro error _ _ _
    exact ⟨error, rfl⟩

end Later

/-- A completing call of an open child that is stopped before any of its commits
can be repeated: it finishes the child with its reference, logs one completion and
closes the task. Whatever is called afterwards, in any interleaving, another
reference is refused and the protocol stays as it is. -/
theorem complete_child_dispatch_resumes {child givenRef : String} {now clock later laterClock : Time}
    {db stopped : Database} {state : WorkerTaskState} (isOpen : OpenChild child now db state)
    (given : strip givenRef ≠ "")
    (stop : Stops (completeChildDispatch (ω := NoAnswer) child givenRef now clock).run db stopped) (order : now ≤ later) :
    ∃ final after,
      (completeChildDispatch child givenRef later laterClock).run.alone stopped = (.ok final, after) ∧
      final.taskStatus = .completed ∧ final.completionRef = some (strip givenRef) ∧
      loadWorkerProtocol after child = .ok final ∧ loggedEvents after child .taskCompleted = 1 ∧ TaskClosed after child ∧
      ∀ (moves : List (Move NoAnswer LaterCall)) (otherRef : String) (otherNow otherClock : Time),
        strip otherRef ≠ strip givenRef →
        let reached := (run laterMachine.move { store := after, log := [] } moves).store
        ∃ error last, (completeChildDispatch child otherRef otherNow otherClock).run.alone reached = (.error error, last) ∧
          OnlyColumns reached last := by
  have resumable : Resumable child (strip givenRef) later stopped :=
    (completeChildDispatch_leads given (.inl ⟨state, isOpen⟩)).stops stop |>.later order
  obtain ⟨_, final, returned, finished⟩ := (completeChildDispatch_leads given resumable).alone
  refine ⟨final, _, Prod.ext returned rfl, finished.completed, finished.ref, finished.named ▸ finished.durable.load,
    finished.logged, finished.closed, fun moves otherRef otherNow otherClock other => ?_⟩
  intro reached
  have kept : CompletedWith child (strip givenRef) reached := by
    refine @Linked.stays _ _ _ _ _ _ _ (CompletedWith child (strip givenRef)) (run_linked laterMachine _ moves)
      finished.completedWith (fun pid before after member held => ?_)
    exact run_effects later_effects member child _ held
  obtain ⟨columns, error, raised⟩ := (completed_refuses kept other).alone
  exact ⟨error, _, Prod.ext raised rfl, columns⟩

/-- The lease of the child's worker has expired and a handoff is pending; the call is
stopped once it has abandoned the worker. -/
theorem complete_child_dispatch_resumes_abandoned :
    let start : Database :=
      { tasks := ⟨[{ taskId := "parent", state := .running }, { taskId := "child", state := .queued }], by decide⟩
        childDispatches :=
          ⟨[{ dispatchId := "dispatch", parentTaskId := "parent", childTaskId := "child", childKey := "key",
              promptText := "prompt", promptSha256 := "hash", expectedBranch := none, baseRef := none,
              webProjectUrl := none, createdAt := 0, updatedAt := 0 }], by simp⟩ }
    let bootstrap := bootstrapWorkerProtocol "child" (some "parent") (some "parent") (some "key")
    let calls : List ProtocolCall :=
      [⟨"child", .registerWorker "https://chatgpt.com/c/1" 0 (some "first") "worker_1" 2⟩,
       ⟨"child", .claimWorker "first" 1 60 3⟩,
       ⟨"child", .registerWorker "https://chatgpt.com/c/2" 2 (some "second") "worker_2" 4⟩,
       ⟨"child", .requestHandoff "first" "second" 1 3 5⟩]
    let db := run serve (Transaction.after bootstrap start) calls
    let stopped := (completeChildDispatch (ω := NoAnswer) "child" " commit " 100 101).run.stopAfter 7 db
    (loadWorkerProtocol db "child").toOption.map (·.currentWorkerId) = some (some "first") ∧
    (loadWorkerProtocol stopped "child").toOption.map (fun state => (state.taskStatus, state.currentWorkerId)) =
      some (.opened, none) ∧
    ∃ final after, (completeChildDispatch "child" " commit " 110 111).run.alone stopped = (.ok final, after) ∧
      final.completionRef = some "commit" ∧ loggedEvents after "child" .taskCompleted = 1 := by
  intro start bootstrap calls db stopped
  let initial : WorkerTaskState :=
    { lineage := { taskId := "child", parentTaskId := some "parent", rootTaskId := "parent", childKey := some "key" } }
  have booted : bootstrap start = .ok (initial, Transaction.after bootstrap start) :=
    Transaction.returned (by decide +kernel)
  obtain ⟨first, _⟩ := bootstrap_durable ⟨by decide, by decide, by decide⟩ booted
  let state := run advance initial (answered initial.taskId (Transaction.after bootstrap start) calls)
  have durable : Durable db state := run_durable first calls
  have unlogged : Unlogged db state := run_unlogged first (fun _ => by decide +kernel) calls
  have named : state.taskId = "child" := by decide +kernel
  have opened : state.taskStatus = .opened := by decide +kernel
  have idle : ¬ OpenWork db "child" := by decide +kernel
  have stamps : ∀ worker ∈ state.workers, worker.claimedAt.all (· ≤ 100) ∧ worker.lastHeartbeatAt.all (· ≤ 100) := by
    decide +kernel
  have dispatched : (db.childDispatches.find? "child").isSome := by decide +kernel
  have isOpen : OpenChild "child" 100 db state := by
    refine ⟨⟨Option.isSome_iff_exists.mp dispatched, idle⟩, durable, named, opened, named ▸ unlogged opened, ?_⟩
    intro worker member _
    simpa [Option.all_eq_true] using stamps worker member
  have given : strip " commit " ≠ "" := by decide +kernel
  have plain : strip " commit " = "commit" := by decide +kernel
  have order : (100 : Time) ≤ 110 := by decide +kernel
  obtain ⟨final, after, returned, _, ref, _, logged, _⟩ :=
    complete_child_dispatch_resumes isOpen given (stops_stopAfter 7 _ db) order
  exact ⟨by decide +kernel, by decide +kernel, final, after, returned, plain ▸ ref, logged⟩

end WebSupervisor.Registry.Proofs
