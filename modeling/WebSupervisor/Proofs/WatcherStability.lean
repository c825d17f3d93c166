import WebSupervisor.Library.Alone
import WebSupervisor.WatcherSync

/-! Repeated discovery of conversations. A round looks at a task through its current
worker only; that look is a small machine of its own, and the loop over rows is a run
of it on each task. -/

namespace WebSupervisor.WatcherSync.Proofs
open Library Library.Program Registry WorkerPersistence

/-- What a round sees of a task: no task, no current worker, one without a row, or the
row of one. -/
inductive Owner where
  | missing
  | idle
  | gone
  | held (workerId url : String) (active : Bool)

def ownerOf (db : Database) (taskId : String) : Owner :=
  match db.tasks.find? taskId with
  | none => .missing
  | some task =>
    if task.currentWorkerId.getD "" = "" then .idle
    else
      match db.workers.find? (task.currentWorkerId.getD "") with
      | none => .gone
      | some worker => .held worker.workerId worker.conversationUrl (worker.status = .active)

/-- The owner after a round, and whether its worker is new. A round that raises has none. -/
def watch (bootstrapped : Bool) (owner : Owner) (drawn url : String) : Option (Owner × Bool) :=
  let renewed := if bootstrapped then none else some (Owner.held drawn url true, true)
  match owner with
  | .gone => none
  | .missing => renewed
  | .idle => renewed
  | .held workerId registered active =>
    if normalizeUrl registered ≠ normalizeUrl url then renewed
    else if active = true ∧ rstripSlash url = rstripSlash registered then some (.held workerId registered active, false)
    else none

/-- A round does not raise on the owner. -/
def Ready (bootstrapped : Bool) (owner : Owner) (url : String) : Prop :=
  match owner with
  | .gone => False
  | .missing => bootstrapped = false
  | .idle => bootstrapped = false
  | .held _ registered active =>
    normalizeUrl registered ≠ normalizeUrl url ∧ bootstrapped = false ∨
      normalizeUrl registered = normalizeUrl url ∧ active = true ∧ rstripSlash url = rstripSlash registered

/-- A round finds the worker that it wants. -/
def Settled (owner : Owner) (url : String) : Prop :=
  ∃ workerId registered, owner = .held workerId registered true ∧ normalizeUrl registered = normalizeUrl url ∧
    rstripSlash url = rstripSlash registered

/-- Two spellings that no round tells apart. -/
def SameSpelling (first second : String) : Prop :=
  normalizeUrl first = normalizeUrl second ∧ rstripSlash first = rstripSlash second

section Machine
variable {bootstrapped : Bool} {owner next : Owner} {drawn url other : String} {added : Bool}

theorem watch_other {registered : String} {active : Bool} (differ : normalizeUrl registered ≠ normalizeUrl url) :
    watch bootstrapped (.held other registered active) drawn url =
      if bootstrapped then none else some (Owner.held drawn url true, true) := by
  unfold watch
  dsimp only
  rw [if_pos differ]

theorem watch_same {registered : String} {active : Bool} (same : normalizeUrl registered = normalizeUrl url) :
    watch bootstrapped (.held other registered active) drawn url =
      if active = true ∧ rstripSlash url = rstripSlash registered then some (.held other registered true, false) else none := by
  unfold watch
  dsimp only
  rw [if_neg (not_not.mpr same)]
  cases active <;> simp

theorem watch_settled (settled : Settled owner url) : watch bootstrapped owner drawn url = some (owner, false) := by
  obtain ⟨workerId, registered, rfl, normal, slashes⟩ := settled
  simp [watch, normal, slashes]

theorem ready_of_settled (settled : Settled owner url) : Ready bootstrapped owner url := by
  obtain ⟨workerId, registered, rfl, normal, slashes⟩ := settled
  exact Or.inr ⟨normal, rfl, slashes⟩

theorem settled_of_watch (watched : watch bootstrapped owner drawn url = some (next, added)) : Settled next url := by
  have renewed : (if bootstrapped then none else some (Owner.held drawn url true, true)) = some (next, added) →
      Settled next url := by
    cases bootstrapped with
    | true => nofun
    | false =>
      rintro ⟨⟩
      exact ⟨drawn, url, rfl, rfl, rfl⟩
  cases owner with
  | gone => cases watched
  | missing => exact renewed watched
  | idle => exact renewed watched
  | held workerId registered active =>
    simp only [watch] at watched
    split at watched
    next => exact renewed watched
    next normal =>
      split at watched
      next both =>
        cases watched
        exact ⟨workerId, registered, by rw [both.1], not_not.mp normal, both.2⟩
      next => cases watched

/-- A round that adds no worker leaves the owner as it was. -/
theorem watch_kept (watched : watch bootstrapped owner drawn url = some (next, false)) : next = owner := by
  have renewed : (if bootstrapped then none else some (Owner.held drawn url true, true)) ≠ some (next, false) := by
    cases bootstrapped <;> simp
  cases owner with
  | gone => cases watched
  | missing => exact absurd watched renewed
  | idle => exact absurd watched renewed
  | held workerId registered active =>
    simp only [watch] at watched
    split at watched
    next => exact absurd watched renewed
    next =>
      split at watched
      next => cases watched; rfl
      next => cases watched

theorem watch_isSome : (∃ next added, watch bootstrapped owner drawn url = some (next, added)) ↔
    Ready bootstrapped owner url := by
  cases owner with
  | gone => simp [watch, Ready]
  | missing => cases bootstrapped <;> simp [watch, Ready]
  | idle => cases bootstrapped <;> simp [watch, Ready]
  | held workerId registered active =>
    by_cases normal : normalizeUrl registered = normalizeUrl url
    · by_cases both : active = true ∧ rstripSlash url = rstripSlash registered <;> simp [watch, Ready, normal, both]
    · cases bootstrapped <;> simp [watch, Ready, normal]

theorem ready_congr (same : SameSpelling url other) (ready : Ready bootstrapped owner url) :
    Ready bootstrapped owner other := by
  cases owner with
  | gone => exact ready
  | missing => exact ready
  | idle => exact ready
  | held workerId registered active =>
    unfold Ready at ready ⊢
    dsimp only at ready ⊢
    rw [← same.1, ← same.2]
    exact ready

theorem settled_congr (same : SameSpelling url other) (settled : Settled owner url) : Settled owner other := by
  obtain ⟨workerId, registered, rfl, normal, slashes⟩ := settled
  exact ⟨workerId, registered, rfl, normal.trans same.1, same.2.symm.trans slashes⟩

theorem same_of_settled (one : Settled owner url) (two : Settled owner other) : SameSpelling url other := by
  obtain ⟨workerId, registered, rfl, normal, slashes⟩ := one
  obtain ⟨_, _, ⟨⟩, normal', slashes'⟩ := two
  exact ⟨normal.symm.trans normal', slashes.trans slashes'.symm⟩

end Machine

/-- Current workers belong to the tasks that name them. -/
def Owned (db : Database) : Prop :=
  ∀ taskId task worker, db.tasks.find? taskId = some task → task.currentWorkerId.getD "" ≠ "" →
    db.workers.find? (task.currentWorkerId.getD "") = some worker → worker.taskId = taskId

/-- No worker and no task knows the id. -/
def Fresh (db : Database) (workerId : String) : Prop :=
  workerId ≠ "" ∧ db.workers.find? workerId = none ∧
    ∀ taskId task, db.tasks.find? taskId = some task → task.currentWorkerId ≠ some workerId

/-- What a part of a round for the task does, given the workers that it adds. -/
structure Effect (taskId : String) (owner : Owner) (added : List String) (db after : Database) : Prop where
  own : ownerOf after taskId = owner
  others : ∀ other, other ≠ taskId → ownerOf after other = ownerOf db other
  protocol : after.protocolTasks = db.protocolTasks
  workers : ∀ id, (after.workers.find? id).isSome = true ↔ (db.workers.find? id).isSome = true ∨ id ∈ added
  owned : Owned after
  fresh : ∀ id, Fresh db id → id ∉ added → Fresh after id
  quiet : added = [] → after.workers = db.workers ∧
    ∀ id, (after.tasks.find? id).bind (·.currentWorkerId) = (db.tasks.find? id).bind (·.currentWorkerId)

section Effects
variable {db middle after : Database} {taskId workerId url : String} {owner first : Owner} {one two : List String}

theorem Effect.trans (start : Effect taskId first one db middle) (rest : Effect taskId owner two middle after) :
    Effect taskId owner (one ++ two) db after where
  own := rest.own
  others other differ := (rest.others other differ).trans (start.others other differ)
  protocol := rest.protocol.trans start.protocol
  workers id := by rw [rest.workers, start.workers, List.mem_append, or_assoc]
  owned := rest.owned
  fresh id known absent := by
    rw [List.mem_append, not_or] at absent
    exact rest.fresh id (start.fresh id known absent.1) absent.2
  quiet none := by
    obtain ⟨rfl, rfl⟩ := List.append_eq_nil_iff.mp none
    have early := start.quiet rfl
    have late := rest.quiet rfl
    exact ⟨late.1.trans early.1, fun id => (late.2 id).trans (early.2 id)⟩

/-- Only the rest of the database, or fields of tasks that no round reads, change. -/
theorem effect_same (owned : Owned db) (workers : after.workers = db.workers) (protocol : after.protocolTasks = db.protocolTasks)
    (tasks : ∀ taskId, (after.tasks.find? taskId).map (·.currentWorkerId) = (db.tasks.find? taskId).map (·.currentWorkerId)) :
    Effect taskId (ownerOf db taskId) [] db after := by
  have owners (taskId : String) : ownerOf after taskId = ownerOf db taskId := by
    have same := tasks taskId
    unfold ownerOf
    rw [workers]
    cases new : after.tasks.find? taskId <;> cases old : db.tasks.find? taskId <;> rw [new, old] at same <;> simp_all
  have back {taskId : String} {task : TaskRecord} (found : after.tasks.find? taskId = some task) :
      ∃ old, db.tasks.find? taskId = some old ∧ old.currentWorkerId = task.currentWorkerId := by
    have same := tasks taskId
    rw [found, Option.map_some] at same
    exact Option.map_eq_some_iff.mp same.symm
  refine ⟨owners taskId, fun other _ => owners other, protocol, fun id => by simp [workers], ?_, ?_,
    fun _ => ⟨workers, fun id => ?_⟩⟩
  · intro taskId task worker found named present
    obtain ⟨old, earlier, same⟩ := back found
    rw [← same, workers] at present
    exact owned taskId old worker earlier (same ▸ named) present
  · rintro id ⟨nonempty, absent, unknown⟩ _
    refine ⟨nonempty, workers ▸ absent, fun taskId task found => ?_⟩
    obtain ⟨old, earlier, same⟩ := back found
    exact same ▸ unknown taskId old earlier
  · have joined := congrArg (fun current => current.bind (fun workerId => workerId)) (tasks id)
    simpa only [Option.bind_map, Function.comp_def] using joined

theorem tasks_updateTask {change : TaskRecord → TaskRecord} (kept : ∀ row, (change row).taskId = row.taskId) (id : String) :
    (updateTask db taskId change).tasks.find? id =
      if id = taskId then (db.tasks.find? taskId).map change else db.tasks.find? id := by
  unfold updateTask
  split
  next absent =>
    split
    next same => rw [same, absent, Option.map_none]
    next => rfl
  next task found =>
    have named : (change task).taskId = taskId := (kept task).trans (Table.find?_some.mp found).2
    rw [Table.find?_replace ⟨task, (Table.find?_some.mp found).1, (kept task).symm⟩, named, found, Option.map_some]

theorem workers_updateWorker {change : WorkerRecord → WorkerRecord} (kept : ∀ row, (change row).workerId = row.workerId)
    (id : String) :
    (updateWorker db workerId change).workers.find? id =
      if id = workerId then (db.workers.find? workerId).map change else db.workers.find? id := by
  unfold updateWorker
  split
  next absent =>
    split
    next same => rw [same, absent, Option.map_none]
    next => rfl
  next worker found =>
    have named : (change worker).workerId = workerId := (kept worker).trans (Table.find?_some.mp found).2
    rw [Table.find?_replace ⟨worker, (Table.find?_some.mp found).1, (kept worker).symm⟩, named, found, Option.map_some]

theorem updateTask_rest (change : TaskRecord → TaskRecord) :
    (updateTask db taskId change).workers = db.workers ∧ (updateTask db taskId change).protocolTasks = db.protocolTasks := by
  unfold updateTask
  split <;> exact ⟨rfl, rfl⟩

theorem updateWorker_rest (change : WorkerRecord → WorkerRecord) :
    (updateWorker db workerId change).tasks = db.tasks ∧ (updateWorker db workerId change).protocolTasks = db.protocolTasks := by
  unfold updateWorker
  split <;> exact ⟨rfl, rfl⟩

/-- The earlier current worker loses its status and its binding. -/
def supersede (db : Database) (old : String) (now : Time) : Database :=
  if old = "" then db
  else deleteWindowBinding (updateWorker db old (fun worker => { worker with status := .superseded, endedAt := some now })) old

theorem supersede_rest (old : String) (now : Time) :
    (supersede db old now).tasks = db.tasks ∧ (supersede db old now).protocolTasks = db.protocolTasks := by
  unfold supersede
  split
  next => exact ⟨rfl, rfl⟩
  next => exact updateWorker_rest _

theorem workers_supersede (old : String) (now : Time) (id : String) :
    (supersede db old now).workers.find? id =
      if id = old ∧ id ≠ "" then
        (db.workers.find? id).map (fun worker => { worker with status := .superseded, endedAt := some now })
      else db.workers.find? id := by
  unfold supersede
  split
  next none => rw [if_neg (fun both => both.2 (both.1.trans none))]
  next some =>
    refine (workers_updateWorker ?_ id).trans ?_
    · exact fun _ => rfl
    by_cases same : id = old
    · rw [if_pos same, if_pos ⟨same, same ▸ some⟩, same]
    · rw [if_neg same, if_neg (fun both => same both.1)]

/-- What the transaction of `add_worker` leaves when it makes the new worker current. -/
structure Renewed (task : TaskRecord) (row : WorkerRecord) (db after : Database) : Prop where
  protocol : after.protocolTasks = db.protocolTasks
  tasks : ∀ id, after.tasks.find? id =
    if id = task.taskId then some { task with currentWorkerId := some row.workerId, updatedAt := row.startedAt }
    else db.tasks.find? id
  workers : ∀ id, after.workers.find? id =
    if id = row.workerId then some row
    else if id = task.currentWorkerId.getD "" ∧ id ≠ "" then
      (db.workers.find? id).map (fun worker => { worker with status := .superseded, endedAt := some row.startedAt })
    else db.workers.find? id

theorem addWorkerWrite_renewed (row : WorkerRecord) {task : TaskRecord} (active : row.status = .active)
    (lasting : row.endedAt = none) (unseen : row.lastSeenAt = none) (found : db.tasks.find? row.taskId = some task)
    (fresh : Fresh db row.workerId) :
    ∃ after, addWorkerWrite row.taskId row.conversationUrl row.conversationId true row.workerId row.startedAt db =
        .ok ((), after) ∧ Renewed task row db after := by
  obtain ⟨nonempty, absent, unknown⟩ := fresh
  have named : task.taskId = row.taskId := (Table.find?_some.mp found).2
  have other : row.workerId ≠ task.currentWorkerId.getD "" := by
    intro same
    cases current : task.currentWorkerId with
    | none => exact nonempty (by rw [same, current, Option.getD_none])
    | some old => exact unknown row.taskId task found (by rw [same, current, Option.getD_some])
  obtain ⟨workers, inserted⟩ : ∃ workers, db.workers.insert? row = some workers := by
    cases inserted : db.workers.insert? row with
    | some workers => exact ⟨workers, rfl⟩
    | none =>
      obtain ⟨old, member, same⟩ := Table.insert?_none.mp inserted
      exact absurd same (Table.find?_none.mp absent old member)
  have seen (id : String) : workers.find? id = if id = row.workerId then some row else db.workers.find? id := by
    rw [Table.find?_insert? inserted]
    by_cases same : id = row.workerId
    · simp only [same, absent, Option.none_or, if_true]
    · rw [if_neg same, if_neg (Ne.symm same), Option.or_none]
  have whole : insertWorker db
      { workerId := row.workerId, taskId := row.taskId, conversationUrl := row.conversationUrl
        conversationId := row.conversationId, status := .active, startedAt := row.startedAt } = .ok { db with workers } := by
    have same : row =
        { workerId := row.workerId, taskId := row.taskId, conversationUrl := row.conversationUrl
          conversationId := row.conversationId, status := .active, startedAt := row.startedAt } := by
      cases row
      cases active
      cases lasting
      cases unseen
      rfl
    rw [← same, insertWorker, inserted]
  have written : addWorkerWrite row.taskId row.conversationUrl row.conversationId true row.workerId row.startedAt db =
      .ok ((), updateTask (supersede { db with workers } (task.currentWorkerId.getD "") row.startedAt) row.taskId
        (fun task => { task with currentWorkerId := some row.workerId, updatedAt := row.startedAt })) := by
    rw [addWorkerWrite, found]
    dsimp only
    rw [whole]
    rfl
  refine ⟨_, written, ?_, ?_, ?_⟩
  · rw [(updateTask_rest _).2, (supersede_rest _ _).2]
  · intro id
    refine (tasks_updateTask ?_ id).trans ?_
    · exact fun _ => rfl
    · simp only [(supersede_rest _ _).1, named, found, Option.map_some]
  · intro id
    rw [(updateTask_rest _).1, workers_supersede]
    simp only [seen]
    by_cases same : id = row.workerId
    · rw [if_pos same, if_pos same, if_neg (fun both => other (same.symm.trans both.1))]
    · rw [if_neg same, if_neg same]

theorem Renewed.effect {task : TaskRecord} {row : WorkerRecord} (renewed : Renewed task row db after) (owned : Owned db)
    (active : row.status = .active) (found : db.tasks.find? row.taskId = some task) (fresh : Fresh db row.workerId) :
    Effect row.taskId (.held row.workerId row.conversationUrl true) [row.workerId] db after := by
  obtain ⟨nonempty, absent, unknown⟩ := fresh
  have named : task.taskId = row.taskId := (Table.find?_some.mp found).2
  have fresh {id : String} {other : TaskRecord} (held : db.tasks.find? id = some other) :
      other.currentWorkerId.getD "" ≠ row.workerId := by
    intro same
    cases current : other.currentWorkerId with
    | none => exact nonempty (by rw [← same, current, Option.getD_none])
    | some old => exact unknown id other held (by rw [current, ← same, current, Option.getD_some])
  refine ⟨?_, ?_, renewed.protocol, ?_, ?_, ?_, nofun⟩
  · simp [ownerOf, renewed.tasks, renewed.workers, named, nonempty, active]
  · intro other differ
    unfold ownerOf
    rw [renewed.tasks, if_neg (named ▸ differ)]
    cases held : db.tasks.find? other with
    | none => rfl
    | some holder =>
      -- A worker that loses its status here is not the current worker of another task.
      have same : after.workers.find? (holder.currentWorkerId.getD "") =
          db.workers.find? (holder.currentWorkerId.getD "") := by
        rw [renewed.workers, if_neg (fresh held)]
        split
        next both =>
          cases present : db.workers.find? (holder.currentWorkerId.getD "") with
          | none => rfl
          | some worker =>
            have mine := owned task.taskId task worker (named ▸ found) (both.1 ▸ both.2) (both.1 ▸ present)
            exact absurd ((owned other holder worker held both.2 present).symm.trans (mine.trans named)) differ
        next => rfl
      simp only [same]
  · intro id
    rw [renewed.workers, List.mem_singleton]
    split
    next same => simp [same]
    next differ => split <;> simp [differ]
  · intro taskId other worker held current present
    rw [renewed.tasks] at held
    split at held
    next same =>
      cases held
      rw [Option.getD_some, renewed.workers, if_pos rfl] at present
      cases present
      exact same.symm ▸ named.symm
    next differ =>
      rw [renewed.workers, if_neg (fresh held)] at present
      split at present
      next =>
        obtain ⟨old, earlier, rfl⟩ := Option.map_eq_some_iff.mp present
        exact owned taskId other old held current earlier
      next => exact owned taskId other worker held current present
  · rintro id ⟨some, free, unnamed⟩ differ
    have differ : id ≠ row.workerId := fun same => differ (List.mem_singleton.mpr same)
    refine ⟨some, ?_, fun taskId other held => ?_⟩
    · rw [renewed.workers, if_neg differ, free]
      split <;> rfl
    · rw [renewed.tasks] at held
      split at held
      next =>
        cases held
        exact fun same => differ (Option.some.inj same).symm
      next => exact unnamed taskId other held

end Effects

section Rounds
variable {db : Database} {taskId workerId url : String} {conversationId : Option String}

theorem addWorker_effect (url : String) (conversationId : Option String) (now : Time) {task : TaskRecord}
    (owned : Owned db) (found : db.tasks.find? taskId = some task)
    (plain : protocolStateExists db taskId = false) (fresh : Fresh db workerId) :
    ∃ worker after, (addWorker taskId url conversationId true workerId now).run.alone db = (.ok worker, after) ∧
      worker.workerId = workerId ∧ worker.conversationUrl = url ∧
      after.tasks.find? taskId = some { task with currentWorkerId := some workerId, updatedAt := now } ∧
      after.workers.find? workerId = some worker ∧ worker.status = .active ∧
      Effect taskId (.held workerId url true) [workerId] db after := by
  have named : task.taskId = taskId := (Table.find?_some.mp found).2
  obtain ⟨row, rowEq⟩ : ∃ row : WorkerRecord, row =
    { workerId, taskId, conversationUrl := url, conversationId, status := .active, startedAt := now } := ⟨_, rfl⟩
  have fields : row.workerId = workerId ∧ row.taskId = taskId ∧ row.conversationUrl = url ∧
      row.conversationId = conversationId ∧ row.startedAt = now := by rw [rowEq]; exact ⟨rfl, rfl, rfl, rfl, rfl⟩
  obtain ⟨rfl, rfl, rfl, rfl, rfl⟩ := fields
  obtain ⟨after, written, renewed⟩ := addWorkerWrite_renewed row (by rw [rowEq]) (by rw [rowEq]) (by rw [rowEq])
    found fresh
  have accepted : addWorkerCheck row.taskId db = .ok () := by simp [addWorkerCheck, getTask, found, plain, refuse]
  have present : after.workers.find? row.workerId = some row := by rw [renewed.workers, if_pos rfl]
  refine ⟨row, after, ?_, rfl, rfl, ?_, present, by rw [rowEq], renewed.effect owned (by rw [rowEq]) found fresh⟩
  · unfold addWorker
    rw [alone_bind_ok (by rw [alone_check, accepted]), alone_bind_ok (alone_transaction_ok written), alone_check,
      getWorker, present]
  · rw [renewed.tasks, named, if_pos rfl]

theorem addWorker_refused (used : protocolStateExists db taskId = true) {makeCurrent : Bool} {now : Time} :
    ∃ error, (addWorker taskId url conversationId makeCurrent workerId now).run.alone db = (.error error, db) := by
  obtain ⟨error, refused⟩ : ∃ error, addWorkerCheck taskId db = .error error := by
    unfold addWorkerCheck getTask
    cases db.tasks.find? taskId with
    | none => exact ⟨_, rfl⟩
    | some task => simp [used, refuse]
  exact ⟨error, alone_bind_error (by rw [alone_check, refused])⟩

theorem setCheckpoint_effect (owned : Owned db) (now : Time) :
    ∃ after, (transaction (setCheckpoint taskId now) : ExceptT SupervisorError (Program Database NoAnswer) Unit).run.alone db =
        (.ok (), after) ∧ after.workers = db.workers ∧ Effect taskId (ownerOf db taskId) [] db after := by
  refine ⟨_, alone_transaction_ok rfl, (updateTask_rest _).1,
    effect_same owned (updateTask_rest _).1 (updateTask_rest _).2 fun id => ?_⟩
  have rows : (updateTask db taskId (fun task => { task with updatedAt := now })).tasks.find? id =
      if id = taskId then (db.tasks.find? taskId).map (fun task => { task with updatedAt := now })
      else db.tasks.find? id := by
    apply tasks_updateTask
    exact fun _ => rfl
  rw [rows]
  split
  next same =>
    rw [same]
    cases db.tasks.find? taskId <;> rfl
  next => rfl

theorem writeBinding_seen (row : WorkerWindowBinding) :
    ∃ binding windowBindings, writeBinding row db = .ok ((), { db with windowBindings }) ∧
      getWorkerWindowBinding { db with windowBindings } row.workerId 0 false = some binding :=
  ⟨_, _, rfl, by simp [getWorkerWindowBinding, Table.find?_upsert]; rfl⟩

theorem bindWorkerWindow_bound (args : BindArgs) {worker : WorkerRecord}
    (found : db.workers.find? args.workerId = some worker) (active : worker.status = .active)
    (accepted : args.accept worker = .ok ()) :
    ∃ binding windowBindings, (bindWorkerWindow args).run.alone db = (.ok binding, { db with windowBindings }) := by
  have read : activeWorker args.workerId db = .ok worker := by simp [activeWorker, getWorker, found, active, refuse]
  obtain ⟨binding, windowBindings, written, seen⟩ :=
    writeBinding_seen (args.row (getWorkerWindowBinding db args.workerId 0 false))
  refine ⟨binding, windowBindings, ?_⟩
  unfold bindWorkerWindow
  rw [alone_bind_ok (by rw [alone_check, read]), alone_bind_ok (by rw [alone_ensure, accepted]),
    alone_bind_ok (by rw [alone_check]), alone_bind_ok (alone_transaction_ok written), alone_check]
  have again : getWorkerWindowBinding { db with windowBindings } args.workerId 0 false = some binding := seen
  rw [again]
  rfl

theorem bindWorkerWindow_refused (args : BindArgs) {worker : WorkerRecord}
    (found : db.workers.find? args.workerId = some worker)
    (refused : worker.status ≠ .active ∨ rstripSlash args.conversationUrl ≠ rstripSlash worker.conversationUrl) :
    ∃ error, ((bindWorkerWindow args).run.alone db).1 = .error error := by
  unfold bindWorkerWindow
  by_cases active : worker.status = .active
  · have read : activeWorker args.workerId db = .ok worker := by simp [activeWorker, getWorker, found, active, refuse]
    have differ := refused.resolve_left (fun other => other active)
    cases accepted : args.accept worker with
    | ok _ =>
      simp only [BindArgs.accept, bind_eq_ok, refuse_eq_ok, not_not] at accepted
      obtain ⟨_, _, _, _, _, _, same⟩ := accepted
      exact absurd same differ
    | error error =>
      rw [alone_bind_ok (by rw [alone_check, read]), alone_bind_error (by rw [alone_ensure, accepted])]
      exact ⟨error, rfl⟩
  · obtain ⟨error, raised⟩ : ∃ error, activeWorker args.workerId db = .error error :=
      ⟨_, by simp [activeWorker, getWorker, found, active, refuse]; rfl⟩
    rw [alone_bind_error (by rw [alone_check, raised])]
    exact ⟨error, rfl⟩

theorem insertTask_effect {task : TaskRecord} (owned : Owned db) (absent : db.tasks.find? task.taskId = none)
    (vacant : task.currentWorkerId = none) :
    ∃ after, insertTask task db = .ok ((), after) ∧ after.tasks.find? task.taskId = some task ∧
      Effect task.taskId .idle [] db after := by
  obtain ⟨tasks, inserted⟩ : ∃ tasks, db.tasks.insert? task = some tasks := by
    cases inserted : db.tasks.insert? task with
    | some tasks => exact ⟨tasks, rfl⟩
    | none =>
      obtain ⟨old, member, same⟩ := Table.insert?_none.mp inserted
      exact absurd same (Table.find?_none.mp absent old member)
  have rows (id : String) : tasks.find? id = if id = task.taskId then some task else db.tasks.find? id := by
    rw [Table.find?_insert? inserted]
    by_cases same : id = task.taskId
    · simp only [same, absent, Option.none_or, if_true]
    · rw [if_neg same, if_neg (Ne.symm same), Option.or_none]
  have old {id : String} {other : TaskRecord} (held : tasks.find? id = some other) (named : other.currentWorkerId ≠ none) :
      db.tasks.find? id = some other := by
    rw [rows] at held
    split at held
    next =>
      cases held
      exact absurd vacant named
    next => exact held
  refine ⟨{ db with tasks }, by rw [insertTask, inserted], by rw [rows, if_pos rfl], ?_⟩
  constructor
  case own => simp [ownerOf, rows, vacant]
  case others =>
    intro other differ
    simp only [ownerOf, rows, if_neg differ]
  case protocol => rfl
  case workers => simp
  case owned =>
    intro taskId other worker held current present
    exact owned taskId other worker (old held (fun none => current (by rw [none, Option.getD_none]))) current present
  case fresh =>
    rintro id ⟨nonempty, free, unnamed⟩ _
    refine ⟨nonempty, free, fun taskId other held same => ?_⟩
    exact unnamed taskId other (old held (fun none => Option.some_ne_none id (same.symm.trans none))) same
  case quiet =>
    refine fun _ => ⟨rfl, fun id => ?_⟩
    dsimp only
    rw [rows]
    split
    next same => rw [same, absent, Option.bind_some, vacant, Option.bind_none]
    next => rfl

/-- The task and the worker of a round, before its window is bound. -/
def watched (watching : Watching) (taskId url conversationId : String) (draws : Draws) :
    ExceptT SupervisorError (Program Database NoAnswer) WorkerRecord := do
  let task ← watchTask watching taskId url conversationId draws
  watchWorker task url conversationId draws

/-- What `watched` leaves: the machine says whether its worker can be bound. -/
def Found (db : Database) (taskId drawn url : String) (worker : WorkerRecord) (after : Database) : Prop :=
  ∃ added, after.workers.find? worker.workerId = some worker ∧
    Effect taskId (.held worker.workerId worker.conversationUrl (worker.status = .active))
      (if added then [drawn] else []) db after ∧
    watch (protocolStateExists db taskId) (ownerOf db taskId) drawn url =
      if worker.status = .active ∧ rstripSlash url = rstripSlash worker.conversationUrl then
        some (.held worker.workerId worker.conversationUrl true, added)
      else none

/-- The part of a round that adds a worker. -/
theorem added_found {conversationId : Option String} {task : TaskRecord} {drawn : String} {now : Time} (owned : Owned db)
    (found : db.tasks.find? taskId = some task) (fresh : Fresh db drawn)
    (renewing : watch (protocolStateExists db taskId) (ownerOf db taskId) drawn url =
      if protocolStateExists db taskId then none else some (Owner.held drawn url true, true)) :
    (∃ error, ((addWorker taskId url conversationId true drawn now).run.alone db).1 = .error error ∧
      watch (protocolStateExists db taskId) (ownerOf db taskId) drawn url = none) ∨
    ∃ worker after, (addWorker taskId url conversationId true drawn now).run.alone db = (.ok worker, after) ∧
      Found db taskId drawn url worker after := by
  cases used : protocolStateExists db taskId with
  | true =>
    obtain ⟨error, raised⟩ := addWorker_refused used
    exact Or.inl ⟨error, by rw [raised], by rw [← used, renewing, used, if_pos rfl]⟩
  | false =>
    obtain ⟨worker, after, done, rfl, rfl, _, present, active, effect⟩ :=
      addWorker_effect url conversationId now owned found used fresh
    refine Or.inr ⟨worker, after, done, true, present, by simpa [active] using effect, ?_⟩
    rw [renewing, used, if_neg Bool.false_ne_true, if_pos ⟨active, rfl⟩]

/-- The current worker already has the conversation. -/
theorem watchWorker_kept {task : TaskRecord} {worker : WorkerRecord} {conversationId : String} {draws : Draws}
    (current : task.currentWorkerId.getD "" ≠ "") (found : db.workers.find? (task.currentWorkerId.getD "") = some worker)
    (same : normalizeUrl worker.conversationUrl = normalizeUrl url) :
    (watchWorker task url conversationId draws).run.alone db = (.ok worker, db) := by
  unfold watchWorker
  dsimp only
  rw [if_neg current, alone_bind_ok (by rw [alone_check, getWorker, found]), if_neg (not_not.mpr same)]
  rfl

/-- The arguments of `register_task` in a round. -/
def watchArgs (watching : Watching) (taskId url conversationId : String) (draws : Draws) : TaskArgs :=
  { taskId := some taskId, project := "chatgpt-autowatch"
    objective := "automatic 25m20 visible-conversation watchdog", cwd := watching.cwd
    conversationUrl := some url, conversationId := some conversationId, generatedTaskId := ""
    generatedWorkerId := draws.workerId, now := draws.now, workerNow := draws.workerNow }

/-- The first round for a conversation. -/
theorem registered_found {watching : Watching} {conversationId : String} {draws : Draws} (owned : Owned db)
    (absent : db.tasks.find? taskId = none) (named : taskId ≠ "") (given : url ≠ "") (fresh : Fresh db draws.workerId) :
    (∃ error, ((watched watching taskId url conversationId draws).run.alone db).1 = .error error ∧
      protocolStateExists db taskId = true) ∨
    ∃ worker after, (watched watching taskId url conversationId draws).run.alone db = (.ok worker, after) ∧
      after.workers.find? draws.workerId = some worker ∧ worker.workerId = draws.workerId ∧ worker.conversationUrl = url ∧
      worker.status = .active ∧ protocolStateExists db taskId = false ∧
      Effect taskId (.held draws.workerId url true) [draws.workerId] db after := by
  have look : ((check (fun db => .ok (db.tasks.find? taskId)) :
      ExceptT SupervisorError (Program Database NoAnswer) (Option TaskRecord))).run.alone db = (.ok none, db) := by
    rw [alone_check, absent]
  obtain ⟨task, taskEq⟩ : ∃ task : TaskRecord, task =
    { taskId, project := "chatgpt-autowatch", objective := "automatic 25m20 visible-conversation watchdog"
      cwd := watching.cwd, state := .queued, createdAt := draws.now, updatedAt := draws.now } := ⟨_, rfl⟩
  have own : task.taskId = taskId := by rw [taskEq]
  obtain ⟨middle, inserted, present, first⟩ := insertTask_effect owned (by rw [own, absent]) (by rw [taskEq])
  rw [own] at present first
  have newer : Fresh middle draws.workerId := first.fresh _ fresh (List.not_mem_nil)
  have kept : protocolStateExists middle taskId = protocolStateExists db taskId := by
    rw [protocolStateExists, first.protocol, protocolStateExists]
  have chosen : (watchArgs watching taskId url conversationId draws).chosenId = taskId := by
    simp [watchArgs, TaskArgs.chosenId, named]
  have start : (registerTask (watchArgs watching taskId url conversationId draws)).run.alone db =
      (do
        let _ ← addWorker taskId url (some conversationId) true draws.workerId draws.workerNow
        check (fun db => getTask db taskId)
      : ExceptT SupervisorError (Program Database NoAnswer) TaskRecord).run.alone middle := by
    unfold registerTask
    rw [chosen, alone_bind_ok (alone_transaction_ok (by rw [← inserted, taskEq]; rfl)),
      alone_bind_ok (by rw [alone_check, getTask, present]), if_neg (by exact given)]
    rfl
  have begin : (watchTask watching taskId url conversationId draws).run.alone db =
      (do
        let task ← registerTask (watchArgs watching taskId url conversationId draws)
        transaction (setCheckpoint taskId draws.checkpointNow)
        pure task
      : ExceptT SupervisorError (Program Database NoAnswer) TaskRecord).run.alone db := by
    unfold watchTask
    rw [alone_bind_ok look]
    rfl
  cases used : protocolStateExists db taskId with
  | true =>
    obtain ⟨error, raised⟩ := addWorker_refused (kept.trans used)
    refine Or.inl ⟨error, ?_, rfl⟩
    rw [alone_bind_error raised] at start
    rw [alone_bind_error start] at begin
    rw [watched, alone_bind_error begin]
  | false =>
    obtain ⟨worker, added, done, own', same, renamed, held, active, second⟩ :=
      addWorker_effect url (some conversationId) draws.workerNow first.owned present (kept.trans used) newer
    obtain ⟨after, noted, workers, third⟩ := setCheckpoint_effect second.owned draws.checkpointNow
    rw [alone_bind_ok done, alone_check, getTask, renamed] at start
    rw [alone_bind_ok start, alone_bind_ok noted] at begin
    refine Or.inr ⟨worker, after, ?_, workers ▸ held, own', same, active, rfl, ?_⟩
    · rw [watched, alone_bind_ok begin]
      exact watchWorker_kept fresh.1 (workers ▸ held) (by rw [same])
    · rw [second.own] at third
      simpa using first.trans (second.trans third)

theorem watched_found {watching : Watching} {conversationId : String} {draws : Draws} (owned : Owned db)
    (named : taskId ≠ "") (given : url ≠ "") (fresh : Fresh db draws.workerId) :
    (∃ error, ((watched watching taskId url conversationId draws).run.alone db).1 = .error error ∧
      watch (protocolStateExists db taskId) (ownerOf db taskId) draws.workerId url = none) ∨
    ∃ worker after, (watched watching taskId url conversationId draws).run.alone db = (.ok worker, after) ∧
      Found db taskId draws.workerId url worker after := by
  cases present : db.tasks.find? taskId with
  | none =>
    have missing : ownerOf db taskId = .missing := by rw [ownerOf, present]
    rw [missing]
    rcases registered_found owned present named given fresh with ⟨error, raised, used⟩ |
      ⟨worker, after, done, held, own, same, active, free, effect⟩
    · exact Or.inl ⟨error, raised, by rw [used]; rfl⟩
    · refine Or.inr ⟨worker, after, done, true, own ▸ held, ?_, ?_⟩
      · rw [own, same]
        simpa [active] using effect
      · rw [missing, free, own, same, if_pos ⟨active, rfl⟩]
        rfl
  | some task =>
    have begin : (watchTask watching taskId url conversationId draws).run.alone db = (.ok task, db) := by
      unfold watchTask
      rw [alone_bind_ok (by rw [alone_check, present])]
      rfl
    rw [watched, alone_bind_ok begin]
    have id : task.taskId = taskId := (Table.find?_some.mp present).2
    by_cases current : task.currentWorkerId.getD "" = ""
    · have idle : ownerOf db taskId = .idle := by simp only [ownerOf, present, if_pos current]
      have adds : watchWorker task url conversationId draws =
          (addWorker taskId url (some conversationId) true draws.workerId draws.workerNow :
            ExceptT SupervisorError (Program Database NoAnswer) WorkerRecord) := by
        unfold watchWorker
        dsimp only
        rw [if_pos current, id]
      rw [adds]
      exact added_found owned present fresh (by rw [idle]; rfl)
    · cases held : db.workers.find? (task.currentWorkerId.getD "") with
      | none =>
        have gone : ownerOf db taskId = .gone := by simp only [ownerOf, present, if_neg current, held]
        refine Or.inl ⟨.key ("unknown worker: " ++ task.currentWorkerId.getD ""), ?_, by rw [gone]; rfl⟩
        unfold watchWorker
        dsimp only
        rw [if_neg current, alone_bind_error (by rw [alone_check, getWorker, held])]
      | some worker =>
        have owner : ownerOf db taskId = .held worker.workerId worker.conversationUrl (worker.status = .active) := by
          simp only [ownerOf, present, if_neg current, held]
        by_cases same : normalizeUrl worker.conversationUrl = normalizeUrl url
        · have own : worker.workerId = task.currentWorkerId.getD "" := (Table.find?_some.mp held).2
          refine Or.inr ⟨worker, db, watchWorker_kept current held same, false, own ▸ held, ?_, ?_⟩
          · rw [← owner]
            exact effect_same owned rfl rfl (fun _ => rfl)
          · rw [owner, watch_same same]
            simp only [decide_eq_true_eq]
        · have adds : (watchWorker task url conversationId draws).run.alone db =
              (addWorker taskId url (some conversationId) true draws.workerId draws.workerNow :
                ExceptT SupervisorError (Program Database NoAnswer) WorkerRecord).run.alone db := by
            unfold watchWorker
            dsimp only
            rw [if_neg current, alone_bind_ok (by rw [alone_check, getWorker, held]), if_pos same, id]
          rw [adds]
          exact added_found owned present fresh (by rw [owner, watch_other same])

end Rounds

/-- The task of a row's conversation. -/
def taskOf (row : DiscoveredRow) : String :=
  autoWatchTaskPrefix ++ lower ((conversationIdFromUrl (strip row.url)).getD "")

/-- A row of a visible conversation, and a browser that the probe knows. -/
structure Seen (watching : Watching) (row : DiscoveredRow) : Prop where
  conversation : conversationIdFromUrl (strip row.url) ≠ none
  handle : 0 < row.windowHandle
  pid : 0 < row.browserPid
  chrome : strip (watching.chromeExecutable.getD "") ≠ ""

/-- The arguments of `bind_worker_window` in a round. -/
def bindArgs (watching : Watching) (row : DiscoveredRow) (worker : WorkerRecord) : BindArgs :=
  { workerId := worker.workerId, windowHandle := row.windowHandle, browserPid := row.browserPid
    chromeExecutable := watching.chromeExecutable.getD "", conversationUrl := strip row.url
    source := "windows_uia_autodiscovery", observedAt := row.observedAt
    ttlS := max 60 (watching.maxBrowserObservationAgeS + 30) }

section Rows
variable {db : Database} {watching : Watching} {row : DiscoveredRow} {draws : Draws}

theorem Seen.given (seen : Seen watching row) : strip row.url ≠ "" := by
  intro empty
  exact seen.conversation (by rw [empty]; rfl)

theorem taskOf_named : taskOf row ≠ "" := by
  intro empty
  have length := congrArg String.length empty
  simp [taskOf, autoWatchTaskPrefix] at length

theorem Seen.accepted {worker : WorkerRecord} (seen : Seen watching row)
    (slashes : rstripSlash (strip row.url) = rstripSlash worker.conversationUrl) :
    (bindArgs watching row worker).accept worker = .ok () := by
  have stripped : strip (strip row.url) ≠ "" := by
    rw [strip_strip]
    exact seen.given
  have positive : ¬ (row.windowHandle ≤ 0 ∨ row.browserPid ≤ 0) := by
    rw [not_or, not_le, not_le]
    exact ⟨seen.handle, seen.pid⟩
  exact (bind_eq_ok _ _ _).mpr ⟨(), (refuse_eq_ok _ _ _).mpr positive,
    (bind_eq_ok _ _ _).mpr ⟨(), (refuse_eq_ok _ _ _).mpr seen.chrome,
      (bind_eq_ok _ _ _).mpr ⟨(), (refuse_eq_ok _ _ _).mpr stripped, (refuse_eq_ok _ _ _).mpr (not_not.mpr slashes)⟩⟩⟩

theorem watchRow_alone (seen : Seen watching row) (owned : Owned db) (fresh : Fresh db draws.workerId) :
    (∃ error, ((watchRow watching row draws).run.alone db).1 = .error error ∧
      watch (protocolStateExists db (taskOf row)) (ownerOf db (taskOf row)) draws.workerId (strip row.url) = none) ∨
    ∃ after owner added, (watchRow watching row draws).run.alone db = (.ok (some (taskOf row)), after) ∧
      watch (protocolStateExists db (taskOf row)) (ownerOf db (taskOf row)) draws.workerId (strip row.url) =
        some (owner, added) ∧
      Effect (taskOf row) owner (if added then [draws.workerId] else []) db after := by
  obtain ⟨conversationId, conversation⟩ := Option.ne_none_iff_exists'.mp seen.conversation
  have unfolded : (watchRow watching row draws).run.alone db =
      (watched watching (taskOf row) (strip row.url) conversationId draws >>= fun worker => do
        let _ ← bindWorkerWindow (bindArgs watching row worker)
        pure (some (taskOf row))).run.alone db := by
    rw [watched, alone_assoc]
    simp only [watchRow, taskOf, conversation, Option.getD_some]
    rfl
  rw [unfolded]
  rcases watched_found owned taskOf_named seen.given fresh with ⟨error, raised, none⟩ | ⟨worker, middle, done, found⟩
  · refine Or.inl ⟨error, ?_, none⟩
    rw [alone_bind_error (Prod.ext raised rfl)]
  · obtain ⟨added, held, effect, machine⟩ := found
    rw [alone_bind_ok done, machine]
    split
    next both =>
      obtain ⟨binding, windowBindings, bound⟩ := bindWorkerWindow_bound (bindArgs watching row worker) held both.1
        (seen.accepted both.2)
      refine Or.inr ⟨{ middle with windowBindings }, _, added, ?_, rfl, ?_⟩
      · rw [alone_bind_ok bound]
        rfl
      · have rest : Effect (taskOf row) (ownerOf middle (taskOf row)) [] middle { middle with windowBindings } :=
          effect_same effect.owned rfl rfl (fun _ => rfl)
        rw [effect.own] at rest
        simpa [both.1] using effect.trans rest
    next neither =>
      obtain ⟨error, raised⟩ := bindWorkerWindow_refused (bindArgs watching row worker) held
        (Classical.not_and_iff_not_or_not.mp neither)
      refine Or.inl ⟨error, ?_, rfl⟩
      rw [alone_bind_error (Prod.ext raised rfl)]

/-- Rows of conversations, and new ids of workers for them. -/
structure Prepared (watching : Watching) (db : Database) (pairs : List (DiscoveredRow × Draws)) : Prop where
  seen : ∀ pair ∈ pairs, Seen watching pair.1
  owned : Owned db
  fresh : ∀ pair ∈ pairs, Fresh db pair.2.workerId
  distinct : (pairs.map (·.2.workerId)).Nodup

variable {pairs rest : List (DiscoveredRow × Draws)} {middle after : Database} {ids : List String} {owner : Owner}
  {added : Bool}

theorem Prepared.next (prepared : Prepared watching db ((row, draws) :: rest))
    (effect : Effect (taskOf row) owner (if added then [draws.workerId] else []) db middle) :
    Prepared watching middle rest := by
  have apart := prepared.distinct
  rw [List.map_cons, List.nodup_cons] at apart
  refine ⟨fun pair member => prepared.seen pair (List.mem_cons_of_mem _ member), effect.owned, fun pair member => ?_, apart.2⟩
  refine effect.fresh _ (prepared.fresh pair (List.mem_cons_of_mem _ member)) fun used => ?_
  have same : pair.2.workerId = draws.workerId := by
    split at used
    next => exact List.mem_singleton.mp used
    next => exact absurd used List.not_mem_nil
  exact apart.1 (same ▸ List.mem_map_of_mem member)

/-- One round of the loop has returned. -/
theorem watchRows_cons (prepared : Prepared watching db ((row, draws) :: rest))
    (done : (watchRows watching ((row, draws) :: rest)).run.alone db = (.ok ids, after)) :
    ∃ later middle owner added, Prepared watching middle rest ∧
      watch (protocolStateExists db (taskOf row)) (ownerOf db (taskOf row)) draws.workerId (strip row.url) =
        some (owner, added) ∧
      Effect (taskOf row) owner (if added then [draws.workerId] else []) db middle ∧
      (watchRows watching rest).run.alone middle = (.ok later, after) := by
  have seen : Seen watching row := prepared.seen (row, draws) List.mem_cons_self
  have fresh : Fresh db draws.workerId := prepared.fresh (row, draws) List.mem_cons_self
  unfold watchRows at done
  rcases watchRow_alone seen prepared.owned fresh with
    ⟨error, raised, none⟩ | ⟨middle, owner, added, first, machine, effect⟩
  · have whole : (watchRow watching row draws).run.alone db =
      (.error error, ((watchRow watching row draws).run.alone db).2) := Prod.ext raised rfl
    rw [alone_bind_error whole] at done
    cases congrArg Prod.fst done
  · rw [alone_bind_ok first] at done
    rcases alone_andThen (watchRows watching rest) (fun discovered => pure ((some (taskOf row)).toList ++ discovered)) middle with
      ⟨later, second, last⟩ | ⟨error, second, last⟩
    · rw [last] at done
      have same := congrArg Prod.snd done
      exact ⟨later, middle, owner, added, prepared.next effect, machine, effect, Prod.ext second same⟩
    · rw [last] at done
      cases congrArg Prod.fst done

/-- What calls that return keep. -/
structure Kept (db : Database) (pairs : List (DiscoveredRow × Draws)) (after : Database) : Prop where
  owned : Owned after
  fresh : ∀ id, Fresh db id → (∀ pair ∈ pairs, pair.2.workerId ≠ id) → Fresh after id
  workers : ∀ id, (db.workers.find? id).isSome = true → (after.workers.find? id).isSome = true

theorem watchRows_kept (prepared : Prepared watching db pairs)
    (done : (watchRows watching pairs).run.alone db = (.ok ids, after)) : Kept db pairs after := by
  induction pairs generalizing db ids with
  | nil =>
    cases congrArg Prod.snd done
    exact ⟨prepared.owned, fun _ fresh _ => fresh, fun _ present => present⟩
  | cons pair rest ih =>
    obtain ⟨later, middle, owner, added, next, _, effect, done⟩ := watchRows_cons prepared done
    have kept := ih next done
    refine ⟨kept.owned, fun id fresh unused => ?_, fun id present =>
      kept.workers id ((effect.workers id).mpr (Or.inl present))⟩
    refine kept.fresh id (effect.fresh id fresh fun used => ?_) fun other member =>
      unused other (List.mem_cons_of_mem _ member)
    split at used
    next => exact unused pair List.mem_cons_self (List.mem_singleton.mp used).symm
    next => exact absurd used List.not_mem_nil

/-- All rows find the worker that they want, when none of them has added one. -/
theorem settled_of_quiet (prepared : Prepared watching db pairs)
    (done : (watchRows watching pairs).run.alone db = (.ok ids, after))
    (quiet : ∀ id, (after.workers.find? id).isSome = true → (db.workers.find? id).isSome = true) :
    ∀ pair ∈ pairs, Settled (ownerOf db (taskOf pair.1)) (strip pair.1.url) := by
  induction pairs generalizing db ids with
  | nil => nofun
  | cons pair rest ih =>
    obtain ⟨later, middle, owner, added, next, machine, effect, rested⟩ := watchRows_cons prepared done
    cases added with
    | true =>
      have held := (watchRows_kept next rested).workers pair.2.workerId ((effect.workers _).mpr (Or.inr (by simp)))
      have absent := (prepared.fresh pair List.mem_cons_self).2.1
      rw [Option.isSome_iff_ne_none] at held
      exact absurd absent (Option.isSome_iff_ne_none.mp (quiet _ (Option.isSome_iff_ne_none.mpr held)))
    | false =>
      have kept := watch_kept machine
      have owners (taskId : String) : ownerOf middle taskId = ownerOf db taskId := by
        by_cases same : taskId = taskOf pair.1
        · rw [same, effect.own, kept]
        · exact effect.others taskId same
      have early (id : String) (present : (after.workers.find? id).isSome = true) : (middle.workers.find? id).isSome = true :=
        (effect.workers id).mpr (Or.inl (quiet id present))
      intro other member
      rcases List.mem_cons.mp member with rfl | member
      · exact kept ▸ settled_of_watch machine
      · exact owners _ ▸ ih next rested early other member

theorem ready_of_run (prepared : Prepared watching db pairs)
    (done : (watchRows watching pairs).run.alone db = (.ok ids, after))
    (same : ∀ one ∈ pairs, ∀ two ∈ pairs, taskOf one.1 = taskOf two.1 → SameSpelling (strip one.1.url) (strip two.1.url)) :
    ∀ pair ∈ pairs, Ready (protocolStateExists db (taskOf pair.1)) (ownerOf db (taskOf pair.1)) (strip pair.1.url) := by
  induction pairs generalizing db ids with
  | nil => nofun
  | cons pair rest ih =>
    obtain ⟨later, middle, owner, added, next, machine, effect, rested⟩ := watchRows_cons prepared done
    have first := watch_isSome.mp ⟨owner, added, machine⟩
    intro other member
    rcases List.mem_cons.mp member with rfl | member
    · exact first
    · by_cases own : taskOf other.1 = taskOf pair.1
      · rw [own]
        exact ready_congr (same _ List.mem_cons_self _ (List.mem_cons_of_mem _ member) own.symm) first
      · have later := ih next rested (fun one here two there =>
          same one (List.mem_cons_of_mem _ here) two (List.mem_cons_of_mem _ there)) other member
        rw [effect.others _ own, protocolStateExists, effect.protocol] at later
        exact later

/-- A round on rows that find the worker that they want only binds windows. -/
theorem watchRows_quiet (prepared : Prepared watching db pairs)
    (settled : ∀ pair ∈ pairs, Settled (ownerOf db (taskOf pair.1)) (strip pair.1.url)) :
    ∃ ids after, (watchRows watching pairs).run.alone db = (.ok ids, after) ∧ after.workers = db.workers ∧
      ∀ taskId, (after.tasks.find? taskId).bind (·.currentWorkerId) = (db.tasks.find? taskId).bind (·.currentWorkerId) := by
  induction pairs generalizing db with
  | nil => exact ⟨[], db, rfl, rfl, fun _ => rfl⟩
  | cons pair rest ih =>
    have here : watch (protocolStateExists db (taskOf pair.1)) (ownerOf db (taskOf pair.1)) pair.2.workerId
        (strip pair.1.url) = some (ownerOf db (taskOf pair.1), false) := watch_settled (settled pair List.mem_cons_self)
    rcases watchRow_alone (prepared.seen _ List.mem_cons_self) prepared.owned (prepared.fresh _ List.mem_cons_self) with
      ⟨error, _, none⟩ | ⟨middle, owner, added, first, machine, effect⟩
    · rw [none] at here
      cases here
    · rw [machine] at here
      cases here
      have owners (taskId : String) : ownerOf middle taskId = ownerOf db taskId := by
        by_cases same : taskId = taskOf pair.1
        · rw [same, effect.own]
        · exact effect.others taskId same
      obtain ⟨ids, after, rested, workers, currents⟩ := ih (prepared.next effect) (fun other member =>
        owners _ ▸ settled other (List.mem_cons_of_mem _ member))
      obtain ⟨early, before⟩ := effect.quiet rfl
      refine ⟨taskOf pair.1 :: ids, after, ?_, workers.trans early, fun taskId => (currents taskId).trans (before taskId)⟩
      rw [watchRows, alone_bind_ok first, alone_bind_ok rested]
      rfl

/-- What a first call leaves. -/
structure Followed (db : Database) (pairs : List (DiscoveredRow × Draws)) (after : Database) : Prop where
  others : ∀ taskId, (∀ pair ∈ pairs, taskOf pair.1 ≠ taskId) → ownerOf after taskId = ownerOf db taskId
  settled : ∀ pair ∈ pairs, Settled (ownerOf after (taskOf pair.1)) (strip pair.1.url)

theorem watchRows_followed (prepared : Prepared watching db pairs)
    (ready : ∀ pair ∈ pairs, Ready (protocolStateExists db (taskOf pair.1)) (ownerOf db (taskOf pair.1)) (strip pair.1.url))
    (same : ∀ one ∈ pairs, ∀ two ∈ pairs, taskOf one.1 = taskOf two.1 → SameSpelling (strip one.1.url) (strip two.1.url)) :
    ∃ ids after, (watchRows watching pairs).run.alone db = (.ok ids, after) ∧ Followed db pairs after := by
  induction pairs generalizing db with
  | nil => exact ⟨[], db, rfl, fun _ _ => rfl, nofun⟩
  | cons pair rest ih =>
    obtain ⟨owner', added', possible⟩ : ∃ next added, watch (protocolStateExists db (taskOf pair.1))
        (ownerOf db (taskOf pair.1)) pair.2.workerId (strip pair.1.url) = some (next, added) :=
      watch_isSome.mpr (ready pair List.mem_cons_self)
    rcases watchRow_alone (prepared.seen _ List.mem_cons_self) prepared.owned (prepared.fresh _ List.mem_cons_self) with
      ⟨error, _, none⟩ | ⟨middle, owner, added, first, machine, effect⟩
    · rw [none] at possible
      cases possible
    · have settled : Settled owner (strip pair.1.url) := settled_of_watch machine
      have still (other : DiscoveredRow × Draws) (member : other ∈ rest) :
          Ready (protocolStateExists middle (taskOf other.1)) (ownerOf middle (taskOf other.1)) (strip other.1.url) := by
        by_cases own : taskOf other.1 = taskOf pair.1
        · rw [own, effect.own]
          exact ready_of_settled (settled_congr
            (same _ List.mem_cons_self _ (List.mem_cons_of_mem _ member) own.symm) settled)
        · rw [effect.others _ own, protocolStateExists, effect.protocol]
          exact ready other (List.mem_cons_of_mem _ member)
      obtain ⟨ids, after, rested, followed⟩ := ih (prepared.next effect) still (fun one here two there =>
        same one (List.mem_cons_of_mem _ here) two (List.mem_cons_of_mem _ there))
      refine ⟨taskOf pair.1 :: ids, after, ?_, ?_⟩
      · rw [watchRows, alone_bind_ok first, alone_bind_ok rested]
        rfl
      · constructor
        case others =>
          intro taskId apart
          rw [followed.others taskId (fun other member => apart other (List.mem_cons_of_mem _ member)),
            effect.others taskId (fun equal => apart pair List.mem_cons_self equal.symm)]
        case settled =>
          intro other member
          rcases List.mem_cons.mp member with rfl | member
          · by_cases again : ∃ later ∈ rest, taskOf later.1 = taskOf other.1
            · obtain ⟨later, member, own⟩ := again
              rw [← own]
              exact settled_congr (same _ (List.mem_cons_of_mem _ member) _ List.mem_cons_self own)
                (followed.settled later member)
            · rw [followed.others _ (fun later member own => again ⟨later, member, own⟩), effect.own]
              exact settled
          · exact followed.settled other member

end Rows

/-- Two calls with the same rows. Neither raises, each conversation has a task with an
active worker of its own after the first, and the second adds no worker and gives no task
another one. -/
def Stable (watching : Watching) (db : Database) (first again : List (DiscoveredRow × Draws)) : Prop :=
  ∃ ids settled ids' after,
    (syncVisibleConversationWatchers watching (some first)).run.alone db = (.ok ids, settled) ∧
    (syncVisibleConversationWatchers watching (some again)).run.alone settled = (.ok ids', after) ∧
    (∀ pair ∈ first, ∃ task worker, settled.tasks.find? (taskOf pair.1) = some task ∧
      task.currentWorkerId = some worker.workerId ∧ settled.workers.find? worker.workerId = some worker ∧
      worker.taskId = taskOf pair.1 ∧ worker.status = .active) ∧
    (∀ id, (after.workers.find? id).isSome = true → (settled.workers.find? id).isSome = true) ∧
    ∀ taskId, (after.tasks.find? taskId).bind (·.currentWorkerId) = (settled.tasks.find? taskId).bind (·.currentWorkerId)

/-- A round raises on none of the rows, and the windows of one conversation show one spelling. -/
def Steady (db : Database) (rows : List DiscoveredRow) : Prop :=
  (∀ row ∈ rows, Ready (protocolStateExists db (taskOf row)) (ownerOf db (taskOf row)) (strip row.url)) ∧
    ∀ one ∈ rows, ∀ two ∈ rows, taskOf one = taskOf two → SameSpelling (strip one.url) (strip two.url)

section Calls
variable {db : Database} {watching : Watching} {first again : List (DiscoveredRow × Draws)}

/-- The current worker that a settled owner stands for. -/
theorem worker_of_settled {taskId url : String} (owned : Owned db) (settled : Settled (ownerOf db taskId) url) :
    ∃ task worker, db.tasks.find? taskId = some task ∧ task.currentWorkerId = some worker.workerId ∧
      db.workers.find? worker.workerId = some worker ∧ worker.taskId = taskId ∧ worker.status = .active := by
  obtain ⟨workerId, registered, held, _⟩ := settled
  unfold ownerOf at held
  split at held
  next => cases held
  next task found =>
    split at held
    next => cases held
    next named =>
      split at held
      next => cases held
      next worker present =>
        have own : worker.workerId = task.currentWorkerId.getD "" := (Table.find?_some.mp present).2
        have active : worker.status = .active := by
          injection held with _ _ active
          exact of_decide_eq_true active
        refine ⟨task, worker, found, ?_, own ▸ present, owned taskId task worker found named present, active⟩
        cases current : task.currentWorkerId with
        | none => exact absurd (by rw [current, Option.getD_none]) named
        | some old => rw [own, current, Option.getD_some]

/-- Repeated discovery is stable exactly when it has one spelling for each conversation
and its first round raises on no row. -/
theorem discovery_stable (prepared : Prepared watching db (first ++ again)) (same : again.map (·.1) = first.map (·.1)) :
    Stable watching db first again ↔ Steady db (first.map (·.1)) := by
  have start : Prepared watching db first :=
    ⟨fun pair member => prepared.seen pair (List.mem_append_left _ member), prepared.owned,
      fun pair member => prepared.fresh pair (List.mem_append_left _ member),
      (List.nodup_append.mp (List.map_append ▸ prepared.distinct)).1⟩
  have resume {settled : Database} (kept : Kept db first settled) : Prepared watching settled again := by
    have distinct := prepared.distinct
    rw [List.map_append, List.nodup_append] at distinct
    refine ⟨fun pair member => prepared.seen pair (List.mem_append_right _ member), kept.owned, fun pair member => ?_, distinct.2.1⟩
    exact kept.fresh _ (prepared.fresh pair (List.mem_append_right _ member)) fun other early =>
      distinct.2.2 _ (List.mem_map_of_mem early) _ (List.mem_map_of_mem member)
  constructor
  · rintro ⟨ids, settled, ids', after, run, rerun, _, quiet, _⟩
    have found := settled_of_quiet (resume (watchRows_kept start run)) rerun quiet
    have settled' (row : DiscoveredRow) (member : row ∈ first.map (·.1)) :
        Settled (ownerOf settled (taskOf row)) (strip row.url) := by
      rw [← same] at member
      obtain ⟨pair, here, rfl⟩ := List.mem_map.mp member
      exact found pair here
    have spelled (one two : DiscoveredRow) (here : one ∈ first.map (·.1)) (there : two ∈ first.map (·.1))
        (equal : taskOf one = taskOf two) : SameSpelling (strip one.url) (strip two.url) := by
      have other := settled' two there
      rw [← equal] at other
      exact same_of_settled (settled' one here) other
    refine ⟨fun row member => ?_, fun one here two there => spelled one two here there⟩
    obtain ⟨pair, here, rfl⟩ := List.mem_map.mp member
    exact ready_of_run start run (fun one here two there =>
      spelled one.1 two.1 (List.mem_map_of_mem here) (List.mem_map_of_mem there)) pair here
  · rintro ⟨ready, spelled⟩
    obtain ⟨ids, settled, run, followed⟩ := watchRows_followed start
      (fun pair member => ready pair.1 (List.mem_map_of_mem member))
      (fun one here two there => spelled one.1 (List.mem_map_of_mem here) two.1 (List.mem_map_of_mem there))
    have kept := watchRows_kept start run
    have waiting (pair : DiscoveredRow × Draws) (member : pair ∈ again) :
        Settled (ownerOf settled (taskOf pair.1)) (strip pair.1.url) := by
      obtain ⟨early, here, equal⟩ := List.mem_map.mp (same ▸ List.mem_map_of_mem member : pair.1 ∈ first.map (·.1))
      exact equal ▸ followed.settled early here
    obtain ⟨ids', after, rerun, workers, currents⟩ := watchRows_quiet (resume kept) waiting
    exact ⟨ids, settled, ids', after, run, rerun, fun pair member => worker_of_settled kept.owned (followed.settled pair member),
      fun id present => workers ▸ present, currents⟩

end Calls

section Example

private def window (path : String) : DiscoveredRow :=
  { url := "https://chatgpt.com" ++ path, windowHandle := 4711, browserPid := 812, observedAt := 1510 }

private def drawing (workerId : String) : Draws := { workerId, now := 1510, workerNow := 1510, checkpointNow := 1510 }

private def chrome : Watching :=
  { cwd := "C:/repo", chromeExecutable := some "C:/chrome.exe", maxBrowserObservationAgeS := 15 }

private def noTasks : Database := {}

private theorem noTasks_prepared {pairs : List (DiscoveredRow × Draws)} (seen : ∀ pair ∈ pairs, Seen chrome pair.1)
    (distinct : (pairs.map (·.2.workerId)).Nodup) (named : ∀ pair ∈ pairs, pair.2.workerId ≠ "") :
    Prepared chrome noTasks pairs := by
  have tasks (taskId : String) : noTasks.tasks.find? taskId = none := rfl
  have workers (workerId : String) : noTasks.workers.find? workerId = none := rfl
  refine ⟨seen, fun taskId task worker found => ?_, fun pair member => ⟨named pair member, workers _, ?_⟩, distinct⟩
  · rw [tasks] at found
    cases found
  · intro taskId task found
    rw [tasks] at found
    cases found

private theorem noTasks_ready {row : DiscoveredRow} :
    Ready (protocolStateExists noTasks (taskOf row)) (ownerOf noTasks (taskOf row)) (strip row.url) := by
  have missing : ownerOf noTasks (taskOf row) = .missing := rfl
  rw [missing]
  rfl

private def plainWindow : DiscoveredRow := window "/c/0123456789abcdef"

private def queryWindow : DiscoveredRow := window "/c/0123456789abcdef?model=auto"

private theorem plainWindow_seen : Seen chrome plainWindow :=
  ⟨by decide +kernel, by decide, by decide, by decide +kernel⟩

private theorem queryWindow_seen : Seen chrome queryWindow :=
  ⟨by decide +kernel, by decide, by decide, by decide +kernel⟩

theorem discovery_stable_window :
    Stable chrome noTasks [(plainWindow, drawing "worker_1")] [(plainWindow, drawing "worker_2")] := by
  have prepared : Prepared chrome noTasks ([(plainWindow, drawing "worker_1")] ++ [(plainWindow, drawing "worker_2")]) :=
    noTasks_prepared (by simp [plainWindow_seen]) (by decide) (by decide)
  refine (discovery_stable prepared rfl).mpr ⟨fun row _ => noTasks_ready, ?_⟩
  intro one here two there _
  cases List.mem_singleton.mp here
  cases List.mem_singleton.mp there
  exact ⟨rfl, rfl⟩

private def bothWindows (one two : String) : List (DiscoveredRow × Draws) :=
  [(plainWindow, drawing one), (queryWindow, drawing two)]

private def afterOne : Database :=
  ((syncVisibleConversationWatchers chrome (some (bothWindows "worker_1" "worker_2"))).run.alone noTasks).2

private def afterTwo : Database :=
  ((syncVisibleConversationWatchers chrome (some (bothWindows "worker_3" "worker_4"))).run.alone afterOne).2

/-- A conversation in two windows, one of which shows a query. Each window takes the task
from the other one's worker. -/
theorem discovery_unstable_spellings :
    ∃ watching db first again, Prepared watching db (first ++ again) ∧ again.map (·.1) = first.map (·.1) ∧
      ¬ Stable watching db first again := by
  refine ⟨chrome, noTasks, bothWindows "worker_1" "worker_2", bothWindows "worker_3" "worker_4",
    noTasks_prepared (by simp [bothWindows, plainWindow_seen, queryWindow_seen]) (by decide) (by decide), rfl, ?_⟩
  rintro ⟨ids, settled, ids', after, run, rerun, _, quiet, _⟩
  have first : settled = afterOne := (congrArg Prod.snd run).symm
  rw [first] at rerun quiet
  have second : after = afterTwo := (congrArg Prod.snd rerun).symm
  rw [second] at quiet
  have added : (afterTwo.workers.find? "worker_3").isSome = true := by decide +kernel
  have new : (afterOne.workers.find? "worker_3").isSome = false := by decide +kernel
  exact Bool.false_ne_true (new.symm.trans (quiet "worker_3" added))

end Example

end WebSupervisor.WatcherSync.Proofs
