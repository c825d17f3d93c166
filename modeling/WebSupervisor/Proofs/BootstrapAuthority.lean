import WebSupervisor.Library.Effects
import WebSupervisor.Proofs.LegacyAgreement

/-! Bootstrap grants nothing. The lease that it derives from a legacy row ends at
its last heartbeat, so no clock is both late enough for the heartbeat and early
enough for the expiry. Only a claim or a takeover makes another lease. -/

namespace WebSupervisor.Registry.Proofs
open Library WorkerProtocol WorkerProtocol.Proofs WorkerPersistence WorkerPersistence.Proofs

/-- An active lease has no time between its last heartbeat and its end. -/
def Dormant (lease : WorkerLease) : Prop :=
  lease.status = .active → ∀ expiry, lease.leaseExpiresAt = some expiry →
    ∃ beat, lease.lastHeartbeatAt = some beat ∧ expiry ≤ beat

section Snapshots
variable {state : WorkerTaskState}

theorem dormant_unauthorized (dormant : ∀ lease ∈ state.workers, Dormant lease) {workerId : String} {generation : Int}
    {now : Time} {worker : WorkerLease} : ¬ Authorized state workerId generation now worker := by
  intro authorized
  obtain ⟨expiry, ends, early⟩ := authorized.fresh
  obtain ⟨beat, beats, ended⟩ := dormant worker (workerById_some authorized.found).1 authorized.active expiry ends
  exact absurd (early.trans_le ended) (not_lt.mpr (authorized.heartbeat beat beats))

private theorem dormant_replaced {workers : List WorkerLease} (dormant : ∀ lease ∈ workers, Dormant lease)
    {updated : WorkerLease} (inactive : updated.status ≠ .active) :
    ∀ lease ∈ replaceWorker workers updated, Dormant lease := by
  intro lease member
  rcases mem_replaceWorker.mp member with ⟨rfl, _⟩ | ⟨old, _⟩
  · exact fun active => absurd active inactive
  · exact dormant lease old

/-- A change that is no claim and no takeover leaves every lease dormant. -/
theorem change_dormant {call : Call} {outcome : Outcome} (change : Change state call outcome)
    (dormant : ∀ lease ∈ state.workers, Dormant lease) (other : grantsLease call = false) :
    ∀ lease ∈ outcome.state.workers, Dormant lease := by
  cases change with
  | register isOpen named fresh =>
    intro lease member
    rcases List.mem_append.mp (mem_sortedWorkers.mp member) with old | new
    · exact dormant lease old
    · obtain rfl := List.mem_singleton.mp new
      exact fun active => nomatch active
  | claim | takeover => cases other
  | heartbeat authorized | handoff authorized | complete authorized =>
    exact absurd authorized (dormant_unauthorized dormant)
  | abandon isOpen found current active named held => exact dormant_replaced dormant (by simp [endedLease])
  | finish isOpen idle named => exact dormant

theorem perform_dormant (valid : Valid state) (dormant : ∀ lease ∈ state.workers, Dormant lease) {call : Call}
    {decision : ProtocolDecision} (decided : perform state call = .ok decision)
    (other : grantsLease call = true → decision.accepted = false) : ∀ lease ∈ decision.state.workers, Dormant lease := by
  rcases perform_spec valid call with (⟨_, raised⟩ | ⟨_, same, unmoved, _⟩) | ⟨outcome, change, same⟩
  · rw [raised] at decided
    cases decided
  · obtain rfl := Except.ok.inj (same.symm.trans decided)
    rw [unmoved]
    exact dormant
  · obtain rfl := Except.ok.inj (same.symm.trans decided)
    refine change_dormant change dormant ?_
    cases takes : grantsLease call with
    | false => rfl
    | true => exact absurd (other takes) (by simp [decision])

theorem refused_without_lease (valid : Valid state) (dormant : ∀ lease ∈ state.workers, Dormant lease) {call : Call}
    {workerId : String} {generation : Int} {now : Time} (needs : needsFreshLease call = some (workerId, generation, now))
    {decision : ProtocolDecision} (decided : perform state call = .ok decision) : decision.accepted = false := by
  cases verdict : decision.accepted with
  | false => rfl
  | true =>
    obtain ⟨outcome, change⟩ := accepted_change valid decided verdict (by rintro _ _ _ _ rfl; cases needs)
    obtain ⟨worker, authorized⟩ := change.authorized needs
    exact absurd authorized (dormant_unauthorized dormant)

end Snapshots

/-- A claim or takeover of the task that is accepted in this database. -/
def Grants (taskId : String) (db : Database) (call : ProtocolCall) : Prop :=
  call.taskId = taskId ∧ grantsLease call.method.call = true ∧
    ∃ decision after, call.transaction db = .ok (decision, after) ∧ decision.accepted = true

/-- One committed write of the registry on any task, under a condition on the
protocol calls. Every method outside the protocol leaves the leases and the event
log as they are and keeps the protocol rows. -/
inductive Written (allowed : Database → ProtocolCall → Prop) (db : Database) : Database → Prop where
  | bootstrap (taskId : String) (parent root childKey : Option String) :
      Written allowed db ((bootstrapWorkerProtocol taskId parent root childKey).after db)
  | protocol (call : ProtocolCall) (fits : allowed db call) : Written allowed db (serve db call)
  | other {after : Database} (leases : after.protocolLeases = db.protocolLeases)
      (events : after.protocolEvents = db.protocolEvents)
      (rows : ∀ row ∈ db.protocolTasks, ∃ kept ∈ after.protocolTasks, kept.taskId = row.taskId) :
      Written allowed db after

/-- Leases and events belong to tasks with a protocol row. -/
structure Housed (db : Database) : Prop where
  leases : ∀ lease ∈ db.protocolLeases, ∃ row ∈ db.protocolTasks, row.taskId = lease.taskId
  events : ∀ row ∈ db.protocolEvents, ∃ task ∈ db.protocolTasks, task.taskId = row.event.taskId

theorem Housed.untouched {db : Database} (housed : Housed db) {taskId : String}
    (missing : protocolStateExists db taskId = false) : Untouched db taskId := by
  have none : ∀ row ∈ db.protocolTasks, row.taskId ≠ taskId := by
    simpa only [protocolStateExists, Option.isSome_eq_false_iff, Option.isNone_iff_eq_none, Table.find?_none] using missing
  refine ⟨none, fun lease member owned => ?_, fun row member owned => ?_⟩
  · obtain ⟨row, present, same⟩ := housed.leases lease member
    exact none row present (same.trans owned)
  · obtain ⟨task, present, same⟩ := housed.events row member
    exact none task present (same.trans owned)

/-- What a bootstrap that returns has read or written. -/
structure FirstSnapshot (db after : Database) (state : WorkerTaskState) : Prop where
  valid : Valid state
  dormant : ∀ lease ∈ state.workers, Dormant lease
  rows : ∀ row, row ∈ after.protocolTasks ↔ row ∈ db.protocolTasks ∨ row = taskValues state
  leases : ∀ lease, lease ∈ after.protocolLeases ↔ lease ∈ state.workers ∨
    lease ∈ db.protocolLeases ∧ ∀ later ∈ state.workers, later.workerId ≠ lease.workerId
  events : after.protocolEvents = db.protocolEvents

theorem leaseFromLegacy_dormant {taskId : String} {row : WorkerRecord} {lease : WorkerLease}
    (derived : leaseFromLegacy taskId row = .ok lease) : Dormant lease := by
  unfold leaseFromLegacy at derived
  split at derived
  next =>
    simp only [bind_eq_ok] at derived
    obtain ⟨_, _, same⟩ := derived
    cases same
    exact fun _ expiry ends => ⟨expiry, ends, le_rfl⟩
  next =>
    simp only [bind_eq_ok] at derived
    obtain ⟨_, _, same⟩ := derived
    cases same
    exact fun active => nomatch active
  next =>
    simp only [bind_eq_ok] at derived
    obtain ⟨_, _, same⟩ := derived
    cases same
    exact fun active => nomatch active
  next => cases derived

theorem bootstrap_snapshot {db after : Database} {taskId : String} {parent root childKey : Option String}
    {state : WorkerTaskState} (booted : bootstrapWorkerProtocol taskId parent root childKey db = .ok (state, after)) :
    protocolStateExists db taskId = true ∧ loadWorkerProtocol db taskId = .ok state ∧ after = db ∨
    protocolStateExists db taskId = false ∧ FirstSnapshot db after state := by
  unfold bootstrapWorkerProtocol at booted
  split at booted
  next present =>
    simp only [bind_eq_ok] at booted
    obtain ⟨stored, loaded, _, _, same⟩ := booted
    cases same
    exact Or.inl ⟨present, loaded, rfl⟩
  next missing =>
    refine Or.inr ⟨by simpa using missing, ?_⟩
    split at booted
    next => cases booted
    next task found =>
      simp only [bind_eq_ok] at booted
      obtain ⟨lineage, _, built, legacy, next, inserted, same⟩ := booted
      cases same
      have valid := (stateFromLegacy_ok legacy).1
      have dormant : ∀ lease ∈ state.workers, Dormant lease := by
        intro lease member
        obtain ⟨row, _, derived⟩ := stateFromLegacy_leases legacy lease member
        exact leaseFromLegacy_dormant derived
      unfold insertProtocolSnapshot at inserted
      split at inserted
      next => cases inserted
      next protocolTasks added =>
        obtain ⟨_, rfl⟩ := upsert_loop.mp inserted
        exact ⟨valid, dormant, fun row => Table.mem_insert? added, mem_upsert_loop _ valid.distinct, rfl⟩

private theorem bootstrap_after (db : Database) (taskId : String) (parent root childKey : Option String) :
    (bootstrapWorkerProtocol taskId parent root childKey).after db = db ∨
    ∃ state, FirstSnapshot db ((bootstrapWorkerProtocol taskId parent root childKey).after db) state := by
  unfold Transaction.after
  split
  next state after booted =>
    rcases bootstrap_snapshot booted with ⟨_, _, same⟩ | ⟨_, fresh⟩
    · exact Or.inl same
    · exact Or.inr ⟨state, fresh⟩
  next => exact Or.inl rfl

private theorem serve_cases (db : Database) (call : ProtocolCall) :
    serve db call = db ∨ ∃ answer previous, call.transaction db = .ok (answer, serve db call) ∧
      perform previous call.method.call = .ok answer ∧ Applied db (serve db call) call.taskId answer previous := by
  unfold serve Transaction.after
  split
  next answer after returned =>
    rcases method_cases call.method call.taskId db with ⟨_, raised⟩ | ⟨_, same⟩
    · rw [ProtocolCall.transaction, raised] at returned
      cases returned
    · obtain ⟨previous, decided, _, ⟨_, rfl⟩ | ⟨_, applied⟩⟩ := applied_cases (same.symm.trans returned)
      · exact Or.inl rfl
      · exact Or.inr ⟨answer, previous, returned, decided, applied⟩
  next => exact Or.inl rfl

theorem Housed.written {db after : Database} {allowed : Database → ProtocolCall → Prop} (housed : Housed db)
    (written : Written allowed db after) : Housed after := by
  cases written with
  | bootstrap taskId parent root childKey =>
    rcases bootstrap_after db taskId parent root childKey with same | ⟨state, booted⟩
    · rw [same]
      exact housed
    · refine ⟨fun lease member => ?_, fun row member => ?_⟩
      · rcases (booted.leases lease).mp member with new | ⟨old, _⟩
        · exact ⟨taskValues state, (booted.rows _).mpr (Or.inr rfl), (booted.valid.owned lease new).symm⟩
        · obtain ⟨row, present, same⟩ := housed.leases lease old
          exact ⟨row, (booted.rows row).mpr (Or.inl present), same⟩
      · rw [booted.events] at member
        obtain ⟨task, present, same⟩ := housed.events row member
        exact ⟨task, (booted.rows task).mpr (Or.inl present), same⟩
  | protocol call fits =>
    rcases serve_cases db call with same | ⟨answer, previous, _, _, applied⟩
    · rw [same]
      exact housed
    · have kept {wanted : String} (held : ∃ row ∈ db.protocolTasks, row.taskId = wanted) :
          ∃ row ∈ (serve db call).protocolTasks, row.taskId = wanted := by
        rw [applied.persisted.protocol]
        exact replaced_key held
      have own : ∃ row ∈ (serve db call).protocolTasks, row.taskId = call.taskId := by
        obtain ⟨named, _, _, _, row, _⟩ := load_consistent applied.loaded
        exact kept ⟨_, row, named⟩
      refine ⟨fun lease member => ?_, fun row member => ?_⟩
      · rcases (applied.persisted.leases lease).mp member with new | ⟨old, _⟩
        · rw [applied.valid.owned lease new, applied.task]
          exact own
        · exact kept (housed.leases lease old)
      · rcases applied.persisted.events row member with old | new
        · exact kept (housed.events row old)
        · rw [(applied.events _ new).1]
          exact own
  | other leases events rows =>
    have kept {wanted : String} (held : ∃ row ∈ db.protocolTasks, row.taskId = wanted) :
        ∃ row ∈ after.protocolTasks, row.taskId = wanted := by
      obtain ⟨row, present, same⟩ := held
      obtain ⟨later, inside, equal⟩ := rows row present
      exact ⟨later, inside, equal.trans same⟩
    refine ⟨fun lease member => ?_, fun row member => ?_⟩
    · rw [leases] at member
      exact kept (housed.leases lease member)
    · rw [events] at member
      exact kept (housed.events row member)

/-- All leases of the task are dormant. -/
def Asleep (taskId : String) (db : Database) : Prop :=
  ∀ lease ∈ db.protocolLeases, lease.taskId = taskId → Dormant lease

/-- Leases of other tasks come and go; those of the task stay dormant until a
claim or takeover of it is accepted. -/
theorem Asleep.written {db after : Database} {taskId : String} (asleep : Asleep taskId db)
    (written : Written (fun db call => ¬ Grants taskId db call) db after) : Asleep taskId after := by
  cases written with
  | bootstrap other parent root childKey =>
    rcases bootstrap_after db other parent root childKey with same | ⟨state, booted⟩
    · rw [same]
      exact asleep
    · intro lease member owned
      rcases (booted.leases lease).mp member with new | ⟨old, _⟩
      · exact booted.dormant lease new
      · exact asleep lease old owned
  | protocol call fits =>
    rcases serve_cases db call with same | ⟨answer, previous, returned, decided, applied⟩
    · rw [same]
      exact asleep
    · intro lease member owned
      rcases (applied.persisted.leases lease).mp member with new | ⟨old, _⟩
      · have called : call.taskId = taskId := by
          rw [← owned, applied.valid.owned lease new, applied.task]
        obtain ⟨_, valid, _, _, _, workers⟩ := load_consistent applied.loaded
        have before : ∀ lease ∈ previous.workers, Dormant lease := by
          intro lease inside
          rw [workers, mem_leasesForTask] at inside
          exact asleep lease inside.1 (inside.2.trans called)
        refine perform_dormant valid before decided (fun takes => ?_) lease new
        by_contra accepted
        exact fits ⟨called, takes, answer, _, returned, by simpa using accepted⟩
      · exact asleep lease old owned
  | other leases events rows =>
    intro lease member owned
    rw [leases] at member
    exact asleep lease member owned

/-- While the leases of a task are dormant, no call that needs a fresh lease is
accepted on it. -/
theorem Asleep.refused {db last : Database} {taskId : String} (asleep : Asleep taskId db) {method : ProtocolMethod}
    {workerId : String} {generation : Int} {now : Time}
    (needs : needsFreshLease method.call = some (workerId, generation, now)) {decision : ProtocolDecision}
    (returned : method.transaction taskId db = .ok (decision, last)) : decision.accepted = false := by
  rcases method_cases method taskId db with ⟨_, raised⟩ | ⟨_, same⟩
  · rw [raised] at returned
    cases returned
  · obtain ⟨previous, decided, loaded, _⟩ := applied_cases (same.symm.trans returned)
    obtain ⟨_, valid, _, _, _, workers⟩ := load_consistent loaded
    refine refused_without_lease valid (fun lease inside => ?_) needs decided
    rw [workers, mem_leasesForTask] at inside
    exact asleep lease inside.1 inside.2

/-- Each step of the task writers is one of these writes, so that their runs, with
check and write interleaved in any way, are covered. -/
theorem task_run_written (taskId : String) (start : Database) (moves : List (Move NoAnswer TaskCall)) :
    Relation.ReflTransGen (Written fun _ _ => True) start
      (run (taskMachine taskId).move { store := start, log := [] } moves).store := by
  have same (db : Database) : Written (fun _ _ => True) db db := .other rfl rfl (fun row member => ⟨row, member, rfl⟩)
  have tables {db after : Database} (tasks : after.protocolTasks = db.protocolTasks)
      (leases : after.protocolLeases = db.protocolLeases) (events : after.protocolEvents = db.protocolEvents) :
      Written (fun _ _ => True) db after :=
    .other leases events (fun row member => ⟨row, tasks ▸ member, rfl⟩)
  have effects (call : TaskCall) : (TaskCall.body taskId call).Effects (Written fun _ _ => True) := by
    cases call with
    | updateState state now =>
      refine .map (.andThen (.check same) (fun _ => .transaction same (fun db value after written => ?_)))
      cases written
      unfold updateTask
      split <;> exact tables rfl rfl rfl
    | addWorker url conversationId makeCurrent workerId now =>
      refine .map (.andThen (.check same) (fun _ => .andThen (.transaction same (fun db value after written => ?_))
        (fun _ => .check same)))
      obtain ⟨tasks, leases, events⟩ := addWorker_tables written
      exact tables tasks leases events
    | setWorkerStatus workerId status now =>
      refine .map (.andThen (.check same) (fun _ => .andThen (.transaction same (fun db value after written => ?_))
        (fun _ => .check same)))
      cases written
      unfold deleteWindowBinding updateWorker
      split <;> split <;> exact tables rfl rfl rfl
    | bootstrap parent root childKey =>
      refine .map (.transaction same (fun db value after booted => ?_))
      have step : Written (fun _ _ => True) db _ := .bootstrap taskId parent root childKey
      rwa [Transaction.after, booted] at step
    | protocol method =>
      refine .map (.transaction same (fun db value after returned => ?_))
      have step : Written (fun _ _ => True) db _ := .protocol ⟨taskId, method⟩ trivial
      rwa [serve, Transaction.after, ProtocolCall.transaction, returned] at step
  exact (run_linked (taskMachine taskId) start moves).stays .refl
    (fun pid before after member reached => reached.tail (run_effects effects member))

/-- Bootstrap raises and changes nothing, or it stores a snapshot that loads as it
is and that a second bootstrap returns. Over a new snapshot no heartbeat, handoff
or completion is accepted at any time, until a claim or takeover of the task. -/
theorem bootstrap_grants_nothing {start db : Database} (leases : start.protocolLeases = .empty)
    (events : start.protocolEvents = .empty) (history : Relation.ReflTransGen (Written fun _ _ => True) start db)
    (taskId : String) (parent root childKey : Option String) :
    let bootstrap := bootstrapWorkerProtocol taskId parent root childKey
    (∀ error, bootstrap db = .error error → bootstrap.after db = db) ∧
    ∀ state after, bootstrap db = .ok (state, after) →
      loadWorkerProtocol after taskId = .ok state ∧
      bootstrapWorkerProtocol taskId none none none after = .ok (state, after) ∧
      (protocolStateExists db taskId = true → after = db) ∧
      (protocolStateExists db taskId = false →
        ∀ later, Relation.ReflTransGen (Written fun db call => ¬ Grants taskId db call) after later →
        ∀ (method : ProtocolMethod) workerId generation now,
          needsFreshLease method.call = some (workerId, generation, now) →
        ∀ decision last, method.transaction taskId later = .ok (decision, last) → decision.accepted = false) := by
  intro bootstrap
  have housed : Housed db := by
    induction history with
    | refl => exact ⟨by simp [leases, Table.mem_def, Table.empty], by simp [events, Table.mem_def, Table.empty]⟩
    | tail _ written ih => exact ih.written written
  refine ⟨fun error raised => by rw [Transaction.after, raised], fun state after booted => ?_⟩
  have loaded : loadWorkerProtocol after taskId = .ok state := by
    rcases bootstrap_snapshot booted with ⟨_, loaded, rfl⟩ | ⟨missing, _⟩
    · exact loaded
    · obtain ⟨durable, rfl⟩ := bootstrap_durable (housed.untouched missing) booted
      exact durable.load
  have present : protocolStateExists after taskId = true := by
    obtain ⟨named, _, _, _, row, _⟩ := load_consistent loaded
    rw [protocolStateExists, Option.isSome_iff_exists]
    exact ⟨_, Table.find?_some.mpr ⟨row, named⟩⟩
  refine ⟨loaded, ?_, ?_, ?_⟩
  · simp [bootstrapWorkerProtocol, present, loaded, requireRequestedLineage, bind, Except.bind, pure, Except.pure]
  · intro stored
    rcases bootstrap_snapshot booted with ⟨_, _, same⟩ | ⟨missing, _⟩
    · exact same
    · rw [stored] at missing
      cases missing
  · intro missing later reached
    have initial : Asleep taskId after := by
      rcases bootstrap_snapshot booted with ⟨stored, _⟩ | ⟨_, fresh⟩
      · rw [stored] at missing
        cases missing
      · intro lease member owned
        rcases (fresh.leases lease).mp member with new | ⟨old, _⟩
        · exact fresh.dormant lease new
        · exact absurd owned ((housed.untouched missing).leases lease old)
    have asleep : Asleep taskId later := by
      induction reached with
      | refl => exact initial
      | tail _ written ih => exact ih.written written
    intro method workerId generation now needs decision last returned
    exact asleep.refused needs returned

/-- A worker last seen before it was started, whose task is bootstrapped and gets
a new candidate. Its heartbeat is refused at a time between the two stamps. -/
theorem bootstrap_grants_nothing_late_start :
    let worker : WorkerRecord :=
      { workerId := "worker", taskId := "task", conversationUrl := "https://chatgpt.com/c/1", status := .active
        startedAt := 9, lastSeenAt := some 5 }
    let start : Database :=
      { tasks := ⟨[{ taskId := "task", state := .running, currentWorkerId := some "worker" }], by decide⟩
        workers := ⟨[worker], by decide⟩ }
    let after := (bootstrapWorkerProtocol "task" none none none).after start
    let later := serve after ⟨"task", .registerWorker "https://chatgpt.com/c/2" 0 (some "next") "worker_2" 6⟩
    let heartbeat := (ProtocolMethod.heartbeatWorker "worker" 1 1 60 7).transaction "task" later
    heartbeat.isOk = true ∧ ∀ decision last, heartbeat = .ok (decision, last) → decision.accepted = false := by
  intro worker start after later heartbeat
  refine ⟨by decide +kernel, ?_⟩
  have missing : protocolStateExists start "task" = false := by decide
  have registered : ¬ Grants "task" after
      ⟨"task", .registerWorker "https://chatgpt.com/c/2" 0 (some "next") "worker_2" 6⟩ := by
    rintro ⟨_, impossible, _⟩
    cases impossible
  have returns : (bootstrapWorkerProtocol "task" none none none start).isOk = true := by decide +kernel
  cases booted : bootstrapWorkerProtocol "task" none none none start with
  | error error =>
    rw [booted] at returns
    cases returns
  | ok pair =>
    obtain ⟨state, stored⟩ := pair
    have reached : stored = after := by simp only [after, Transaction.after, booted]
    obtain ⟨_, _, _, refused⟩ := (bootstrap_grants_nothing rfl rfl .refl "task" none none none).2 state stored booted
    rw [reached] at refused
    exact refused missing later (.single (.protocol _ registered)) _ "worker" 1 7 rfl

end WebSupervisor.Registry.Proofs
