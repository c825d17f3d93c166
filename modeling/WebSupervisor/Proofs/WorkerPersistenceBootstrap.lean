import WebSupervisor.Proofs.WorkerPersistenceStep

/-! Bootstrap stores a durable snapshot of the legacy rows. -/

namespace WebSupervisor.WorkerPersistence.Proofs
open Library WorkerProtocol WorkerProtocol.Proofs

/-- The protocol tables hold nothing of the task. -/
structure Untouched (db : Database) (taskId : String) : Prop where
  tasks : ∀ row ∈ db.protocolTasks, row.taskId ≠ taskId
  leases : ∀ lease ∈ db.protocolLeases, lease.taskId ≠ taskId
  events : ∀ row ∈ db.protocolEvents, row.event.taskId ≠ taskId

/-- The lease that bootstrap derives from a legacy row, and what it keeps. -/
structure Derived (taskId : String) (row : WorkerRecord) (lease : WorkerLease) : Prop where
  workerId : lease.workerId = row.workerId
  taskId : lease.taskId = taskId
  url : lease.conversationRef = some row.conversationUrl
  registered : lease.registeredAt = row.startedAt
  status : row.status = legacyStatus lease.status
  ended : Ended lease.status → row.endedAt ≠ none ∧ lease.endedAt ≠ none
  successor : lease.supersededBy = none

private theorem derived_of_legacy {taskId : String} {row : WorkerRecord} {lease : WorkerLease}
    (derived : leaseFromLegacy taskId row = .ok lease) : Derived taskId row lease := by
  unfold leaseFromLegacy at derived
  split at derived
  next status =>
    simp only [bind_eq_ok] at derived
    obtain ⟨_, _, same⟩ := derived
    cases same
    exact ⟨rfl, rfl, rfl, rfl, status, by simp [Ended], rfl⟩
  next status =>
    simp only [bind_eq_ok, refusePersistence, refuse_eq_ok] at derived
    obtain ⟨_, ended, same⟩ := derived
    cases same
    exact ⟨rfl, rfl, rfl, rfl, status, fun _ => ⟨ended, ended⟩, rfl⟩
  next status =>
    simp only [bind_eq_ok, refusePersistence, refuse_eq_ok] at derived
    obtain ⟨_, ended, same⟩ := derived
    cases same
    exact ⟨rfl, rfl, rfl, rfl, status, fun _ => ⟨ended, ended⟩, rfl⟩
  next => cases derived

theorem stateFromLegacy_ok {task : TaskRecord} {workers : List WorkerRecord} {lineage : TaskLineage}
    {state : WorkerTaskState} (legacy : stateFromLegacy task workers lineage = .ok state) :
    Valid state ∧ state.lineage = lineage ∧ state.revision = 0 ∧ state.currentWorkerId = task.currentWorkerId ∧
    (state.taskStatus = .completed ↔ task.state = .completed) ∧ task.state ≠ .abandoned ∧
    state.workers.Pairwise (fun first second => first.workerId ≤ second.workerId) ∧
    (∀ row ∈ workers, ∃ lease ∈ state.workers, Derived task.taskId row lease) ∧
    ∀ lease ∈ state.workers, ∃ row ∈ workers, Derived task.taskId row lease := by
  simp only [stateFromLegacy, bind_eq_ok] at legacy
  obtain ⟨_, checked, leases, mapped, rest⟩ := legacy
  split at rest
  next => cases rest
  next valid =>
    cases rest
    obtain ⟨forward, backward⟩ := mapM_eq_ok mapped
    have living : task.state ≠ .abandoned := by
      simp only [checkLegacyAuthority, bind_eq_ok, refusePersistence, refuse_eq_ok] at checked
      exact checked.choose_spec.1
    refine ⟨(validateState_iff _).mp valid, rfl, rfl, rfl, by split <;> simp_all, living, pairwise_sortedWorkers _,
      ?_, ?_⟩
    · intro row member
      obtain ⟨lease, inside, derived⟩ := forward row member
      exact ⟨lease, mem_sortedWorkers.mpr inside, derived_of_legacy derived⟩
    · intro lease member
      obtain ⟨row, inside, derived⟩ := backward lease (mem_sortedWorkers.mp member)
      exact ⟨row, inside, derived_of_legacy derived⟩

/-- Every lease of the first snapshot was made from one legacy row. -/
theorem stateFromLegacy_leases {task : TaskRecord} {workers : List WorkerRecord} {lineage : TaskLineage}
    {state : WorkerTaskState} (legacy : stateFromLegacy task workers lineage = .ok state) :
    ∀ lease ∈ state.workers, ∃ row ∈ workers, leaseFromLegacy task.taskId row = .ok lease := by
  simp only [stateFromLegacy, bind_eq_ok] at legacy
  obtain ⟨_, _, leases, mapped, rest⟩ := legacy
  split at rest
  next => cases rest
  next =>
    cases rest
    exact fun lease member => (mapM_eq_ok mapped).2 lease (mem_sortedWorkers.mp member)

/-- A resolved lineage names existing tasks and the root of its parent. -/
theorem resolveLineage_ok {db : Database} {taskId : String} {parent root childKey : Option String}
    {lineage : TaskLineage} (resolved : resolveLineage db taskId parent root childKey = .ok lineage)
    (present : ∃ task ∈ db.tasks, task.taskId = taskId) :
    lineage.taskId = taskId ∧ (∃ task ∈ db.tasks, task.taskId = lineage.rootTaskId) ∧
    ∀ parent, lineage.parentTaskId = some parent → parent ≠ taskId ∧ (∃ task ∈ db.tasks, task.taskId = parent) ∧
      ∀ row ∈ db.protocolTasks, row.taskId = parent → row.rootTaskId = lineage.rootTaskId := by
  simp only [resolveLineage, bind_eq_ok] at resolved
  obtain ⟨key, _, rest⟩ := resolved
  split at rest
  next =>
    simp only [bind_eq_ok] at rest
    obtain ⟨_, _, same⟩ := rest
    cases same
    exact ⟨rfl, present, by simp⟩
  next named =>
    simp only [bind_eq_ok, refusePersistence, refuse_eq_ok, find_task_ne_none] at rest
    obtain ⟨_, different, _, parentTask, root, _, _, _, _, rootTask, _, agreed, same⟩ := rest
    cases same
    refine ⟨rfl, rootTask, ?_⟩
    rintro parent ⟨⟩
    refine ⟨fun equal => different (Or.inr equal), parentTask, fun row member found => ?_⟩
    by_contra wrong
    exact agreed ⟨row, Table.find?_some.mpr ⟨member, found⟩, wrong⟩

/-- A bootstrapped task is durable. -/
theorem bootstrap_durable {db after : Database} {taskId : String} {parent root childKey : Option String}
    {state : WorkerTaskState} (untouched : Untouched db taskId)
    (booted : bootstrapWorkerProtocol taskId parent root childKey db = .ok (state, after)) :
    Durable after state ∧ state.taskId = taskId := by
  have missing : protocolStateExists db taskId = false := by
    simp only [protocolStateExists, Option.isSome_eq_false_iff, Option.isNone_iff_eq_none]
    exact Table.find?_none.mpr untouched.tasks
  simp only [bootstrapWorkerProtocol, missing, Bool.false_eq_true, if_false] at booted
  split at booted
  next => cases booted
  next task found =>
    obtain ⟨member, rfl⟩ := Table.find?_some.mp found
    simp only [bind_eq_ok] at booted
    obtain ⟨lineage, resolved, built, legacy, next, inserted, same⟩ := booted
    cases same
    obtain ⟨valid, sameLineage, revision, current, completed, living, sorted, forward, backward⟩ :=
      stateFromLegacy_ok legacy
    obtain ⟨sameTask, rootTask, parents⟩ := resolveLineage_ok resolved ⟨task, member, rfl⟩
    have named : state.taskId = task.taskId := (congrArg TaskLineage.taskId sameLineage).trans sameTask
    unfold insertProtocolSnapshot at inserted
    split at inserted
    next => cases inserted
    next protocolTasks added =>
      obtain ⟨referenced, rfl⟩ := upsert_loop.mp inserted
      have rows (row : ProtocolTask) := @Table.mem_insert? _ _ _ _ _ _ _ row added
      refine ⟨⟨⟨⟨valid, sorted, referenced, ?_, ?_⟩, ?_, ?_, ?_⟩, ⟨?_, ?_⟩, ⟨⟨task, member, named.symm, current.symm,
        completed.mp, ?_⟩, ?_, ?_, ?_⟩⟩, named⟩
      · intro lease inside ended
        obtain ⟨row, _, derived⟩ := backward lease inside
        exact (derived.ended ended).2
      · intro lease inside id successor
        obtain ⟨row, _, derived⟩ := backward lease inside
        rw [derived.successor] at successor
        cases successor
      · exact (rows _).mpr (Or.inr rfl)
      · intro lease
        rw [mem_upsert_loop _ valid.distinct, named]
        constructor
        · rintro ⟨new | ⟨old, _⟩, owned⟩
          · exact new
          · exact absurd owned (untouched.leases lease old)
        · exact fun inside => ⟨Or.inl inside, (valid.owned lease inside).trans named⟩
      · exact fun row inside owned => absurd (owned.trans named) (untouched.events row inside)
      · rw [sameLineage]
        exact rootTask
      · rw [sameLineage]
        intro parent chosen
        obtain ⟨different, parentTask, agreed⟩ := parents parent chosen
        refine ⟨parentTask, fun row inside equal => ?_⟩
        rcases (rows row).mp inside with old | rfl
        · exact agreed row old equal
        · exact absurd (equal.symm.trans named) different
      · intro isOpen
        refine ⟨fun closed => ?_, living⟩
        rw [completed.mpr closed] at isOpen
        cases isOpen
      · intro lease inside
        obtain ⟨row, present, derived⟩ := backward lease inside
        obtain ⟨stored, owned⟩ := mem_workersForTask.mp present
        exact ⟨row, stored, derived.workerId.symm, owned.trans derived.taskId.symm, derived.url.symm,
          derived.registered.symm, derived.status, fun ended => (derived.ended ended).1⟩
      · intro row stored owned
        obtain ⟨lease, inside, derived⟩ := forward row (mem_workersForTask.mpr ⟨stored, owned.trans named⟩)
        exact ⟨lease, inside, derived.workerId⟩
      · intro lease inside id successor
        obtain ⟨row, _, derived⟩ := backward lease inside
        rw [derived.successor] at successor
        cases successor

/-- The first snapshot has revision 0 and no events. -/
theorem bootstrap_unlogged {db after : Database} {taskId : String} {parent root childKey : Option String}
    {state : WorkerTaskState} (untouched : Untouched db taskId)
    (booted : bootstrapWorkerProtocol taskId parent root childKey db = .ok (state, after)) :
    after.protocolEvents = db.protocolEvents ∧ state.revision = 0 := by
  have missing : protocolStateExists db taskId = false := by
    simp only [protocolStateExists, Option.isSome_eq_false_iff, Option.isNone_iff_eq_none]
    exact Table.find?_none.mpr untouched.tasks
  simp only [bootstrapWorkerProtocol, missing, Bool.false_eq_true, if_false] at booted
  split at booted
  next => cases booted
  next task found =>
    simp only [bind_eq_ok] at booted
    obtain ⟨lineage, _, built, legacy, next, inserted, same⟩ := booted
    cases same
    unfold insertProtocolSnapshot at inserted
    split at inserted
    next => cases inserted
    next protocolTasks _ =>
      obtain ⟨_, rfl⟩ := upsert_loop.mp inserted
      exact ⟨rfl, (stateFromLegacy_ok legacy).2.2.1⟩

end WebSupervisor.WorkerPersistence.Proofs
