import WebSupervisor.WorkerPersistence
import WebSupervisor.Proofs.WorkerProtocolInvariant

/-! When a stored snapshot loads. The two validators of the source are restated
over the rows of the database, and a snapshot whose rows are all stored loads
exactly when both agree. -/

namespace WebSupervisor.WorkerPersistence.Proofs
open Library WorkerProtocol WorkerProtocol.Proofs

theorem mem_workersForTask {db : Database} {taskId : String} {row : WorkerRecord} :
    row ∈ workersForTask db taskId ↔ row ∈ db.workers ∧ row.taskId = taskId := by
  rw [workersForTask, List.mem_insertionSort, List.mem_filter, beq_iff_eq]
  rfl

theorem mem_leasesForTask {db : Database} {taskId : String} {lease : WorkerLease} :
    lease ∈ leasesForTask db taskId ↔ lease ∈ db.protocolLeases ∧ lease.taskId = taskId := by
  rw [leasesForTask, mem_sortedWorkers, List.mem_filter, beq_iff_eq]
  rfl

/-- A worker id names at most one row of a task. -/
theorem find_worker {db : Database} {taskId workerId : String} {row : WorkerRecord} :
    (workersForTask db taskId).find? (·.workerId == workerId) = some row ↔
      row ∈ db.workers ∧ row.taskId = taskId ∧ row.workerId = workerId := by
  constructor
  · intro found
    obtain ⟨member, owned⟩ := mem_workersForTask.mp (List.mem_of_find?_eq_some found)
    exact ⟨member, owned, by simpa using List.find?_some found⟩
  · rintro ⟨member, owned, rfl⟩
    cases found : (workersForTask db taskId).find? (·.workerId == row.workerId) with
    | none =>
      have absent := List.find?_eq_none.mp found row (mem_workersForTask.mpr ⟨member, owned⟩)
      simp at absent
    | some other =>
      have present := (mem_workersForTask.mp (List.mem_of_find?_eq_some found)).1
      rw [Table.eq_of_key present member (by simpa using List.find?_some found)]

theorem find_worker_none {db : Database} {taskId workerId : String} :
    (workersForTask db taskId).find? (·.workerId == workerId) = none ↔
      ∀ row ∈ db.workers, row.taskId = taskId → row.workerId ≠ workerId := by
  simp only [List.find?_eq_none, mem_workersForTask, beq_iff_eq, and_imp]

theorem sameIds_iff {first second : List String} :
    sameIds first second = true ↔ ∀ id, id ∈ first ↔ id ∈ second := by
  simp only [sameIds, Bool.and_eq_true, List.all_eq_true, List.contains_iff_mem]
  exact ⟨fun both id => ⟨both.1 id, both.2 id⟩, fun same => ⟨fun id => (same id).mp, fun id => (same id).mpr⟩⟩

/-- One canonical row and the lease it stands for. -/
structure Agrees (lease : WorkerLease) (row : WorkerRecord) : Prop where
  workerId : row.workerId = lease.workerId
  taskId : row.taskId = lease.taskId
  url : some row.conversationUrl = lease.conversationRef
  started : row.startedAt = lease.registeredAt
  status : row.status = legacyStatus lease.status
  ended : Ended lease.status → row.endedAt ≠ none

/-- The canonical rows of a task describe the same workers as its snapshot. -/
structure Consistent (db : Database) (state : WorkerTaskState) : Prop where
  task : ∃ task ∈ db.tasks, task.taskId = state.taskId ∧ task.currentWorkerId = state.currentWorkerId ∧
    (state.taskStatus = .completed → task.state = .completed) ∧
    (state.taskStatus = .opened → task.state ≠ .completed ∧ task.state ≠ .abandoned)
  workers : ∀ lease ∈ state.workers, ∃ row ∈ db.workers, Agrees lease row
  canonical : ∀ row ∈ db.workers, row.taskId = state.taskId → ∃ lease ∈ state.workers, lease.workerId = row.workerId
  successor : ∀ lease ∈ state.workers, ∀ id, lease.supersededBy = some id →
    ∃ other ∈ state.workers, other.workerId = id

/-- The tasks that the lineage names exist and agree on the root. -/
structure Rooted (db : Database) (state : WorkerTaskState) : Prop where
  root : ∃ task ∈ db.tasks, task.taskId = state.lineage.rootTaskId
  parent : ∀ parent, state.lineage.parentTaskId = some parent →
    (∃ task ∈ db.tasks, task.taskId = parent) ∧
    ∀ row ∈ db.protocolTasks, row.taskId = parent → row.rootTaskId = state.lineage.rootTaskId

theorem find_task_ne_none {db : Database} {taskId : String} :
    ¬ db.tasks.find? taskId = none ↔ ∃ task ∈ db.tasks, task.taskId = taskId := by
  rw [Table.find?_none]
  push Not
  rfl

theorem validateLineageReferences_iff (db : Database) (state : WorkerTaskState) :
    validateLineageReferences db state = .ok () ↔ Rooted db state := by
  have sameRoot (parent : String) : (¬ ∃ row ∈ db.protocolTasks.find? parent, row.rootTaskId ≠ state.lineage.rootTaskId) ↔
      ∀ row ∈ db.protocolTasks, row.taskId = parent → row.rootTaskId = state.lineage.rootTaskId := by
    simp only [Option.mem_def, Table.find?_some, not_exists, not_and, not_not, and_imp]
  simp only [validateLineageReferences, refusePersistence, bind_eq_ok, refuse_eq_ok, find_task_ne_none, exists_const]
  constructor
  · rintro ⟨root, rest⟩
    refine ⟨root, ?_⟩
    intro parent named
    simp only [named, bind_eq_ok, refuse_eq_ok, exists_const, find_task_ne_none, sameRoot] at rest
    exact rest
  · intro rooted
    refine ⟨rooted.root, ?_⟩
    cases named : state.lineage.parentTaskId with
    | none => rfl
    | some parent =>
      simp only [bind_eq_ok, refuse_eq_ok, exists_const, find_task_ne_none, sameRoot]
      exact rooted.parent parent named

private theorem ended_iff (status : WorkerLeaseStatus) : status ∈ [.superseded, .completed, .abandoned] ↔ Ended status := by
  simp [Ended]

private theorem validateLegacyWorker_iff {db : Database} {taskId : String} {ids : List String} {lease : WorkerLease}
    (owned : lease.taskId = taskId) :
    validateLegacyWorker (workersForTask db taskId) ids lease = .ok () ↔
      (∃ row ∈ db.workers, Agrees lease row) ∧ ∀ id, lease.supersededBy = some id → id ∈ ids := by
  unfold validateLegacyWorker
  cases found : (workersForTask db taskId).find? (·.workerId == lease.workerId) with
  | none =>
    simp only [reduceCtorEq, false_iff, not_and]
    rintro ⟨row, member, agrees⟩
    exact absurd agrees.workerId (find_worker_none.mp found row member (agrees.taskId.trans owned))
  | some row =>
    obtain ⟨member, rowOwned, named⟩ := find_worker.mp found
    simp only [refusePersistence, bind_eq_ok, refuse_eq_ok, exists_const, ended_iff, not_and, not_exists, not_not,
      ne_eq, Option.mem_def]
    constructor
    · rintro ⟨taskId, url, started, status, ended, successor⟩
      exact ⟨⟨row, member, named, taskId, url, started, status, ended⟩, successor⟩
    · rintro ⟨⟨other, present, agrees⟩, successor⟩
      obtain rfl := Table.eq_of_key present member (agrees.workerId.trans named.symm)
      exact ⟨agrees.taskId, agrees.url, agrees.started, agrees.status, agrees.ended, successor⟩

theorem validateLegacyConsistency_iff (db : Database) {state : WorkerTaskState}
    (owned : ∀ lease ∈ state.workers, lease.taskId = state.taskId) :
    validateLegacyConsistency db state = .ok () ↔ Consistent db state := by
  have ids : (∀ id, id ∈ (workersForTask db state.taskId).map (·.workerId) ↔ id ∈ state.workers.map (·.workerId)) ↔
      (∀ lease ∈ state.workers, ∃ row ∈ db.workers, row.taskId = state.taskId ∧ row.workerId = lease.workerId) ∧
      ∀ row ∈ db.workers, row.taskId = state.taskId → ∃ lease ∈ state.workers, lease.workerId = row.workerId := by
    simp only [List.mem_map, mem_workersForTask]
    constructor
    · intro same
      refine ⟨fun lease member => ?_, fun row member rowOwned => (same _).mp ⟨row, ⟨member, rowOwned⟩, rfl⟩⟩
      obtain ⟨row, ⟨present, rowOwned⟩, named⟩ := (same _).mpr ⟨lease, member, rfl⟩
      exact ⟨row, present, rowOwned, named⟩
    · rintro ⟨forward, backward⟩ id
      constructor
      · rintro ⟨row, ⟨member, rowOwned⟩, rfl⟩
        exact backward row member rowOwned
      · rintro ⟨lease, member, rfl⟩
        obtain ⟨row, present, rowOwned, named⟩ := forward lease member
        exact ⟨row, ⟨present, rowOwned⟩, named⟩
  have loop : state.workers.forM (validateLegacyWorker (workersForTask db state.taskId) (state.workers.map (·.workerId)))
      = .ok () ↔ ∀ lease ∈ state.workers, (∃ row ∈ db.workers, Agrees lease row) ∧
        ∀ id, lease.supersededBy = some id → ∃ other ∈ state.workers, other.workerId = id := by
    rw [forM_eq_ok]
    refine forall₂_congr fun lease member => ?_
    rw [validateLegacyWorker_iff (owned lease member)]
    simp only [List.mem_map]
  unfold validateLegacyConsistency
  cases found : db.tasks.find? state.taskId with
  | none =>
    simp only [reduceCtorEq, false_iff]
    intro consistent
    obtain ⟨task, member, named, _⟩ := consistent.task
    exact Table.find?_none.mp found task member named
  | some task =>
    obtain ⟨member, named⟩ := Table.find?_some.mp found
    have status : validateTaskState task state = .ok () ↔
        (state.taskStatus = .completed → task.state = .completed) ∧
        (state.taskStatus = .opened → task.state ≠ .completed ∧ task.state ≠ .abandoned) := by
      cases taskStatus : state.taskStatus <;> simp [validateTaskState, refusePersistence, taskStatus]
    simp only [bind_eq_ok, exists_const, status, refusePersistence, refuse_eq_ok, Bool.not_eq_false, sameIds_iff, ids,
      loop, ne_eq, not_not]
    constructor
    · rintro ⟨current, ⟨closed, opened⟩, ⟨_, canonical⟩, each⟩
      exact ⟨⟨task, member, named, current, closed, opened⟩, fun lease present => (each lease present).1, canonical,
        fun lease present => (each lease present).2⟩
    · intro consistent
      obtain ⟨other, present, same, current, closed, opened⟩ := consistent.task
      obtain rfl := Table.eq_of_key present member (same.trans named.symm)
      refine ⟨current, ⟨closed, opened⟩, ⟨fun lease inside => ?_, consistent.canonical⟩, fun lease inside =>
        ⟨consistent.workers lease inside, consistent.successor lease inside⟩⟩
      obtain ⟨row, rowMember, agrees⟩ := consistent.workers lease inside
      exact ⟨row, rowMember, agrees.taskId.trans (owned lease inside), agrees.workerId⟩

end WebSupervisor.WorkerPersistence.Proofs
