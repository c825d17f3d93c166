import WebSupervisor.Proofs.WorkerPersistenceStored

/-! What the write path of a transition does to each table. The loops are
described by the members of the tables before and after, so that callers never
look at the order of the writes. -/

namespace WebSupervisor.WorkerPersistence.Proofs
open Library WorkerProtocol WorkerProtocol.Proofs

/-- The canonical row that a transition leaves for a lease. -/
def syncedRow (existing : List WorkerRecord) (lease : WorkerLease) : WorkerRecord :=
  syncedWorker (existing.find? (·.workerId == lease.workerId)) lease (lease.conversationRef.getD "")

theorem syncedRow_workerId (existing : List WorkerRecord) (lease : WorkerLease) :
    (syncedRow existing lease).workerId = lease.workerId := by
  unfold syncedRow
  cases found : existing.find? (·.workerId == lease.workerId) with
  | none => rfl
  | some row => simpa [syncedWorker] using List.find?_some found

/-- The checks of one round that do not depend on other tasks. -/
def Admissible (existing : List WorkerRecord) (lease : WorkerLease) : Prop :=
  match existing.find? (·.workerId == lease.workerId) with
  | none => lease.status = .candidate ∧ lease.conversationRef.getD "" ≠ ""
  | some row => row.taskId = lease.taskId ∧ some row.conversationUrl = lease.conversationRef

/-- The records of dispatches and of external mutations are the same. -/
structure SameRecords (before after : Database) : Prop where
  actions : after.actionAttempts = before.actionAttempts
  dispatches : after.childDispatches = before.childDispatches
  replacements : after.replacementAttempts = before.replacementAttempts
  spawns : after.childSpawnAttempts = before.childSpawnAttempts
  probes : after.probeMutationOperations = before.probeMutationOperations

theorem SameRecords.refl (db : Database) : SameRecords db db := ⟨rfl, rfl, rfl, rfl, rfl⟩

theorem SameRecords.trans {first second third : Database} (start : SameRecords first second)
    (rest : SameRecords second third) : SameRecords first third :=
  ⟨rest.actions.trans start.actions, rest.dispatches.trans start.dispatches,
    rest.replacements.trans start.replacements, rest.spawns.trans start.spawns, rest.probes.trans start.probes⟩

/-- The tables that synchronizing the canonical workers leaves alone. -/
structure SameProtocol (before after : Database) : Prop where
  tasks : after.tasks = before.tasks
  protocolTasks : after.protocolTasks = before.protocolTasks
  protocolLeases : after.protocolLeases = before.protocolLeases
  protocolEvents : after.protocolEvents = before.protocolEvents
  records : SameRecords before after

theorem SameProtocol.trans {first second third : Database} (start : SameProtocol first second)
    (rest : SameProtocol second third) : SameProtocol first third :=
  ⟨rest.tasks.trans start.tasks, rest.protocolTasks.trans start.protocolTasks,
    rest.protocolLeases.trans start.protocolLeases, rest.protocolEvents.trans start.protocolEvents,
    start.records.trans rest.records⟩

section Sync
variable {existing : List WorkerRecord}

private theorem write_step {db after : Database} {lease : WorkerLease}
    (known : ∀ row ∈ existing, ∃ old ∈ db.workers, old.workerId = row.workerId)
    (written : writeLegacyWorker existing db lease = .ok after) :
    SameProtocol db after ∧
    (∀ row, row ∈ after.workers ↔
      row = syncedRow existing lease ∨ row ∈ db.workers ∧ lease.workerId ≠ row.workerId) ∧
    (existing.find? (·.workerId == lease.workerId) = none → ∀ row ∈ db.workers, row.workerId ≠ lease.workerId) := by
  unfold writeLegacyWorker at written
  cases found : existing.find? (·.workerId == lease.workerId) with
  | none =>
    have same : syncedRow existing lease = syncedWorker none lease (lease.conversationRef.getD "") := by
      rw [syncedRow, found]
    simp only [found, bind_eq_ok, insertWorker] at written
    obtain ⟨_, _, inserted⟩ := written
    split at inserted
    next => cases inserted
    next workers added =>
      cases inserted
      have fresh := (Table.insert?_some.mp added).1
      refine ⟨⟨rfl, rfl, rfl, rfl, ⟨rfl, rfl, rfl, rfl, rfl⟩⟩, fun row => ?_, fun _ row member => fresh row member⟩
      rw [Table.mem_insert? added, or_comm, same]
      exact or_congr_right ⟨fun member => ⟨member, (fresh row member).symm⟩, fun both => both.1⟩
  | some row =>
    have same : syncedRow existing lease = syncedWorker (some row) lease (lease.conversationRef.getD "") := by
      rw [syncedRow, found]
    simp only [found, bind_eq_ok] at written
    obtain ⟨_, _, _, _, replaced⟩ := written
    cases replaced
    refine ⟨⟨rfl, rfl, rfl, rfl, ⟨rfl, rfl, rfl, rfl, rfl⟩⟩, fun other => ?_, by simp⟩
    obtain ⟨old, member, key⟩ := known row (List.mem_of_find?_eq_some found)
    have present : ∃ old ∈ db.workers, old.workerId = lease.workerId :=
      ⟨old, member, key.trans (by simpa using List.find?_some found)⟩
    rw [Table.mem_replace, ← same, syncedRow_workerId, and_iff_left present, ne_comm]

private theorem write_step_error {db : Database} {lease : WorkerLease} {error : SupervisorError}
    (admissible : Admissible existing lease) (failed : writeLegacyWorker existing db lease = .error error) :
    existing.find? (·.workerId == lease.workerId) = none ∧
      (∃ row ∈ db.workers, row.workerId = lease.workerId) ∧
      error = .integrity "UNIQUE constraint failed: workers.worker_id" := by
  unfold writeLegacyWorker at failed
  unfold Admissible at admissible
  cases found : existing.find? (·.workerId == lease.workerId) with
  | none =>
    simp only [found, bind_eq_error, refusePersistence, refuse_eq_error, insertWorker] at admissible failed
    rcases failed with ⟨bad, _⟩ | ⟨_, _, inserted⟩
    · exact absurd bad (by simp [admissible])
    · split at inserted
      next clash =>
        cases inserted
        exact ⟨rfl, Table.insert?_none.mp clash, rfl⟩
      next => cases inserted
  | some row =>
    simp only [found, bind_eq_error, refusePersistence, refuse_eq_error] at admissible failed
    rcases failed with ⟨bad, _⟩ | ⟨_, _, ⟨bad, _⟩ | ⟨_, _, last⟩⟩
    · exact absurd admissible.1 bad
    · exact absurd admissible.2 bad
    · cases last

private theorem sync_step {db after : Database} {lease : WorkerLease}
    (known : ∀ row ∈ existing, ∃ old ∈ db.workers, old.workerId = row.workerId)
    (synced : syncLegacyWorker existing db lease = .ok after) :
    SameProtocol db after ∧
    (∀ row, row ∈ after.workers ↔
      row = syncedRow existing lease ∨ row ∈ db.workers ∧ lease.workerId ≠ row.workerId) ∧
    (existing.find? (·.workerId == lease.workerId) = none → ∀ row ∈ db.workers, row.workerId ≠ lease.workerId) := by
  simp only [syncLegacyWorker, bind_eq_ok] at synced
  obtain ⟨middle, written, last⟩ := synced
  obtain ⟨same, members, fresh⟩ := write_step known written
  cases last
  split
  · exact ⟨same, members, fresh⟩
  · exact ⟨⟨same.tasks, same.protocolTasks, same.protocolLeases, same.protocolEvents,
      same.records.trans ⟨rfl, rfl, rfl, rfl, rfl⟩⟩, members, fresh⟩

private theorem sync_step_error {db : Database} {lease : WorkerLease} {error : SupervisorError}
    (admissible : Admissible existing lease) (failed : syncLegacyWorker existing db lease = .error error) :
    existing.find? (·.workerId == lease.workerId) = none ∧
      (∃ row ∈ db.workers, row.workerId = lease.workerId) ∧
      error = .integrity "UNIQUE constraint failed: workers.worker_id" := by
  simp only [syncLegacyWorker, bind_eq_error] at failed
  rcases failed with failed | ⟨_, _, last⟩
  · exact write_step_error admissible failed
  · cases last

private theorem known_step {db after : Database} {lease : WorkerLease}
    (known : ∀ row ∈ existing, ∃ old ∈ db.workers, old.workerId = row.workerId)
    (members : ∀ row, row ∈ after.workers ↔
      row = syncedRow existing lease ∨ row ∈ db.workers ∧ lease.workerId ≠ row.workerId) :
    ∀ row ∈ existing, ∃ old ∈ after.workers, old.workerId = row.workerId := by
  intro row present
  obtain ⟨old, member, key⟩ := known row present
  by_cases equal : lease.workerId = old.workerId
  · exact ⟨_, (members _).mpr (Or.inl rfl), (syncedRow_workerId _ _).trans (equal.trans key)⟩
  · exact ⟨old, (members _).mpr (Or.inr ⟨member, equal⟩), key⟩

private theorem distinct_cons {lease : WorkerLease} {leases : List WorkerLease} (distinct : Distinct (lease :: leases)) :
    (∀ later ∈ leases, later.workerId ≠ lease.workerId) ∧ Distinct leases := by
  obtain ⟨apart, tail⟩ := List.nodup_cons.mp distinct
  refine ⟨fun later member equal => apart ?_, tail⟩
  exact List.mem_map.mpr ⟨later, member, equal⟩

private theorem sync_loop {leases : List WorkerLease} {db after : Database} (distinct : Distinct leases)
    (known : ∀ row ∈ existing, ∃ old ∈ db.workers, old.workerId = row.workerId)
    (synced : leases.foldlM (syncLegacyWorker existing) db = .ok after) :
    SameProtocol db after ∧
    (∀ row, row ∈ after.workers ↔ (∃ lease ∈ leases, row = syncedRow existing lease) ∨
      row ∈ db.workers ∧ ∀ lease ∈ leases, lease.workerId ≠ row.workerId) ∧
    ∀ lease ∈ leases, existing.find? (·.workerId == lease.workerId) = none →
      ∀ row ∈ db.workers, row.workerId ≠ lease.workerId := by
  induction leases generalizing db with
  | nil =>
    cases synced
    exact ⟨⟨rfl, rfl, rfl, rfl, .refl _⟩, by simp, by simp⟩
  | cons lease leases ih =>
    rw [List.foldlM_cons, bind_eq_ok] at synced
    obtain ⟨middle, first, rest⟩ := synced
    obtain ⟨same, members, fresh⟩ := sync_step known first
    obtain ⟨other, tail⟩ := distinct_cons distinct
    obtain ⟨restSame, restMembers, restFresh⟩ := ih tail (known_step known members) rest
    refine ⟨same.trans restSame, ?_, ?_⟩
    · intro row
      rw [restMembers, members]
      constructor
      · rintro (⟨item, inside, rfl⟩ | ⟨rfl | ⟨member, different⟩, untouched⟩)
        · exact Or.inl ⟨item, List.mem_cons_of_mem _ inside, rfl⟩
        · exact Or.inl ⟨lease, List.mem_cons_self, rfl⟩
        · exact Or.inr ⟨member, List.forall_mem_cons.mpr ⟨different, untouched⟩⟩
      · rintro (⟨item, inside, rfl⟩ | ⟨member, untouched⟩)
        · rcases List.mem_cons.mp inside with rfl | inside
          · refine Or.inr ⟨Or.inl rfl, fun later member => ?_⟩
            rw [syncedRow_workerId]
            exact other later member
          · exact Or.inl ⟨item, inside, rfl⟩
        · obtain ⟨different, rest⟩ := List.forall_mem_cons.mp untouched
          exact Or.inr ⟨Or.inr ⟨member, different⟩, rest⟩
    · intro item inside absent row member
      rcases List.mem_cons.mp inside with rfl | inside
      · exact fresh absent row member
      · intro equal
        refine restFresh item inside absent row ((members row).mpr (Or.inr ⟨member, ?_⟩)) equal
        exact fun clash => other item inside (equal.symm.trans clash.symm)

private theorem sync_loop_error {leases : List WorkerLease} {db : Database} {error : SupervisorError}
    (distinct : Distinct leases) (known : ∀ row ∈ existing, ∃ old ∈ db.workers, old.workerId = row.workerId)
    (admissible : ∀ lease ∈ leases, Admissible existing lease)
    (failed : leases.foldlM (syncLegacyWorker existing) db = .error error) :
    (∃ lease ∈ leases, existing.find? (·.workerId == lease.workerId) = none ∧
      ∃ row ∈ db.workers, row.workerId = lease.workerId) ∧
    error = .integrity "UNIQUE constraint failed: workers.worker_id" := by
  induction leases generalizing db with
  | nil => cases failed
  | cons lease leases ih =>
    rw [List.foldlM_cons, bind_eq_error] at failed
    rcases failed with first | ⟨middle, first, rest⟩
    · obtain ⟨absent, clash, same⟩ := sync_step_error (admissible lease List.mem_cons_self) first
      exact ⟨⟨lease, List.mem_cons_self, absent, clash⟩, same⟩
    · obtain ⟨_, members, _⟩ := sync_step known first
      obtain ⟨other, tail⟩ := distinct_cons distinct
      obtain ⟨⟨item, inside, absent, row, member, equal⟩, same⟩ := ih tail (known_step known members)
        (fun item member => admissible item (List.mem_cons_of_mem _ member)) rest
      refine ⟨⟨item, List.mem_cons_of_mem _ inside, absent, ?_⟩, same⟩
      rcases (members row).mp member with rfl | ⟨old, _⟩
      · rw [syncedRow_workerId] at equal
        exact absurd equal.symm (other item inside)
      · exact ⟨row, old, equal⟩

end Sync

section Leases

private theorem upsert_step {db after : Database} {lease : WorkerLease} :
    upsertProtocolLease db lease = .ok after ↔
      lease.conversationRef.getD "" ≠ "" ∧ after = { db with protocolLeases := db.protocolLeases.upsert lease } := by
  simp only [upsertProtocolLease, refusePersistence, bind_eq_ok, refuse_eq_ok, exists_const, pure, Except.pure,
    Except.ok.injEq]
  exact and_congr_right fun _ => eq_comm

/-- Storing the leases of a snapshot fails only on a missing reference. -/
theorem upsert_loop {leases : List WorkerLease} {db after : Database} :
    leases.foldlM upsertProtocolLease db = .ok after ↔
      (∀ lease ∈ leases, lease.conversationRef.getD "" ≠ "") ∧
      after = { db with protocolLeases := leases.foldl Table.upsert db.protocolLeases } := by
  induction leases generalizing db with
  | nil => exact ⟨fun same => ⟨by simp, (Except.ok.inj same).symm⟩, fun both => congrArg Except.ok both.2.symm⟩
  | cons lease leases ih =>
    simp only [List.foldlM_cons, bind_eq_ok, upsert_step, ih, List.forall_mem_cons, List.foldl_cons]
    constructor
    · rintro ⟨middle, ⟨first, rfl⟩, rest, same⟩
      exact ⟨⟨first, rest⟩, same⟩
    · rintro ⟨⟨first, rest⟩, same⟩
      exact ⟨_, ⟨first, rfl⟩, rest, same⟩

theorem mem_upsert_loop {leases : List WorkerLease} (table : Table WorkerLease WorkerLease.workerId)
    (distinct : Distinct leases) (lease : WorkerLease) :
    lease ∈ leases.foldl Table.upsert table ↔
      lease ∈ leases ∨ lease ∈ table ∧ ∀ later ∈ leases, later.workerId ≠ lease.workerId := by
  induction leases generalizing table with
  | nil => simp
  | cons first leases ih =>
    obtain ⟨other, tail⟩ := distinct_cons distinct
    rw [List.foldl_cons, ih _ tail, Table.mem_upsert, List.mem_cons, List.forall_mem_cons]
    constructor
    · rintro (later | ⟨rfl | ⟨old, different⟩, untouched⟩)
      · exact Or.inl (Or.inr later)
      · exact Or.inl (Or.inl rfl)
      · exact Or.inr ⟨old, different.symm, untouched⟩
    · rintro ((rfl | later) | ⟨old, different, untouched⟩)
      · exact Or.inr ⟨Or.inl rfl, other⟩
      · exact Or.inl later
      · exact Or.inr ⟨Or.inr ⟨old, different.symm⟩, untouched⟩

end Leases

section Events

theorem indexEvents_event {seen events : List ProtocolEvent} {row : ProtocolEventRow}
    (member : row ∈ indexEvents seen events) : row.event ∈ events := by
  induction events generalizing seen with
  | nil => cases member
  | cons event events ih =>
    rcases List.mem_cons.mp member with rfl | later
    · exact List.mem_cons_self
    · exact List.mem_cons_of_mem _ (ih later)

/-- The indices of one revision continue after those already handed out. -/
theorem indexEvents_bound {seen events : List ProtocolEvent} {revision : Int} {row : ProtocolEventRow}
    (same : ∀ event ∈ events, event.revision = revision) (member : row ∈ indexEvents seen events) :
    seen.countP (·.revision == revision) ≤ row.eventIndex := by
  induction events generalizing seen with
  | nil => cases member
  | cons event events ih =>
    obtain ⟨first, rest⟩ := List.forall_mem_cons.mp same
    rcases List.mem_cons.mp member with rfl | later
    · simp [first]
    · have bound := ih rest later
      rw [List.countP_cons] at bound
      omega

theorem indexEvents_distinct {seen events : List ProtocolEvent} {revision : Int}
    (same : ∀ event ∈ events, event.revision = revision) :
    ((indexEvents seen events).map (·.key)).Nodup := by
  induction events generalizing seen with
  | nil => exact List.nodup_nil
  | cons event events ih =>
    obtain ⟨first, rest⟩ := List.forall_mem_cons.mp same
    refine List.nodup_cons.mpr ⟨?_, ih rest⟩
    intro clash
    obtain ⟨row, member, equal⟩ := List.mem_map.mp clash
    have bound := indexEvents_bound rest member
    have index : row.eventIndex = seen.countP (·.revision == event.revision) := congrArg (fun key => key.2.2) equal
    rw [List.countP_cons, if_pos (by simpa using first)] at bound
    rw [first] at index
    omega

private theorem insert_loop {rows : List ProtocolEventRow} {db after : Database}
    (inserted : rows.foldlM insertEvent db = .ok after) :
    ∃ protocolEvents, after = { db with protocolEvents } ∧ protocolEvents.rows = db.protocolEvents.rows ++ rows := by
  induction rows generalizing db with
  | nil =>
    cases inserted
    exact ⟨after.protocolEvents, rfl, by simp⟩
  | cons row rows ih =>
    rw [List.foldlM_cons, bind_eq_ok] at inserted
    obtain ⟨middle, first, rest⟩ := inserted
    unfold insertEvent at first
    split at first
    next => cases first
    next protocolEvents added =>
      cases first
      obtain ⟨final, same, appended⟩ := ih rest
      refine ⟨final, same, ?_⟩
      rw [appended, (Table.insert?_some.mp added).2, List.append_assoc, List.singleton_append]

private theorem insert_loop_ok {rows : List ProtocolEventRow} (db : Database) (distinct : (rows.map (·.key)).Nodup)
    (fresh : ∀ row ∈ rows, ∀ old ∈ db.protocolEvents, old.key ≠ row.key) :
    ∃ after, rows.foldlM insertEvent db = .ok after := by
  induction rows generalizing db with
  | nil => exact ⟨db, rfl⟩
  | cons row rows ih =>
    obtain ⟨apart, tail⟩ := List.nodup_cons.mp distinct
    obtain ⟨first, rest⟩ := List.forall_mem_cons.mp fresh
    cases added : db.protocolEvents.insert? row with
    | none =>
      obtain ⟨old, member, clash⟩ := Table.insert?_none.mp added
      exact absurd clash (first old member)
    | some middle =>
      have step : insertEvent db row = .ok { db with protocolEvents := middle } := by simp only [insertEvent, added]
      rw [List.foldlM_cons, step]
      refine ih { db with protocolEvents := middle } tail ?_
      intro later member old present clash
      rcases (Table.mem_insert? added).mp present with old | rfl
      · exact rest later member _ old clash
      · exact apart (List.mem_map.mpr ⟨later, member, clash.symm⟩)

theorem appendEvents_rows {db after : Database} {events : List ProtocolEvent}
    (appended : appendEvents db events = .ok after) :
    ∃ protocolEvents, after = { db with protocolEvents } ∧
      protocolEvents.rows = db.protocolEvents.rows ++ indexEvents [] events :=
  insert_loop appended

/-- Events of one new revision can always be appended. -/
theorem appendEvents_ok {db : Database} {events : List ProtocolEvent} {taskId : String} {revision : Int}
    (same : ∀ event ∈ events, event.taskId = taskId ∧ event.revision = revision)
    (older : ∀ row ∈ db.protocolEvents, row.event.taskId = taskId → row.event.revision < revision) :
    ∃ after, appendEvents db events = .ok after := by
  have revisions : ∀ event ∈ events, event.revision = revision := fun event member => (same event member).2
  refine insert_loop_ok db (indexEvents_distinct revisions) ?_
  intro row member old present clash
  obtain ⟨named, stamped⟩ := same _ (indexEvents_event member)
  have sameTask : old.event.taskId = row.event.taskId := congrArg (·.1) clash
  have sameRevision : old.event.revision = row.event.revision := congrArg (fun key => key.2.1) clash
  have below := older old present (sameTask.trans named)
  omega

end Events

/-- The database after a stored decision, table by table. -/
structure Persisted (db after : Database) (decision : ProtocolDecision) : Prop where
  task : ∃ task ∈ db.tasks, task.taskId = decision.state.taskId ∧
    after.tasks = db.tasks.replace (transitionedTask task decision)
  protocol : after.protocolTasks = db.protocolTasks.replace (taskValues decision.state)
  workers : ∀ row, row ∈ after.workers ↔
    (∃ lease ∈ decision.state.workers, row = syncedRow (workersForTask db decision.state.taskId) lease) ∨
    row ∈ db.workers ∧ ∀ lease ∈ decision.state.workers, lease.workerId ≠ row.workerId
  fresh : ∀ lease ∈ decision.state.workers,
    (workersForTask db decision.state.taskId).find? (·.workerId == lease.workerId) = none →
    ∀ row ∈ db.workers, row.workerId ≠ lease.workerId
  leases : ∀ lease, lease ∈ after.protocolLeases ↔ lease ∈ decision.state.workers ∨
    lease ∈ db.protocolLeases ∧ ∀ later ∈ decision.state.workers, later.workerId ≠ lease.workerId
  appended : after.protocolEvents.rows = db.protocolEvents.rows ++ indexEvents [] decision.events
  records : SameRecords db after

theorem Persisted.events {db after : Database} {decision : ProtocolDecision} (persisted : Persisted db after decision) :
    ∀ row ∈ after.protocolEvents, row ∈ db.protocolEvents ∨ row.event ∈ decision.events := by
  intro row member
  rw [Table.mem_def, persisted.appended, List.mem_append] at member
  exact member.imp_right indexEvents_event

private theorem known_workers (db : Database) (taskId : String) :
    ∀ row ∈ workersForTask db taskId, ∃ old ∈ db.workers, old.workerId = row.workerId :=
  fun row member => ⟨row, (mem_workersForTask.mp member).1, rfl⟩

private theorem syncLegacyWorkers_eq_ok {db after : Database} {state : WorkerTaskState} :
    syncLegacyWorkers db state = .ok after ↔
      state.workers.foldlM (syncLegacyWorker (workersForTask db state.taskId)) db = .ok after ∧
      sameIds ((workersForTask after state.taskId).map (·.workerId)) (state.workers.map (·.workerId)) = true := by
  simp only [syncLegacyWorkers, bind_eq_ok, refusePersistence, refuse_eq_ok, Bool.not_eq_false, exists_const, pure,
    Except.pure, Except.ok.injEq]
  constructor
  · rintro ⟨middle, looped, same, rfl⟩
    exact ⟨looped, same⟩
  · rintro ⟨looped, same⟩
    exact ⟨after, looped, same, rfl⟩

/-- What is stored whenever the write path succeeds. -/
theorem persistDecision_ok {db after : Database} {previous : WorkerTaskState} {decision : ProtocolDecision}
    {revision : Int} (distinct : Distinct decision.state.workers)
    (persisted : persistDecision db previous decision revision = .ok after) :
    Persisted db after decision ∧ previous.lineage = decision.state.lineage := by
  simp only [persistDecision, bind_eq_ok] at persisted
  obtain ⟨synced, looped, rest⟩ := persisted
  obtain ⟨same, members, fresh⟩ := sync_loop distinct (known_workers db _) (syncLegacyWorkers_eq_ok.mp looped).1
  split at rest
  next => cases rest
  next task found =>
    obtain ⟨present, named⟩ := Table.find?_some.mp found
    simp only [bind_eq_ok, refusePersistence, refuse_eq_ok, not_not, ne_eq] at rest
    obtain ⟨_, _, middle, upserted, final, appended, _, lineage, last⟩ := rest
    cases last
    obtain ⟨_, rfl⟩ := upsert_loop.mp upserted
    obtain ⟨protocolEvents, rfl, events⟩ := appendEvents_rows appended
    refine ⟨⟨⟨task, same.tasks ▸ present, named, ?_⟩, ?_, members, fresh, ?_, ?_, same.records.trans ?_⟩, lineage⟩
    · simp only [same.tasks]
    · simp only [same.protocolTasks]
    · intro lease
      rw [← same.protocolLeases]
      exact mem_upsert_loop _ distinct lease
    · rw [← same.protocolEvents]
      exact events
    · exact ⟨rfl, rfl, rfl, rfl, rfl⟩

/-- The write path fails only when the id of a new candidate is taken. -/
theorem persistDecision_total {db : Database} {previous : WorkerTaskState} {decision : ProtocolDecision}
    (stored : Stored db previous) (present : ∃ task ∈ db.tasks, task.taskId = decision.state.taskId)
    (lineage : decision.state.lineage = previous.lineage) (sound : Sound decision.state)
    (admissible : ∀ lease ∈ decision.state.workers,
      Admissible (workersForTask db decision.state.taskId) lease)
    (canonical : ∀ row ∈ db.workers, row.taskId = decision.state.taskId →
      ∃ lease ∈ decision.state.workers, lease.workerId = row.workerId)
    (events : ∀ event ∈ decision.events,
      event.taskId = decision.state.taskId ∧ event.revision = previous.revision + 1) :
    (∃ after, persistDecision db previous decision previous.revision = .ok after) ∨
      persistDecision db previous decision previous.revision =
        .error (.integrity "UNIQUE constraint failed: workers.worker_id") ∧
      ∃ lease ∈ decision.state.workers,
        (workersForTask db decision.state.taskId).find? (·.workerId == lease.workerId) = none ∧
        ∃ row ∈ db.workers, row.workerId = lease.workerId := by
  have distinct := sound.valid.distinct
  have known := known_workers db decision.state.taskId
  have sameTask : decision.state.taskId = previous.taskId := congrArg TaskLineage.taskId lineage
  cases looped : decision.state.workers.foldlM (syncLegacyWorker (workersForTask db decision.state.taskId)) db with
  | error error =>
    obtain ⟨clash, rfl⟩ := sync_loop_error distinct known admissible looped
    refine Or.inr ⟨?_, clash⟩
    simp only [persistDecision, syncLegacyWorkers, looped, bind, Except.bind]
  | ok synced =>
    obtain ⟨same, members, _⟩ := sync_loop distinct known looped
    have owned (lease : WorkerLease) (member : lease ∈ decision.state.workers) :
        (syncedRow (workersForTask db decision.state.taskId) lease).taskId = decision.state.taskId := by
      unfold syncedRow
      cases found : (workersForTask db decision.state.taskId).find? (·.workerId == lease.workerId) with
      | none => exact sound.valid.owned lease member
      | some row => exact (find_worker.mp found).2.1
    have ids : sameIds ((workersForTask synced decision.state.taskId).map (·.workerId))
        (decision.state.workers.map (·.workerId)) = true := by
      rw [sameIds_iff]
      intro id
      simp only [List.mem_map, mem_workersForTask, members]
      constructor
      · rintro ⟨row, ⟨⟨lease, inside, rfl⟩ | ⟨old, untouched⟩, rowOwned⟩, rfl⟩
        · exact ⟨lease, inside, (syncedRow_workerId _ _).symm⟩
        · exact canonical row old rowOwned
      · rintro ⟨lease, inside, rfl⟩
        exact ⟨_, ⟨Or.inl ⟨lease, inside, rfl⟩, owned lease inside⟩, syncedRow_workerId _ _⟩
    have synchronized := syncLegacyWorkers_eq_ok.mpr ⟨looped, ids⟩
    obtain ⟨task, member, named⟩ := present
    have found : synced.tasks.find? decision.state.taskId = some task :=
      Table.find?_some.mpr ⟨same.tasks ▸ member, named⟩
    have current : synced.protocolTasks.find? decision.state.taskId = some (taskValues previous) :=
      Table.find?_some.mpr ⟨same.protocolTasks ▸ stored.row, sameTask.symm⟩
    obtain ⟨after, appended⟩ := @appendEvents_ok
      { synced with
        tasks := synced.tasks.replace (transitionedTask task decision)
        protocolTasks := synced.protocolTasks.replace (taskValues decision.state)
        protocolLeases := decision.state.workers.foldl Table.upsert synced.protocolLeases } _ _ _ events (by
      intro row member named
      have bound := stored.events row (same.protocolEvents ▸ member) (named.trans sameTask)
      omega)
    refine Or.inl ⟨after, ?_⟩
    simp only [persistDecision, bind_eq_ok]
    refine ⟨synced, synchronized, ?_⟩
    simp only [found, bind_eq_ok, refusePersistence, refuse_eq_ok, not_not, ne_eq]
    exact ⟨(), by rw [current]; rfl, _, upsert_loop.mpr ⟨sound.referenced, rfl⟩, after, appended, (), lineage.symm, rfl⟩

end WebSupervisor.WorkerPersistence.Proofs
