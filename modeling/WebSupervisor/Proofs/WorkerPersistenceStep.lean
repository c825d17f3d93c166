import WebSupervisor.Proofs.WorkerPersistenceWrite

/-! One durable transition against one pure transition. A stored snapshot stays
stored: by its own transitions as the pure step says, by those of other tasks
without a change. -/

namespace WebSupervisor.WorkerPersistence.Proofs
open Library WorkerProtocol WorkerProtocol.Proofs

/-- The database holds this snapshot and every table agrees with it. -/
structure Durable (db : Database) (state : WorkerTaskState) : Prop where
  stored : Stored db state
  rooted : Rooted db state
  consistent : Consistent db state

theorem Durable.load {db : Database} {state : WorkerTaskState} (durable : Durable db state) :
    loadWorkerProtocol db state.taskId = .ok state :=
  durable.stored.load_iff.mpr ⟨durable.rooted, durable.consistent⟩

theorem replaced_key {ρ κ : Type} [DecidableEq κ] {key : ρ → κ} {table : Table ρ key} {row : ρ} {wanted : κ}
    (present : ∃ old ∈ table, key old = wanted) : ∃ old ∈ table.replace row, key old = wanted := by
  obtain ⟨old, member, rfl⟩ := present
  by_cases same : key old = key row
  · exact ⟨row, Table.mem_replace.mpr (Or.inl ⟨rfl, old, member, same⟩), same.symm⟩
  · exact ⟨old, Table.mem_replace.mpr (Or.inr ⟨member, same⟩), rfl⟩

private theorem Persisted.rooted {db after : Database} {decision : ProtocolDecision} {previous state : WorkerTaskState}
    (persisted : Persisted db after decision) (loaded : taskValues previous ∈ db.protocolTasks)
    (lineage : previous.lineage = decision.state.lineage) (rooted : Rooted db state) : Rooted after state := by
  obtain ⟨task, _, _, tasks⟩ := persisted.task
  refine ⟨tasks ▸ replaced_key rooted.root, ?_⟩
  intro parent named
  obtain ⟨exists_, agreed⟩ := rooted.parent parent named
  refine ⟨tasks ▸ replaced_key exists_, ?_⟩
  intro row member same
  rw [persisted.protocol, Table.mem_replace] at member
  rcases member with ⟨rfl, _⟩ | ⟨old, _⟩
  · have task : previous.taskId = decision.state.taskId := congrArg TaskLineage.taskId lineage
    have root : previous.lineage.rootTaskId = decision.state.lineage.rootTaskId := congrArg TaskLineage.rootTaskId lineage
    exact root.symm.trans (agreed _ loaded (task.trans same))
  · exact agreed row old same

private theorem synced_task {db : Database} {state : WorkerTaskState} (valid : Valid state) {lease : WorkerLease}
    (member : lease ∈ state.workers) : (syncedRow (workersForTask db state.taskId) lease).taskId = state.taskId := by
  unfold syncedRow
  cases found : (workersForTask db state.taskId).find? (·.workerId == lease.workerId) with
  | none => exact valid.owned lease member
  | some row => exact (find_worker.mp found).2.1

private theorem Persisted.apart {db after : Database} {decision : ProtocolDecision}
    (persisted : Persisted db after decision) {lease : WorkerLease} (member : lease ∈ decision.state.workers)
    {row : WorkerRecord} (present : row ∈ db.workers) (other : row.taskId ≠ decision.state.taskId) :
    lease.workerId ≠ row.workerId := by
  intro same
  cases found : (workersForTask db decision.state.taskId).find? (·.workerId == lease.workerId) with
  | none => exact persisted.fresh lease member found row present same.symm
  | some known =>
    obtain ⟨inside, owned, named⟩ := find_worker.mp found
    rw [Table.eq_of_key inside present (named.trans same)] at owned
    exact other owned

/-- A transition of one task leaves the snapshots of other tasks in place. -/
theorem Persisted.frame {db after : Database} {decision : ProtocolDecision} {previous state : WorkerTaskState}
    (persisted : Persisted db after decision) (loaded : taskValues previous ∈ db.protocolTasks)
    (lineage : previous.lineage = decision.state.lineage) (valid : Valid decision.state)
    (events : ∀ event ∈ decision.events, event.taskId = decision.state.taskId)
    (other : decision.state.taskId ≠ state.taskId) (durable : Durable db state) : Durable after state := by
  obtain ⟨stored, rooted, consistent⟩ := durable
  have rowApart {lease : WorkerLease} (inside : lease ∈ decision.state.workers) {worker : WorkerLease}
      (member : worker ∈ state.workers) {row : WorkerRecord} (present : row ∈ db.workers) (agrees : Agrees worker row) :
      lease.workerId ≠ row.workerId := by
    apply persisted.apart inside present
    rw [agrees.taskId, stored.sound.valid.owned worker member]
    exact other.symm
  refine ⟨⟨stored.sound, ?_, ?_, ?_⟩, persisted.rooted loaded lineage rooted, ⟨?_, ?_, ?_, consistent.successor⟩⟩
  · rw [persisted.protocol, Table.mem_replace]
    exact Or.inr ⟨stored.row, other.symm⟩
  · intro lease
    rw [persisted.leases]
    constructor
    · rintro ⟨new | ⟨old, _⟩, owned⟩
      · exact absurd ((valid.owned lease new).symm.trans owned) other
      · exact (stored.leases lease).mp ⟨old, owned⟩
    · intro member
      obtain ⟨old, owned⟩ := (stored.leases lease).mpr member
      obtain ⟨row, present, agrees⟩ := consistent.workers lease member
      refine ⟨Or.inr ⟨old, fun later inside => ?_⟩, owned⟩
      exact agrees.workerId ▸ rowApart inside member present agrees
  · intro row member named
    rcases persisted.events row member with old | new
    · exact stored.events row old named
    · exact absurd ((events _ new).symm.trans named) other
  · obtain ⟨task, member, named, facts⟩ := consistent.task
    obtain ⟨changed, _, changedNamed, tasks⟩ := persisted.task
    refine ⟨task, ?_, named, facts⟩
    rw [tasks, Table.mem_replace]
    refine Or.inr ⟨member, fun same => other ?_⟩
    exact changedNamed.symm.trans (same.symm.trans named)
  · intro lease member
    obtain ⟨row, present, agrees⟩ := consistent.workers lease member
    refine ⟨row, (persisted.workers row).mpr (Or.inr ⟨present, fun later inside => ?_⟩), agrees⟩
    exact rowApart inside member present agrees
  · intro row member owned
    rcases (persisted.workers row).mp member with ⟨lease, inside, rfl⟩ | ⟨old, _⟩
    · exact absurd ((synced_task valid inside).symm.trans owned) other
    · exact consistent.canonical row old owned

section Own
variable {db : Database} {state : WorkerTaskState} {call : Call} {outcome : Outcome}

private theorem stamped_task (change : Change state call outcome) : (stamped state outcome.state).taskId = state.taskId :=
  congrArg TaskLineage.taskId change.lineage

/-- Every canonical row of the task still has a lease after the change. -/
theorem canonical_of_change (durable : Durable db state) (change : Change state call outcome) :
    ∀ row ∈ db.workers, row.taskId = state.taskId → ∃ lease ∈ outcome.state.workers, lease.workerId = row.workerId := by
  intro row member owned
  obtain ⟨worker, present, named⟩ := durable.consistent.canonical row member owned
  obtain ⟨lease, inside, growth⟩ := change.leases durable.stored.sound.valid worker present
  exact ⟨lease, inside, growth.workerId.trans named⟩

theorem lookup_kept (durable : Durable db state) {worker lease : WorkerLease} (member : worker ∈ state.workers)
    (growth : LeaseGrows worker lease) :
    ∃ row, Agrees worker row ∧ (workersForTask db state.taskId).find? (·.workerId == lease.workerId) = some row := by
  obtain ⟨row, present, agrees⟩ := durable.consistent.workers worker member
  refine ⟨row, agrees, find_worker.mpr ⟨present, ?_, agrees.workerId.trans growth.workerId.symm⟩⟩
  exact agrees.taskId.trans (durable.stored.sound.valid.owned worker member)

private theorem lookup_registered (durable : Durable db state) {lease : WorkerLease}
    (fresh : ∀ worker ∈ state.workers, worker.workerId ≠ lease.workerId) :
    (workersForTask db state.taskId).find? (·.workerId == lease.workerId) = none := by
  rw [find_worker_none]
  intro row member owned same
  obtain ⟨worker, present, named⟩ := durable.consistent.canonical row member owned
  exact fresh worker present (named.trans same)

private theorem some_getD {reference : Option String} (present : reference.getD "" ≠ "") :
    some (reference.getD "") = reference := by
  cases reference with
  | none => simp at present
  | some url => rfl

theorem admissible_of_change (durable : Durable db state) (change : Change state call outcome)
    (sound : Sound (stamped state outcome.state)) :
    ∀ lease ∈ outcome.state.workers, Admissible (workersForTask db state.taskId) lease := by
  intro lease member
  cases source_of_change durable.stored.sound.valid change lease member with
  | kept worker present growth =>
    obtain ⟨row, agrees, found⟩ := lookup_kept durable present growth
    rw [Admissible, found]
    exact ⟨agrees.taskId.trans growth.taskId.symm, agrees.url.trans growth.conversationRef.symm⟩
  | registered workerId now revision called named taskId candidate fresh =>
    rw [Admissible, lookup_registered durable fresh]
    exact ⟨candidate, sound.referenced lease member⟩

private theorem agrees_synced (durable : Durable db state) (change : Change state call outcome)
    (sound : Sound (stamped state outcome.state)) :
    ∀ lease ∈ outcome.state.workers, Agrees lease (syncedRow (workersForTask db state.taskId) lease) := by
  intro lease member
  cases source_of_change durable.stored.sound.valid change lease member with
  | kept worker present growth =>
    obtain ⟨row, agrees, found⟩ := lookup_kept durable present growth
    rw [syncedRow, found]
    exact ⟨agrees.workerId.trans growth.workerId.symm, agrees.taskId.trans growth.taskId.symm,
      agrees.url.trans growth.conversationRef.symm, agrees.started.trans growth.registeredAt.symm, rfl,
      sound.ended lease member⟩
  | registered workerId now revision called named taskId candidate fresh =>
    rw [syncedRow, lookup_registered durable fresh]
    exact ⟨rfl, rfl, some_getD (sound.referenced lease member), rfl, rfl, sound.ended lease member⟩

private theorem task_of_change (durable : Durable db state) (change : Change state call outcome)
    {after : Database} (persisted : Persisted db after (decision state outcome)) :
    ∃ task ∈ after.tasks, task.taskId = (stamped state outcome.state).taskId ∧
      task.currentWorkerId = outcome.state.currentWorkerId ∧
      (outcome.state.taskStatus = .completed → task.state = .completed) ∧
      (outcome.state.taskStatus = .opened → task.state ≠ .completed ∧ task.state ≠ .abandoned) := by
  obtain ⟨task, member, named, tasks⟩ := persisted.task
  obtain ⟨canonical, present, same, _, _, opened⟩ := durable.consistent.task
  obtain rfl := Table.eq_of_key member present (named.trans ((stamped_task change).trans same.symm))
  refine ⟨transitionedTask task (decision state outcome), ?_, named, rfl, ?_, ?_⟩
  · rw [tasks, Table.mem_replace]
    exact Or.inl ⟨rfl, task, member, rfl⟩
  · intro completed
    simp [transitionedTask, decision, stamped, completed]
  · intro isOpen
    simpa [transitionedTask, decision, stamped, isOpen] using opened change.opened

/-- A stored change is the next durable snapshot. -/
theorem durable_of_change (durable : Durable db state) (change : Change state call outcome)
    (brings : bringsReference call) {after : Database}
    (persisted : Persisted db after (decision state outcome))
    (events : ∀ event ∈ (decision state outcome).events, event.revision = state.revision + 1) :
    Durable after (stamped state outcome.state) := by
  have sound := sound_of_change durable.stored.sound change brings
  have sameTask := stamped_task change
  have lineage : state.lineage = (decision state outcome).state.lineage := change.lineage.symm
  have kept (row : WorkerRecord) (old : row ∈ db.workers) (owned : row.taskId = state.taskId)
      (untouched : ∀ lease ∈ outcome.state.workers, lease.workerId ≠ row.workerId) : False := by
    obtain ⟨lease, inside, named⟩ := canonical_of_change durable change row old owned
    exact untouched lease inside named
  refine ⟨⟨sound, ?_, ?_, ?_⟩, ?_, ⟨task_of_change durable change persisted, ?_, ?_, sound.successor⟩⟩
  · rw [persisted.protocol, Table.mem_replace]
    exact Or.inl ⟨rfl, taskValues state, durable.stored.row, sameTask.symm⟩
  · intro lease
    rw [persisted.leases]
    constructor
    · rintro ⟨new | ⟨old, untouched⟩, owned⟩
      · exact new
      · have member := (durable.stored.leases lease).mp ⟨old, owned.trans sameTask⟩
        obtain ⟨later, inside, growth⟩ := change.leases durable.stored.sound.valid lease member
        exact absurd growth.workerId (untouched later inside)
    · intro member
      exact ⟨Or.inl member, sound.valid.owned lease member⟩
  · intro row member named
    rcases persisted.events row member with old | new
    · have bound := durable.stored.events row old (named.trans sameTask)
      simp only [stamped]
      omega
    · exact (events _ new).le
  · have rooted := persisted.rooted durable.stored.row lineage durable.rooted
    have same : (stamped state outcome.state).lineage = state.lineage := change.lineage
    exact ⟨same ▸ rooted.root, same ▸ rooted.parent⟩
  · intro lease member
    refine ⟨_, (persisted.workers _).mpr (Or.inl ⟨lease, member, rfl⟩), ?_⟩
    have agrees := agrees_synced durable change sound lease member
    rwa [← sameTask] at agrees
  · intro row member owned
    rcases (persisted.workers row).mp member with ⟨lease, inside, rfl⟩ | ⟨old, untouched⟩
    · exact ⟨lease, inside, (syncedRow_workerId _ _).symm⟩
    · exact (kept row old (owned.trans sameTask) untouched).elim

end Own

end WebSupervisor.WorkerPersistence.Proofs
