import WebSupervisor.Proofs.WorkerPersistenceLoad

/-! The snapshots that the persistence layer accepts, and how they are stored.
A stored snapshot is a function of the rows: loading it returns the same
snapshot as soon as the canonical rows agree. -/

namespace WebSupervisor.WorkerPersistence.Proofs
open Library WorkerProtocol WorkerProtocol.Proofs

/-- What storage needs from a snapshot beyond its validity. -/
structure Sound (state : WorkerTaskState) : Prop where
  valid : Valid state
  sorted : state.workers.Pairwise (fun first second => first.workerId ≤ second.workerId)
  referenced : ∀ lease ∈ state.workers, lease.conversationRef.getD "" ≠ ""
  ended : ∀ lease ∈ state.workers, Ended lease.status → lease.endedAt ≠ none
  successor : ∀ lease ∈ state.workers, ∀ id, lease.supersededBy = some id →
    ∃ other ∈ state.workers, other.workerId = id

theorem pairwise_sortedWorkers (workers : List WorkerLease) :
    (sortedWorkers workers).Pairwise (fun first second => first.workerId ≤ second.workerId) :=
  List.pairwise_insertionSort _ workers

/-- Two sorted lists of distinct leases with the same members are equal. -/
theorem eq_of_sorted {first second : List WorkerLease} (firstDistinct : Distinct first)
    (secondDistinct : Distinct second)
    (firstSorted : first.Pairwise (fun first second => first.workerId ≤ second.workerId))
    (secondSorted : second.Pairwise (fun first second => first.workerId ≤ second.workerId))
    (same : ∀ lease, lease ∈ first ↔ lease ∈ second) : first = second := by
  have perm : first.Perm second :=
    (List.perm_ext_iff_of_nodup firstDistinct.of_map secondDistinct.of_map).mpr same
  apply List.Perm.eq_of_pairwise _ firstSorted secondSorted perm
  intro one other oneMember otherMember below above
  exact secondDistinct.eq ((same one).mp oneMember) otherMember (le_antisymm below above)

/-- The protocol tables hold exactly this snapshot of the task, and no event of
a later revision. -/
structure Stored (db : Database) (state : WorkerTaskState) : Prop where
  sound : Sound state
  row : taskValues state ∈ db.protocolTasks
  leases : ∀ lease, lease ∈ db.protocolLeases ∧ lease.taskId = state.taskId ↔ lease ∈ state.workers
  events : ∀ row ∈ db.protocolEvents, row.event.taskId = state.taskId → row.event.revision ≤ state.revision

theorem Stored.leasesForTask {db : Database} {state : WorkerTaskState} (stored : Stored db state) :
    leasesForTask db state.taskId = state.workers := by
  apply eq_of_sorted _ stored.sound.valid.distinct (pairwise_sortedWorkers _) stored.sound.sorted
  · exact fun lease => mem_leasesForTask.trans (stored.leases lease)
  · apply Distinct.sorted
    exact (List.filter_sublist.map _).nodup db.protocolLeases.distinct

theorem stateFromRow_taskValues (state : WorkerTaskState) : stateFromRow (taskValues state) state.workers = state := rfl

/-- A stored snapshot loads exactly when the other tables agree with it. -/
theorem Stored.load_iff {db : Database} {state : WorkerTaskState} (stored : Stored db state) :
    loadWorkerProtocol db state.taskId = .ok state ↔ Rooted db state ∧ Consistent db state := by
  have found : db.protocolTasks.find? state.taskId = some (taskValues state) :=
    Table.find?_some.mpr ⟨stored.row, rfl⟩
  simp only [loadWorkerProtocol, found, stored.leasesForTask, stateFromRow_taskValues, stored.sound.valid.check,
    bind_eq_ok]
  rw [← validateLineageReferences_iff, ← validateLegacyConsistency_iff db stored.sound.valid.owned]
  constructor
  · rintro ⟨⟨⟩, rooted, ⟨⟩, consistent, _⟩
    exact ⟨rooted, consistent⟩
  · rintro ⟨rooted, consistent⟩
    exact ⟨(), rooted, (), consistent, rfl⟩

/-- What a successful load says about any task. -/
theorem load_consistent {db : Database} {taskId : String} {state : WorkerTaskState}
    (loaded : loadWorkerProtocol db taskId = .ok state) :
    state.taskId = taskId ∧ Valid state ∧ Rooted db state ∧ Consistent db state ∧
      taskValues state ∈ db.protocolTasks ∧ state.workers = leasesForTask db taskId := by
  unfold loadWorkerProtocol at loaded
  split at loaded
  next => split at loaded <;> cases loaded
  next row found =>
    obtain ⟨member, named⟩ := Table.find?_some.mp found
    simp only at loaded
    split at loaded
    next => cases loaded
    next checked =>
      simp only [bind_eq_ok] at loaded
      obtain ⟨⟨⟩, rooted, ⟨⟩, consistent, same⟩ := loaded
      cases same
      have valid := (validateState_iff _).mp checked
      exact ⟨named, valid, (validateLineageReferences_iff _ _).mp rooted,
        (validateLegacyConsistency_iff _ valid.owned).mp consistent, member, rfl⟩

section Changes
variable {state : WorkerTaskState}

/-- A lease of the next snapshot continues an old one or is a new candidate. -/
inductive Source (state : WorkerTaskState) (call : Call) (later : WorkerLease) : Prop where
  | kept (worker : WorkerLease) (member : worker ∈ state.workers) (growth : LeaseGrows worker later)
  | registered (workerId : String) (now : Time) (revision : Int)
      (called : call = .registerWorker workerId later.conversationRef now revision)
      (named : later.workerId = strip workerId) (taskId : later.taskId = state.taskId)
      (candidate : later.status = .candidate)
      (fresh : ∀ worker ∈ state.workers, worker.workerId ≠ later.workerId)

private theorem source_self {call : Call} {worker : WorkerLease} (member : worker ∈ state.workers) :
    Source state call worker :=
  .kept worker member (.refl worker)

private theorem source_replace {call : Call} {worker updated : WorkerLease} (member : worker ∈ state.workers)
    (growth : LeaseGrows worker updated) : ∀ later ∈ replaceWorker state.workers updated, Source state call later := by
  intro later present
  rcases mem_replaceWorker.mp present with ⟨rfl, _⟩ | ⟨old, _⟩
  · exact .kept worker member growth
  · exact source_self old

theorem source_of_change {call : Call} {outcome : Outcome} (valid : Valid state) (change : Change state call outcome) :
    ∀ later ∈ outcome.state.workers, Source state call later := by
  cases change with
  | register isOpen named fresh =>
    intro later member
    rcases List.mem_append.mp (mem_sortedWorkers.mp member) with old | new
    · exact source_self old
    · obtain rfl := List.mem_singleton.mp new
      exact .registered _ _ _ rfl rfl rfl rfl (workerById_none.mp fresh)
  | claim isOpen found candidate idle =>
    exact source_replace (workerById_some found).1 (claimed_grows candidate _ _ _)
  | heartbeat authorized =>
    exact source_replace (workerById_some authorized.found).1 (renewed_grows authorized.active _ _)
  | handoff authorized found status => exact fun later member => source_self member
  | takeover isOpen found status current holder eligible =>
    obtain ⟨oldMember, _, active⟩ := valid.holder current holder
    intro later member
    rcases mem_replaceWorker.mp member with ⟨rfl, _⟩ | ⟨old, _⟩
    · exact .kept _ (workerById_some found).1 (claimed_grows status _ _ _)
    · exact source_replace oldMember (superseded_grows active _ _) later old
  | complete authorized =>
    exact source_replace (workerById_some authorized.found).1 (ended_grows authorized.active (Or.inr (Or.inl rfl)) _)
  | abandon isOpen found current active named held =>
    exact source_replace (workerById_some found).1 (ended_grows active (Or.inr (Or.inr rfl)) _)
  | finish isOpen idle named => exact fun later member => source_self member

private theorem ended_of_change {call : Call} {outcome : Outcome} (sound : Sound state)
    (change : Change state call outcome) : ∀ later ∈ outcome.state.workers,
      (Ended later.status → later.endedAt ≠ none) ∧
      ∀ id, later.supersededBy = some id → ∃ worker ∈ state.workers, worker.workerId = id := by
  have old {lease : WorkerLease} (member : lease ∈ state.workers) := And.intro (sound.ended lease member)
    (sound.successor lease member)
  have replaced {updated : WorkerLease} (facts : (Ended updated.status → updated.endedAt ≠ none) ∧
      ∀ id, updated.supersededBy = some id → ∃ worker ∈ state.workers, worker.workerId = id) :
      ∀ later ∈ replaceWorker state.workers updated, (Ended later.status → later.endedAt ≠ none) ∧
        ∀ id, later.supersededBy = some id → ∃ worker ∈ state.workers, worker.workerId = id := by
    intro later member
    rcases mem_replaceWorker.mp member with ⟨rfl, _⟩ | ⟨present, _⟩
    · exact facts
    · exact old present
  cases change with
  | register isOpen named fresh =>
    intro later member
    rcases List.mem_append.mp (mem_sortedWorkers.mp member) with present | new
    · exact old present
    · obtain rfl := List.mem_singleton.mp new
      simp [Ended]
  | claim isOpen found candidate idle =>
    exact replaced ⟨by simp [claimedLease, Ended], (old (workerById_some found).1).2⟩
  | heartbeat authorized =>
    exact replaced ⟨by simp [renewedLease, authorized.active, Ended], (old (workerById_some authorized.found).1).2⟩
  | handoff authorized found status => exact fun later member => old member
  | takeover isOpen found status current holder eligible =>
    intro later member
    rcases mem_replaceWorker.mp member with ⟨rfl, _⟩ | ⟨present, _⟩
    · exact ⟨by simp [claimedLease, Ended], (old (workerById_some found).1).2⟩
    · refine replaced ⟨by simp [supersededLease], ?_⟩ later present
      rintro id ⟨⟩
      exact ⟨_, workerById_some found⟩
  | complete authorized =>
    exact replaced ⟨by simp [endedLease], (old (workerById_some authorized.found).1).2⟩
  | abandon isOpen found current active named held =>
    exact replaced ⟨by simp [endedLease], (old (workerById_some found).1).2⟩
  | finish isOpen idle named => exact fun later member => old member

private theorem sorted_of_change {call : Call} {outcome : Outcome} (sound : Sound state)
    (change : Change state call outcome) :
    outcome.state.workers.Pairwise (fun first second => first.workerId ≤ second.workerId) := by
  cases change with
  | handoff | finish => exact sound.sorted
  | _ => exact pairwise_sortedWorkers _

/-- The conversation reference that a registration brings. -/
def bringsReference : Call → Prop
  | .registerWorker _ conversationRef _ _ => conversationRef.getD "" ≠ ""
  | _ => True

theorem sound_of_change {call : Call} {outcome : Outcome} (sound : Sound state) (change : Change state call outcome)
    (brings : bringsReference call) : Sound (stamped state outcome.state) := by
  have ended := ended_of_change sound change
  refine ⟨change.valid sound.valid, sorted_of_change sound change, ?_, fun later member => (ended later member).1, ?_⟩
  · intro later member
    cases source_of_change sound.valid change later member with
    | kept worker present growth =>
      rw [growth.conversationRef]
      exact sound.referenced worker present
    | registered workerId now revision called =>
      subst called
      exact brings
  · intro later member id successor
    obtain ⟨worker, present, rfl⟩ := (ended later member).2 id successor
    obtain ⟨lease, inside, growth⟩ := change.leases sound.valid worker present
    exact ⟨lease, inside, growth.workerId⟩

end Changes

end WebSupervisor.WorkerPersistence.Proofs
