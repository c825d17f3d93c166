import WebSupervisor.WorkerProtocol

/-! What a valid snapshot is, in terms of membership instead of the source's
list checks, and how the snapshot operations act on the set of leases. -/

namespace WebSupervisor.WorkerProtocol.Proofs
open Library

theorem mem_sortedWorkers {worker : WorkerLease} {workers : List WorkerLease} :
    worker ∈ sortedWorkers workers ↔ worker ∈ workers :=
  (List.perm_insertionSort _ workers).mem_iff

theorem mem_replaceWorker {worker updated : WorkerLease} {workers : List WorkerLease} :
    worker ∈ replaceWorker workers updated ↔
      worker = updated ∧ (∃ old ∈ workers, old.workerId = updated.workerId) ∨
      worker ∈ workers ∧ worker.workerId ≠ updated.workerId := by
  simp only [replaceWorker, mem_sortedWorkers, List.mem_map]
  constructor
  · rintro ⟨old, member, same⟩
    split at same
    next equal => exact Or.inl ⟨same.symm, old, member, equal⟩
    next different => exact Or.inr ⟨same ▸ member, same ▸ different⟩
  · rintro (⟨rfl, old, member, equal⟩ | ⟨member, different⟩)
    · exact ⟨old, member, by simp [equal]⟩
    · exact ⟨worker, member, by simp [different]⟩

/-- Each worker id has one lease. -/
def Distinct (workers : List WorkerLease) : Prop := (workers.map (·.workerId)).Nodup

theorem Distinct.eq {workers : List WorkerLease} (distinct : Distinct workers) {first second : WorkerLease}
    (firstMember : first ∈ workers) (secondMember : second ∈ workers)
    (same : first.workerId = second.workerId) : first = second :=
  List.inj_on_of_nodup_map distinct firstMember secondMember same

theorem Distinct.sorted {workers : List WorkerLease} (distinct : Distinct workers) :
    Distinct (sortedWorkers workers) :=
  ((List.perm_insertionSort _ workers).map _).nodup_iff.mpr distinct

theorem Distinct.replace {workers : List WorkerLease} (distinct : Distinct workers) (updated : WorkerLease) :
    Distinct (replaceWorker workers updated) := by
  apply Distinct.sorted
  have ids : (workers.map (fun worker => if worker.workerId = updated.workerId then updated else worker)).map
      (·.workerId) = workers.map (·.workerId) := by
    rw [List.map_map]
    apply List.map_congr_left
    intro worker _
    simp only [Function.comp_apply]
    split
    · simp_all
    · rfl
  rw [Distinct, ids]
  exact distinct

theorem Distinct.register {workers : List WorkerLease} (distinct : Distinct workers) (worker : WorkerLease)
    (fresh : ∀ old ∈ workers, old.workerId ≠ worker.workerId) :
    Distinct (sortedWorkers (workers ++ [worker])) := by
  apply Distinct.sorted
  rw [Distinct, List.map_append, List.map_singleton, List.nodup_append]
  refine ⟨distinct, by simp, ?_⟩
  intro id member other singleton same
  obtain ⟨old, present, rfl⟩ := List.mem_map.mp member
  exact fresh old present (same.trans (List.mem_singleton.mp singleton))

theorem workerById_some {state : WorkerTaskState} {workerId : String} {worker : WorkerLease}
    (found : workerById state workerId = some worker) : worker ∈ state.workers ∧ worker.workerId = workerId :=
  ⟨List.mem_of_find?_eq_some found, by simpa using List.find?_some found⟩

theorem workerById_none {state : WorkerTaskState} {workerId : String} :
    workerById state workerId = none ↔ ∀ worker ∈ state.workers, worker.workerId ≠ workerId := by
  simp [workerById]

theorem workerById_of_mem {state : WorkerTaskState} (distinct : Distinct state.workers) {worker : WorkerLease}
    (member : worker ∈ state.workers) : workerById state worker.workerId = some worker := by
  cases found : workerById state worker.workerId with
  | none => exact absurd rfl (workerById_none.mp found worker member)
  | some other =>
    obtain ⟨present, same⟩ := workerById_some found
    rw [distinct.eq present member same]

/-- The clauses of `validateState`. -/
structure Valid (state : WorkerTaskState) : Prop where
  revision : 0 ≤ state.revision
  generation : 0 ≤ state.generation
  root : state.lineage.parentTaskId = none → state.lineage.rootTaskId = state.taskId
  distinct : Distinct state.workers
  owned : ∀ worker ∈ state.workers, worker.taskId = state.taskId
  active : ∀ worker ∈ state.workers, worker.status = .active → state.currentWorkerId = some worker.workerId
  current : ∀ current, state.currentWorkerId = some current → ∃ worker ∈ state.workers,
    worker.workerId = current ∧ worker.status = .active ∧ worker.generation = some state.generation ∧
    worker.leaseExpiresAt ≠ none ∧ 0 < state.generation
  handoff : ∀ target, state.handoffTargetWorkerId = some target →
    state.currentWorkerId ≠ none ∧ state.handoffRequestedAt ≠ none ∧
    ∃ worker ∈ state.workers, worker.workerId = target ∧ worker.status = .candidate
  handoffStamp : state.handoffTargetWorkerId = none → state.handoffRequestedAt = none
  completed : state.taskStatus = .completed →
    state.currentWorkerId = none ∧ state.completedAt ≠ none ∧ state.completionRef.getD "" ≠ ""

private theorem distinct_iff (workers : List WorkerLease) :
    (workers.map (·.workerId)).dedup.length = workers.length ↔ Distinct workers := by
  rw [Distinct, ← List.dedup_eq_self]
  constructor
  · intro same
    exact (List.dedup_sublist _).eq_of_length (by simpa using same)
  · intro same
    rw [same, List.length_map]

private theorem filter_singleton {workers : List WorkerLease} (distinct : Distinct workers) (worker : WorkerLease) :
    workers.filter (fun worker => worker.status == .active) = [worker] ↔
      (worker ∈ workers ∧ worker.status = .active) ∧
      ∀ other ∈ workers, other.status = .active → other = worker := by
  have nodup : (workers.filter (fun worker => worker.status == .active)).Nodup := distinct.of_map.filter _
  constructor
  · intro same
    have inside (other : WorkerLease) : other = worker ↔ other ∈ workers ∧ other.status = .active := by
      rw [← List.mem_singleton, ← same, List.mem_filter, beq_iff_eq]
    exact ⟨(inside worker).mp rfl, fun other member active => (inside other).mpr ⟨member, active⟩⟩
  · rintro ⟨⟨member, active⟩, unique⟩
    apply List.perm_singleton.mp
    rw [List.perm_ext_iff_of_nodup nodup (List.nodup_singleton _)]
    intro other
    simp only [List.mem_filter, beq_iff_eq, List.mem_singleton]
    exact ⟨fun both => unique other both.1 both.2, fun same => same ▸ ⟨member, active⟩⟩

private theorem validateCurrent_iff {state : WorkerTaskState} (distinct : Distinct state.workers) :
    validateCurrent state = .ok () ↔
      (∀ worker ∈ state.workers, worker.status = .active → state.currentWorkerId = some worker.workerId) ∧
      ∀ current, state.currentWorkerId = some current → ∃ worker ∈ state.workers,
        worker.workerId = current ∧ worker.status = .active ∧ worker.generation = some state.generation ∧
        worker.leaseExpiresAt ≠ none ∧ 0 < state.generation := by
  unfold validateCurrent
  cases held : state.currentWorkerId with
  | none => simp [refuseInvariant, List.filter_eq_nil_iff]
  | some current =>
    simp only
    split
    next worker single =>
      obtain ⟨⟨member, active⟩, unique⟩ := (filter_singleton distinct worker).mp single
      simp only [refuseInvariant, bind_eq_ok, refuse_eq_ok]
      constructor
      · rintro ⟨_, same, _, generation, expiry⟩
        refine ⟨fun other present live => by rw [unique other present live]; simp_all, ?_⟩
        rintro _ ⟨⟩
        push Not at same generation
        exact ⟨worker, member, same, active, generation.1, expiry, generation.2⟩
      · rintro ⟨_, holder⟩
        obtain ⟨other, present, same, live, generation, expiry, positive⟩ := holder current rfl
        obtain rfl := unique other present live
        exact ⟨(), by simpa using same, (), by simp [generation, positive], expiry⟩
    next several =>
      simp only [reduceCtorEq, false_iff, not_and]
      intro unique holder
      obtain ⟨worker, member, same, active, _⟩ := holder current rfl
      apply several worker
      refine (filter_singleton distinct worker).mpr ⟨⟨member, active⟩, ?_⟩
      intro other present live
      have equal : current = other.workerId := by simpa using unique other present live
      exact distinct.eq present member (equal ▸ same.symm)

private theorem validateHandoff_iff {state : WorkerTaskState} (distinct : Distinct state.workers) :
    validateHandoff state = .ok () ↔
      (∀ target, state.handoffTargetWorkerId = some target →
        state.currentWorkerId ≠ none ∧ state.handoffRequestedAt ≠ none ∧
        ∃ worker ∈ state.workers, worker.workerId = target ∧ worker.status = .candidate) ∧
      (state.handoffTargetWorkerId = none → state.handoffRequestedAt = none) := by
  unfold validateHandoff
  cases held : state.handoffTargetWorkerId with
  | none => simp [refuseInvariant]
  | some target =>
    have candidate : (workerById state target).map (·.status) = some .candidate ↔
        ∃ worker ∈ state.workers, worker.workerId = target ∧ worker.status = .candidate := by
      constructor
      · intro status
        obtain ⟨worker, found, same⟩ := Option.map_eq_some_iff.mp status
        obtain ⟨member, named⟩ := workerById_some found
        exact ⟨worker, member, named, same⟩
      · rintro ⟨worker, member, rfl, status⟩
        rw [workerById_of_mem distinct member, Option.map_some, status]
    simp [refuseInvariant, candidate, and_assoc]

private theorem validateCompletion_iff {state : WorkerTaskState} :
    validateCompletion state = .ok () ↔ (state.taskStatus = .completed →
      state.currentWorkerId = none ∧ state.completedAt ≠ none ∧ state.completionRef.getD "" ≠ "") := by
  unfold validateCompletion
  split <;> simp_all [refuseInvariant]

theorem validateState_iff (state : WorkerTaskState) : validateState state = .ok () ↔ Valid state := by
  simp only [validateState, refuseInvariant, bind_eq_ok, refuse_eq_ok, exists_const, not_or, not_and, not_not,
    not_exists, not_lt, ne_eq, distinct_iff]
  constructor
  · rintro ⟨⟨revision, generation⟩, root, distinct, owned, ⟨⟩, current, ⟨⟩, handoff, completed⟩
    rw [validateCurrent_iff distinct] at current
    rw [validateHandoff_iff distinct] at handoff
    exact ⟨revision, generation, root, distinct, owned, current.1, current.2, handoff.1, handoff.2,
      validateCompletion_iff.mp completed⟩
  · intro valid
    exact ⟨⟨valid.revision, valid.generation⟩, valid.root, valid.distinct, valid.owned,
      (), (validateCurrent_iff valid.distinct).mpr ⟨valid.active, valid.current⟩,
      (), (validateHandoff_iff valid.distinct).mpr ⟨valid.handoff, valid.handoffStamp⟩,
      validateCompletion_iff.mpr valid.completed⟩

theorem Valid.check {state : WorkerTaskState} (valid : Valid state) : validateState state = .ok () :=
  (validateState_iff state).mpr valid

/-- The holder of the current lease, as the transitions look it up. -/
theorem Valid.holder {state : WorkerTaskState} (valid : Valid state) {workerId : String} {worker : WorkerLease}
    (current : state.currentWorkerId = some workerId) (found : workerById state workerId = some worker) :
    worker ∈ state.workers ∧ worker.workerId = workerId ∧ worker.status = .active := by
  obtain ⟨member, same⟩ := workerById_some found
  obtain ⟨lease, present, named, active, _⟩ := valid.current workerId current
  obtain rfl := valid.distinct.eq member present (same.trans named.symm)
  exact ⟨member, same, active⟩

end WebSupervisor.WorkerProtocol.Proofs
