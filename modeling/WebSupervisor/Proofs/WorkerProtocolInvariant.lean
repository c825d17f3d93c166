import WebSupervisor.Proofs.WorkerProtocolChange

/-! Every change keeps the snapshot valid, so no run of the protocol meets the
invariant error. The same case analysis gives what a change preserves: lineage,
registrations, ended leases, and the order of generations. -/

namespace WebSupervisor.WorkerProtocol.Proofs
open Library

/-- The statuses that no transition leaves. -/
def Ended (status : WorkerLeaseStatus) : Prop :=
  status = .superseded ∨ status = .completed ∨ status = .abandoned

/-- One lease before and after a change. Registration data is immutable, an
assigned generation is kept, and an ended lease is kept as a whole. -/
structure LeaseGrows (before after : WorkerLease) : Prop where
  workerId : after.workerId = before.workerId
  taskId : after.taskId = before.taskId
  conversationRef : after.conversationRef = before.conversationRef
  registeredAt : after.registeredAt = before.registeredAt
  generation : before.status ≠ .candidate → after.generation = before.generation
  started : before.status ≠ .candidate → after.status ≠ .candidate
  ended : Ended before.status → after = before

theorem LeaseGrows.refl (worker : WorkerLease) : LeaseGrows worker worker :=
  ⟨rfl, rfl, rfl, rfl, fun _ => rfl, fun started => started, fun _ => rfl⟩

theorem LeaseGrows.trans {first second third : WorkerLease} (start : LeaseGrows first second)
    (rest : LeaseGrows second third) : LeaseGrows first third := by
  refine ⟨rest.workerId.trans start.workerId, rest.taskId.trans start.taskId,
    rest.conversationRef.trans start.conversationRef, rest.registeredAt.trans start.registeredAt, ?_,
    fun started => rest.started (start.started started), ?_⟩
  · intro started
    exact (rest.generation (start.started started)).trans (start.generation started)
  · intro ended
    have same := start.ended ended
    exact (rest.ended (same ▸ ended)).trans same

/-- The parts of a snapshot that only move forward. -/
structure Grows (before after : WorkerTaskState) : Prop where
  lineage : after.lineage = before.lineage
  revision : before.revision ≤ after.revision
  generation : before.generation ≤ after.generation
  leases : ∀ worker ∈ before.workers, ∃ later ∈ after.workers, LeaseGrows worker later
  closed : before.taskStatus = .completed → after = before

theorem Grows.refl (state : WorkerTaskState) : Grows state state :=
  ⟨rfl, le_rfl, le_rfl, fun worker member => ⟨worker, member, .refl worker⟩, fun _ => rfl⟩

theorem Grows.trans {first second third : WorkerTaskState} (start : Grows first second)
    (rest : Grows second third) : Grows first third := by
  refine ⟨rest.lineage.trans start.lineage, start.revision.trans rest.revision,
    start.generation.trans rest.generation, ?_, ?_⟩
  · intro worker member
    obtain ⟨middle, present, early⟩ := start.leases worker member
    obtain ⟨last, final, late⟩ := rest.leases middle present
    exact ⟨last, final, early.trans late⟩
  · intro closed
    have same := start.closed closed
    exact (rest.closed (same ▸ closed)).trans same

/-- The snapshot that `accept` returns for a change. -/
def stamped (state next : WorkerTaskState) : WorkerTaskState := { next with revision := state.revision + 1 }

section Replacement
variable {state : WorkerTaskState} {worker updated : WorkerLease}

/-- Replacing a lease by a later one keeps every lease growing. -/
theorem replace_grows (valid : Valid state) (member : worker ∈ state.workers) (growth : LeaseGrows worker updated) :
    ∀ lease ∈ state.workers, ∃ later ∈ replaceWorker state.workers updated, LeaseGrows lease later := by
  intro lease present
  by_cases same : lease.workerId = updated.workerId
  · obtain rfl := valid.distinct.eq present member (same.trans growth.workerId)
    exact ⟨updated, mem_replaceWorker.mpr (Or.inl ⟨rfl, lease, present, same⟩), growth⟩
  · exact ⟨lease, mem_replaceWorker.mpr (Or.inr ⟨present, same⟩), .refl lease⟩

theorem replace_owned (valid : Valid state) (owned : updated.taskId = state.taskId) :
    ∀ lease ∈ replaceWorker state.workers updated, lease.taskId = state.taskId := by
  intro lease member
  rcases mem_replaceWorker.mp member with ⟨rfl, _⟩ | ⟨present, _⟩
  · exact owned
  · exact valid.owned lease present

/-- When the current worker ends, no active lease is left. -/
theorem replace_inactive (valid : Valid state) (current : state.currentWorkerId = some updated.workerId)
    (ended : updated.status ≠ .active) :
    ∀ lease ∈ replaceWorker state.workers updated, lease.status ≠ .active := by
  intro lease member
  rcases mem_replaceWorker.mp member with ⟨rfl, _⟩ | ⟨present, different⟩
  · exact ended
  · intro active
    have same := valid.active lease present active
    rw [current] at same
    exact different (Option.some.inj same).symm

end Replacement

theorem claimed_grows {worker : WorkerLease} (candidate : worker.status = .candidate) (generation : Int)
    (now lease : Time) : LeaseGrows worker (claimedLease worker generation now lease) :=
  ⟨rfl, rfl, rfl, rfl, fun started => absurd candidate started, fun started => absurd candidate started,
    fun ended => by rcases ended with same | same | same <;> rw [candidate] at same <;> cases same⟩

private theorem active_grows {worker updated : WorkerLease} (active : worker.status = .active)
    (workerId : updated.workerId = worker.workerId) (taskId : updated.taskId = worker.taskId)
    (conversationRef : updated.conversationRef = worker.conversationRef)
    (registeredAt : updated.registeredAt = worker.registeredAt)
    (generation : updated.generation = worker.generation) (status : updated.status ≠ .candidate) :
    LeaseGrows worker updated :=
  ⟨workerId, taskId, conversationRef, registeredAt, fun _ => generation, fun _ => status,
    fun ended => by rcases ended with same | same | same <;> rw [active] at same <;> cases same⟩

theorem renewed_grows {worker : WorkerLease} (active : worker.status = .active) (now lease : Time) :
    LeaseGrows worker (renewedLease worker now lease) :=
  active_grows active rfl rfl rfl rfl rfl (by simp [renewedLease, active])

theorem superseded_grows {worker : WorkerLease} (active : worker.status = .active) (candidate : String) (now : Time) :
    LeaseGrows worker (supersededLease worker candidate now) :=
  active_grows active rfl rfl rfl rfl rfl (by simp [supersededLease])

theorem ended_grows {worker : WorkerLease} (active : worker.status = .active) {status : WorkerLeaseStatus}
    (ended : Ended status) (now : Time) : LeaseGrows worker (endedLease worker status now) := by
  refine active_grows active rfl rfl rfl rfl rfl ?_
  rcases ended with rfl | rfl | rfl <;> simp [endedLease]

/-- Fields that a change never touches carry over to the stamped snapshot. -/
theorem Change.lineage {state : WorkerTaskState} {call : Call} {outcome : Outcome}
    (change : Change state call outcome) : outcome.state.lineage = state.lineage := by
  cases change <;> rfl

theorem Change.generation {state : WorkerTaskState} {call : Call} {outcome : Outcome}
    (change : Change state call outcome) : outcome.state.generation = state.generation ∨
      outcome.state.generation = state.generation + 1 := by
  cases change with
  | claim | takeover => exact Or.inr rfl
  | _ => exact Or.inl rfl

theorem Change.opened {state : WorkerTaskState} {call : Call} {outcome : Outcome}
    (change : Change state call outcome) : state.taskStatus = .opened := by
  cases change with
  | register isOpen | claim isOpen | takeover isOpen | abandon isOpen | finish isOpen => exact isOpen
  | heartbeat authorized | handoff authorized | complete authorized => exact authorized.isOpen

theorem Change.leases {state : WorkerTaskState} {call : Call} {outcome : Outcome} (valid : Valid state)
    (change : Change state call outcome) :
    ∀ worker ∈ state.workers, ∃ later ∈ outcome.state.workers, LeaseGrows worker later := by
  cases change with
  | register isOpen named fresh =>
    intro worker member
    exact ⟨worker, mem_sortedWorkers.mpr (List.mem_append_left _ member), .refl worker⟩
  | claim isOpen found candidate idle =>
    exact replace_grows valid (workerById_some found).1 (claimed_grows candidate _ _ _)
  | heartbeat authorized =>
    exact replace_grows valid (workerById_some authorized.found).1 (renewed_grows authorized.active _ _)
  | handoff authorized found status => exact fun worker member => ⟨worker, member, .refl worker⟩
  | @takeover candidateId oldId now lease old candidate reason isOpen found status current holder eligible =>
    obtain ⟨oldMember, oldNamed, active⟩ := valid.holder current holder
    obtain ⟨member, named⟩ := workerById_some found
    have different : candidate.workerId ≠ old.workerId := by
      intro same
      rw [valid.distinct.eq member oldMember same, active] at status
      cases status
    intro worker present
    by_cases same : worker.workerId = candidate.workerId
    · obtain rfl := valid.distinct.eq present member same
      refine ⟨_, mem_replaceWorker.mpr (Or.inl ⟨rfl, worker, ?_, rfl⟩), claimed_grows status _ _ _⟩
      exact mem_replaceWorker.mpr (Or.inr ⟨present, different⟩)
    · obtain ⟨later, inside, growth⟩ := replace_grows valid oldMember (superseded_grows active candidateId now) worker present
      exact ⟨later, mem_replaceWorker.mpr (Or.inr ⟨inside, fun equal => same (growth.workerId.symm.trans equal)⟩), growth⟩
  | complete authorized =>
    exact replace_grows valid (workerById_some authorized.found).1
      (ended_grows authorized.active (Or.inr (Or.inl rfl)) _)
  | abandon isOpen found current active named held =>
    exact replace_grows valid (workerById_some found).1 (ended_grows active (Or.inr (Or.inr rfl)) _)
  | finish isOpen idle named => exact fun worker member => ⟨worker, member, .refl worker⟩

theorem Change.grows {state : WorkerTaskState} {call : Call} {outcome : Outcome} (valid : Valid state)
    (change : Change state call outcome) : Grows state (stamped state outcome.state) := by
  refine ⟨change.lineage, by simp [stamped], ?_, change.leases valid, ?_⟩
  · rcases change.generation with same | same <;> simp [stamped, same]
  · intro closed
    rw [change.opened] at closed
    cases closed

section Validity
variable {state : WorkerTaskState}

private theorem valid_register (valid : Valid state) (worker : WorkerLease)
    (fresh : ∀ old ∈ state.workers, old.workerId ≠ worker.workerId) (owned : worker.taskId = state.taskId)
    (candidate : worker.status = .candidate) :
    Valid (stamped state { state with workers := sortedWorkers (state.workers ++ [worker]) }) := by
  have inside {lease : WorkerLease} (member : lease ∈ state.workers) :
      lease ∈ sortedWorkers (state.workers ++ [worker]) :=
    mem_sortedWorkers.mpr (List.mem_append_left _ member)
  have cases {lease : WorkerLease} (member : lease ∈ sortedWorkers (state.workers ++ [worker])) :
      lease ∈ state.workers ∨ lease = worker := by
    simpa using mem_sortedWorkers.mp member
  refine ⟨by have := valid.revision; simp [stamped]; omega, valid.generation, valid.root,
    valid.distinct.register worker fresh, ?_, ?_, ?_, ?_, valid.handoffStamp, valid.completed⟩
  · intro lease member
    rcases cases member with present | rfl
    · exact valid.owned lease present
    · exact owned
  · intro lease member active
    rcases cases member with present | rfl
    · exact valid.active lease present active
    · rw [candidate] at active
      cases active
  · intro current held
    obtain ⟨lease, member, facts⟩ := valid.current current held
    exact ⟨lease, inside member, facts⟩
  · intro target held
    obtain ⟨present, stamp, lease, member, facts⟩ := valid.handoff target held
    exact ⟨present, stamp, lease, inside member, facts⟩

private theorem valid_claim (valid : Valid state) {workers : List WorkerLease} {worker : WorkerLease}
    (distinct : Distinct workers) (owned : ∀ lease ∈ workers, lease.taskId = state.taskId)
    (inactive : ∀ lease ∈ workers, lease.status ≠ .active) (member : worker ∈ workers)
    (isOpen : state.taskStatus = .opened) (now lease : Time) :
    Valid (stamped state
      { state with
        generation := state.generation + 1, currentWorkerId := some worker.workerId
        handoffTargetWorkerId := none, handoffRequestedAt := none
        workers := replaceWorker workers (claimedLease worker (state.generation + 1) now lease) }) := by
  have claimed := mem_replaceWorker.mpr (Or.inl ⟨rfl, worker, member, rfl⟩ :
    claimedLease worker (state.generation + 1) now lease = _ ∧ _ ∨ _)
  have positive : 0 < state.generation + 1 := by have := valid.generation; omega
  refine ⟨by have := valid.revision; simp [stamped]; omega, positive.le, valid.root, distinct.replace _, ?_, ?_, ?_,
    by simp [stamped], fun _ => rfl, by simp [stamped, isOpen]⟩
  · intro other present
    rcases mem_replaceWorker.mp present with ⟨rfl, _⟩ | ⟨old, _⟩
    · exact owned worker member
    · exact owned other old
  · intro other present active
    rcases mem_replaceWorker.mp present with ⟨rfl, _⟩ | ⟨old, _⟩
    · rfl
    · exact absurd active (inactive other old)
  · rintro current ⟨⟩
    exact ⟨_, claimed, rfl, rfl, rfl, by simp [claimedLease], positive⟩

private theorem valid_renew (valid : Valid state) {worker updated : WorkerLease}
    (member : worker ∈ state.workers) (current : state.currentWorkerId = some worker.workerId)
    (active : worker.status = .active) (held : worker.generation = some state.generation)
    (growth : LeaseGrows worker updated) (status : updated.status = .active)
    (expiry : updated.leaseExpiresAt ≠ none) :
    Valid (stamped state { state with workers := replaceWorker state.workers updated }) := by
  have kept := mem_replaceWorker.mpr (Or.inl ⟨rfl, worker, member, growth.workerId.symm⟩ : updated = updated ∧ _ ∨ _)
  have started : worker.status ≠ .candidate := by simp [active]
  obtain ⟨_, _, _, _, _, _, positive⟩ := valid.current _ current
  refine ⟨by have := valid.revision; simp [stamped]; omega, valid.generation, valid.root, valid.distinct.replace _,
    replace_owned valid (growth.taskId.trans (valid.owned worker member)), ?_, ?_, ?_, valid.handoffStamp,
    valid.completed⟩
  · intro lease present live
    rcases mem_replaceWorker.mp present with ⟨rfl, _⟩ | ⟨old, _⟩
    · exact growth.workerId ▸ current
    · exact valid.active lease old live
  · intro holder same
    have named : holder = worker.workerId := Option.some.inj (same.symm.trans current)
    exact ⟨updated, kept, growth.workerId.trans named.symm, status, (growth.generation started).trans held, expiry,
      positive⟩
  · intro target requested
    obtain ⟨present, stamp, lease, inside, named, candidate⟩ := valid.handoff target requested
    refine ⟨present, stamp, lease, mem_replaceWorker.mpr (Or.inr ⟨inside, ?_⟩), named, candidate⟩
    intro same
    rw [valid.distinct.eq inside member (same.trans growth.workerId), active] at candidate
    cases candidate

private theorem valid_end (valid : Valid state) {worker updated : WorkerLease}
    (member : worker ∈ state.workers) (current : state.currentWorkerId = some worker.workerId)
    (isOpen : state.taskStatus = .opened) (growth : LeaseGrows worker updated) (ended : updated.status ≠ .active) :
    Valid (stamped state (withoutCurrent state updated)) := by
  have inactive := replace_inactive valid (growth.workerId ▸ current) ended
  exact ⟨by have := valid.revision; simp [stamped]; omega, valid.generation, valid.root, valid.distinct.replace _,
    replace_owned valid (growth.taskId.trans (valid.owned worker member)),
    fun lease present live => absurd live (inactive lease present), by simp [stamped, withoutCurrent],
    by simp [stamped, withoutCurrent], fun _ => rfl, by simp [stamped, withoutCurrent, isOpen]⟩

private theorem valid_handoff (valid : Valid state) {candidate : WorkerLease}
    (present : state.currentWorkerId ≠ none) (member : candidate ∈ state.workers)
    (status : candidate.status = .candidate) (now : Time) :
    Valid (stamped state
      { state with handoffTargetWorkerId := some candidate.workerId, handoffRequestedAt := some now }) := by
  refine ⟨by have := valid.revision; simp [stamped]; omega, valid.generation, valid.root, valid.distinct, valid.owned,
    valid.active, valid.current, ?_, by simp [stamped], valid.completed⟩
  rintro target ⟨⟩
  exact ⟨present, by simp [stamped], candidate, member, rfl, status⟩

private theorem valid_finish (valid : Valid state) (idle : state.currentWorkerId = none) {ref : String}
    (named : ref ≠ "") (now : Time) :
    Valid (stamped state
      { state with taskStatus := .completed, completedAt := some now, completionRef := some ref }) :=
  ⟨by have := valid.revision; simp [stamped]; omega, valid.generation, valid.root, valid.distinct, valid.owned,
    valid.active, valid.current, valid.handoff, valid.handoffStamp, fun _ => ⟨idle, by simp [stamped], by simpa [stamped]⟩⟩

end Validity

/-- Each change restores every clause of the validity check. -/
theorem Change.valid {state : WorkerTaskState} {call : Call} {outcome : Outcome} (valid : Valid state)
    (change : Change state call outcome) : Valid (stamped state outcome.state) := by
  cases change with
  | register isOpen named fresh => exact valid_register valid _ (workerById_none.mp fresh) rfl rfl
  | claim isOpen found candidate idle =>
    obtain ⟨member, rfl⟩ := workerById_some found
    refine valid_claim valid valid.distinct valid.owned ?_ member isOpen _ _
    intro lease present active
    rw [valid.active lease present active] at idle
    cases idle
  | heartbeat authorized =>
    obtain ⟨member, rfl⟩ := workerById_some authorized.found
    exact valid_renew valid member authorized.current authorized.active authorized.held
      (renewed_grows authorized.active _ _) authorized.active (by simp [renewedLease])
  | handoff authorized found status =>
    obtain ⟨member, rfl⟩ := workerById_some found
    exact valid_handoff valid (by simp [authorized.current]) member status _
  | @takeover candidateId oldId now lease old candidate reason isOpen found status current holder eligible =>
    obtain ⟨oldMember, rfl, active⟩ := valid.holder current holder
    obtain ⟨member, rfl⟩ := workerById_some found
    have growth := superseded_grows active candidate.workerId now
    refine valid_claim valid (valid.distinct.replace _)
      (replace_owned valid (growth.taskId.trans (valid.owned old oldMember)))
      (replace_inactive valid current (by simp [supersededLease])) ?_ isOpen _ _
    refine mem_replaceWorker.mpr (Or.inr ⟨member, fun same => ?_⟩)
    rw [valid.distinct.eq member oldMember same, active] at status
    cases status
  | complete authorized =>
    obtain ⟨member, rfl⟩ := workerById_some authorized.found
    exact valid_end valid member authorized.current authorized.isOpen
      (ended_grows authorized.active (Or.inr (Or.inl rfl)) _) (by simp [endedLease])
  | abandon isOpen found current active named held =>
    obtain ⟨member, rfl⟩ := workerById_some found
    exact valid_end valid member current isOpen (ended_grows active (Or.inr (Or.inr rfl)) _) (by simp [endedLease])
  | finish isOpen idle named => exact valid_finish valid idle named _

/-- The decision for a change. The second validity check in `accept` passes. -/
def decision (state : WorkerTaskState) (outcome : Outcome) : ProtocolDecision :=
  { accepted := true, code := outcome.code, expectedRevision := state.revision,
    state := stamped state outcome.state,
    events := outcome.events.map (fun event => { event with revision := state.revision + 1 }) }

theorem accept_change {state : WorkerTaskState} {call : Call} {outcome : Outcome} (valid : Valid state)
    (change : Change state call outcome) :
    accept state outcome.state outcome.code outcome.events = .ok (decision state outcome) := by
  have checked := (change.valid valid).check
  simp only [stamped] at checked
  simp [accept, checked, bind, Except.bind, pure, Except.pure, decision, stamped]

theorem decision_mutated (state : WorkerTaskState) (outcome : Outcome) : (decision state outcome).mutated = true := by
  simp [decision, ProtocolDecision.mutated, stamped]

/-- What one call does to a valid snapshot. -/
theorem perform_spec {state : WorkerTaskState} (valid : Valid state) (call : Call) :
    Quiet state call (perform state call) ∨
      ∃ outcome, Change state call outcome ∧ perform state call = .ok (decision state outcome) := by
  rcases perform_cases valid call with quiet | ⟨outcome, change, same⟩
  · exact Or.inl quiet
  · exact Or.inr ⟨outcome, change, same.trans (accept_change valid change)⟩

theorem advance_cases {state : WorkerTaskState} (valid : Valid state) (call : Call) :
    advance state call = state ∨
      ∃ outcome, Change state call outcome ∧ advance state call = stamped state outcome.state := by
  rcases perform_spec valid call with (⟨_, same⟩ | ⟨_, same, unchanged, _⟩) | ⟨outcome, change, same⟩
  · exact Or.inl (by simp [advance, same])
  · exact Or.inl (by simp [advance, same, unchanged])
  · exact Or.inr ⟨outcome, change, by simp [advance, same, decision]⟩

theorem advance_valid {state : WorkerTaskState} (valid : Valid state) (call : Call) : Valid (advance state call) := by
  rcases advance_cases valid call with same | ⟨outcome, change, same⟩
  · rw [same]
    exact valid
  · rw [same]
    exact change.valid valid

theorem advance_grows {state : WorkerTaskState} (valid : Valid state) (call : Call) : Grows state (advance state call) := by
  rcases advance_cases valid call with same | ⟨outcome, change, same⟩
  · rw [same]
    exact .refl state
  · rw [same]
    exact change.grows valid

theorem newTaskState_shape {taskId : String} {parent root childKey : Option String} {initial : WorkerTaskState}
    (created : newTaskState taskId parent root childKey = .ok initial) :
    Valid initial ∧ ∃ lineage, initial = { lineage } := by
  simp only [newTaskState, bind_eq_ok] at created
  obtain ⟨_, _, lineage, _, _, checked, same⟩ := created
  cases same
  exact ⟨(validateState_iff _).mp checked, lineage, rfl⟩

theorem run_valid {state : WorkerTaskState} (valid : Valid state) (calls : List Call) :
    Valid (run advance state calls) := by
  have kept : ∀ state call, Valid state → Valid (advance state call) := fun _ call valid => advance_valid valid call
  exact run_invariant advance kept state calls valid

theorem run_forward {state : WorkerTaskState} (valid : Valid state) (calls : List Call) :
    Grows state (run advance state calls) := by
  have kept : ∀ state call, Valid state → Valid (advance state call) := fun _ call valid => advance_valid valid call
  have forward : ∀ state call, Valid state → Grows state (advance state call) := fun _ call valid => advance_grows valid call
  exact run_grows advance Grows.refl Grows.trans kept forward state calls valid

/-- Only a claim or a takeover hands out a generation. -/
def grantsLease : Call → Bool
  | .claimWorker .. | .takeoverWorker .. => true
  | _ => false

theorem Change.grants {state : WorkerTaskState} {call : Call} {outcome : Outcome}
    (change : Change state call outcome) :
    outcome.state.generation = if grantsLease call then state.generation + 1 else state.generation := by
  cases change <;> rfl

/-- In every state of every run the snapshot is valid and no call meets the
invariant error. Decisions that mutate advance the revision by one, all others
return the snapshot they were given. Generations are handed out one by one, and
registrations, ended leases and a completed task are permanent. -/
theorem worker_protocol_invariant {taskId : String} {parent root childKey : Option String}
    {initial : WorkerTaskState} (created : newTaskState taskId parent root childKey = .ok initial)
    (calls : List Call) :
    let state := run advance initial calls
    validateState state = .ok () ∧
    (∀ call error, perform state call = .error error → ∃ message, error = .value message) ∧
    (∀ call decision, perform state call = .ok decision →
      validateState decision.state = .ok () ∧
      (decision.mutated = true → decision.accepted = true ∧ decision.state.revision = state.revision + 1) ∧
      (decision.mutated = false → decision.state = state) ∧
      decision.state.generation =
        if decision.accepted = true ∧ grantsLease call = true then state.generation + 1 else state.generation) ∧
    ∀ later, let final := run advance state later
      state.generation ≤ final.generation ∧
      (∀ worker ∈ state.workers, ∃ lease ∈ final.workers, lease.workerId = worker.workerId ∧
        lease.taskId = worker.taskId ∧ lease.conversationRef = worker.conversationRef ∧
        lease.registeredAt = worker.registeredAt ∧
        ∀ other ∈ final.workers, other.workerId = worker.workerId → other = lease) ∧
      (∀ worker ∈ state.workers, Ended worker.status → worker ∈ final.workers) ∧
      (state.taskStatus = .completed → final = state) := by
  intro state
  have valid : Valid state := run_valid (newTaskState_shape created).1 calls
  refine ⟨valid.check, ?_, ?_, ?_⟩
  · intro call error raised
    rcases perform_spec valid call with (⟨message, same⟩ | ⟨_, same, _⟩) | ⟨_, _, same⟩
    · exact ⟨message, Except.error.inj (raised.symm.trans same)⟩
    · rw [same] at raised
      cases raised
    · rw [same] at raised
      cases raised
  · intro call decision decided
    rcases perform_spec valid call with (⟨_, same⟩ | ⟨quiet, same, unchanged, unmoved, _, accepted⟩) | ⟨outcome, change, same⟩
    · rw [same] at decided
      cases decided
    · obtain rfl := Except.ok.inj (same.symm.trans decided)
      refine ⟨unchanged ▸ valid.check, by simp [unmoved], fun _ => unchanged, ?_⟩
      rw [unchanged, if_neg]
      rintro ⟨taken, grants⟩
      obtain ⟨workerId, ref, now, revision, rfl⟩ := accepted taken
      cases grants
    · obtain rfl := Except.ok.inj (same.symm.trans decided)
      refine ⟨(change.valid valid).check, fun _ => ⟨rfl, rfl⟩, by simp [decision_mutated], ?_⟩
      simpa [Proofs.decision, stamped] using change.grants
  · intro later final
    have growth : Grows state final := run_forward valid later
    have finalValid : Valid final := run_valid valid later
    refine ⟨growth.generation, ?_, ?_, growth.closed⟩
    · intro worker member
      obtain ⟨lease, present, kept⟩ := growth.leases worker member
      exact ⟨lease, present, kept.workerId, kept.taskId, kept.conversationRef, kept.registeredAt,
        fun other inside same => finalValid.distinct.eq inside present (same.trans kept.workerId.symm)⟩
    · intro worker member ended
      obtain ⟨lease, present, kept⟩ := growth.leases worker member
      exact kept.ended ended ▸ present

/-- A run with a handoff, a takeover and a completed task. -/
theorem worker_protocol_invariant_handoff :
    let calls : List Call :=
      [.registerWorker " first" (some "https://chatgpt.com/c/1") 1 0, .claimWorker "first" 2 10 1,
       .registerWorker "second" none 3 2, .requestHandoff "first" "second" 1 4 3, .takeoverWorker "second" 5 10 4,
       .heartbeatWorker "first" 1 6 10 5, .completeWorker "second" 2 7 5, .completeTask "head" 8 6]
    ∃ initial, newTaskState "task" none none none = .ok initial ∧
      (run advance initial calls).revision = 7 ∧ validateState (run advance initial calls) = .ok () := by
  refine ⟨{ lineage := { taskId := "task", parentTaskId := none, rootTaskId := "task" } }, by decide +kernel,
    by decide +kernel, ?_⟩
  exact (@worker_protocol_invariant "task" none none none _
    (by decide +kernel) _).1

end WebSupervisor.WorkerProtocol.Proofs
