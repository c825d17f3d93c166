import WebSupervisor.Proofs.WorkerProtocolInvariant

/-! Generation fencing. A generation is given to one lease and stays with it, so
a worker that has lost its lease is recognized in every later state. -/

namespace WebSupervisor.WorkerProtocol.Proofs
open Library

/-- Generations are assigned once, up to the current one, and never to a
candidate. -/
structure Fenced (state : WorkerTaskState) : Prop where
  bounded : ∀ worker ∈ state.workers, ∀ generation, worker.generation = some generation →
    generation ≤ state.generation
  unique : ∀ first ∈ state.workers, ∀ second ∈ state.workers, ∀ generation,
    first.generation = some generation → second.generation = some generation → first = second
  candidate : ∀ worker ∈ state.workers, worker.status = .candidate → worker.generation = none

/-- Where a lease of the next snapshot comes from. -/
inductive Origin (state next : WorkerTaskState) (later : WorkerLease) : Prop where
  | kept (worker : WorkerLease) (member : worker ∈ state.workers) (workerId : later.workerId = worker.workerId)
      (generation : later.generation = worker.generation)
      (candidate : later.status = .candidate → worker.status = .candidate)
  | registered (generation : later.generation = none)
  | granted (generation : later.generation = some (state.generation + 1)) (started : later.status ≠ .candidate)
      (advanced : next.generation = state.generation + 1) (current : next.currentWorkerId = some later.workerId)

private theorem origin_self {state next : WorkerTaskState} {worker : WorkerLease} (member : worker ∈ state.workers) :
    Origin state next worker :=
  .kept worker member rfl rfl id

private theorem origin_replace {state next : WorkerTaskState} {worker updated : WorkerLease}
    (member : worker ∈ state.workers) (active : worker.status = .active) (growth : LeaseGrows worker updated) :
    ∀ later ∈ replaceWorker state.workers updated, Origin state next later := by
  have started : worker.status ≠ .candidate := by simp [active]
  intro later present
  rcases mem_replaceWorker.mp present with ⟨rfl, _⟩ | ⟨old, _⟩
  · exact .kept worker member growth.workerId (growth.generation started)
      (fun candidate => absurd candidate (growth.started started))
  · exact origin_self old

theorem Change.origin {state : WorkerTaskState} {call : Call} {outcome : Outcome} (valid : Valid state)
    (change : Change state call outcome) : ∀ later ∈ outcome.state.workers, Origin state outcome.state later := by
  cases change with
  | register isOpen named fresh =>
    intro later member
    rcases List.mem_append.mp (mem_sortedWorkers.mp member) with old | new
    · exact origin_self old
    · exact .registered (by rw [List.mem_singleton.mp new])
  | claim isOpen found candidate idle =>
    intro later member
    rcases mem_replaceWorker.mp member with ⟨rfl, _⟩ | ⟨old, _⟩
    · exact .granted rfl (by simp [claimedLease]) rfl (by simp [claimedLease, (workerById_some found).2])
    · exact origin_self old
  | heartbeat authorized =>
    exact origin_replace (workerById_some authorized.found).1 authorized.active (renewed_grows authorized.active _ _)
  | handoff authorized found status => exact fun later member => origin_self member
  | takeover isOpen found status current holder eligible =>
    obtain ⟨oldMember, _, active⟩ := valid.holder current holder
    intro later member
    rcases mem_replaceWorker.mp member with ⟨rfl, _⟩ | ⟨old, _⟩
    · exact .granted rfl (by simp [claimedLease]) rfl (by simp [claimedLease, (workerById_some found).2])
    · exact origin_replace oldMember active (superseded_grows active _ _) later old
  | complete authorized =>
    exact origin_replace (workerById_some authorized.found).1 authorized.active
      (ended_grows authorized.active (Or.inr (Or.inl rfl)) _)
  | abandon isOpen found current active named held =>
    exact origin_replace (workerById_some found).1 active (ended_grows active (Or.inr (Or.inr rfl)) _)
  | finish isOpen idle named => exact fun later member => origin_self member

theorem Change.fenced {state : WorkerTaskState} {call : Call} {outcome : Outcome} (valid : Valid state)
    (fenced : Fenced state) (change : Change state call outcome) : Fenced (stamped state outcome.state) := by
  have origin := change.origin valid
  have distinct : Distinct outcome.state.workers := (change.valid valid).distinct
  have below : state.generation ≤ outcome.state.generation := (change.grows valid).generation
  refine ⟨?_, ?_, ?_⟩
  · intro later member generation same
    cases origin later member with
    | kept worker old workerId kept candidate =>
      exact (fenced.bounded worker old generation (kept.symm.trans same)).trans below
    | registered none => simp [none] at same
    | granted given started advanced current =>
      have equal : state.generation + 1 = generation := by simpa [given] using same
      exact equal.symm.trans advanced.symm |>.le
  · intro first firstMember second secondMember generation firstSame secondSame
    -- A granted generation is above every assigned one, so the two leases have the same origin.
    apply distinct.eq firstMember secondMember
    cases origin first firstMember with
    | registered none => simp [none] at firstSame
    | kept old oldMember oldId oldGeneration _ =>
      cases origin second secondMember with
      | registered none => simp [none] at secondSame
      | kept other otherMember otherId otherGeneration _ =>
        rw [oldId, otherId, fenced.unique old oldMember other otherMember generation
          (oldGeneration.symm.trans firstSame) (otherGeneration.symm.trans secondSame)]
      | granted given _ _ _ =>
        have bound := fenced.bounded old oldMember generation (oldGeneration.symm.trans firstSame)
        have equal : state.generation + 1 = generation := by simpa [given] using secondSame
        omega
    | granted given _ _ current =>
      cases origin second secondMember with
      | registered none => simp [none] at secondSame
      | kept other otherMember _ otherGeneration _ =>
        have bound := fenced.bounded other otherMember generation (otherGeneration.symm.trans secondSame)
        have equal : state.generation + 1 = generation := by simpa [given] using firstSame
        omega
      | granted _ _ _ other => exact Option.some.inj (current.symm.trans other)
  · intro later member candidate
    cases origin later member with
    | kept worker old _ generation status => exact generation.trans (fenced.candidate worker old (status candidate))
    | registered none => exact none
    | granted _ started _ _ => exact absurd candidate started

theorem advance_fenced {state : WorkerTaskState} (valid : Valid state) (fenced : Fenced state) (call : Call) :
    Fenced (advance state call) := by
  rcases advance_cases valid call with same | ⟨outcome, change, same⟩
  · rw [same]
    exact fenced
  · rw [same]
    exact change.fenced valid fenced

theorem run_fenced {state : WorkerTaskState} (valid : Valid state) (fenced : Fenced state) (calls : List Call) :
    Fenced (run advance state calls) := by
  have kept : ∀ state call, Valid state ∧ Fenced state → Valid (advance state call) ∧ Fenced (advance state call) :=
    fun _ call both => ⟨advance_valid both.1 call, advance_fenced both.1 both.2 call⟩
  exact (run_invariant advance kept state calls ⟨valid, fenced⟩).2

/-- An accepted call that is not a registration is one of the changes. -/
theorem accepted_change {state : WorkerTaskState} (valid : Valid state) {call : Call} {decision : ProtocolDecision}
    (decided : perform state call = .ok decision) (accepted : decision.accepted = true)
    (acts : ∀ workerId ref now revision, call ≠ .registerWorker workerId ref now revision) :
    ∃ outcome, Change state call outcome := by
  rcases perform_spec valid call with (⟨_, same⟩ | ⟨_, same, _, _, _, registers⟩) | ⟨outcome, change, _⟩
  · rw [same] at decided
    cases decided
  · obtain rfl := Except.ok.inj (same.symm.trans decided)
    obtain ⟨workerId, ref, now, revision, named⟩ := registers accepted
    exact absurd named (acts workerId ref now revision)
  · exact ⟨outcome, change⟩

/-- The worker that a call acts for, when it needs the current lease. -/
def actsFor : Call → Option String
  | .heartbeatWorker workerId .. | .requestHandoff workerId .. | .completeWorker workerId ..
  | .abandonWorker workerId .. => some workerId
  | _ => none

/-- The worker, generation and time of a call that needs a fresh lease. -/
def needsFreshLease : Call → Option (String × Int × Time)
  | .heartbeatWorker workerId generation now .. | .requestHandoff workerId _ generation now _
  | .completeWorker workerId generation now _ => some (workerId, generation, now)
  | _ => none

theorem Change.holder {state : WorkerTaskState} {call : Call} {outcome : Outcome}
    (change : Change state call outcome) {workerId : String} (acts : actsFor call = some workerId) :
    ∃ worker ∈ state.workers, worker.workerId = workerId ∧ worker.status = .active := by
  cases change with
  | heartbeat authorized | handoff authorized | complete authorized =>
    cases acts
    obtain ⟨member, named⟩ := workerById_some authorized.found
    exact ⟨_, member, named, authorized.active⟩
  | abandon isOpen found current active named held =>
    cases acts
    obtain ⟨member, named⟩ := workerById_some found
    exact ⟨_, member, named, active⟩
  | _ => cases acts

theorem Change.authorized {state : WorkerTaskState} {call : Call} {outcome : Outcome}
    (change : Change state call outcome) {workerId : String} {generation : Int} {now : Time}
    (needs : needsFreshLease call = some (workerId, generation, now)) :
    ∃ worker, Authorized state workerId generation now worker := by
  cases change with
  | heartbeat authorized | handoff authorized | complete authorized =>
    cases needs
    exact ⟨_, authorized⟩
  | _ => cases needs

/-- A worker that was current and is not current any more has an ended lease. -/
theorem lost_authority {before after : WorkerTaskState} (valid : Valid before) (later : Valid after)
    (growth : Grows before after) {workerId : String} (held : before.currentWorkerId = some workerId)
    (lost : after.currentWorkerId ≠ some workerId) :
    ∃ worker ∈ after.workers, worker.workerId = workerId ∧ Ended worker.status := by
  obtain ⟨worker, member, named, active, _⟩ := valid.current workerId held
  obtain ⟨lease, present, kept⟩ := growth.leases worker member
  have started : lease.status ≠ .candidate := kept.started (by simp [active])
  have inactive : lease.status ≠ .active := by
    intro live
    have current := later.active lease present live
    rw [kept.workerId, named] at current
    exact lost current
  refine ⟨lease, present, kept.workerId.trans named, ?_⟩
  cases status : lease.status with
  | candidate => exact absurd status started
  | active => exact absurd status inactive
  | superseded => exact Or.inl rfl
  | completed => exact Or.inr (Or.inl rfl)
  | abandoned => exact Or.inr (Or.inr rfl)

/-- Over a whole run a generation belongs to one worker, a worker that lost its
lease is refused forever, and every accepted act of a worker found it current,
on the current generation, with a clock that had not gone back and a lease that
had not expired. -/
theorem generation_fencing {taskId : String} {parent root childKey : Option String} {initial : WorkerTaskState}
    (created : newTaskState taskId parent root childKey = .ok initial) :
    (∀ calls later generation, ∀ first ∈ (run advance initial calls).workers,
      ∀ second ∈ (run advance initial (calls ++ later)).workers,
      first.generation = some generation → second.generation = some generation →
      first.workerId = second.workerId) ∧
    (∀ calls later more workerId, (run advance initial calls).currentWorkerId = some workerId →
      (run advance initial (calls ++ later)).currentWorkerId ≠ some workerId →
      ∀ call, actsFor call = some workerId → ∀ decision,
      perform (run advance initial (calls ++ later ++ more)) call = .ok decision → decision.accepted = false) ∧
    ∀ calls call workerId generation now decision,
      needsFreshLease call = some (workerId, generation, now) →
      perform (run advance initial calls) call = .ok decision → decision.accepted = true →
      let state := run advance initial calls
      ∃ worker ∈ state.workers, worker.workerId = workerId ∧ state.currentWorkerId = some workerId ∧
        worker.generation = some state.generation ∧ generation = state.generation ∧
        (∀ stamp, worker.claimedAt = some stamp → stamp ≤ now) ∧
        (∀ stamp, worker.lastHeartbeatAt = some stamp → stamp ≤ now) ∧
        ∃ expiry, worker.leaseExpiresAt = some expiry ∧ now < expiry := by
  obtain ⟨validInitial, lineage, rfl⟩ := newTaskState_shape created
  have fencedInitial : Fenced { lineage } := ⟨by simp, by simp, by simp⟩
  refine ⟨?_, ?_, ?_⟩
  · intro calls later generation first firstMember second secondMember firstSame secondSame
    rw [run_append] at secondMember
    have valid := run_valid validInitial calls
    have fenced := run_fenced validInitial fencedInitial calls
    have started : first.status ≠ .candidate := by
      intro candidate
      rw [fenced.candidate first firstMember candidate] at firstSame
      cases firstSame
    obtain ⟨lease, present, kept⟩ := (run_forward valid later).leases first firstMember
    have same := (run_fenced valid fenced later).unique lease present second secondMember generation
      ((kept.generation started).trans firstSame) secondSame
    rw [← kept.workerId, same]
  · intro calls later more workerId held lost call acts decision decided
    rw [run_append, run_append] at decided
    rw [run_append] at lost
    have valid := run_valid validInitial calls
    have middle := run_valid valid later
    have final := run_valid middle more
    obtain ⟨worker, member, named, ended⟩ := lost_authority valid middle (run_forward valid later) held lost
    obtain ⟨lease, present, kept⟩ := (run_forward middle more).leases worker member
    obtain rfl := kept.ended ended
    cases verdict : decision.accepted with
    | false => rfl
    | true =>
      obtain ⟨outcome, change⟩ := accepted_change final decided verdict (by rintro _ _ _ _ rfl; cases acts)
      obtain ⟨holder, inside, same, active⟩ := change.holder acts
      rw [← final.distinct.eq inside present (same.trans named.symm), active] at ended
      rcases ended with impossible | impossible | impossible <;> cases impossible
  · intro calls call workerId generation now decision needs decided accepted state
    have valid := run_valid validInitial calls
    obtain ⟨outcome, change⟩ := accepted_change valid decided accepted (by rintro _ _ _ _ rfl; cases needs)
    obtain ⟨worker, authorized⟩ := change.authorized needs
    obtain ⟨member, named⟩ := workerById_some authorized.found
    exact ⟨worker, member, named, authorized.current, authorized.held, authorized.named, authorized.claimed,
      authorized.heartbeat, authorized.fresh⟩

/-- After an expired lease was taken over, the old holder is refused. -/
theorem generation_fencing_expired :
    let calls : List Call :=
      [.registerWorker "first" (some "a") 1 0, .claimWorker "first" 2 10 1, .registerWorker "second" (some "b") 3 2]
    let initial : WorkerTaskState := { lineage := { taskId := "task", parentTaskId := none, rootTaskId := "task" } }
    (run advance initial calls).currentWorkerId = some "first" ∧
    (run advance initial (calls ++ [.takeoverWorker "second" 12 10 3])).currentWorkerId = some "second" ∧
    ∀ decision, perform (run advance initial (calls ++ [.takeoverWorker "second" 12 10 3] ++ []))
      (.heartbeatWorker "first" 1 13 10 4) = .ok decision → decision.accepted = false := by
  refine ⟨by decide +kernel, by decide +kernel, ?_⟩
  exact (@generation_fencing "task" none none none _ (by decide +kernel)).2.1 _ _ _ "first" (by decide +kernel)
    (by decide +kernel) _ rfl

end WebSupervisor.WorkerProtocol.Proofs
