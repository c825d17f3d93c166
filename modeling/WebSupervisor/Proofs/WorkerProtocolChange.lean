import WebSupervisor.Proofs.WorkerProtocolState

/-! Every way a call can change a valid snapshot. The cases list the guards that
passed and the exact next snapshot, before `accept` stamps the revision. Later
invariants are proved by cases on this relation and never unfold a transition. -/

namespace WebSupervisor.WorkerProtocol.Proofs
open Library

/-- The named worker holds a fresh lease on the current generation. -/
structure Authorized (state : WorkerTaskState) (workerId : String) (generation : Int) (now : Time)
    (worker : WorkerLease) : Prop where
  isOpen : state.taskStatus = .opened
  found : workerById state workerId = some worker
  current : state.currentWorkerId = some workerId
  active : worker.status = .active
  named : generation = state.generation
  held : worker.generation = some state.generation
  claimed : ∀ stamp, worker.claimedAt = some stamp → stamp ≤ now
  heartbeat : ∀ stamp, worker.lastHeartbeatAt = some stamp → stamp ≤ now
  fresh : ∃ expiry, worker.leaseExpiresAt = some expiry ∧ now < expiry

structure Outcome where
  state : WorkerTaskState
  code : DecisionCode
  events : List ProtocolEvent

inductive Change (state : WorkerTaskState) : Call → Outcome → Prop where
  | register {workerId : String} {conversationRef : Option String} {now : Time}
      (isOpen : state.taskStatus = .opened) (named : strip workerId ≠ "")
      (fresh : workerById state (strip workerId) = none) :
      Change state (.registerWorker workerId conversationRef now state.revision)
        ⟨{ state with workers := sortedWorkers (state.workers ++
            [{ workerId := strip workerId, taskId := state.taskId, conversationRef, status := .candidate,
               registeredAt := now }]) },
          .registered,
          [{ kind := .workerRegistered, taskId := state.taskId, revision := 0, time := now,
             workerId := some (strip workerId) }]⟩
  | claim {workerId : String} {now lease : Time} {worker : WorkerLease}
      (isOpen : state.taskStatus = .opened) (found : workerById state workerId = some worker)
      (candidate : worker.status = .candidate) (idle : state.currentWorkerId = none) :
      Change state (.claimWorker workerId now lease state.revision)
        ⟨{ state with
            generation := state.generation + 1, currentWorkerId := some workerId
            handoffTargetWorkerId := none, handoffRequestedAt := none
            workers := replaceWorker state.workers (claimedLease worker (state.generation + 1) now lease) },
          .claimed,
          [{ kind := .leaseClaimed, taskId := state.taskId, revision := 0, time := now,
             workerId := some workerId, generation := some (state.generation + 1) }]⟩
  | heartbeat {workerId : String} {generation : Int} {now lease : Time} {worker : WorkerLease}
      (authorized : Authorized state workerId generation now worker) :
      Change state (.heartbeatWorker workerId generation now lease state.revision)
        ⟨{ state with workers := replaceWorker state.workers (renewedLease worker now lease) },
          .heartbeatRecorded,
          [{ kind := .heartbeatAccepted, taskId := state.taskId, revision := 0, time := now,
             workerId := some workerId, generation := some generation }]⟩
  | handoff {workerId target : String} {generation : Int} {now : Time} {worker candidate : WorkerLease}
      (authorized : Authorized state workerId generation now worker)
      (found : workerById state target = some candidate) (status : candidate.status = .candidate) :
      Change state (.requestHandoff workerId target generation now state.revision)
        ⟨{ state with handoffTargetWorkerId := some target, handoffRequestedAt := some now },
          .handoffRequested,
          [{ kind := .handoffRequested, taskId := state.taskId, revision := 0, time := now,
             workerId := some workerId, generation := some generation, relatedWorkerId := some target }]⟩
  | takeover {candidateId oldId : String} {now lease : Time} {old candidate : WorkerLease} {reason : TakeoverReason}
      (isOpen : state.taskStatus = .opened) (found : workerById state candidateId = some candidate)
      (status : candidate.status = .candidate) (current : state.currentWorkerId = some oldId)
      (holder : workerById state oldId = some old)
      (eligible : state.handoffTargetWorkerId = some candidateId ∧ reason = .handoff ∨
        leaseIsFresh state oldId now = false ∧ reason = .leaseExpired) :
      Change state (.takeoverWorker candidateId now lease state.revision)
        ⟨{ state with
            generation := state.generation + 1, currentWorkerId := some candidateId
            handoffTargetWorkerId := none, handoffRequestedAt := none
            workers := replaceWorker (replaceWorker state.workers (supersededLease old candidateId now))
              (claimedLease candidate (state.generation + 1) now lease) },
          .takeoverGranted,
          [{ kind := .workerSuperseded, taskId := state.taskId, revision := 0, time := now,
             workerId := some oldId, generation := old.generation, relatedWorkerId := some candidateId },
           { kind := .leaseTakenOver, taskId := state.taskId, revision := 0, time := now,
             workerId := some candidateId, generation := some (state.generation + 1),
             relatedWorkerId := some oldId, ref := some reason.value }]⟩
  | complete {workerId : String} {generation : Int} {now : Time} {worker : WorkerLease}
      (authorized : Authorized state workerId generation now worker) :
      Change state (.completeWorker workerId generation now state.revision)
        ⟨withoutCurrent state (endedLease worker .completed now), .workerCompleted,
          [{ kind := .workerCompleted, taskId := state.taskId, revision := 0, time := now,
             workerId := some workerId, generation := some generation }]⟩
  | abandon {workerId : String} {generation : Int} {now : Time} {worker : WorkerLease}
      (isOpen : state.taskStatus = .opened) (found : workerById state workerId = some worker)
      (current : state.currentWorkerId = some workerId) (active : worker.status = .active)
      (named : generation = state.generation) (held : worker.generation = some state.generation) :
      Change state (.abandonWorker workerId generation now state.revision)
        ⟨withoutCurrent state (endedLease worker .abandoned now), .workerAbandoned,
          [{ kind := .workerAbandoned, taskId := state.taskId, revision := 0, time := now,
             workerId := some workerId, generation := some generation }]⟩
  | finish {ref : String} {now : Time}
      (isOpen : state.taskStatus = .opened) (idle : state.currentWorkerId = none) (named : strip ref ≠ "") :
      Change state (.completeTask ref now state.revision)
        ⟨{ state with taskStatus := .completed, completedAt := some now, completionRef := some (strip ref) },
          .taskCompleted,
          [{ kind := .taskCompleted, taskId := state.taskId, revision := 0, time := now,
             generation := some state.generation, ref := some (strip ref) }]⟩

/-- A call that leaves the snapshot alone: it raises for a malformed argument,
or it decides without a mutation. -/
def Quiet (state : WorkerTaskState) (call : Call) (result : Except ProtocolError ProtocolDecision) : Prop :=
  (∃ message, result = .error (.value message)) ∨
    ∃ decision, result = .ok decision ∧ decision.state = state ∧ decision.mutated = false ∧
      decision.expectedRevision = call.expectedRevision ∧
      (decision.accepted = true → ∃ workerId ref now revision, call = .registerWorker workerId ref now revision)

/-- The call changes the snapshot as `Change` says and `accept` decides. -/
def Moves (state : WorkerTaskState) (call : Call) (result : Except ProtocolError ProtocolDecision) : Prop :=
  ∃ outcome, Change state call outcome ∧ result = accept state outcome.state outcome.code outcome.events

theorem Quiet.value (state : WorkerTaskState) (call : Call) (message : String) :
    Quiet state call (.error (.value message)) :=
  Or.inl ⟨message, rfl⟩

theorem Quiet.rejected {state : WorkerTaskState} {call : Call} (same : call.expectedRevision = state.revision)
    (code : DecisionCode) : Quiet state call (.ok (reject state code)) :=
  Or.inr ⟨_, rfl, rfl, by simp [reject, ProtocolDecision.mutated], same.symm, by simp [reject]⟩

theorem preflight_valid {state : WorkerTaskState} (valid : Valid state) (revision : Int) :
    preflight state revision = .ok (if revision ≠ state.revision then
      some { accepted := false, code := .staleRevision, expectedRevision := revision, state } else none) := by
  simp only [preflight, valid.check, bind, Except.bind, pure, Except.pure]
  split <;> rfl

/-- After the revision check only the current revision remains to be decided. -/
theorem after_preflight {state : WorkerTaskState} (valid : Valid state) {call : Call}
    {rest : Except ProtocolError ProtocolDecision}
    (decided : call.expectedRevision = state.revision → Quiet state call rest ∨ Moves state call rest) :
    Quiet state call (answerOr (preflight state call.expectedRevision) rest) ∨
      Moves state call (answerOr (preflight state call.expectedRevision) rest) := by
  rw [preflight_valid valid]
  by_cases same : call.expectedRevision = state.revision
  · simpa [answerOr, same] using decided same
  · refine Or.inl (Or.inr ⟨_, by simp [answerOr, same]; rfl, rfl, ?_, rfl, by simp⟩)
    simp [ProtocolDecision.mutated]

/-- A non-positive lease raises before anything else is looked at. -/
theorem after_lease {state : WorkerTaskState} {lease : Time} {call : Call}
    {rest : Except ProtocolError ProtocolDecision} (decided : Quiet state call rest ∨ Moves state call rest) :
    Quiet state call (requirePositiveLease lease >>= fun _ => rest) ∨
      Moves state call (requirePositiveLease lease >>= fun _ => rest) := by
  unfold requirePositiveLease refuse
  split
  · exact Or.inl (.value state _ _)
  · exact decided

private theorem timeline_le {worker : WorkerLease} {now : Time}
    (later : ¬ ∃ stamp ∈ [worker.claimedAt, worker.lastHeartbeatAt].reduceOption.max?, now < stamp) :
    (∀ stamp, worker.claimedAt = some stamp → stamp ≤ now) ∧
      ∀ stamp, worker.lastHeartbeatAt = some stamp → stamp ≤ now := by
  have bound : ∀ stamp ∈ [worker.claimedAt, worker.lastHeartbeatAt].reduceOption, stamp ≤ now := by
    intro stamp member
    obtain ⟨largest, top⟩ := Option.ne_none_iff_exists'.mp
      (fun none => List.ne_nil_of_mem member (List.max?_eq_none_iff.mp none))
    have below := (List.max?_le_iff top).mp le_rfl stamp member
    push Not at later
    exact below.trans (later largest top)
  exact ⟨fun stamp same => bound stamp (by simp [List.reduceOption_mem_iff, same]),
    fun stamp same => bound stamp (by simp [List.reduceOption_mem_iff, same])⟩

theorem authorityRejection_cases (state : WorkerTaskState) (workerId : String) (generation : Int) (now : Time) :
    (∃ code, authorityRejection state workerId generation now = some (reject state code)) ∨
      authorityRejection state workerId generation now = none ∧
        ∃ worker, Authorized state workerId generation now worker := by
  unfold authorityRejection
  split
  · exact Or.inl ⟨_, rfl⟩
  next isOpen =>
    split
    · exact Or.inl ⟨_, rfl⟩
    next worker found =>
      split
      · exact Or.inl ⟨_, rfl⟩
      next holder =>
        split
        · exact Or.inl ⟨_, rfl⟩
        next held =>
          split
          · exact Or.inl ⟨_, rfl⟩
          next later =>
            split
            · exact Or.inl ⟨_, rfl⟩
            next fresh =>
              refine Or.inr ⟨rfl, worker, ?_⟩
              push Not at isOpen holder held
              obtain ⟨claimed, heartbeat⟩ := timeline_le later
              refine ⟨isOpen, found, holder.1, holder.2, held.1, held.1 ▸ held.2, claimed, heartbeat, ?_⟩
              simp only [leaseIsFresh, found, Bool.not_eq_true', Bool.not_eq_false] at fresh
              cases expiry : worker.leaseExpiresAt with
              | none => simp [expiry] at fresh
              | some time => exact ⟨time, rfl, by simp [expiry] at fresh; exact fresh.2⟩

/-- Operations that require authority either reject or see the authorized lease. -/
theorem after_authority {state : WorkerTaskState} {workerId : String} {generation : Int} {now : Time} {call : Call}
    {rest : Except ProtocolError ProtocolDecision} (same : call.expectedRevision = state.revision)
    (decided : ∀ worker, Authorized state workerId generation now worker → Quiet state call rest ∨ Moves state call rest) :
    Quiet state call (match authorityRejection state workerId generation now with
      | some rejection => .ok rejection
      | none => rest) ∨
    Moves state call (match authorityRejection state workerId generation now with
      | some rejection => .ok rejection
      | none => rest) := by
  rcases authorityRejection_cases state workerId generation now with
    ⟨code, rejected⟩ | ⟨passed, worker, authorized⟩
  · rw [rejected]
    exact Or.inl (.rejected same code)
  · rw [passed]
    exact decided worker authorized

private theorem register_cases {state : WorkerTaskState} (valid : Valid state) (workerId : String)
    (conversationRef : Option String) (now : Time) (revision : Int) :
    Quiet state (.registerWorker workerId conversationRef now revision) (perform state (.registerWorker workerId conversationRef now revision)) ∨
      Moves state (.registerWorker workerId conversationRef now revision) (perform state (.registerWorker workerId conversationRef now revision)) := by
  apply after_preflight valid
  rintro ⟨⟩
  split
  · exact Or.inl (.rejected rfl _)
  next isOpen =>
    simp only [refuse]
    split
    · exact Or.inl (.value state _ _)
    next named =>
      cases found : workerById state (strip workerId) with
      | some existing =>
        refine Or.inl (Or.inr ⟨_, rfl, rfl, ?_, rfl, fun _ => ⟨_, _, _, _, rfl⟩⟩)
        simp [ProtocolDecision.mutated]
      | none => exact Or.inr ⟨_, .register (not_not.mp isOpen) named found, rfl⟩

private theorem claim_cases {state : WorkerTaskState} (valid : Valid state) (workerId : String)
    (now lease : Time) (revision : Int) :
    Quiet state (.claimWorker workerId now lease revision) (perform state (.claimWorker workerId now lease revision)) ∨
      Moves state (.claimWorker workerId now lease revision) (perform state (.claimWorker workerId now lease revision)) := by
  apply after_lease
  apply after_preflight valid
  rintro ⟨⟩
  split
  · exact Or.inl (.rejected rfl _)
  next isOpen =>
    cases found : workerById state workerId with
    | none => exact Or.inl (.rejected rfl _)
    | some worker =>
      simp only
      split
      · exact Or.inl (.rejected rfl _)
      next candidate =>
        split
        · exact Or.inl (.rejected rfl _)
        next idle => exact Or.inr ⟨_, .claim (not_not.mp isOpen) found (not_not.mp candidate) (not_not.mp idle), rfl⟩

private theorem heartbeat_cases {state : WorkerTaskState} (valid : Valid state) (workerId : String)
    (generation : Int) (now lease : Time) (revision : Int) :
    Quiet state (.heartbeatWorker workerId generation now lease revision) (perform state (.heartbeatWorker workerId generation now lease revision)) ∨
      Moves state (.heartbeatWorker workerId generation now lease revision) (perform state (.heartbeatWorker workerId generation now lease revision)) := by
  apply after_lease
  apply after_preflight valid
  rintro ⟨⟩
  apply after_authority rfl
  intro worker authorized
  rw [authorized.found]
  exact Or.inr ⟨_, .heartbeat authorized, rfl⟩

private theorem handoff_cases {state : WorkerTaskState} (valid : Valid state) (workerId target : String)
    (generation : Int) (now : Time) (revision : Int) :
    Quiet state (.requestHandoff workerId target generation now revision) (perform state (.requestHandoff workerId target generation now revision)) ∨
      Moves state (.requestHandoff workerId target generation now revision) (perform state (.requestHandoff workerId target generation now revision)) := by
  apply after_preflight valid
  rintro ⟨⟩
  apply after_authority rfl
  intro worker authorized
  split
  · exact Or.inl (.rejected rfl _)
  next candidate =>
    obtain ⟨lease, found, status⟩ := Option.map_eq_some_iff.mp (not_not.mp candidate)
    exact Or.inr ⟨_, .handoff authorized found status, rfl⟩

/-- An eligible candidate faces a current worker whose lease it may replace. -/
theorem takeoverEligibility_cases {state : WorkerTaskState} (valid : Valid state) (candidateId : String) (now : Time) :
    ∃ eligibility, takeoverEligibility state candidateId now = .ok eligibility ∧
      (eligibility.eligible = true → ∃ candidate oldId old, state.taskStatus = .opened ∧
        workerById state candidateId = some candidate ∧ candidate.status = .candidate ∧
        state.currentWorkerId = some oldId ∧ workerById state oldId = some old ∧
        (state.handoffTargetWorkerId = some candidateId ∧ eligibility.reason = .handoff ∨
          leaseIsFresh state oldId now = false ∧ eligibility.reason = .leaseExpired)) := by
  simp only [takeoverEligibility, valid.check, bind, Except.bind, pure, Except.pure]
  split
  · exact ⟨_, rfl, by simp⟩
  next isOpen =>
    cases found : workerById state candidateId with
    | none => exact ⟨_, rfl, by simp⟩
    | some candidate =>
      simp only
      split
      · exact ⟨_, rfl, by simp⟩
      next status =>
        cases current : state.currentWorkerId with
        | none => exact ⟨_, rfl, by simp⟩
        | some oldId =>
          obtain ⟨old, member, same, _⟩ := valid.current oldId current
          have holder : workerById state oldId = some old := same ▸ workerById_of_mem valid.distinct member
          have sides := And.intro (not_not.mp isOpen) (not_not.mp status)
          simp only
          split
          next handoff =>
            exact ⟨_, rfl, fun _ => ⟨candidate, oldId, old, sides.1, rfl, sides.2, rfl, holder, Or.inl ⟨handoff, rfl⟩⟩⟩
          next =>
            split
            · exact ⟨_, rfl, by simp⟩
            next stale =>
              exact ⟨_, rfl, fun _ => ⟨candidate, oldId, old, sides.1, rfl, sides.2, rfl, holder,
                Or.inr ⟨by simpa using stale, rfl⟩⟩⟩

private theorem takeover_cases {state : WorkerTaskState} (valid : Valid state) (candidateId : String)
    (now lease : Time) (revision : Int) :
    Quiet state (.takeoverWorker candidateId now lease revision) (perform state (.takeoverWorker candidateId now lease revision)) ∨
      Moves state (.takeoverWorker candidateId now lease revision) (perform state (.takeoverWorker candidateId now lease revision)) := by
  apply after_lease
  apply after_preflight valid
  rintro ⟨⟩
  obtain ⟨eligibility, decided, allowed⟩ := takeoverEligibility_cases valid candidateId now
  simp only [decided, bind, Except.bind]
  cases verdict : eligibility.eligible with
  | false => exact Or.inl (.rejected rfl _)
  | true =>
    obtain ⟨candidate, oldId, old, isOpen, found, status, current, holder, reason⟩ := allowed verdict
    simp only [current, holder, found]
    exact Or.inr ⟨_, .takeover isOpen found status current holder reason, rfl⟩

private theorem complete_cases {state : WorkerTaskState} (valid : Valid state) (workerId : String)
    (generation : Int) (now : Time) (revision : Int) :
    Quiet state (.completeWorker workerId generation now revision) (perform state (.completeWorker workerId generation now revision)) ∨
      Moves state (.completeWorker workerId generation now revision) (perform state (.completeWorker workerId generation now revision)) := by
  apply after_preflight valid
  rintro ⟨⟩
  apply after_authority rfl
  intro worker authorized
  rw [authorized.found]
  exact Or.inr ⟨_, .complete authorized, rfl⟩

private theorem abandon_cases {state : WorkerTaskState} (valid : Valid state) (workerId : String)
    (generation : Int) (now : Time) (revision : Int) :
    Quiet state (.abandonWorker workerId generation now revision) (perform state (.abandonWorker workerId generation now revision)) ∨
      Moves state (.abandonWorker workerId generation now revision) (perform state (.abandonWorker workerId generation now revision)) := by
  apply after_preflight valid
  rintro ⟨⟩
  split
  · exact Or.inl (.rejected rfl _)
  next isOpen =>
    cases found : workerById state workerId with
    | none => exact Or.inl (.rejected rfl _)
    | some worker =>
      simp only
      split
      · exact Or.inl (.rejected rfl _)
      next holder =>
        split
        · exact Or.inl (.rejected rfl _)
        next held =>
          push Not at isOpen holder held
          exact Or.inr ⟨_, .abandon isOpen found holder.1 holder.2 held.1 (held.1 ▸ held.2), rfl⟩

private theorem finish_cases {state : WorkerTaskState} (valid : Valid state) (ref : String)
    (now : Time) (revision : Int) :
    Quiet state (.completeTask ref now revision) (perform state (.completeTask ref now revision)) ∨
      Moves state (.completeTask ref now revision) (perform state (.completeTask ref now revision)) := by
  apply after_preflight valid
  rintro ⟨⟩
  split
  · exact Or.inl (.rejected rfl _)
  next isOpen =>
    split
    · exact Or.inl (.rejected rfl _)
    next idle =>
      simp only
      split
      · exact Or.inl (.rejected rfl _)
      next named => exact Or.inr ⟨_, .finish (not_not.mp isOpen) (not_not.mp idle) named, rfl⟩

/-- Every call on a valid snapshot is quiet or one of the eight changes. -/
theorem perform_cases {state : WorkerTaskState} (valid : Valid state) (call : Call) :
    Quiet state call (perform state call) ∨ Moves state call (perform state call) := by
  cases call with
  | registerWorker workerId conversationRef now revision => exact register_cases valid ..
  | claimWorker workerId now lease revision => exact claim_cases valid ..
  | heartbeatWorker workerId generation now lease revision => exact heartbeat_cases valid ..
  | requestHandoff workerId target generation now revision => exact handoff_cases valid ..
  | takeoverWorker candidateId now lease revision => exact takeover_cases valid ..
  | completeWorker workerId generation now revision => exact complete_cases valid ..
  | abandonWorker workerId generation now revision => exact abandon_cases valid ..
  | completeTask ref now revision => exact finish_cases valid ..

end WebSupervisor.WorkerProtocol.Proofs
