import WebSupervisor.Proofs.WorkerPersistenceRefinement
import WebSupervisor.Registry.Observations

/-! The canonical worker rows under a transition. Each transition writes the rows of
all workers of its task from their leases, while an observation stamps the row of one
worker and no lease. -/

namespace WebSupervisor.WorkerPersistence.Proofs
open Library WorkerProtocol WorkerProtocol.Proofs Registry

/-- A step of a run: an observation is recorded, or a protocol method is called. -/
inductive RowStep where
  | observe (obs : BrowserObservation)
  | transition (call : ProtocolCall)

def RowStep.apply (db : Database) : RowStep → Database
  | .observe obs => recordBrowserObservation db obs
  | .transition call => serve db call

/-- The transition was accepted in the run. The snapshots are those of its task before
and after it. -/
def AcceptedIn (start : Database) (steps : List RowStep) (db after : Database) (state next : WorkerTaskState) : Prop :=
  ∃ before call rest, steps = before ++ .transition call :: rest ∧ db = run RowStep.apply start before ∧
    ∃ decision, call.transaction db = .ok (decision, after) ∧ decision.mutated = true ∧ decision.state = next ∧
      loadWorkerProtocol db call.taskId = .ok state

/-- Only rows of workers whose leases changed are different, and no worker was seen
later before than after. -/
structure Framed (db after : Database) (state next : WorkerTaskState) : Prop where
  others : ∀ workerId, workerById next workerId = workerById state workerId →
    after.workers.find? workerId = db.workers.find? workerId
  seen : ∀ workerId row, db.workers.find? workerId = some row → ∃ later, after.workers.find? workerId = some later ∧
    ∀ seen, row.lastSeenAt = some seen → ∃ again, later.lastSeenAt = some again ∧ seen ≤ again

/-- The rows of workers whose leases stay carry the stamps of these leases, and the
others were not seen after the heartbeats that their leases come to bear. -/
structure InStep (db : Database) (state next : WorkerTaskState) : Prop where
  others : ∀ workerId lease row, workerById state workerId = some lease → workerById next workerId = some lease →
    db.workers.find? workerId = some row → row.lastSeenAt = lease.lastHeartbeatAt ∧ row.endedAt = lease.endedAt
  seen : ∀ workerId lease row, workerById state workerId ≠ some lease → workerById next workerId = some lease →
    db.workers.find? workerId = some row →
      ∀ seen, row.lastSeenAt = some seen → ∃ again, lease.lastHeartbeatAt = some again ∧ seen ≤ again

section Rows
variable {db after : Database} {state : WorkerTaskState} {decision : ProtocolDecision} {workerId : String}
  {lease : WorkerLease}

/-- What an accepted transition has read, decided and written. -/
structure Transition (db after : Database) (state : WorkerTaskState) (decision : ProtocolDecision) : Prop where
  valid : Valid state
  nextValid : Valid decision.state
  same : decision.state.taskId = state.taskId
  consistent : Consistent db state
  persisted : Persisted db after decision
  kept : ∀ worker ∈ state.workers, ∃ later ∈ decision.state.workers, later.workerId = worker.workerId

theorem transition_of_method {call : ProtocolCall} (returned : call.transaction db = .ok (decision, after))
    (mutated : decision.mutated = true) (loaded : loadWorkerProtocol db call.taskId = .ok state) :
    Transition db after state decision := by
  rcases method_cases call.method call.taskId db with ⟨_, raised⟩ | ⟨_, same⟩
  · rw [ProtocolCall.transaction, raised] at returned
    cases returned
  rw [ProtocolCall.transaction, same] at returned
  obtain ⟨previous, decided, found, ⟨unmoved, _⟩ | ⟨_, applied⟩⟩ := applied_cases returned
  · rw [unmoved] at mutated
    cases mutated
  obtain rfl := Except.ok.inj (found.symm.trans loaded)
  obtain ⟨named, valid, _, consistent, _⟩ := load_consistent loaded
  refine ⟨valid, applied.valid, applied.task.trans named.symm, consistent, applied.persisted, fun worker member => ?_⟩
  rcases perform_spec valid call.method.call with (⟨_, raised⟩ | ⟨_, quiet, _, unmoved, _⟩) | ⟨outcome, change, moved⟩
  · rw [raised] at decided
    cases decided
  · obtain rfl := Except.ok.inj (quiet.symm.trans decided)
    rw [unmoved] at mutated
    cases mutated
  · obtain rfl := Except.ok.inj (moved.symm.trans decided)
    obtain ⟨later, inside, growth⟩ := change.leases valid worker member
    exact ⟨later, inside, growth.workerId⟩

variable (transition : Transition db after state decision)
include transition

private theorem row_of_none (absent : workerById decision.state workerId = none) :
    after.workers.find? workerId = db.workers.find? workerId := by
  refine Option.ext (fun row => ?_)
  rw [Table.find?_some, Table.find?_some, transition.persisted.workers]
  constructor
  · rintro ⟨⟨lease, member, rfl⟩ | ⟨old, _⟩, named⟩
    · rw [syncedRow_workerId] at named
      exact absurd named (workerById_none.mp absent lease member)
    · exact ⟨old, named⟩
  · rintro ⟨old, named⟩
    exact ⟨Or.inr ⟨old, fun lease member same => workerById_none.mp absent lease member (same.trans named)⟩, named⟩

private theorem row_of_lease (found : workerById decision.state workerId = some lease) :
    after.workers.find? workerId = some (syncedRow (workersForTask db decision.state.taskId) lease) := by
  obtain ⟨member, named⟩ := workerById_some found
  rw [Table.find?_some, transition.persisted.workers, syncedRow_workerId]
  exact ⟨Or.inl ⟨lease, member, rfl⟩, named⟩

private theorem row_of_known {old : WorkerLease} (known : workerById state workerId = some old) :
    ∃ row later, db.workers.find? workerId = some row ∧ Agrees old row ∧
      workerById decision.state workerId = some later ∧
      after.workers.find? workerId = some { row with
        status := legacyStatus later.status, lastSeenAt := later.lastHeartbeatAt, endedAt := later.endedAt } := by
  obtain ⟨member, named⟩ := workerById_some known
  obtain ⟨row, present, agrees⟩ := transition.consistent.workers old member
  obtain ⟨later, inside, sameId⟩ := transition.kept old member
  have next : workerById decision.state workerId = some later := by
    rw [← named, ← sameId]
    exact workerById_of_mem transition.nextValid.distinct inside
  have existing : (workersForTask db decision.state.taskId).find? (·.workerId == later.workerId) = some row := by
    refine find_worker.mpr ⟨present, ?_, agrees.workerId.trans sameId.symm⟩
    rw [transition.same, agrees.taskId]
    exact transition.valid.owned old member
  refine ⟨row, later, Table.find?_some.mpr ⟨present, agrees.workerId.trans named⟩, agrees, next, ?_⟩
  rw [row_of_lease transition next, syncedRow, existing]
  rfl

private theorem no_row_of_new (unknown : workerById state workerId = none)
    (found : workerById decision.state workerId = some lease) : db.workers.find? workerId = none := by
  obtain ⟨member, named⟩ := workerById_some found
  rw [Table.find?_none, ← named]
  refine transition.persisted.fresh lease member (find_worker_none.mpr (fun row inside owned same => ?_))
  obtain ⟨old, present, agreed⟩ := transition.consistent.canonical row inside (owned.trans transition.same)
  exact workerById_none.mp unknown old present (agreed.trans (same.trans named))

theorem framed_iff : Framed db after state decision.state ↔ InStep db state decision.state := by
  constructor
  · intro framed
    refine ⟨fun workerId lease row known next found => ?_, fun workerId lease row changed next found seen stamp => ?_⟩
    · obtain ⟨held, later, there, _, again, written⟩ := row_of_known transition known
      obtain rfl := Option.some_inj.mp (found.symm.trans there)
      obtain rfl := Option.some_inj.mp (next.symm.trans again)
      have same := framed.others workerId (next.trans known.symm)
      rw [written, found, Option.some_inj] at same
      exact ⟨(congrArg WorkerRecord.lastSeenAt same).symm, (congrArg WorkerRecord.endedAt same).symm⟩
    · obtain ⟨later, written, kept⟩ := framed.seen workerId row found
      cases known : workerById state workerId with
      | none => rw [no_row_of_new transition known next] at found; cases found
      | some old =>
        obtain ⟨_, _, _, _, again, stored⟩ := row_of_known transition known
        obtain rfl := Option.some_inj.mp (next.symm.trans again)
        obtain rfl := Option.some_inj.mp (written.symm.trans stored)
        exact kept seen stamp
  · intro step
    refine ⟨fun workerId same => ?_, fun workerId row found => ?_⟩
    · cases known : workerById state workerId with
      | none => exact row_of_none transition (same.trans known)
      | some lease =>
        obtain ⟨row, later, found, agrees, next, written⟩ := row_of_known transition known
        obtain rfl := Option.some_inj.mp (known.symm.trans (same.symm.trans next))
        obtain ⟨seen, ended⟩ := step.others workerId lease row known next found
        rw [written, found, ← seen, ← ended, ← agrees.status]
    · cases known : workerById state workerId with
      | none =>
        cases next : workerById decision.state workerId with
        | none => exact ⟨row, (row_of_none transition next).trans found, fun seen stamp => ⟨seen, stamp, le_rfl⟩⟩
        | some lease => rw [no_row_of_new transition known next] at found; cases found
      | some old =>
        obtain ⟨held, later, there, _, next, written⟩ := row_of_known transition known
        obtain rfl := Option.some_inj.mp (found.symm.trans there)
        refine ⟨_, written, fun seen stamp => ?_⟩
        by_cases same : later = old
        · subst same
          exact ⟨seen, (step.others workerId later row known next found).1.symm.trans stamp, le_rfl⟩
        · refine step.seen workerId later row (fun equal => same ?_) next found seen stamp
          exact Option.some_inj.mp (equal.symm.trans known)

end Rows

/-- The row of the worker carries the stamps of its lease. -/
def Current (db : Database) (workerId : String) : Prop :=
  ∀ lease ∈ db.protocolLeases, lease.workerId = workerId → ∀ row, db.workers.find? workerId = some row →
    row.lastSeenAt = lease.lastHeartbeatAt ∧ row.endedAt = lease.endedAt

section Unobserved
variable {db after : Database} {state : WorkerTaskState} {decision : ProtocolDecision} {workerId : String}

/-- A transition writes the rows of its task from its leases. -/
theorem transition_current (transition : Transition db after state decision)
    (current : workerById decision.state workerId = none → Current db workerId) : Current after workerId := by
  intro lease member named row found
  cases next : workerById decision.state workerId with
  | none =>
    rw [row_of_none transition next] at found
    rcases (transition.persisted.leases lease).mp member with new | ⟨old, _⟩
    · exact absurd named (workerById_none.mp next lease new)
    · exact current next lease old named row found
  | some later =>
    rw [row_of_lease transition next, Option.some_inj] at found
    obtain ⟨inside, same⟩ := workerById_some next
    have equal : lease = later := by
      rcases (transition.persisted.leases lease).mp member with new | ⟨_, untouched⟩
      · exact transition.nextValid.distinct.eq new inside (named.trans same.symm)
      · exact absurd (same.trans named.symm) (untouched later inside)
    subst equal
    rw [← found, syncedRow]
    cases (workersForTask db decision.state.taskId).find? (·.workerId == lease.workerId) <;> exact ⟨rfl, rfl⟩

private theorem observe_current {obs : BrowserObservation} (other : obs.workerId ≠ workerId) (current : Current db workerId) :
    Current (recordBrowserObservation db obs) workerId := by
  have tables : (recordBrowserObservation db obs).workers.find? workerId = db.workers.find? workerId ∧
      (recordBrowserObservation db obs).protocolLeases = db.protocolLeases := by
    unfold recordBrowserObservation updateWorker
    cases known : db.workers.find? obs.workerId with
    | none => exact ⟨rfl, rfl⟩
    | some worker =>
      obtain ⟨member, named⟩ := Table.find?_some.mp known
      have written : (db.workers.replace { worker with lastSeenAt := some obs.observedAt }).find? workerId =
          db.workers.find? workerId := by
        rw [Table.find?_replace (by exact ⟨worker, member, rfl⟩)]
        exact if_neg (fun same => other (named.symm.trans same.symm))
      exact ⟨written, rfl⟩
  obtain ⟨same, leases⟩ := tables
  intro lease member named row found
  exact current lease (leases ▸ member) named row (same ▸ found)

private theorem returned_cases {call : ProtocolCall} (returned : call.transaction db = .ok (decision, after)) :
    after = db ∨ ∃ state, Transition db after state decision := by
  rcases method_cases call.method call.taskId db with ⟨_, raised⟩ | ⟨_, same⟩
  · rw [ProtocolCall.transaction, raised] at returned
    cases returned
  · obtain ⟨previous, _, loaded, ⟨_, unchanged⟩ | ⟨mutated, _⟩⟩ :=
      applied_cases (show transitionOf call.taskId call.method.call db = .ok (decision, after) from same ▸ returned)
    · exact Or.inl unchanged
    · exact Or.inr ⟨previous, transition_of_method returned mutated loaded⟩

/-- A worker that is not observed stays in step with its lease. -/
theorem run_current (steps : List RowStep) (start : Database) (current : Current start workerId)
    (unobserved : ∀ obs, .observe obs ∈ steps → obs.workerId ≠ workerId) :
    Current (run RowStep.apply start steps) workerId := by
  induction steps generalizing start with
  | nil => exact current
  | cons step steps ih =>
    refine ih (RowStep.apply start step) ?_ (fun obs member => unobserved obs (List.mem_cons_of_mem _ member))
    cases step with
    | observe obs => exact observe_current (unobserved obs (List.mem_cons_self ..)) current
    | transition call =>
      cases returned : call.transaction start with
      | error error => simpa [RowStep.apply, serve, Transaction.after, returned] using current
      | ok pair =>
        obtain ⟨answer, after⟩ := pair
        have same : RowStep.apply start (.transition call) = after := by
          simp [RowStep.apply, serve, Transaction.after, returned]
        rw [same]
        rcases returned_cases returned with rfl | ⟨state, transition⟩
        · exact current
        · exact transition_current transition (fun _ => current)

end Unobserved

/-- In every run of observations and protocol methods, an accepted transition changes
only the rows of workers whose leases it changed, and takes no stamp back, exactly when
the other rows of its task carry the stamps of their leases and the changed leases come
to bear heartbeats that are not before the last sight of their workers. -/
theorem transition_rows_framed (start : Database) (steps : List RowStep) (db after : Database)
    (state next : WorkerTaskState) (accepted : AcceptedIn start steps db after state next) :
    Framed db after state next ↔ InStep db state next := by
  obtain ⟨before, call, rest, rfl, rfl, decision, returned, mutated, rfl, loaded⟩ := accepted
  exact framed_iff (transition_of_method returned mutated loaded)

/-- At the next transition, a worker that was not observed is in step. -/
theorem unobserved_in_step {start : Database} {steps : List RowStep} {taskId workerId : String} {state : WorkerTaskState}
    (current : Current start workerId) (unobserved : ∀ obs, .observe obs ∈ steps → obs.workerId ≠ workerId)
    (loaded : loadWorkerProtocol (run RowStep.apply start steps) taskId = .ok state) {lease : WorkerLease} {row : WorkerRecord}
    (known : workerById state workerId = some lease)
    (found : (run RowStep.apply start steps).workers.find? workerId = some row) :
    row.lastSeenAt = lease.lastHeartbeatAt ∧ row.endedAt = lease.endedAt := by
  obtain ⟨_, _, _, _, _, leases⟩ := load_consistent loaded
  obtain ⟨member, named⟩ := workerById_some known
  rw [leases, mem_leasesForTask] at member
  exact run_current steps start current unobserved lease member.1 named row found

/-- A task with two candidates, and an observation of the first before the second is
given the task. -/
def openTask : Database :=
  { tasks := ⟨[{ taskId := "task", state := .running }], by decide⟩
    protocolTasks :=
      ⟨[{ taskId := "task", revision := 0, generation := 0, taskStatus := .opened, currentWorkerId := none
          handoffTargetWorkerId := none, handoffRequestedAt := none, parentTaskId := none, rootTaskId := "task"
          childKey := none, completedAt := none, completionRef := none }], by decide⟩ }

def registrations : List RowStep :=
  [.transition ⟨"task", .registerWorker "https://chatgpt.com/c/1" 0 (some "first") "worker_1" 2⟩,
   .transition ⟨"task", .registerWorker "https://chatgpt.com/c/2" 1 (some "second") "worker_2" 3⟩]

def claimSecond : ProtocolCall := ⟨"task", .claimWorker "second" 2 60 11⟩

def twoCandidates : WorkerTaskState :=
  { lineage := { taskId := "task", parentTaskId := none, rootTaskId := "task" }
    revision := 2
    workers :=
      [{ workerId := "first", taskId := "task", conversationRef := some "https://chatgpt.com/c/1", status := .candidate
         registeredAt := 2 },
       { workerId := "second", taskId := "task", conversationRef := some "https://chatgpt.com/c/2", status := .candidate
         registeredAt := 3 }] }

private theorem claim_accepted (before : List RowStep)
    (loaded : loadWorkerProtocol (run RowStep.apply openTask before) "task" = .ok twoCandidates)
    (moved : (claimSecond.transaction (run RowStep.apply openTask before)).map (fun pair => pair.1.mutated) = .ok true) :
    ∃ next, AcceptedIn openTask (before ++ [.transition claimSecond]) (run RowStep.apply openTask before)
      (serve (run RowStep.apply openTask before) claimSecond) twoCandidates next := by
  cases returned : claimSecond.transaction (run RowStep.apply openTask before) with
  | error error =>
    rw [returned] at moved
    cases moved
  | ok pair =>
    rw [returned] at moved
    have same : serve (run RowStep.apply openTask before) claimSecond = pair.2 := by
      simp [serve, Transaction.after, returned]
    exact ⟨pair.1.state, before, claimSecond, [], rfl, rfl, pair.1, same ▸ returned, Except.ok.inj moved, rfl, loaded⟩

theorem transition_rows_framed_claim :
    ∃ next, (Framed (run RowStep.apply openTask registrations) (serve (run RowStep.apply openTask registrations) claimSecond)
        twoCandidates next ↔ InStep (run RowStep.apply openTask registrations) twoCandidates next) :=
  (claim_accepted registrations (by decide +kernel) (by decide +kernel)).imp
    (fun next accepted => transition_rows_framed openTask (registrations ++ [.transition claimSecond]) _ _ twoCandidates
      next accepted)

/-- The first worker was observed, and the transition to the second one forgets that. -/
theorem transition_rows_framed_fails :
    ¬ ∀ (start : Database) (steps : List RowStep) (db after : Database) (state next : WorkerTaskState),
      AcceptedIn start steps db after state next → Framed db after state next := by
  intro always
  let before := registrations ++ [.observe { workerId := "first", observedAt := 10 }]
  obtain ⟨next, accepted⟩ := claim_accepted before (by decide +kernel) (by decide +kernel)
  have framed := always _ _ _ _ _ _ accepted
  have seen : ((run RowStep.apply openTask before).workers.find? "first").map (·.lastSeenAt) = some (some 10) := by
    decide +kernel
  have forgotten : ((serve (run RowStep.apply openTask before) claimSecond).workers.find? "first").map (·.lastSeenAt) =
      some none := by decide +kernel
  obtain ⟨row, found, stamp⟩ := Option.map_eq_some_iff.mp seen
  obtain ⟨later, written, kept⟩ := framed.seen "first" row found
  obtain ⟨again, held, _⟩ := kept 10 stamp
  rw [written, Option.map_some, held] at forgotten
  cases forgotten

end WebSupervisor.WorkerPersistence.Proofs
