import WebSupervisor.Registry.Workers
import WebSupervisor.Proofs.WorkerPersistenceBootstrap
import WebSupervisor.Proofs.WorkerProtocolFencing

/-! The durable protocol refines the pure one. Every interleaving of protocol
methods, on any tasks, follows a run of the pure transitions on each
bootstrapped task. -/

namespace WebSupervisor.WorkerPersistence.Proofs
open Library WorkerProtocol WorkerProtocol.Proofs Registry

/-- The transition that a protocol method makes once its arguments are checked. -/
def transitionOf (taskId : String) (call : Call) : Transaction ProtocolDecision :=
  applyWorkerProtocolTransition taskId call.expectedRevision (fun state => perform state call)

/-- A new candidate whose id already names a worker of another task. -/
def Clash (db : Database) (state : WorkerTaskState) (call : Call) : Prop :=
  ∃ workerId ref now revision, call = .registerWorker workerId ref now revision ∧
    ∃ row ∈ db.workers, row.workerId = strip workerId ∧ row.taskId ≠ state.taskId

section Step
variable {db : Database} {state : WorkerTaskState} {call : Call}

private theorem events_of_change {outcome : Outcome} (change : Change state call outcome) :
    (decision state outcome).events ≠ [] ∧ ∀ event ∈ (decision state outcome).events,
      event.taskId = (decision state outcome).state.taskId ∧ event.revision = state.revision + 1 := by
  cases change <;> simp [decision, stamped, WorkerTaskState.taskId, withoutCurrent]

private theorem quiet_transition (durable : Durable db state) {answer : ProtocolDecision}
    (decided : perform state call = .ok answer) (same : answer.state = state) (unmoved : answer.mutated = false)
    (expected : answer.expectedRevision = call.expectedRevision) :
    transitionOf state.taskId call db = .ok (answer, db) := by
  simp [transitionOf, applyWorkerProtocolTransition, durable.load, decided, expected, same, unmoved, bind, Except.bind,
    Except.mapError, refusePersistence, refuse, pure, Except.pure]

private theorem expected_of_change {outcome : Outcome} (change : Change state call outcome) :
    call.expectedRevision = state.revision := by
  cases change <;> rfl

private theorem moving_transition (durable : Durable db state) {outcome : Outcome}
    (change : Change state call outcome) (decided : perform state call = .ok (decision state outcome)) :
    transitionOf state.taskId call db = (do
      let next ← persistDecision db state (decision state outcome) state.revision
      let reloaded ← loadWorkerProtocol next state.taskId
      refusePersistence (reloaded ≠ stamped state outcome.state)
        "persisted worker protocol does not round-trip to the accepted pure state"
      pure (decision state outcome, next)) := by
  obtain ⟨some_, each⟩ := events_of_change change
  have checked := (change.valid durable.stored.sound.valid).check
  have task : (stamped state outcome.state).taskId = state.taskId := congrArg TaskLineage.taskId change.lineage
  have matching : ¬ ∃ event ∈ (decision state outcome).events,
      event.taskId ≠ state.taskId ∨ event.revision ≠ state.revision + 1 := by
    rintro ⟨event, member, bad⟩
    obtain ⟨named, revision⟩ := each event member
    exact bad.elim (fun wrong => wrong (named.trans task)) (fun wrong => wrong revision)
  have revision : (decision state outcome).expectedRevision = state.revision := rfl
  have next : (decision state outcome).state = stamped state outcome.state := rfl
  have advanced : (stamped state outcome.state).revision = state.revision + 1 := rfl
  have accepted : (decision state outcome).accepted = true := rfl
  simp only [transitionOf, applyWorkerProtocolTransition, durable.load, decided, expected_of_change change, revision,
    next, task, decision_mutated, accepted, advanced, some_, matching, checked, bind, Except.bind, Except.mapError,
    refusePersistence, refuse]
  simp

/-- What one durable transition does to the task it names. It raises when the
pure transition raises, or when a new candidate's id is taken by another task. -/
theorem transition_spec (durable : Durable db state) (brings : bringsReference call) :
    (∃ message, perform state call = .error (.value message) ∧
      transitionOf state.taskId call db = .error (.protocol (.value message))) ∨
    (∃ answer, perform state call = .ok answer ∧ answer.mutated = false ∧ answer.state = state ∧
      transitionOf state.taskId call db = .ok (answer, db)) ∨
    (∃ answer after, perform state call = .ok answer ∧ answer.mutated = true ∧
      transitionOf state.taskId call db = .ok (answer, after) ∧ Durable after answer.state) ∨
    Clash db state call ∧
      transitionOf state.taskId call db = .error (.integrity "UNIQUE constraint failed: workers.worker_id") := by
  have valid := durable.stored.sound.valid
  rcases perform_spec valid call with (⟨message, raised⟩ | ⟨answer, decided, same, unmoved, expected, _⟩) |
    ⟨outcome, change, decided⟩
  · refine Or.inl ⟨message, raised, ?_⟩
    simp [transitionOf, applyWorkerProtocolTransition, durable.load, raised, bind, Except.bind, Except.mapError]
  · exact Or.inr (Or.inl ⟨answer, decided, unmoved, same, quiet_transition durable decided same unmoved expected⟩)
  · refine Or.inr (Or.inr ?_)
    have sound := sound_of_change durable.stored.sound change brings
    have task : (decision state outcome).state.taskId = state.taskId := congrArg TaskLineage.taskId change.lineage
    obtain ⟨_, events⟩ := events_of_change change
    obtain ⟨row, present, named, _⟩ := durable.consistent.task
    rcases persistDecision_total durable.stored ⟨row, present, named.trans task.symm⟩ change.lineage sound
      (task.symm ▸ admissible_of_change durable change sound) (task.symm ▸ canonical_of_change durable change) events with
      ⟨after, persisted⟩ | ⟨failed, lease, member, absent, clash⟩
    · obtain ⟨written, _⟩ := persistDecision_ok sound.valid.distinct persisted
      have next := durable_of_change durable change brings written fun event member => (events event member).2
      have reloaded := next.load
      refine Or.inl ⟨_, after, decided, decision_mutated _ _, ?_, next⟩
      rw [moving_transition durable change decided, persisted, ← task]
      simp [reloaded, bind, Except.bind, decision, refusePersistence, refuse, pure, Except.pure]
    · refine Or.inr ⟨?_, ?_⟩
      · rw [task] at absent
        cases source_of_change valid change lease member with
        | kept worker known growth =>
          obtain ⟨row, _, found⟩ := lookup_kept durable known growth
          rw [absent] at found
          cases found
        | registered workerId now revision called named taskId candidate fresh =>
          obtain ⟨row, inside, same⟩ := clash
          refine ⟨workerId, _, now, revision, called, row, inside, same.trans named, fun owned => ?_⟩
          exact find_worker_none.mp absent row inside owned same
      · rw [moving_transition durable change decided, failed]
        rfl

/-- What a transition that returns has loaded, decided and stored. -/
structure Applied (db after : Database) (taskId : String) (answer : ProtocolDecision) (previous : WorkerTaskState) :
    Prop where
  loaded : loadWorkerProtocol db taskId = .ok previous
  valid : Valid answer.state
  task : answer.state.taskId = taskId
  lineage : previous.lineage = answer.state.lineage
  persisted : Persisted db after answer
  logged : answer.events ≠ []
  events : ∀ event ∈ answer.events, event.taskId = taskId ∧ event.revision = answer.state.revision

/-- A transition that returns has stored its mutation or has changed nothing. -/
theorem applied_cases {taskId : String} {revision : Int} {after : Database} {answer : ProtocolDecision}
    {transition : WorkerTaskState → Except ProtocolError ProtocolDecision}
    (returned : applyWorkerProtocolTransition taskId revision transition db = .ok (answer, after)) :
    ∃ previous, transition previous = .ok answer ∧ loadWorkerProtocol db taskId = .ok previous ∧
      (answer.mutated = false ∧ after = db ∨ answer.mutated = true ∧ Applied db after taskId answer previous) := by
  simp only [applyWorkerProtocolTransition, bind_eq_ok] at returned
  obtain ⟨previous, loaded, made, mapped, _, _, _, named, rest⟩ := returned
  simp only [refusePersistence, refuse_eq_ok, not_not, ne_eq] at named
  have decided : transition previous = .ok made := by
    cases result : transition previous with
    | ok value =>
      rw [result] at mapped
      exact congrArg Except.ok (Except.ok.inj mapped)
    | error error =>
      rw [result] at mapped
      cases mapped
  split at rest
  next quiet =>
    cases rest
    exact ⟨previous, decided, loaded, Or.inl ⟨by simpa using quiet, rfl⟩⟩
  next moved =>
    simp only [bind_eq_ok, refusePersistence, refuse_eq_ok] at rest
    obtain ⟨_, _, _, _, _, nonempty, _, events, _, checked, next, persisted, _, _, _, _, last⟩ := rest
    cases last
    have valid : Valid answer.state := by
      apply (validateState_iff _).mp
      cases result : validateState answer.state with
      | ok => rfl
      | error => simp [result, Except.mapError] at checked
    obtain ⟨written, lineage⟩ := persistDecision_ok valid.distinct persisted
    refine ⟨previous, decided, loaded, Or.inr ⟨by simpa using moved, loaded, valid, named, lineage, written, nonempty,
      fun event member => ?_⟩⟩
    by_contra wrong
    exact events ⟨event, member, not_and_or.mp wrong⟩

/-- A durable transition of another task leaves this one as it is. -/
theorem transition_frame (durable : Durable db state) {taskId : String} (other : taskId ≠ state.taskId)
    {answer : ProtocolDecision} {after : Database} (returned : transitionOf taskId call db = .ok (answer, after)) :
    Durable after state := by
  obtain ⟨previous, _, loaded, ⟨_, rfl⟩ | ⟨_, applied⟩⟩ := applied_cases returned
  · exact durable
  · obtain ⟨_, _, _, _, row, _⟩ := load_consistent loaded
    refine applied.persisted.frame row applied.lineage applied.valid ?_ (applied.task ▸ other) durable
    intro event member
    exact (applied.events event member).1.trans applied.task.symm

end Step

/-- A protocol method refuses a blank conversation URL; otherwise it is the
durable form of its pure call. -/
theorem method_cases (method : ProtocolMethod) (taskId : String) (db : Database) :
    ((∃ url revision workerId generated now, method = .registerWorker url revision workerId generated now ∧
        strip url = "") ∧
      method.transaction taskId db = .error (.value "conversation_url must be non-empty")) ∨
    bringsReference method.call ∧ method.transaction taskId db = transitionOf taskId method.call db := by
  cases method with
  | registerWorker url revision workerId generated now =>
    by_cases blank : strip url = ""
    · refine Or.inl ⟨⟨_, _, _, _, _, rfl, blank⟩, ?_⟩
      simp [ProtocolMethod.transaction, protocolRegisterWorker, blank, refuse, bind, Except.bind]
    · refine Or.inr ⟨by simpa [bringsReference, ProtocolMethod.call] using blank, ?_⟩
      simp only [ProtocolMethod.transaction, protocolRegisterWorker, refuse, blank, if_false, bind, Except.bind]
      rfl
  | _ => exact Or.inr ⟨trivial, rfl⟩

/-- One protocol method called on one task. -/
structure ProtocolCall where
  taskId : String
  method : ProtocolMethod

def ProtocolCall.transaction (call : ProtocolCall) : Transaction ProtocolDecision := call.method.transaction call.taskId

/-- The database after a call. Calls from any number of connections are
serialized by their write transactions. -/
def serve (db : Database) (call : ProtocolCall) : Database := call.transaction.after db

/-- The pure calls behind those calls of a run that returned a decision. -/
def answered (taskId : String) : Database → List ProtocolCall → List Call
  | _, [] => []
  | db, call :: calls =>
    if call.taskId = taskId ∧ (call.transaction db).isOk then
      call.method.call :: answered taskId (serve db call) calls
    else
      answered taskId (serve db call) calls

private theorem serve_ok {db after : Database} {call : ProtocolCall} {answer : ProtocolDecision}
    (returned : call.transaction db = .ok (answer, after)) : serve db call = after := by
  simp [serve, Transaction.after, returned]

private theorem serve_error {db : Database} {call : ProtocolCall} {error : SupervisorError}
    (raised : call.transaction db = .error error) : serve db call = db := by
  simp [serve, Transaction.after, raised]

/-- One call on the task itself, against the pure call. -/
theorem method_spec {db : Database} {state : WorkerTaskState} (durable : Durable db state) (method : ProtocolMethod) :
    (∃ error, method.transaction state.taskId db = .error error ∧
      ((∃ message, perform state method.call = .error (.value message) ∧ error = .protocol (.value message)) ∨
        (∃ url revision workerId generated now, method = .registerWorker url revision workerId generated now ∧
          strip url = "") ∧ error = .value "conversation_url must be non-empty" ∨
        Clash db state method.call ∧ error = .integrity "UNIQUE constraint failed: workers.worker_id")) ∨
    ∃ answer after, method.transaction state.taskId db = .ok (answer, after) ∧
      perform state method.call = .ok answer ∧ Durable after answer.state ∧
      (answer.mutated = false → answer.state = state ∧ after = db) := by
  rcases method_cases method state.taskId db with ⟨blank, raised⟩ | ⟨brings, same⟩
  · exact Or.inl ⟨_, raised, Or.inr (Or.inl ⟨blank, rfl⟩)⟩
  · rw [same]
    rcases transition_spec durable brings with ⟨message, pure, raised⟩ | ⟨answer, pure, unmoved, kept, returned⟩ |
      ⟨answer, after, pure, mutated, returned, next⟩ | ⟨clash, raised⟩
    · exact Or.inl ⟨_, raised, Or.inl ⟨message, pure, rfl⟩⟩
    · exact Or.inr ⟨answer, db, returned, pure, kept.symm ▸ durable, fun _ => ⟨kept, rfl⟩⟩
    · exact Or.inr ⟨answer, after, returned, pure, next, by simp [mutated]⟩
    · exact Or.inl ⟨_, raised, Or.inr (Or.inr ⟨clash, rfl⟩)⟩

/-- One call on any task moves a durable snapshot as the pure call does. -/
theorem serve_durable {db : Database} {state : WorkerTaskState} (durable : Durable db state) (call : ProtocolCall) :
    Durable (serve db call)
      (if call.taskId = state.taskId ∧ (call.transaction db).isOk then advance state call.method.call else state) := by
  by_cases same : call.taskId = state.taskId
  · have own : call.transaction db = call.method.transaction state.taskId db := by rw [ProtocolCall.transaction, same]
    rcases method_spec durable call.method with ⟨error, raised, _⟩ | ⟨answer, after, returned, pure, next, _⟩
    · rw [← own] at raised
      rw [serve_error raised, raised, if_neg (by simp [Except.isOk, Except.toBool])]
      exact durable
    · rw [← own] at returned
      rw [serve_ok returned, returned, if_pos ⟨same, rfl⟩, advance, pure]
      exact next
  · rw [if_neg (fun both => same both.1)]
    cases result : call.transaction db with
    | error error =>
      rw [serve_error result]
      exact durable
    | ok pair =>
      obtain ⟨answer, after⟩ := pair
      rw [serve_ok result]
      rcases method_cases call.method call.taskId db with ⟨_, raised⟩ | ⟨_, transition⟩
      · rw [ProtocolCall.transaction, raised] at result
        cases result
      · exact transition_frame durable same (transition.symm.trans result)

theorem run_durable {db : Database} {state : WorkerTaskState} (durable : Durable db state) (calls : List ProtocolCall) :
    Durable (run serve db calls) (run advance state (answered state.taskId db calls)) := by
  induction calls generalizing db state with
  | nil => exact durable
  | cons call calls ih =>
    have next := serve_durable durable call
    rw [run_cons, answered]
    split at next
    next returned =>
      rw [if_pos returned, run_cons]
      have task : (advance state call.method.call).taskId = state.taskId :=
        congrArg TaskLineage.taskId (advance_grows durable.stored.sound.valid call.method.call).lineage
      rw [← task]
      exact ih next
    next ignored =>
      rw [if_neg ignored]
      exact ih next

private theorem mutated_revision {state : WorkerTaskState} (valid : Valid state) {call : Call} {answer : ProtocolDecision}
    (decided : perform state call = .ok answer) (mutated : answer.mutated = true) :
    call.expectedRevision = state.revision ∧ answer.state.revision = state.revision + 1 := by
  rcases perform_spec valid call with (⟨_, raised⟩ | ⟨quiet, same, _, unmoved, _⟩) | ⟨outcome, change, same⟩
  · rw [raised] at decided
    cases decided
  · obtain rfl := Except.ok.inj (same.symm.trans decided)
    rw [unmoved] at mutated
    cases mutated
  · obtain rfl := Except.ok.inj (same.symm.trans decided)
    exact ⟨expected_of_change change, rfl⟩

theorem answer_task {state : WorkerTaskState} (valid : Valid state) {call : Call} {answer : ProtocolDecision}
    (decided : perform state call = .ok answer) : answer.state.taskId = state.taskId := by
  have moved : answer.state = advance state call := by rw [advance, decided]
  rw [moved]
  exact congrArg TaskLineage.taskId (advance_grows valid call).lineage

private theorem returned_spec {db after : Database} {state : WorkerTaskState} (durable : Durable db state)
    {method : ProtocolMethod} {answer : ProtocolDecision}
    (returned : method.transaction state.taskId db = .ok (answer, after)) :
    perform state method.call = .ok answer ∧ Durable after answer.state ∧ (answer.mutated = false → after = db) := by
  rcases method_spec durable method with ⟨error, raised, _⟩ | ⟨other, final, same, pure, next, quiet⟩
  · rw [raised] at returned
    cases returned
  · obtain ⟨rfl, rfl⟩ := Prod.mk.inj (Except.ok.inj (same.symm.trans returned))
    exact ⟨pure, next, fun unmoved => (quiet unmoved).2⟩

private theorem mutates_once {db after last : Database} {state : WorkerTaskState} (durable : Durable db state)
    {method later : ProtocolMethod} {first second : ProtocolDecision} {between : List ProtocolCall}
    (returned : method.transaction state.taskId db = .ok (first, after)) (mutated : first.mutated = true)
    (same : later.call.expectedRevision = method.call.expectedRevision)
    (repeated : later.transaction state.taskId (run serve after between) = .ok (second, last)) :
    second.mutated = false := by
  obtain ⟨pure, next, _⟩ := returned_spec durable returned
  have valid := durable.stored.sound.valid
  obtain ⟨expected, advanced⟩ := mutated_revision valid pure mutated
  have late := run_durable next between
  have growth := run_forward next.stored.sound.valid (answered first.state.taskId after between)
  rw [← answer_task valid pure, show first.state.taskId = _ from congrArg TaskLineage.taskId growth.lineage.symm]
    at repeated
  obtain ⟨decided, _, _⟩ := returned_spec late repeated
  cases verdict : second.mutated with
  | false => rfl
  | true =>
    have found := (mutated_revision late.stored.sound.valid decided verdict).1
    have forward := growth.revision
    omega

/-- After any interleaving of protocol calls the task loads as the pure run of
the calls that returned. A call that returns gives the pure decision; a mutation
reloads as decided and every other outcome leaves the database alone. A call
raises only when its arguments are refused, or when a new candidate's id belongs
to another task. Calls with one expected revision mutate at most once. -/
theorem durable_protocol_refines {start db : Database} {taskId : String} {parent root childKey : Option String}
    {initial : WorkerTaskState} (untouched : Untouched start taskId)
    (booted : bootstrapWorkerProtocol taskId parent root childKey start = .ok (initial, db))
    (calls : List ProtocolCall) :
    let now := run serve db calls
    let state := run advance initial (answered taskId db calls)
    loadWorkerProtocol now taskId = .ok state ∧
    ∀ method : ProtocolMethod,
      (∀ decision after, method.transaction taskId now = .ok (decision, after) →
        perform state method.call = .ok decision ∧
        (decision.mutated = true → loadWorkerProtocol after taskId = .ok decision.state) ∧
        (decision.mutated = false → after = now)) ∧
      (∀ error, method.transaction taskId now = .error error →
        serve now ⟨taskId, method⟩ = now ∧
        ((∃ message, perform state method.call = .error (.value message) ∧ error = .protocol (.value message)) ∨
          (∃ url revision workerId generated now, method = .registerWorker url revision workerId generated now ∧
            strip url = "") ∧ error = .value "conversation_url must be non-empty" ∨
          Clash now state method.call ∧ error = .integrity "UNIQUE constraint failed: workers.worker_id")) ∧
      ∀ decision after, method.transaction taskId now = .ok (decision, after) → decision.mutated = true →
        ∀ (between : List ProtocolCall) (later : ProtocolMethod),
          later.call.expectedRevision = method.call.expectedRevision →
          ∀ second last, later.transaction taskId (run serve after between) = .ok (second, last) →
            second.mutated = false := by
  intro now state
  obtain ⟨first, rfl⟩ := bootstrap_durable untouched booted
  have durable : Durable now state := run_durable first calls
  have valid := durable.stored.sound.valid
  rw [show initial.taskId = state.taskId from
    congrArg TaskLineage.taskId (run_forward first.stored.sound.valid _).lineage.symm]
  refine ⟨durable.load, fun method => ⟨?_, ?_, ?_⟩⟩
  · intro decision after returned
    obtain ⟨pure, next, quiet⟩ := returned_spec durable returned
    exact ⟨pure, fun _ => answer_task valid pure ▸ next.load, quiet⟩
  · intro error raised
    rcases method_spec durable method with ⟨other, same, reason⟩ | ⟨answer, final, returned, _⟩
    · obtain rfl := Except.error.inj (same.symm.trans raised)
      exact ⟨serve_error raised, reason⟩
    · rw [returned] at raised
      cases raised
  · intro decision after returned mutated between later equal second last repeated
    exact mutates_once durable returned mutated equal repeated

/-- Two connections race for one revision; a candidate's id belongs to another task. -/
theorem durable_protocol_refines_race :
    let other : WorkerRecord :=
      { workerId := "taken", taskId := "other", conversationUrl := "https://chatgpt.com/c/0", status := .active
        startedAt := 1 }
    let start : Database :=
      { tasks := ⟨[{ taskId := "task", state := .queued }, { taskId := "other", state := .running }], by decide⟩
        workers := ⟨[other], by decide⟩ }
    let bootstrap := bootstrapWorkerProtocol "task" none none none
    let calls : List ProtocolCall :=
      [⟨"task", .registerWorker " https://chatgpt.com/c/1 " 0 (some "first") "worker_1" 2⟩,
       ⟨"task", .registerWorker "https://chatgpt.com/c/2" 0 (some "second") "worker_2" 3⟩,
       ⟨"task", .registerWorker "https://chatgpt.com/c/3" 1 (some "taken") "worker_3" 4⟩,
       ⟨"task", .claimWorker "first" 1 60 5⟩]
    ∃ initial, bootstrap start = .ok (initial, Transaction.after bootstrap start) ∧
      answered "task" (Transaction.after bootstrap start) calls =
        [.registerWorker "first" (some "https://chatgpt.com/c/1") 2 0,
         .registerWorker "second" (some "https://chatgpt.com/c/2") 3 0, .claimWorker "first" 5 60 1] ∧
      loadWorkerProtocol (run serve (Transaction.after bootstrap start) calls) "task" =
        .ok (run advance initial (answered "task" (Transaction.after bootstrap start) calls)) ∧
      (run advance initial (answered "task" (Transaction.after bootstrap start) calls)).revision = 2 := by
  intro other start bootstrap calls
  let initial : WorkerTaskState := { lineage := { taskId := "task", parentTaskId := none, rootTaskId := "task" } }
  have booted : bootstrap start = .ok (initial, Transaction.after bootstrap start) :=
    Transaction.returned (by decide +kernel)
  refine ⟨initial, booted, by decide +kernel, ?_, by decide +kernel⟩
  exact (durable_protocol_refines ⟨by decide, by decide, by decide⟩ booted calls).1

end WebSupervisor.WorkerPersistence.Proofs
