import WebSupervisor.Library.Certificate
import WebSupervisor.Proofs.WorkerPersistenceRefinement

/-! The older task and worker writers beside the protocol. Each of them checks
the protocol in one step and writes in a later one. As long as the check would
still pass at the write, the task stays loadable. -/

namespace WebSupervisor.Registry.Proofs
open Library WorkerProtocol WorkerProtocol.Proofs WorkerPersistence WorkerPersistence.Proofs

/-- The calls on one task. -/
inductive TaskCall where
  | updateState (state : SupervisorState) (now : Time)
  | addWorker (conversationUrl : String) (conversationId : Option String) (makeCurrent : Bool) (workerId : String)
      (now : Time)
  | setWorkerStatus (workerId : String) (status : WorkerStatus) (now : Time)
  | bootstrap (parentTaskId rootTaskId childKey : Option String)
  | protocol (method : ProtocolMethod)

def TaskCall.body (taskId : String) : TaskCall → Program Database NoAnswer Unit
  | .updateState state now => (fun _ => ()) <$> (Registry.updateState taskId state now).run
  | .addWorker url conversationId makeCurrent workerId now =>
    (fun _ => ()) <$> (Registry.addWorker taskId url conversationId makeCurrent workerId now).run
  | .setWorkerStatus workerId status now => (fun _ => ()) <$> (Registry.setWorkerStatus workerId status now).run
  | .bootstrap parent root childKey =>
    (fun _ => ()) <$> (Program.transaction (bootstrapWorkerProtocol taskId parent root childKey)).run
  | .protocol method => (fun _ => ()) <$> (Program.transaction (method.transaction taskId)).run

def taskMachine (taskId : String) : Machine Database NoAnswer TaskCall Unit := { body := TaskCall.body taskId }

/-- The check that a call makes before it writes. -/
def TaskCall.check (taskId : String) (db : Database) : TaskCall → Except SupervisorError Unit
  | .updateState state _ => updateStateCheck taskId state db
  | .addWorker .. => addWorkerCheck taskId db
  | .setWorkerStatus workerId .. => setWorkerStatusCheck workerId db
  | .bootstrap .. | .protocol _ => .ok ()

/-- A call that has read the protocol and is about to write: if its check passed
when it read, it passes in the state that the write finds. -/
def CheckStillPasses (taskId : String) (pid : Nat) (call : TaskCall) (seen now : Shared Database NoAnswer Unit) : Prop :=
  (seen.log.filter (·.pid == pid)).length = 1 → call.check taskId seen.store = .ok () →
    call.check taskId now.store = .ok ()

/-- The protocol tables hold nothing of the task or a snapshot that loads. -/
def Agreed (db : Database) (taskId : String) : Prop :=
  Untouched db taskId ∨ ∃ state, Durable db state ∧ state.taskId = taskId

section Steps
variable {db : Database} {taskId : String}

private theorem exists_iff : protocolStateExists db taskId = true ↔ ∃ row ∈ db.protocolTasks, row.taskId = taskId := by
  simp only [protocolStateExists, Option.isSome_iff_exists, Table.find?_some]

theorem Agreed.load (agreed : Agreed db taskId) (present : protocolStateExists db taskId = true) :
    ∃ state, loadWorkerProtocol db taskId = .ok state := by
  rcases agreed with untouched | ⟨state, durable, rfl⟩
  · obtain ⟨row, member, same⟩ := exists_iff.mp present
    exact absurd same (untouched.tasks row member)
  · exact ⟨state, durable.load⟩

private theorem Agreed.untouched (agreed : Agreed db taskId) (missing : ¬ protocolStateExists db taskId = true) :
    Untouched db taskId := by
  rcases agreed with untouched | ⟨state, durable, rfl⟩
  · exact untouched
  · exact absurd (exists_iff.mpr ⟨_, durable.stored.row, rfl⟩) missing

private theorem agreed_protocol (agreed : Agreed db taskId) {method : ProtocolMethod} {answer : ProtocolDecision}
    {after : Database} (returned : method.transaction taskId db = .ok (answer, after)) : Agreed after taskId := by
  rcases agreed with untouched | ⟨state, durable, rfl⟩
  · have missing : db.protocolTasks.find? taskId = none := Table.find?_none.mpr untouched.tasks
    rcases method_cases method taskId db with ⟨_, raised⟩ | ⟨_, same⟩
    · rw [raised] at returned
      cases returned
    · rw [same, transitionOf, applyWorkerProtocolTransition, bind_eq_ok] at returned
      obtain ⟨state, loaded, _⟩ := returned
      simp only [loadWorkerProtocol, missing] at loaded
      split at loaded <;> cases loaded
  · rcases method_spec durable method with ⟨error, raised, _⟩ | ⟨other, final, same, pure, next, _⟩
    · rw [raised] at returned
      cases returned
    · obtain ⟨rfl, rfl⟩ := Prod.mk.inj (Except.ok.inj (same.symm.trans returned))
      exact Or.inr ⟨_, next, answer_task durable.stored.sound.valid pure⟩

private theorem agreed_bootstrap (agreed : Agreed db taskId) {parent root childKey : Option String}
    {state : WorkerTaskState} {after : Database}
    (booted : bootstrapWorkerProtocol taskId parent root childKey db = .ok (state, after)) : Agreed after taskId := by
  rcases agreed with untouched | ⟨stored, durable, rfl⟩
  · exact Or.inr ⟨state, bootstrap_durable untouched booted⟩
  · have present : protocolStateExists db stored.taskId = true := exists_iff.mpr ⟨_, durable.stored.row, rfl⟩
    simp only [bootstrapWorkerProtocol, present, if_true, bind_eq_ok] at booted
    obtain ⟨_, _, _, _, same⟩ := booted
    cases same
    exact Or.inr ⟨stored, durable, rfl⟩

private theorem agreed_updateState (agreed : Agreed db taskId) {state : SupervisorState} (now : Time)
    (checked : updateStateCheck taskId state db = .ok ()) :
    Agreed (updateTask db taskId (fun task => { task with state, updatedAt := now })) taskId := by
  unfold updateTask
  split
  next => exact agreed
  next task found =>
    obtain ⟨member, named⟩ := Table.find?_some.mp found
    rcases agreed with untouched | ⟨stored, durable, rfl⟩
    · exact Or.inl ⟨untouched.tasks, untouched.leases, untouched.events⟩
    · have present : protocolStateExists db stored.taskId = true := exists_iff.mpr ⟨_, durable.stored.row, rfl⟩
      simp only [updateStateCheck, present, if_true, durable.load, bind, Except.bind] at checked
      obtain ⟨canonical, inside, same, current, _, _⟩ := durable.consistent.task
      obtain rfl := Table.eq_of_key inside member (same.trans named.symm)
      refine Or.inr ⟨stored, ⟨⟨durable.stored.sound, durable.stored.row, durable.stored.leases, durable.stored.events⟩,
        ⟨replaced_key durable.rooted.root, fun parent chosen => ?_⟩,
        ⟨⟨{ canonical with state, updatedAt := now }, Table.mem_replace.mpr (Or.inl ⟨rfl, canonical, member, rfl⟩), same,
          current, ?_, ?_⟩, durable.consistent.workers, durable.consistent.canonical, durable.consistent.successor⟩⟩, rfl⟩
      · obtain ⟨parentTask, agreed⟩ := durable.rooted.parent parent chosen
        exact ⟨replaced_key parentTask, agreed⟩
      · intro completed
        simpa [completed] using checked
      · intro isOpen
        simpa [isOpen] using checked

theorem addWorker_tables {url : String} {conversationId : Option String} {makeCurrent : Bool}
    {workerId : String} {now : Time} {after : Database}
    (written : addWorkerWrite taskId url conversationId makeCurrent workerId now db = .ok ((), after)) :
    after.protocolTasks = db.protocolTasks ∧ after.protocolLeases = db.protocolLeases ∧
      after.protocolEvents = db.protocolEvents := by
  have taskTables (db : Database) (change : TaskRecord → TaskRecord) :
      (updateTask db taskId change).protocolTasks = db.protocolTasks ∧
      (updateTask db taskId change).protocolLeases = db.protocolLeases ∧
      (updateTask db taskId change).protocolEvents = db.protocolEvents := by
    unfold updateTask
    split <;> exact ⟨rfl, rfl, rfl⟩
  have workerTables (db : Database) (old : String) (change : WorkerRecord → WorkerRecord) :
      (updateWorker db old change).protocolTasks = db.protocolTasks ∧
      (updateWorker db old change).protocolLeases = db.protocolLeases ∧
      (updateWorker db old change).protocolEvents = db.protocolEvents := by
    unfold updateWorker
    split <;> exact ⟨rfl, rfl, rfl⟩
  unfold addWorkerWrite at written
  split at written
  next => cases written
  next task found =>
    rw [bind_eq_ok] at written
    obtain ⟨middle, inserted, rest⟩ := written
    unfold insertWorker at inserted
    split at inserted
    next => cases inserted
    next workers added =>
      cases inserted
      split at rest
      next =>
        cases rest
        exact ⟨rfl, rfl, rfl⟩
      next =>
        cases rest
        split
        · exact taskTables _ _
        · obtain ⟨tasks, leases, events⟩ := taskTables (deleteWindowBinding (updateWorker { db with workers }
            (task.currentWorkerId.getD "") (fun worker => { worker with status := .superseded, endedAt := some now }))
            (task.currentWorkerId.getD ""))
            (fun task => { task with currentWorkerId := some workerId, updatedAt := now })
          obtain ⟨oldTasks, oldLeases, oldEvents⟩ := workerTables { db with workers } (task.currentWorkerId.getD "")
            (fun worker => { worker with status := .superseded, endedAt := some now })
          exact ⟨tasks.trans oldTasks, leases.trans oldLeases, events.trans oldEvents⟩

private theorem agreed_addWorker (agreed : Agreed db taskId) {url : String} {conversationId : Option String}
    {makeCurrent : Bool} {workerId : String} {now : Time} {after : Database}
    (checked : addWorkerCheck taskId db = .ok ())
    (written : addWorkerWrite taskId url conversationId makeCurrent workerId now db = .ok ((), after)) :
    Agreed after taskId := by
  simp only [addWorkerCheck, bind_eq_ok, refuse_eq_ok] at checked
  obtain ⟨_, _, missing⟩ := checked
  have untouched := agreed.untouched missing
  obtain ⟨tasks, leases, events⟩ := addWorker_tables written
  exact Or.inl ⟨tasks ▸ untouched.tasks, leases ▸ untouched.leases, events ▸ untouched.events⟩

private theorem durable_otherWorker {state : WorkerTaskState} (durable : Durable db state) {worker changed : WorkerRecord}
    (member : worker ∈ db.workers) (sameId : changed.workerId = worker.workerId)
    (sameTask : changed.taskId = worker.taskId) (other : worker.taskId ≠ state.taskId) :
    Durable { db with workers := db.workers.replace changed } state := by
  refine ⟨⟨durable.stored.sound, durable.stored.row, durable.stored.leases, durable.stored.events⟩,
    ⟨durable.rooted.root, durable.rooted.parent⟩, ⟨durable.consistent.task, ?_, ?_, durable.consistent.successor⟩⟩
  · intro lease inside
    obtain ⟨row, present, agrees⟩ := durable.consistent.workers lease inside
    refine ⟨row, Table.mem_replace.mpr (Or.inr ⟨present, fun same => other ?_⟩), agrees⟩
    rw [← Table.eq_of_key present member (same.trans sameId), agrees.taskId]
    exact durable.stored.sound.valid.owned lease inside
  · intro row present owned
    rcases Table.mem_replace.mp present with ⟨rfl, _⟩ | ⟨old, _⟩
    · exact absurd (sameTask.symm.trans owned) other
    · exact durable.consistent.canonical row old owned

private theorem agreed_setWorkerStatus (agreed : Agreed db taskId) {workerId : String} (status : WorkerStatus)
    (endedAt : Option Time) (checked : setWorkerStatusCheck workerId db = .ok ()) :
    Agreed (updateWorker db workerId (fun worker => { worker with status, endedAt })) taskId := by
  unfold updateWorker
  split
  next => exact agreed
  next worker found =>
    obtain ⟨member, _⟩ := Table.find?_some.mp found
    simp only [setWorkerStatusCheck, getWorker, found, bind, Except.bind, refuse_eq_ok] at checked
    by_cases own : worker.taskId = taskId
    · have untouched := agreed.untouched (own ▸ checked)
      exact Or.inl ⟨untouched.tasks, untouched.leases, untouched.events⟩
    · rcases agreed with untouched | ⟨state, durable, rfl⟩
      · exact Or.inl ⟨untouched.tasks, untouched.leases, untouched.events⟩
      · exact Or.inr ⟨state, durable_otherWorker durable member rfl rfl own, rfl⟩

private theorem agreed_unbound (agreed : Agreed db taskId) (workerId : String) :
    Agreed (deleteWindowBinding db workerId) taskId := by
  rcases agreed with untouched | ⟨state, durable, rfl⟩
  · exact Or.inl ⟨untouched.tasks, untouched.leases, untouched.events⟩
  · exact Or.inr ⟨state, ⟨⟨durable.stored.sound, durable.stored.row, durable.stored.leases, durable.stored.events⟩,
      ⟨durable.rooted.root, durable.rooted.parent⟩, ⟨durable.consistent.task, durable.consistent.workers,
        durable.consistent.canonical, durable.consistent.successor⟩⟩, rfl⟩

end Steps

def agreement (taskId : String) : Contract Database NoAnswer TaskCall Unit where
  valid shared := Agreed shared.store taskId
  rely := CheckStillPasses taskId
  guarantee _ _ _ _ := True

section Certificates
variable {taskId : String} {pid : Nat} {call : TaskCall} {seen : Shared Database NoAnswer Unit}

/-- The call has made its check and nothing else. -/
private def Ready (taskId : String) (pid : Nat) (call : TaskCall) (now : Shared Database NoAnswer Unit) : Prop :=
  (now.log.filter (·.pid == pid)).length = 1 ∧ call.check taskId now.store = .ok ()

private theorem finds_refl (shared : Shared Database NoAnswer Unit) : (agreement taskId).Finds pid call shared shared :=
  ⟨.refl pid shared, fun _ passed => passed⟩

private theorem Ready.later {now : Shared Database NoAnswer Unit} (ready : Ready taskId pid call seen)
    (found : (agreement taskId).Finds pid call seen now) : Ready taskId pid call now :=
  ⟨found.1.own ▸ ready.1, found.2 ready.1 ready.2⟩

private theorem certified_check (fresh : ∀ event ∈ seen.log, event.pid ≠ pid) :
    (agreement taskId).Safe pid call (fun result now => result = .ok () → Ready taskId pid call now)
      (Program.check (fun db => call.check taskId db)).run seen := by
  apply Certified.check
  intro now kept found
  refine ⟨⟨kept, trivial⟩, fun last _ related passed => ?_⟩
  have none : now.log.filter (·.pid == pid) = [] := by
    rw [found.1.own, List.filter_eq_nil_iff]
    exact fun event member => by simpa using fresh event member
  have ready : Ready taskId pid call (now.became pid now.store) := ⟨by simp [none], passed⟩
  exact ready.later related

private theorem certified_write {work : Transaction Unit} (ready : Ready taskId pid call seen)
    (agreed : ∀ db after, Agreed db taskId → call.check taskId db = .ok () → work db = .ok ((), after) →
      Agreed after taskId) :
    (agreement taskId).Safe pid call (fun _ _ => True) (Program.transaction work).run seen := by
  apply Certified.transaction
  intro now kept found
  have passed := (ready.later found).2
  exact ⟨fun _ after written => ⟨⟨agreed now.store after kept passed written, trivial⟩, by simp⟩,
    fun _ _ => ⟨⟨kept, trivial⟩, by simp⟩⟩

private theorem certified_read {β : Type} (view : Database → Except SupervisorError β) :
    (agreement taskId).Safe pid call (fun _ _ => True) (Program.check view).run seen := by
  apply Certified.check
  exact fun now kept _ => ⟨⟨kept, trivial⟩, by simp⟩

private theorem certified_transaction {β : Type} {work : Transaction β}
    (agreed : ∀ db value after, Agreed db taskId → work db = .ok (value, after) → Agreed after taskId) :
    (agreement taskId).Safe pid call (fun _ _ => True) (Program.transaction work).run seen := by
  apply Certified.transaction
  intro now kept _
  exact ⟨fun value after written => ⟨⟨agreed now.store value after kept written, trivial⟩, by simp⟩,
    fun _ _ => ⟨⟨kept, trivial⟩, by simp⟩⟩

private theorem certified_error {β : Type} (error : SupervisorError) :
    (agreement taskId).Safe pid call (fun _ _ => True) (.pure (.error error : Except SupervisorError β)) seen :=
  fun _ _ _ => trivial

private theorem certified_returns {β : Type} {program : Program Database NoAnswer β}
    (certified : (agreement taskId).Safe pid call (fun _ _ => True) program seen) :
    (agreement taskId).CertifiedPhase pid call seen (.running ((fun _ => ()) <$> program)) :=
  Certified.map (certified.weaken (fun _ _ kept _ => ⟨kept, trivial⟩))

private theorem certified_writer {β : Type} {work : Transaction Unit} {rest : ExceptT SupervisorError (Program Database NoAnswer) β}
    (kept : Agreed seen.store taskId) (fresh : ∀ event ∈ seen.log, event.pid ≠ pid)
    (agreed : ∀ db after, Agreed db taskId → call.check taskId db = .ok () → work db = .ok ((), after) →
      Agreed after taskId)
    (last : ∀ now, (agreement taskId).Safe pid call (fun _ _ => True) rest.run now) :
    (agreement taskId).Safe pid call (fun _ _ => True)
      (do Program.check (fun db => call.check taskId db); Program.transaction work; rest :
        ExceptT SupervisorError (Program Database NoAnswer) β).run seen := by
  refine Certified.andThen finds_refl kept (certified_check fresh) ?_ (fun error _ _ _ => certified_error error)
  intro _ now nowKept ready
  refine Certified.andThen finds_refl nowKept (certified_write (ready rfl) agreed) ?_
    (fun error _ _ _ => certified_error error)
  exact fun _ later _ _ => last later

theorem agreement_certifies (taskId : String) : (agreement taskId).Certifies (taskMachine taskId) := by
  intro pid call seen kept fresh
  cases call with
  | updateState state now =>
    refine certified_returns (Certified.andThen finds_refl kept (@certified_check _ _ (.updateState state now) _ fresh) ?_
      (fun error _ _ _ => certified_error error))
    intro _ middle _ ready
    refine certified_write (ready rfl) (fun db after agreed passed written => ?_)
    cases written
    exact agreed_updateState agreed now passed
  | addWorker url conversationId makeCurrent workerId now =>
    exact certified_returns (@certified_writer _ _ (.addWorker url conversationId makeCurrent workerId now) _ _ _ _ kept
      fresh (fun db after agreed passed written => agreed_addWorker agreed passed written) (fun _ => certified_read _))
  | setWorkerStatus workerId status now =>
    refine certified_returns (@certified_writer _ _ (.setWorkerStatus workerId status now) _ _ _ _ kept fresh
      (fun db after agreed passed written => ?_) (fun _ => certified_read _))
    have changed := agreed_setWorkerStatus agreed status
      (if status = .superseded ∨ status = .dead then some now else none) passed
    cases written
    split
    · exact changed
    · exact agreed_unbound changed workerId
  | bootstrap parent root childKey =>
    exact certified_returns (certified_transaction fun db state after agreed booted => agreed_bootstrap agreed booted)
  | protocol method =>
    exact certified_returns (certified_transaction fun db answer after agreed returned => agreed_protocol agreed returned)

end Certificates

/-- In every run whose writes all find their check still passing, a task that
the protocol knows can be loaded. -/
theorem legacy_agreement {start : Database} {taskId : String} (untouched : Untouched start taskId)
    (moves : List (Move NoAnswer TaskCall))
    (undisturbed : UndisturbedRun (CheckStillPasses taskId) (taskMachine taskId) { store := start, log := [] } moves) :
    let db := (run (taskMachine taskId).move { store := start, log := [] } moves).store
    protocolStateExists db taskId = true → ∃ state, loadWorkerProtocol db taskId = .ok state := by
  intro db present
  have initial : (agreement taskId).Holds { store := start, log := [] } := .initial (Or.inl untouched) rfl
  have holds := Contract.run_holds (agreement_certifies taskId) initial moves undisturbed
  exact Agreed.load holds.valid present

/-- One open task and nothing else. -/
def oneTask : Database := { tasks := ⟨[{ taskId := "task", state := .queued }], by decide⟩ }

/-- Bootstrap, then a state change that nothing disturbs. -/
theorem legacy_agreement_quiet :
    let moves : List (Move NoAnswer TaskCall) :=
      [.start (.bootstrap none none none), .step 0, .start (.updateState .running 5), .step 1, .step 1]
    let db := (run (taskMachine "task").move { store := oneTask, log := [] } moves).store
    protocolStateExists db "task" = true ∧ ∃ state, loadWorkerProtocol db "task" = .ok state := by
  intro moves db
  have present : protocolStateExists db "task" = true := by decide +kernel
  refine ⟨present, legacy_agreement ⟨by decide, by decide, by decide⟩ moves ?_ present⟩
  refine ⟨trivial, ?_, trivial, ?_, ?_, trivial⟩
  · rintro process ⟨⟩ _ one
    cases one
  · rintro process ⟨⟩ _ one
    cases one
  · rintro process ⟨⟩ _ _ passed
    exact passed

/-- A state change checks the open protocol, the task is completed through the
protocol, and the old check lets the write reopen the task. The stored protocol
cannot be loaded after that. -/
theorem legacy_agreement_fails :
    let moves : List (Move NoAnswer TaskCall) :=
      [.start (.bootstrap none none none), .step 0, .start (.updateState .running 5), .step 1,
       .start (.protocol (.completeTask "done" 0 6)), .step 2, .step 1]
    let db := (run (taskMachine "task").move { store := oneTask, log := [] } moves).store
    Untouched oneTask "task" ∧ protocolStateExists db "task" = true ∧
      loadWorkerProtocol db "task" =
        .error (.persistence "completed protocol task disagrees with canonical task state") := by
  exact ⟨⟨by decide, by decide, by decide⟩, by decide +kernel, by decide +kernel⟩

end WebSupervisor.Registry.Proofs
