import WebSupervisor.Proofs.BootstrapAuthority
import WebSupervisor.Registry.Windows

/-! Window bindings and the status of their workers. Every path that ends a worker
deletes its binding in the same transaction. Only `bind_worker_window` writes a
binding, and it has read the status of the worker two steps earlier. -/

namespace WebSupervisor.Registry.Proofs
open Library WorkerProtocol WorkerProtocol.Proofs WorkerPersistence WorkerPersistence.Proofs

/-- The calls that read or write bindings and the statuses of workers. -/
inductive WindowCall where
  | bindWorkerWindow (args : BindArgs)
  | clearWorkerWindowBinding (workerId : String)
  | task (taskId : String) (call : TaskCall)

def WindowCall.body : WindowCall → Program Database NoAnswer Unit
  | .bindWorkerWindow args => (fun _ => ()) <$> (Registry.bindWorkerWindow args).run
  | .clearWorkerWindowBinding workerId => (fun _ => ()) <$> (Registry.clearWorkerWindowBinding workerId).run
  | .task taskId call => call.body taskId

def windowMachine : Machine Database NoAnswer WindowCall Unit := { body := WindowCall.body }

/-- The worker has a row and is active. -/
def ActiveIn (db : Database) (workerId : String) : Prop :=
  ∃ worker ∈ db.workers, worker.workerId = workerId ∧ worker.status = .active

instance activeInDecidable (db : Database) (workerId : String) : Decidable (ActiveIn db workerId) :=
  inferInstanceAs (Decidable (∃ worker ∈ db.workers.rows, worker.workerId = workerId ∧ worker.status = .active))

def BindingsActive (db : Database) : Prop := ∀ binding ∈ db.windowBindings, ActiveIn db binding.workerId

instance bindingsActiveDecidable (db : Database) : Decidable (BindingsActive db) :=
  inferInstanceAs (Decidable (∀ binding ∈ db.windowBindings.rows, ActiveIn db binding.workerId))

/-- A step that writes no binding: each binding it leaves was there, and its worker
is as active as before. -/
def LeavesActive (before after : Database) : Prop :=
  ∀ binding ∈ after.windowBindings, binding ∈ before.windowBindings ∧
    (ActiveIn before binding.workerId → ActiveIn after binding.workerId)

/-- The step that writes one. -/
def WritesBinding (before after : Database) : Prop :=
  after.workers = before.workers ∧ ∃ row, after.windowBindings = before.windowBindings.upsert row

namespace LeavesActive
variable {before middle after : Database}

theorem refl (db : Database) : LeavesActive db db := fun _ member => ⟨member, id⟩

theorem trans (first : LeavesActive before middle) (second : LeavesActive middle after) : LeavesActive before after := by
  intro binding member
  obtain ⟨inside, later⟩ := second binding member
  obtain ⟨present, earlier⟩ := first binding inside
  exact ⟨present, later ∘ earlier⟩

/-- Neither table changes. -/
theorem same (workers : after.workers = before.workers) (bindings : after.windowBindings = before.windowBindings) :
    LeavesActive before after := by
  intro binding member
  refine ⟨bindings ▸ member, fun ⟨worker, present, active⟩ => ⟨worker, workers ▸ present, active⟩⟩

theorem delete (db : Database) (workerId : String) : LeavesActive db (deleteWindowBinding db workerId) :=
  fun _ member => ⟨(Table.mem_delete.mp member).1, id⟩

/-- Rows of workers are added. -/
theorem grown (workers : ∀ row ∈ before.workers, row ∈ after.workers)
    (bindings : after.windowBindings = before.windowBindings) : LeavesActive before after := by
  intro binding member
  exact ⟨bindings ▸ member, fun ⟨worker, present, active⟩ => ⟨worker, workers worker present, active⟩⟩

/-- A worker row changes and its worker is active after that. -/
theorem replaced (db : Database) {row : WorkerRecord} (active : row.status = .active) :
    LeavesActive db { db with workers := db.workers.replace row } := by
  refine fun binding member => ⟨member, fun ⟨worker, present, named, was⟩ => ?_⟩
  by_cases self : worker.workerId = row.workerId
  · exact ⟨row, Table.mem_replace.mpr (Or.inl ⟨rfl, worker, present, self⟩), self.symm.trans named, active⟩
  · exact ⟨worker, Table.mem_replace.mpr (Or.inr ⟨present, self⟩), named, was⟩

/-- A worker row changes and its worker loses its binding. -/
theorem ended (db : Database) (row : WorkerRecord) :
    LeavesActive db (deleteWindowBinding { db with workers := db.workers.replace row } row.workerId) := by
  intro binding member
  obtain ⟨present, other⟩ := Table.mem_delete.mp member
  refine ⟨present, fun ⟨worker, inside, named, active⟩ => ⟨worker, ?_, named, active⟩⟩
  exact Table.mem_replace.mpr (Or.inr ⟨inside, named ▸ other⟩)

end LeavesActive

section Steps
variable {db after : Database}

private theorem updateTask_leaves (taskId : String) (change : TaskRecord → TaskRecord) :
    LeavesActive db (updateTask db taskId change) := by
  unfold updateTask
  split
  · exact .refl db
  · exact .same rfl rfl

private theorem updateWorker_active {workerId : String} {change : WorkerRecord → WorkerRecord}
    (active : ∀ row, (change row).status = .active) : LeavesActive db (updateWorker db workerId change) := by
  unfold updateWorker
  split
  · exact .refl db
  next worker _ => exact .replaced db (active worker)

private theorem updateWorker_ended {workerId : String} {change : WorkerRecord → WorkerRecord}
    (keeps : ∀ row, (change row).workerId = row.workerId) :
    LeavesActive db (deleteWindowBinding (updateWorker db workerId change) workerId) := by
  unfold updateWorker
  split
  · exact .delete db workerId
  next worker found =>
    obtain ⟨_, rfl⟩ := Table.find?_some.mp found
    rw [← keeps worker]
    exact .ended db (change worker)

private theorem insertWorker_leaves {row : WorkerRecord} (inserted : insertWorker db row = .ok after) :
    LeavesActive db after := by
  unfold insertWorker at inserted
  split at inserted
  next => cases inserted
  next workers added =>
    cases inserted
    exact .grown (fun old present => (Table.mem_insert? added).mpr (Or.inl present)) rfl

theorem addWorker_leaves {taskId url : String} {conversationId : Option String} {makeCurrent : Bool}
    {workerId : String} {now : Time}
    (written : addWorkerWrite taskId url conversationId makeCurrent workerId now db = .ok ((), after)) :
    LeavesActive db after := by
  unfold addWorkerWrite at written
  split at written
  next => cases written
  next task found =>
    rw [bind_eq_ok] at written
    obtain ⟨middle, inserted, rest⟩ := written
    have first := insertWorker_leaves inserted
    split at rest
    next =>
      cases rest
      exact first
    next =>
      cases rest
      refine first.trans (.trans ?_ (updateTask_leaves _ _))
      split
      · exact .refl middle
      · exact updateWorker_ended (fun _ => rfl)

theorem setWorkerStatus_leaves (workerId : String) (status : WorkerStatus) (now : Time)
    (written : setWorkerStatusWrite workerId status now db = .ok ((), after)) : LeavesActive db after := by
  cases written
  split
  next active => exact updateWorker_active (fun _ => active)
  next => exact updateWorker_ended (fun _ => rfl)

private theorem syncLegacyWorker_leaves {existing : List WorkerRecord} {lease : WorkerLease}
    (synced : syncLegacyWorker existing db lease = .ok after) : LeavesActive db after := by
  simp only [syncLegacyWorker, bind_eq_ok] at synced
  obtain ⟨middle, written, same⟩ := synced
  cases same
  unfold writeLegacyWorker at written
  simp only at written
  split at written
  next =>
    simp only [bind_eq_ok] at written
    obtain ⟨_, _, inserted⟩ := written
    refine (insertWorker_leaves inserted).trans ?_
    split
    · exact .refl middle
    · exact .delete middle lease.workerId
  next row found =>
    simp only [bind_eq_ok] at written
    obtain ⟨_, _, _, _, same⟩ := written
    cases same
    have named : row.workerId = lease.workerId := by simpa using List.find?_some found
    split
    next active => exact .replaced db (by simp [syncedWorker, active, legacyStatus])
    next =>
      have left := LeavesActive.ended db (syncedWorker (some row) lease (lease.conversationRef.getD ""))
      rwa [show (syncedWorker (some row) lease (lease.conversationRef.getD "")).workerId = lease.workerId from named] at left

private theorem syncLegacyWorkers_leaves {state : WorkerTaskState} (synced : syncLegacyWorkers db state = .ok after) :
    LeavesActive db after := by
  have loop {existing : List WorkerRecord} {leases : List WorkerLease} {first last : Database}
      (looped : leases.foldlM (syncLegacyWorker existing) first = .ok last) : LeavesActive first last := by
    induction leases generalizing first with
    | nil =>
      cases looped
      exact .refl _
    | cons lease leases ih =>
      rw [List.foldlM_cons, bind_eq_ok] at looped
      obtain ⟨middle, one, rest⟩ := looped
      exact (syncLegacyWorker_leaves one).trans (ih rest)
  simp only [syncLegacyWorkers, bind_eq_ok] at synced
  obtain ⟨middle, looped, _, _, same⟩ := synced
  cases same
  exact loop looped

private theorem persistDecision_leaves {previous : WorkerTaskState} {decision : ProtocolDecision} {revision : Int}
    (persisted : persistDecision db previous decision revision = .ok after) : LeavesActive db after := by
  simp only [persistDecision, bind_eq_ok] at persisted
  obtain ⟨synced, looped, rest⟩ := persisted
  refine (syncLegacyWorkers_leaves looped).trans ?_
  split at rest
  next => cases rest
  next task found =>
    simp only [bind_eq_ok] at rest
    obtain ⟨_, _, middle, upserted, final, appended, _, _, last⟩ := rest
    cases last
    obtain ⟨_, rfl⟩ := upsert_loop.mp upserted
    obtain ⟨protocolEvents, rfl, _⟩ := appendEvents_rows appended
    exact .same rfl rfl

theorem transition_leaves {taskId : String} {revision : Int} {answer : ProtocolDecision}
    {transition : WorkerTaskState → Except ProtocolError ProtocolDecision}
    (returned : applyWorkerProtocolTransition taskId revision transition db = .ok (answer, after)) :
    LeavesActive db after := by
  simp only [applyWorkerProtocolTransition, bind_eq_ok] at returned
  obtain ⟨previous, _, decision, _, _, _, _, _, rest⟩ := returned
  split at rest
  next =>
    cases rest
    exact .refl db
  next =>
    simp only [bind_eq_ok] at rest
    obtain ⟨_, _, _, _, _, _, _, _, _, _, next, persisted, _, _, _, _, last⟩ := rest
    cases last
    exact persistDecision_leaves persisted

theorem method_leaves {taskId : String} {method : ProtocolMethod} {answer : ProtocolDecision}
    (returned : method.transaction taskId db = .ok (answer, after)) : LeavesActive db after := by
  rcases method_cases method taskId db with ⟨_, raised⟩ | ⟨_, same⟩
  · rw [raised] at returned
    cases returned
  · exact transition_leaves (same.symm.trans returned)

theorem bootstrap_leaves {taskId : String} {parent root childKey : Option String} {state : WorkerTaskState}
    (booted : bootstrapWorkerProtocol taskId parent root childKey db = .ok (state, after)) : LeavesActive db after := by
  unfold bootstrapWorkerProtocol at booted
  split at booted
  next =>
    simp only [bind_eq_ok] at booted
    obtain ⟨_, _, _, _, same⟩ := booted
    cases same
    exact .refl db
  next =>
    split at booted
    next => cases booted
    next =>
      simp only [bind_eq_ok] at booted
      obtain ⟨_, _, _, _, next, inserted, same⟩ := booted
      cases same
      unfold insertProtocolSnapshot at inserted
      split at inserted
      next => cases inserted
      next =>
        obtain ⟨_, rfl⟩ := upsert_loop.mp inserted
        exact .same rfl rfl

end Steps

theorem taskCall_leaves (taskId : String) (call : TaskCall) : (call.body taskId).Effects LeavesActive := by
  cases call with
  | updateState state now =>
    refine .map (.andThen (.check .refl) (fun _ => .transaction .refl (fun db value after written => ?_)))
    cases written
    exact updateTask_leaves taskId _
  | addWorker url conversationId makeCurrent workerId now =>
    exact .map (.andThen (.check .refl) (fun _ => .andThen
      (.transaction .refl (fun _ _ _ written => addWorker_leaves written)) (fun _ => .check .refl)))
  | setWorkerStatus workerId status now =>
    exact .map (.andThen (.check .refl) (fun _ => .andThen
      (.transaction .refl (fun _ _ _ written => setWorkerStatus_leaves workerId status now written))
      (fun _ => .check .refl)))
  | bootstrap parent root childKey => exact .map (.transaction .refl (fun _ _ _ booted => bootstrap_leaves booted))
  | protocol method => exact .map (.transaction .refl (fun _ _ _ returned => method_leaves returned))

/-- What a commit of these calls can do. -/
def WindowStep (before after : Database) : Prop := LeavesActive before after ∨ WritesBinding before after

theorem windowCall_effects (call : WindowCall) : call.body.Effects WindowStep := by
  have refl (db : Database) : WindowStep db db := Or.inl (.refl db)
  cases call with
  | bindWorkerWindow args =>
    refine .map (.andThen (.check refl) (fun _ => .andThen .ensure (fun _ => .andThen (.check refl) (fun _ =>
      .andThen (.transaction refl (fun db value after written => ?_)) (fun _ => .check refl)))))
    cases written
    exact Or.inr ⟨rfl, _, rfl⟩
  | clearWorkerWindowBinding workerId =>
    refine .map (.transaction refl (fun db value after written => ?_))
    cases written
    exact Or.inl (.delete db workerId)
  | task taskId call => exact (taskCall_leaves taskId call).weaken (fun _ _ left => Or.inl left)

/-- A commit that writes a binding finds the worker active. -/
def StillActive : Event Database NoAnswer Unit → Prop
  | .committed _ before after =>
    ∀ binding ∈ after.windowBindings.rows, binding ∉ before.windowBindings.rows → ActiveIn before binding.workerId
  | _ => True

instance stillActiveDecidable : (event : Event Database NoAnswer Unit) → Decidable (StillActive event)
  | .committed _ before after => inferInstanceAs (Decidable (∀ binding ∈ after.windowBindings.rows,
      binding ∉ before.windowBindings.rows → ActiveIn before binding.workerId))
  | .issued .. | .answered .. | .returned .. => .isTrue trivial

section Commits
variable {pid : Nat} {before after : Database}

private theorem WindowStep.active (step : WindowStep before after) (still : StillActive (.committed pid before after))
    (active : BindingsActive before) : BindingsActive after := by
  intro binding member
  rcases step with left | ⟨workers, row, written⟩
  · obtain ⟨present, kept⟩ := left binding member
    exact kept (active binding present)
  · have found : ActiveIn before binding.workerId := by
      by_cases old : binding ∈ before.windowBindings
      · exact active binding old
      · exact still binding member old
    obtain ⟨worker, present, status⟩ := found
    exact ⟨worker, workers ▸ present, status⟩

private theorem WindowStep.still (step : WindowStep before after) (active : BindingsActive after) :
    StillActive (.committed pid before after) := by
  intro binding member new
  rcases step with left | ⟨workers, row, written⟩
  · exact absurd (left binding member).1 new
  · obtain ⟨worker, present, status⟩ := active binding member
    exact ⟨worker, workers ▸ present, status⟩

end Commits

/-- Only active workers have bindings, in every state of a run, exactly when every
commit of the run that writes a binding finds its worker still active. -/
theorem window_bindings_active {start : Database} (initial : BindingsActive start)
    (moves : List (Move NoAnswer WindowCall)) :
    let world := run windowMachine.move { store := start, log := [] } moves
    (BindingsActive world.store ∧ ∀ pid before after, .committed pid before after ∈ world.log → BindingsActive after) ↔
      ∀ event ∈ world.log, StillActive event := by
  intro world
  have linked : Linked start world.log world.store := run_linked windowMachine start moves
  have steps {pid : Nat} {before after : Database} (member : .committed pid before after ∈ world.log) :
      WindowStep before after := run_effects windowCall_effects member
  constructor
  · intro ⟨_, all⟩ event member
    cases event with
    | committed pid before after => exact (steps member).still (all pid before after member)
    | _ => trivial
  · intro still
    have kept {pid : Nat} {before after : Database} (member : .committed pid before after ∈ world.log) :
        BindingsActive before → BindingsActive after := (steps member).active (still _ member)
    refine ⟨linked.stays initial (fun pid before after member => kept member), fun pid before after member => ?_⟩
    obtain ⟨newer, older, cut⟩ := List.append_of_mem member
    rw [cut] at linked
    obtain ⟨middle, ⟨_, earlier⟩, _⟩ := linked.split
    refine kept member (earlier.stays initial (fun other found left inside => ?_))
    have logged : .committed other found left ∈ world.log := by
      rw [cut]
      exact List.mem_append_right _ (List.mem_cons_of_mem _ inside)
    exact kept logged

/-- A task outside the protocol and its one active worker. -/
def oneWorker : Database :=
  { tasks := ⟨[{ taskId := "task", state := .running, currentWorkerId := some "worker" }], by decide⟩
    workers :=
      ⟨[{ workerId := "worker", taskId := "task", conversationUrl := "https://chatgpt.com/c/1", status := .active
          startedAt := 1 }], by decide⟩ }

def oneWindow : BindArgs :=
  { workerId := "worker", windowHandle := 7, browserPid := 8, chromeExecutable := "chrome.exe"
    conversationUrl := "https://chatgpt.com/c/1", observedAt := 2 }

/-- A second worker takes over between two bindings of the first one's window. -/
theorem window_bindings_active_superseded :
    let moves : List (Move NoAnswer WindowCall) :=
      .start (.bindWorkerWindow oneWindow) :: List.replicate 4 (.step 0) ++
        .start (.task "task" (.addWorker "https://chatgpt.com/c/2" none true "next" 3)) :: List.replicate 3 (.step 1) ++
        .start (.bindWorkerWindow { oneWindow with workerId := "next", conversationUrl := "https://chatgpt.com/c/2" }) ::
        List.replicate 4 (.step 2)
    let world := run windowMachine.move { store := oneWorker, log := [] } moves
    world.store.windowBindings.rows.map (·.workerId) = ["next"] ∧ BindingsActive world.store := by
  intro moves world
  have still : ∀ event ∈ world.log, StillActive event := by decide +kernel
  exact ⟨by decide +kernel, ((window_bindings_active (by decide) moves).mpr still).1⟩

/-- The worker is read as active, another connection ends it and deletes its
bindings, and the insert gives it a new one. -/
theorem window_bindings_active_late_insert :
    let moves : List (Move NoAnswer WindowCall) :=
      .start (.bindWorkerWindow oneWindow) :: List.replicate 2 (.step 0) ++
        .start (.task "task" (.setWorkerStatus "worker" .dead 3)) :: List.replicate 2 (.step 1) ++ [.step 0]
    let world := run windowMachine.move { store := oneWorker, log := [] } moves
    BindingsActive oneWorker ∧
    ∃ binding ∈ world.store.windowBindings, ∃ worker ∈ world.store.workers,
      worker.workerId = binding.workerId ∧ worker.status = .dead := by
  intro moves world
  refine ⟨by decide, ?_⟩
  have found : ∃ binding ∈ world.store.windowBindings.rows, ∃ worker ∈ world.store.workers.rows,
      worker.workerId = binding.workerId ∧ worker.status = .dead := by decide +kernel
  exact found

end WebSupervisor.Registry.Proofs
