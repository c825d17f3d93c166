import WebSupervisor.Library.Effects
import WebSupervisor.Registry.Completion
import WebSupervisor.Proofs.WorkerPersistenceRefinement

/-! A completed child and its unresolved work. The completing commit also closes
the canonical task, which the action recorders look at; the recorders of
replacements and of spawns look at neither, and the checks of the completing call
lie before its commits. -/

namespace WebSupervisor.Registry.Proofs
open Library Library.Program WorkerProtocol WorkerProtocol.Proofs WorkerPersistence WorkerPersistence.Proofs

inductive CompletionCall where
  | complete (childTaskId completionRef : String) (now updatedAt : Time)
  | recordRecoveryAction (attempt : ActionAttempt)
  | recordCurrentWorkerAction (attempt : ActionAttempt)
  | recordReplacement (attempt : ReplacementAttempt)
  | recordSpawn (attempt : ChildSpawnAttempt)

def CompletionCall.body : CompletionCall → Program Database NoAnswer Unit
  | .complete childTaskId completionRef now updatedAt =>
    (fun _ => ()) <$> (completeChildDispatch childTaskId completionRef now updatedAt).run
  | .recordRecoveryAction attempt => (fun _ => ()) <$> (transaction (recordRecoveryActionAttempt attempt)).run
  | .recordCurrentWorkerAction attempt => (fun _ => ()) <$> (transaction (recordCurrentWorkerActionAttempt attempt)).run
  | .recordReplacement attempt => (fun _ => ()) <$> (recordReplacementAttempt attempt).run
  | .recordSpawn attempt => (fun _ => ()) <$> (recordChildSpawnAttempt attempt).run

def completionMachine : Machine Database NoAnswer CompletionCall Unit := { body := CompletionCall.body }

def ProtocolCompleted (db : Database) (taskId : String) : Prop :=
  (db.protocolTasks.find? taskId).map (·.taskStatus) = some .completed

instance ProtocolCompleted.decidable (db : Database) (taskId : String) : Decidable (ProtocolCompleted db taskId) :=
  inferInstanceAs (Decidable (_ = _))

/-- The canonical task is completed. -/
def TaskClosed (db : Database) (taskId : String) : Prop :=
  (db.tasks.find? taskId).map (·.state) = some .completed

/-- The child has an unresolved action, replacement or spawn. The record of a spawn
is its payload; the state column only repeats it. -/
def OpenWork (db : Database) (taskId : String) : Prop :=
  (∃ attempt ∈ db.actionAttempts.rows, attempt.taskId = taskId ∧ attempt.state.Unresolved) ∨
  (∃ attempt ∈ db.replacementAttempts.rows, attempt.taskId = taskId ∧ attempt.state.Unresolved) ∨
  ∃ row ∈ db.childSpawnAttempts.rows, row.payload.childTaskId = taskId ∧ row.payload.state.Unresolved

instance OpenWork.decidable (db : Database) (taskId : String) : Decidable (OpenWork db taskId) :=
  inferInstanceAs (Decidable (_ ∨ _ ∨ _))

/-- The commit adds a replacement or a spawn of the child. -/
def AddsAttempt (before after : Database) (taskId : String) : Prop :=
  (∃ attempt ∈ after.replacementAttempts.rows, attempt.taskId = taskId ∧
    before.replacementAttempts.find? attempt.attemptId = none) ∨
  ∃ row ∈ after.childSpawnAttempts.rows, row.payload.childTaskId = taskId ∧
    before.childSpawnAttempts.find? row.attemptId = none

instance AddsAttempt.decidable (before after : Database) (taskId : String) : Decidable (AddsAttempt before after taskId) :=
  inferInstanceAs (Decidable (_ ∨ _))

/-- A commit that completes the child finds the checks for unresolved work still
passing, and no commit adds a replacement or a spawn to a completed child. -/
def Orderly (taskId : String) : Event Database NoAnswer Unit → Prop
  | .committed _ before after =>
    (¬ ProtocolCompleted before taskId → ProtocolCompleted after taskId → ¬ OpenWork before taskId) ∧
    (ProtocolCompleted before taskId → ¬ AddsAttempt before after taskId)
  | _ => True

instance Orderly.decidable (taskId : String) : (event : Event Database NoAnswer Unit) → Decidable (Orderly taskId event)
  | .committed .. => inferInstanceAs (Decidable (_ ∧ _))
  | .issued .. | .answered .. | .returned .. => .isTrue trivial

/-- What a commit of any call does to the completion of a child and to its work. -/
structure Progress (taskId : String) (before after : Database) : Prop where
  agree : (ProtocolCompleted before taskId → TaskClosed before taskId) →
    ProtocolCompleted after taskId → TaskClosed after taskId
  finish : ¬ ProtocolCompleted before taskId → ProtocolCompleted after taskId → SameRecords before after
  arm : TaskClosed before taskId → OpenWork after taskId → OpenWork before taskId ∨ AddsAttempt before after taskId

section Steps
variable {taskId : String} {before after : Database}

theorem Progress.refl (taskId : String) (db : Database) : Progress taskId db db :=
  ⟨fun agree => agree, fun _ _ => .refl db, fun _ work => Or.inl work⟩

theorem SameRecords.work (same : SameRecords before after) (work : OpenWork after taskId) :
    OpenWork before taskId := by
  unfold OpenWork at work ⊢
  rw [same.actions, same.replacements, same.spawns] at work
  exact work

private theorem Progress.of_records (same : SameRecords before after)
    (agree : (ProtocolCompleted before taskId → TaskClosed before taskId) →
      ProtocolCompleted after taskId → TaskClosed after taskId) : Progress taskId before after :=
  ⟨agree, fun _ _ => same, fun _ work => Or.inl (SameRecords.work same work)⟩

private theorem Progress.of_work (rows : after.protocolTasks = before.protocolTasks)
    (closed : TaskClosed after taskId ↔ TaskClosed before taskId)
    (arm : TaskClosed before taskId → OpenWork after taskId → OpenWork before taskId ∨ AddsAttempt before after taskId) :
    Progress taskId before after := by
  have completed : ProtocolCompleted after taskId ↔ ProtocolCompleted before taskId := by
    rw [ProtocolCompleted, rows, ProtocolCompleted]
  exact ⟨fun agree done => closed.mpr (agree (completed.mp done)), fun isOpen done => absurd (completed.mp done) isOpen, arm⟩

private theorem find_revised {tasks : Table TaskRecord TaskRecord.taskId} {task changed : TaskRecord}
    (member : task ∈ tasks) (same : changed.taskId = task.taskId) (wanted : String) :
    (tasks.replace changed).find? wanted = if wanted = task.taskId then some changed else tasks.find? wanted := by
  rw [Table.find?_replace ⟨task, member, same.symm⟩, same]

theorem transition_progress {named : String} {revision : Int} {answer : ProtocolDecision}
    {transition : WorkerTaskState → Except ProtocolError ProtocolDecision}
    (returned : applyWorkerProtocolTransition named revision transition before = .ok (answer, after)) :
    Progress taskId before after := by
  obtain ⟨previous, _, loaded, ⟨_, rfl⟩ | ⟨_, applied⟩⟩ := applied_cases returned
  · exact .refl taskId after
  · refine .of_records applied.persisted.records (fun agree done => ?_)
    obtain ⟨task, member, same, tasks⟩ := applied.persisted.task
    obtain ⟨sameTask, _, _, _, stored, _⟩ := load_consistent loaded
    have rows : (before.protocolTasks.replace (taskValues answer.state)).find? taskId =
        if taskId = answer.state.taskId then some (taskValues answer.state) else before.protocolTasks.find? taskId :=
      Table.find?_replace ⟨taskValues previous, stored, sameTask.trans applied.task.symm⟩ taskId
    have canonical := @find_revised _ _ (transitionedTask task answer) member rfl taskId
    rw [ProtocolCompleted, applied.persisted.protocol, rows] at done
    rw [TaskClosed, tasks, canonical]
    by_cases own : taskId = answer.state.taskId
    · have status : answer.state.taskStatus = .completed := by
        rw [if_pos own] at done
        exact Option.some.inj done
      rw [if_pos (own.trans same.symm), Option.map_some, transitionedTask, if_pos status]
    · rw [if_neg own] at done
      rw [if_neg (fun equal => own (equal.trans same))]
      exact agree done

theorem updateState_progress {named : String} {now : Time}
    (written : updateStateWrite named .completed now before = .ok ((), after)) : Progress taskId before after := by
  cases written
  unfold updateTask
  split
  next => exact .refl taskId before
  next task found =>
    obtain ⟨member, rfl⟩ := Table.find?_some.mp found
    refine .of_records ⟨rfl, rfl, rfl, rfl, rfl⟩ (fun agree done => ?_)
    have canonical := @find_revised _ _ { task with state := .completed, updatedAt := now } member rfl taskId
    have closed := agree done
    rw [TaskClosed, canonical]
    split
    · rfl
    · exact closed

private theorem inserted_rows {ρ κ ι : Type} [DecidableEq κ] [DecidableEq ι] {key : ρ → κ} {index : ρ → Option ι}
    {table grown : IndexedTable ρ key index} {row : ρ} (inserted : table.insert row = .ok grown) {old : ρ}
    (member : old ∈ grown.rows) : old ∈ table.rows ∨ old = row ∧ table.find? (key row) = none := by
  have added := IndexedTable.insert_ok inserted
  rcases (Table.mem_insert? added).mp member with kept | rfl
  · exact Or.inl kept
  · exact Or.inr ⟨rfl, Table.find?_none.mpr (Table.insert?_some.mp added).1⟩

theorem insertReplacement_progress {attempt : ReplacementAttempt}
    (done : insertReplacementAttempt attempt before = .ok ((), after)) : Progress taskId before after := by
  unfold insertReplacementAttempt at done
  split at done
  next => cases done
  next => cases done
  next grown inserted =>
    cases done
    refine .of_work rfl Iff.rfl (fun _ work => ?_)
    rcases work with actions | ⟨held, member, named, unresolved⟩ | spawns
    · exact Or.inl (Or.inl actions)
    · rcases inserted_rows inserted member with old | ⟨rfl, fresh⟩
      · exact Or.inl (Or.inr (Or.inl ⟨held, old, named, unresolved⟩))
      · exact Or.inr (Or.inl ⟨held, member, named, fresh⟩)
    · exact Or.inl (Or.inr (Or.inr spawns))

theorem insertSpawn_progress {attempt : ChildSpawnAttempt}
    (done : insertChildSpawnAttempt attempt before = .ok ((), after)) : Progress taskId before after := by
  unfold insertChildSpawnAttempt at done
  split at done
  next => cases done
  next => cases done
  next grown inserted =>
    cases done
    refine .of_work rfl Iff.rfl (fun _ work => ?_)
    rcases work with actions | replacements | ⟨held, member, named, unresolved⟩
    · exact Or.inl (Or.inl actions)
    · exact Or.inl (Or.inr (Or.inl replacements))
    · rcases inserted_rows inserted member with old | ⟨rfl, fresh⟩
      · exact Or.inl (Or.inr (Or.inr ⟨held, old, named, unresolved⟩))
      · exact Or.inr (Or.inr ⟨_, member, named, fresh⟩)

private theorem insertAction_progress {attempt : ActionAttempt} {task : TaskRecord} {middle : Database}
    (found : getTask before attempt.taskId = .ok task) (isOpen : task.state ∉ [.completed, .abandoned])
    (inserted : insertActionAttempt before attempt = .ok middle) (rows : after.protocolTasks = middle.protocolTasks)
    (records : SameRecords middle after) (closed : TaskClosed after taskId ↔ TaskClosed middle taskId) :
    Progress taskId before after := by
  unfold insertActionAttempt at inserted
  split at inserted
  next => cases inserted
  next => cases inserted
  next grown added =>
    cases inserted
    refine .of_work rows closed (fun shut work => ?_)
    rcases SameRecords.work records work with ⟨held, member, named, unresolved⟩ | replacements | spawns
    · rcases inserted_rows added member with old | ⟨rfl, fresh⟩
      · exact Or.inl (Or.inl ⟨held, old, named, unresolved⟩)
      · subst named
        unfold getTask at found
        unfold TaskClosed at shut
        split at found
        next missing =>
          rw [missing] at shut
          cases shut
        next stored present =>
          cases found
          rw [present] at shut
          exact absurd (Option.some.inj shut) (fun state => isOpen (by simp [state]))
    · exact Or.inl (Or.inr (Or.inl replacements))
    · exact Or.inl (Or.inr (Or.inr spawns))

theorem recordCurrentWorkerAction_progress {attempt : ActionAttempt}
    (done : recordCurrentWorkerActionAttempt attempt before = .ok ((), after)) : Progress taskId before after := by
  simp only [recordCurrentWorkerActionAttempt, bind_eq_ok, refuse_eq_ok] at done
  obtain ⟨_, _, task, found, _, isOpen, _, _, _, _, middle, inserted, same⟩ := done
  cases same
  exact insertAction_progress found isOpen inserted rfl (.refl _) Iff.rfl

theorem recordRecoveryAction_progress {attempt : ActionAttempt}
    (done : recordRecoveryActionAttempt attempt before = .ok ((), after)) : Progress taskId before after := by
  simp only [recordRecoveryActionAttempt, bind_eq_ok, refuse_eq_ok] at done
  obtain ⟨_, _, task, found, _, isOpen, _, _, _, _, _, _, middle, inserted, same⟩ := done
  cases same
  refine insertAction_progress found isOpen inserted ?_ ?_ ?_
  · unfold updateTask
    split <;> rfl
  · unfold updateTask
    split <;> exact ⟨rfl, rfl, rfl, rfl, rfl⟩
  · unfold updateTask
    split
    next => exact Iff.rfl
    next held present =>
      obtain ⟨member, named⟩ := Table.find?_some.mp present
      rw [TaskClosed, @find_revised _ _ { held with
        recoveryAttempts := held.recoveryAttempts + 1, updatedAt := attempt.createdAt } member rfl taskId, TaskClosed]
      split
      next own =>
        rw [own, named, present]
        rfl
      next => exact Iff.rfl

/-- Only spawn rows change, and these only in their state column. -/
def OnlyColumns (before after : Database) : Prop :=
  after = { before with childSpawnAttempts := after.childSpawnAttempts } ∧
    ∀ row ∈ after.childSpawnAttempts.rows, ∃ old ∈ before.childSpawnAttempts.rows, old.payload = row.payload

theorem OnlyColumns.refl (db : Database) : OnlyColumns db db := ⟨rfl, fun row member => ⟨row, member, rfl⟩⟩

theorem OnlyColumns.trans {first second third : Database} (one : OnlyColumns first second)
    (two : OnlyColumns second third) : OnlyColumns first third := by
  refine ⟨?_, fun row member => ?_⟩
  · rw [two.1, one.1]
  · obtain ⟨middle, inside, same⟩ := two.2 row member
    obtain ⟨old, present, equal⟩ := one.2 middle inside
    exact ⟨old, present, equal.trans same⟩

theorem OnlyColumns.progress (columns : OnlyColumns before after) : Progress taskId before after := by
  obtain ⟨shape, payloads⟩ := columns
  have rows : after.protocolTasks = before.protocolTasks := by rw [shape]
  have closed : TaskClosed after taskId ↔ TaskClosed before taskId := by rw [shape]; rfl
  refine .of_work rows closed (fun _ work => Or.inl ?_)
  rcases work with actions | replacements | ⟨row, member, named, unresolved⟩
  · rw [shape] at actions
    exact Or.inl actions
  · rw [shape] at replacements
    exact Or.inr (Or.inl replacements)
  · obtain ⟨old, present, same⟩ := payloads row member
    exact Or.inr (Or.inr ⟨old, present, same ▸ named, same ▸ unresolved⟩)

theorem repairSpawnState_columns {attempt : ChildSpawnAttempt}
    (written : repairSpawnState attempt before = .ok ((), after)) : OnlyColumns before after := by
  unfold repairSpawnState writeSpawnRow at written
  split at written
  next => cases written
  next held found =>
    split at written
    next => cases written
    next grown replaced =>
      cases written
      refine ⟨rfl, fun row member => ?_⟩
      have inside : row ∈ grown.toTable := member
      rw [IndexedTable.replace?_some replaced] at inside
      rcases Table.mem_replace.mp inside with ⟨rfl, _⟩ | ⟨old, _⟩
      · exact ⟨held, (Table.find?_some.mp found).1, rfl⟩
      · exact ⟨row, old, rfl⟩

theorem repairingScan_columns {rest : List (String × ChildSpawnAttemptState)} {answer : Option ChildSpawnAttempt}
    (scanned : repairingScan rest before = .ok (answer, after)) : OnlyColumns before after := by
  induction rest generalizing before with
  | nil =>
    cases scanned
    exact .refl _
  | cons entry rest ih =>
    simp only [repairingScan, bind_eq_ok] at scanned
    obtain ⟨attempt, _, scanned⟩ := scanned
    have goesOn {middle : Database} (first : OnlyColumns before middle)
        (goes : (if attempt.state.Unresolved then .ok (some attempt, middle) else repairingScan rest middle) =
          (.ok (answer, after) : Except SupervisorError (Option ChildSpawnAttempt × Database))) :
        OnlyColumns before after := by
      split at goes
      next =>
        cases goes
        exact first
      next => exact first.trans (ih goes)
    split at scanned
    next =>
      obtain ⟨⟨_, middle⟩, written, scanned⟩ := (bind_eq_ok ..).mp scanned
      exact goesOn (repairSpawnState_columns written) scanned
    next => exact goesOn (.refl before) scanned

theorem repairAndScan_columns {attempt : ChildSpawnAttempt} {rest : List (String × ChildSpawnAttemptState)}
    {answer : Option ChildSpawnAttempt} (scanned : repairAndScan attempt rest before = .ok (answer, after)) :
    OnlyColumns before after := by
  simp only [repairAndScan, bind_eq_ok] at scanned
  obtain ⟨⟨_, middle⟩, written, scanned⟩ := scanned
  have first := repairSpawnState_columns written
  split at scanned
  next =>
    cases scanned
    exact first
  next => exact first.trans (repairingScan_columns scanned)

end Steps

/-- What the atomic steps of the calls do. -/
structure Covers (relates : Database → Database → Prop) : Prop where
  refl : ∀ db, relates db db
  protocol : ∀ {named before after} {method : ProtocolMethod} {answer : ProtocolDecision},
    method.transaction named before = .ok (answer, after) → relates before after
  update : ∀ {named now before after}, updateStateWrite named .completed now before = .ok ((), after) → relates before after
  columns : ∀ {before after}, OnlyColumns before after → relates before after
  recoveryAction : ∀ {attempt before after}, recordRecoveryActionAttempt attempt before = .ok ((), after) →
    relates before after
  currentWorkerAction : ∀ {attempt before after}, recordCurrentWorkerActionAttempt attempt before = .ok ((), after) →
    relates before after
  replacement : ∀ {attempt before after}, insertReplacementAttempt attempt before = .ok ((), after) → relates before after
  spawn : ∀ {attempt before after}, insertChildSpawnAttempt attempt before = .ok ((), after) → relates before after

theorem protocol_progress {taskId named : String} {before after : Database} {method : ProtocolMethod}
    {answer : ProtocolDecision} (returned : method.transaction named before = .ok (answer, after)) :
    Progress taskId before after := by
  rcases method_cases method named before with ⟨_, raised⟩ | ⟨_, same⟩
  · rw [raised] at returned
    cases returned
  · exact transition_progress (same.symm.trans returned)

theorem progress_covers (taskId : String) : Covers (Progress taskId) :=
  ⟨.refl taskId, protocol_progress, updateState_progress, OnlyColumns.progress, recordRecoveryAction_progress,
    recordCurrentWorkerAction_progress, insertReplacement_progress, insertSpawn_progress⟩

section Calls
variable {relates : Database → Database → Prop}

private theorem scanSpawns_effects (rows : List (String × ChildSpawnAttemptState)) :
    Effects OnlyColumns (ω := NoAnswer) (scanSpawns rows).run := by
  induction rows with
  | nil => exact .done
  | cons entry rest ih =>
    refine .andThen (.check OnlyColumns.refl) (fun attempt => ?_)
    split
    next => exact .transaction OnlyColumns.refl (fun store value after done => repairAndScan_columns done)
    next =>
      split
      next => exact .done
      next => exact ih

theorem unresolvedSpawn_effects (childTaskId : String) :
    Effects OnlyColumns (ω := NoAnswer) (unresolvedChildSpawnAttempt childTaskId).run :=
  .andThen (.check OnlyColumns.refl) (fun rows => scanSpawns_effects rows)

theorem protocol_effects (covers : Covers relates) (named : String) (method : ProtocolMethod) :
    Effects relates (ω := NoAnswer) (transaction (method.transaction named)).run :=
  .transaction covers.refl (fun _ _ _ done => covers.protocol done)

private theorem updateState_effects (covers : Covers relates) (named : String) (now : Time) :
    Effects relates (ω := NoAnswer) (updateState named .completed now).run :=
  .andThen (.check covers.refl) (fun _ => .transaction covers.refl (fun _ _ _ done => covers.update done))

private theorem confirmCompleted_effects (covers : Covers relates) (named ref : String) (state : WorkerTaskState)
    (updatedAt : Time) : Effects relates (ω := NoAnswer) (confirmCompleted named ref state updatedAt).run := by
  refine .andThen .ensure (fun _ => .andThen (.check covers.refl) (fun task => ?_))
  split
  next => exact .andThen (updateState_effects covers named updatedAt) (fun _ => .done)
  next => exact .done

private theorem endWorker_effects (covers : Covers relates) (named workerId : String) (state : WorkerTaskState)
    (now : Time) : Effects relates (ω := NoAnswer) (endWorker named workerId state now).run := by
  refine .andThen (protocol_effects covers named (.completeWorker workerId state.generation state.revision now))
    (fun completed => ?_)
  split
  next => exact .done
  next =>
    refine .andThen .ensure (fun _ => ?_)
    exact .andThen (protocol_effects covers named (.abandonWorker workerId state.generation state.revision now))
      (fun _ => .andThen .ensure (fun _ => .done))

private theorem endCurrentWorker_effects (covers : Covers relates) (named : String) (state : WorkerTaskState) (now : Time) :
    Effects relates (ω := NoAnswer) (endCurrentWorker named state now).run := by
  unfold endCurrentWorker
  split
  next => exact .done
  next workerId _ => exact endWorker_effects covers named workerId state now

private theorem finishChildTask_effects (covers : Covers relates) (named ref : String) (state : WorkerTaskState)
    (now updatedAt : Time) : Effects relates (ω := NoAnswer) (finishChildTask named ref state now updatedAt).run := by
  refine .andThen (endCurrentWorker_effects covers named state now) (fun ended => ?_)
  refine .andThen (protocol_effects covers named (.completeTask ref ended.revision now)) (fun _ => ?_)
  exact .andThen .ensure (fun _ => .andThen (updateState_effects covers named updatedAt) (fun _ => .done))

private theorem completeChildDispatch_effects (covers : Covers relates) (named ref : String) (now updatedAt : Time) :
    Effects relates (ω := NoAnswer) (completeChildDispatch named ref now updatedAt).run := by
  have refl := covers.refl
  refine .andThen (.check refl) (fun _ => .andThen .ensure (fun _ => ?_))
  refine .andThen (.check refl) (fun _ => .andThen .ensure (fun _ => ?_))
  refine .andThen (.check refl) (fun _ => .andThen .ensure (fun _ => ?_))
  refine .andThen ((unresolvedSpawn_effects named).weaken (fun _ _ => covers.columns)) (fun _ => .andThen .ensure (fun _ => ?_))
  refine .andThen (.check refl) (fun state => ?_)
  split
  next => exact confirmCompleted_effects covers named _ state updatedAt
  next => exact finishChildTask_effects covers named _ state now updatedAt

private theorem recordReplacement_effects (covers : Covers relates) (attempt : ReplacementAttempt) :
    Effects relates (ω := NoAnswer) (recordReplacementAttempt attempt).run := by
  have refl := covers.refl
  refine .andThen (.check refl) (fun _ => .andThen (.check refl) (fun _ => ?_))
  refine .andThen .ensure (fun _ => .andThen (.check refl) (fun _ => .andThen .ensure (fun _ => ?_)))
  refine .andThen ?_ (fun _ => .check refl)
  exact .transaction refl (fun _ _ _ done => covers.replacement done)

private theorem recordSpawn_effects (covers : Covers relates) (attempt : ChildSpawnAttempt) :
    Effects relates (ω := NoAnswer) (recordChildSpawnAttempt attempt).run := by
  have refl := covers.refl
  refine .andThen (.check refl) (fun _ => .andThen .ensure (fun _ => ?_))
  refine .andThen ((unresolvedSpawn_effects _).weaken (fun _ _ => covers.columns)) (fun _ => .andThen .ensure (fun _ => ?_))
  refine .andThen ?_ (fun _ => .check refl)
  exact .transaction refl (fun _ _ _ done => covers.spawn done)

/-- The steps of all calls do it. -/
theorem Covers.effects (covers : Covers relates) (call : CompletionCall) : (completionMachine.body call).Effects relates := by
  cases call with
  | complete named ref now updatedAt => exact .map (completeChildDispatch_effects covers named ref now updatedAt)
  | recordRecoveryAction attempt =>
    exact .map (.transaction covers.refl (fun _ _ _ done => covers.recoveryAction done))
  | recordCurrentWorkerAction attempt =>
    exact .map (.transaction covers.refl (fun _ _ _ done => covers.currentWorkerAction done))
  | recordReplacement attempt => exact .map (recordReplacement_effects covers attempt)
  | recordSpawn attempt => exact .map (recordSpawn_effects covers attempt)

end Calls

/-- A completed child has a closed task and nothing unresolved. -/
def WellCompleted (db : Database) (taskId : String) : Prop :=
  ProtocolCompleted db taskId → TaskClosed db taskId ∧ ¬ OpenWork db taskId

theorem Progress.wellCompleted {taskId : String} {pid : Nat} {before after : Database}
    (progress : Progress taskId before after) (orderly : Orderly taskId (.committed pid before after))
    (held : WellCompleted before taskId) : WellCompleted after taskId := by
  intro completed
  have closed := progress.agree (fun done => (held done).1) completed
  refine ⟨closed, fun work => ?_⟩
  by_cases earlier : ProtocolCompleted before taskId
  · rcases progress.arm (held earlier).1 work with old | added
    · exact (held earlier).2 old
    · exact orderly.2 earlier added
  · exact orderly.1 earlier completed (SameRecords.work (progress.finish earlier completed) work)

/-- In an interleaving whose commits are all orderly, a completed child has nothing
unresolved in any state that is reached. -/
theorem completed_child_settled (taskId : String) (start : Database) (initial : WellCompleted start taskId)
    (moves : List (Move NoAnswer CompletionCall))
    (orderly : ∀ event ∈ (run completionMachine.move { store := start, log := [] } moves).log, Orderly taskId event) :
    ∀ earlier later, moves = earlier ++ later →
      ProtocolCompleted (run completionMachine.move { store := start, log := [] } earlier).store taskId →
        ¬ OpenWork (run completionMachine.move { store := start, log := [] } earlier).store taskId := by
  intro earlier later cut completed
  have extends_ := @run_extends _ _ _ _ _ completionMachine
    (run completionMachine.move { store := start, log := [] } earlier) later
  rw [← run_append, ← cut] at extends_
  have reached : WellCompleted (run completionMachine.move { store := start, log := [] } earlier).store taskId := by
    refine @Linked.stays _ _ _ _ _ _ _ (WellCompleted · taskId) (run_linked completionMachine start earlier) initial
      (fun pid before after member held => ?_)
    have progress : Progress taskId before after := run_effects (progress_covers taskId).effects member
    exact progress.wellCompleted (orderly _ (extends_.subset member)) held
  exact (reached completed).2

/-- A dispatched child without workers. -/
def openChild : Database :=
  { tasks := .single { taskId := "child", state := .queued }
    childDispatches := .single
      { dispatchId := "dispatch", parentTaskId := "parent", childTaskId := "child", childKey := "key",
        promptText := "prompt", promptSha256 := "hash", expectedBranch := none, baseRef := none,
        webProjectUrl := none, createdAt := 0, updatedAt := 0 }
    protocolTasks := .single
      { taskId := "child", revision := 0, generation := 0, taskStatus := .opened, currentWorkerId := none
        handoffTargetWorkerId := none, handoffRequestedAt := none, parentTaskId := none, rootTaskId := "child"
        childKey := none, completedAt := none, completionRef := none } }

def someSpawn : ChildSpawnAttempt :=
  { attemptId := "spawn_1", childTaskId := "child", state := .armed, ownerToken := "owner", projectUrl := "",
    projectId := "", taggedProjectUrl := "", promptSha256 := "hash", chromeExecutable := "chrome", createdAt := 0,
    updatedAt := 0 }

/-- The child is completed, and a second completion confirms it. -/
def completedTwice : List (Move NoAnswer CompletionCall) :=
  .start (.complete "child" "commit" 1 2) :: List.replicate 9 (.step 0) ++
    .start (.complete "child" "commit" 3 4) :: List.replicate 7 (.step 1)

theorem completed_child_settled_twice :
    ProtocolCompleted (run completionMachine.move { store := openChild, log := [] } completedTwice).store "child" ∧
    ¬ OpenWork (run completionMachine.move { store := openChild, log := [] } completedTwice).store "child" := by
  have completed : ProtocolCompleted (run completionMachine.move { store := openChild, log := [] } completedTwice).store
      "child" := by decide +kernel
  have orderly : ∀ event ∈ (run completionMachine.move { store := openChild, log := [] } completedTwice).log,
      Orderly "child" event := by decide +kernel
  have initial : WellCompleted openChild "child" := fun done => absurd done (by decide +kernel)
  exact ⟨completed, completed_child_settled "child" openChild initial completedTwice orderly completedTwice []
    (List.append_nil _).symm completed⟩

/-- A spawn is recorded between the checks and the completing commit, or after it. -/
theorem completed_child_settled_late_spawn :
    (∃ moves : List (Move NoAnswer CompletionCall), moves =
        .start (.complete "child" "commit" 1 2) :: List.replicate 4 (.step 0) ++
          .start (.recordSpawn someSpawn) :: List.replicate 5 (.step 1) ++ List.replicate 5 (.step 0) ∧
      ProtocolCompleted (run completionMachine.move { store := openChild, log := [] } moves).store "child" ∧
      OpenWork (run completionMachine.move { store := openChild, log := [] } moves).store "child") ∧
    ∃ moves : List (Move NoAnswer CompletionCall), moves =
        .start (.complete "child" "commit" 1 2) :: List.replicate 9 (.step 0) ++
          .start (.recordSpawn someSpawn) :: List.replicate 5 (.step 1) ∧
      ProtocolCompleted (run completionMachine.move { store := openChild, log := [] } moves).store "child" ∧
      OpenWork (run completionMachine.move { store := openChild, log := [] } moves).store "child" :=
  ⟨⟨_, rfl, by decide +kernel, by decide +kernel⟩, ⟨_, rfl, by decide +kernel, by decide +kernel⟩⟩

end WebSupervisor.Registry.Proofs
