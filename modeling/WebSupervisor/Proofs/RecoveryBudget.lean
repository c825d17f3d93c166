import WebSupervisor.Library.Effects
import WebSupervisor.Proofs.ActionSends

/-! The recovery budget. Recording a recovery inserts one row and charges the
task in one transaction; no other commit inserts such a row or touches the
charge, so that both counts stay equal along every log. -/

namespace WebSupervisor.ActionRuntime.Proofs
open Library Library.Program Registry Registry.Proofs

section Faults
variable {fault : Option (Nat × SupervisorError)} {attempt : ActionAttempt} {db after : Database}

/-- A fault can only raise. -/
theorem runStatements_fault {statements : List Statement} {position : Nat}
    (ran : runStatements fault position statements db = .ok after) :
    runStatements none position statements db = .ok after := by
  induction statements generalizing position db with
  | nil =>
    unfold runStatements at ran ⊢
    split at ran
    next => cases ran
    next => exact ran
    next same => cases same
  | cons statement rest ih =>
    unfold runStatements at ran ⊢
    split at ran
    next => cases ran
    next same => cases same
    next same =>
      cases same
      obtain ⟨middle, first, later⟩ := (bind_eq_ok ..).mp ran
      exact (bind_eq_ok ..).mpr ⟨middle, first, ih later⟩

/-- Without a fault the statements are the transaction. -/
theorem recordWithFault_none (charged : Bool) :
    recordWithFault none charged attempt =
      if charged then recordRecoveryActionAttempt attempt else recordCurrentWorkerActionAttempt attempt := by
  funext db
  -- The statements read the task again, and find the same one.
  cases task : getTask db attempt.taskId <;> cases row : insertActionAttempt db attempt <;> cases charged <;>
    simp [recordWithFault, recordRecoveryActionAttempt, recordCurrentWorkerActionAttempt, runStatements,
      recoveryStatements, currentWorkerStatements, task, row] <;> rfl

theorem recordWithFault_ok {charged : Bool} (recorded : recordWithFault fault charged attempt db = .ok ((), after)) :
    (if charged then recordRecoveryActionAttempt attempt else recordCurrentWorkerActionAttempt attempt) db =
      .ok ((), after) := by
  rw [← recordWithFault_none]
  simp only [recordWithFault, bind_eq_ok] at recorded ⊢
  obtain ⟨_, armed, left, ran, same⟩ := recorded
  exact ⟨(), armed, left, runStatements_fault ran, same⟩

end Faults

/-- The charge of a task and its limit. -/
def budgetOf (db : Database) (taskId : String) : Option (Int × Int) :=
  (db.tasks.find? taskId).map (fun task => (task.recoveryAttempts, task.maxRecoveryAttempts))

/-- The attempts of a task that a commit has inserted. -/
def insertedIds (before after : Database) (taskId : String) : List String :=
  (after.actionAttempts.rows.filter (fun row =>
    row.taskId = taskId ∧ before.actionAttempts.find? row.attemptId = none)).map (·.attemptId)

/-- What a commit does to the budgets. -/
structure Accounted (charged : Bool) (before after : Database) : Prop where
  kept : ∀ row ∈ before.actionAttempts, ∃ next ∈ after.actionAttempts, next.attemptId = row.attemptId
  charge : ∀ taskId spent limit, budgetOf before taskId = some (spent, limit) →
    budgetOf after taskId =
      some (spent + (if charged then (insertedIds before after taskId).length else 0), limit)
  bound : ∀ taskId spent limit, budgetOf before taskId = some (spent, limit) → charged = true →
    spent + (insertedIds before after taskId).length ≤ max spent limit

section Steps
variable {before after : Database} {charged : Bool}

private theorem find?_of_id {row old : ActionAttempt} (member : old ∈ before.actionAttempts)
    (same : old.attemptId = row.attemptId) : before.actionAttempts.find? row.attemptId ≠ none := by
  intro missing
  exact Table.find?_none.mp missing old member same

private theorem Accounted.still (budgets : ∀ taskId, budgetOf after taskId = budgetOf before taskId)
    (kept : ∀ row ∈ before.actionAttempts, ∃ next ∈ after.actionAttempts, next.attemptId = row.attemptId)
    (old : ∀ row ∈ after.actionAttempts, ∃ held ∈ before.actionAttempts, held.attemptId = row.attemptId) :
    Accounted charged before after := by
  have none (taskId : String) : insertedIds before after taskId = [] := by
    rw [insertedIds, List.map_eq_nil_iff, List.filter_eq_nil_iff]
    intro row member new
    obtain ⟨held, present, same⟩ := old row member
    simp only [decide_eq_true_eq] at new
    exact find?_of_id present same new.2
  refine ⟨kept, fun taskId spent limit found => ?_, fun taskId spent limit _ _ => ?_⟩
  · rw [budgets, found, none]
    simp
  · rw [none]
    simp

private theorem Accounted.refl (db : Database) : Accounted charged db db :=
  .still (fun _ => rfl) (fun row member => ⟨row, member, rfl⟩) (fun row member => ⟨row, member, rfl⟩)

private theorem accounted_replace {attempt : ActionAttempt}
    (replaced : replaceActionAttempt attempt before = .ok ((), after)) : Accounted charged before after := by
  obtain ⟨⟨old, member, same⟩, rows⟩ := replaceActionAttempt_ok replaced
  have tasks : after.tasks = before.tasks := by
    unfold replaceActionAttempt at replaced
    split at replaced
    next => cases replaced
    next =>
      split at replaced
      next => cases replaced
      next =>
        cases replaced
        rfl
  refine .still (fun taskId => by rw [budgetOf, tasks, budgetOf]) (fun row present => ?_) (fun row present => ?_)
  · by_cases own : row.attemptId = attempt.attemptId
    · exact ⟨attempt, (rows attempt).mpr (Or.inl rfl), own.symm⟩
    · exact ⟨row, (rows row).mpr (Or.inr ⟨present, own⟩), rfl⟩
  · rcases (rows row).mp present with rfl | ⟨held, _⟩
    · exact ⟨old, member, same⟩
    · exact ⟨row, held, rfl⟩

private theorem insertActionAttempt_rows {attempt : ActionAttempt}
    (inserted : insertActionAttempt before attempt = .ok after) :
    after.actionAttempts.rows = before.actionAttempts.rows ++ [attempt] ∧ after.tasks = before.tasks ∧
      ∀ old ∈ before.actionAttempts, old.attemptId ≠ attempt.attemptId := by
  unfold insertActionAttempt at inserted
  split at inserted
  next => cases inserted
  next => cases inserted
  next actionAttempts grown =>
    cases inserted
    obtain ⟨fresh, rows⟩ := Table.insert?_some.mp (IndexedTable.insert_ok grown)
    exact ⟨rows, rfl, fresh⟩

private theorem insertedIds_insert {attempt : ActionAttempt}
    (rows : after.actionAttempts.rows = before.actionAttempts.rows ++ [attempt])
    (fresh : ∀ old ∈ before.actionAttempts, old.attemptId ≠ attempt.attemptId) (taskId : String) :
    insertedIds before after taskId = if attempt.taskId = taskId then [attempt.attemptId] else [] := by
  have missing : before.actionAttempts.find? attempt.attemptId = none := Table.find?_none.mpr fresh
  have old : before.actionAttempts.rows.filter (fun row =>
      row.taskId = taskId ∧ before.actionAttempts.find? row.attemptId = none) = [] := by
    rw [List.filter_eq_nil_iff]
    intro row member new
    simp only [decide_eq_true_eq] at new
    exact find?_of_id member rfl new.2
  rw [insertedIds, rows, List.filter_append, old, List.nil_append]
  split <;> simp_all

private theorem kept_insert {attempt : ActionAttempt}
    (rows : after.actionAttempts.rows = before.actionAttempts.rows ++ [attempt]) :
    ∀ row ∈ before.actionAttempts, ∃ next ∈ after.actionAttempts, next.attemptId = row.attemptId := by
  intro row member
  refine ⟨row, ?_, rfl⟩
  change row ∈ after.actionAttempts.rows
  rw [rows]
  exact List.mem_append_left _ member

theorem accounted_current {attempt : ActionAttempt}
    (armed : recordCurrentWorkerActionAttempt attempt before = .ok ((), after)) : Accounted false before after := by
  simp only [recordCurrentWorkerActionAttempt, bind_eq_ok] at armed
  obtain ⟨_, _, _, _, _, _, _, _, _, _, left, inserted, same⟩ := armed
  cases same
  obtain ⟨rows, tasks, fresh⟩ := insertActionAttempt_rows inserted
  refine ⟨kept_insert rows, fun taskId spent limit found => ?_, fun _ _ _ _ never => ?_⟩
  · rw [budgetOf, tasks]
    simpa [budgetOf] using found
  · cases never

private theorem budgetOf_updateTask {task : TaskRecord} {taskId : String} {change : TaskRecord → TaskRecord}
    (present : before.tasks.find? taskId = some task) (named : (change task).taskId = taskId) (wanted : String) :
    budgetOf (updateTask before taskId change) wanted =
      if wanted = taskId then some ((change task).recoveryAttempts, (change task).maxRecoveryAttempts)
      else budgetOf before wanted := by
  obtain ⟨member, own⟩ := Table.find?_some.mp present
  rw [updateTask, present, budgetOf, Table.find?_replace ⟨task, member, own.trans named.symm⟩, named]
  split <;> rfl

theorem accounted_recovery {attempt : ActionAttempt}
    (armed : recordRecoveryActionAttempt attempt before = .ok ((), after)) : Accounted true before after := by
  simp only [recordRecoveryActionAttempt, bind_eq_ok, refuse_eq_ok] at armed
  obtain ⟨_, _, task, found, _, _, _, within, _, _, _, _, left, inserted, same⟩ := armed
  cases same
  obtain ⟨rows, tasks, fresh⟩ := insertActionAttempt_rows inserted
  have present : left.tasks.find? attempt.taskId = some task := by
    rw [tasks]
    unfold getTask at found
    split at found
    next => cases found
    next held => exact held.trans (congrArg some (Except.ok.inj found))
  have named : task.taskId = attempt.taskId := (Table.find?_some.mp present).2
  have before_eq (taskId : String) : budgetOf before taskId = budgetOf left taskId := by
    rw [budgetOf, budgetOf, tasks]
  have own {spent limit : Int} (held : budgetOf before attempt.taskId = some (spent, limit)) :
      spent = task.recoveryAttempts ∧ limit = task.maxRecoveryAttempts := by
    rw [before_eq, budgetOf, present] at held
    cases held
    exact ⟨rfl, rfl⟩
  have added (change : TaskRecord → TaskRecord) (taskId : String) :
      insertedIds before (updateTask left attempt.taskId change) taskId =
        if attempt.taskId = taskId then [attempt.attemptId] else [] :=
    insertedIds_insert (by rw [updateTask_attempts]; exact rows) fresh taskId
  refine ⟨kept_insert (by rw [updateTask_attempts]; exact rows), fun taskId spent limit held => ?_,
    fun taskId spent limit held _ => ?_⟩
  · rw [budgetOf_updateTask present named, if_pos rfl, added]
    by_cases here : taskId = attempt.taskId
    · subst here
      obtain ⟨rfl, rfl⟩ := own held
      simp
    · rw [if_neg here, if_neg (Ne.symm here), ← before_eq, held]
      simp
  · rw [added]
    by_cases here : taskId = attempt.taskId
    · subst here
      obtain ⟨rfl, rfl⟩ := own held
      rw [if_pos rfl, List.length_singleton]
      omega
    · rw [if_neg (Ne.symm here)]
      simp

end Steps

/-- The calls. `other` is any writer of the registry that leaves the action
attempts and the budgets alone. -/
inductive BudgetCall where
  | record (fault : Option (Nat × SupervisorError)) (charged : Bool) (attempt : ActionAttempt)
  | execute (execution : RecoveryExecution)
  | reconcile (attemptId : String) (now : Time)
  | revise (method : ActionMethod)
  | other (write : Database → Database) (edit : TaskRecord → TaskRecord)

namespace BudgetCall

def keepBudget (edit : TaskRecord → TaskRecord) (task : TaskRecord) : TaskRecord :=
  { edit task with
    taskId := task.taskId
    recoveryAttempts := task.recoveryAttempts
    maxRecoveryAttempts := task.maxRecoveryAttempts }

theorem keepBudget_taskId (edit : TaskRecord → TaskRecord) (task : TaskRecord) :
    (keepBudget edit task).taskId = task.taskId := rfl

def body : BudgetCall → Program Database Answer Unit
  | .record fault charged attempt =>
    (fun _ => ()) <$> (transaction (recordWithFault fault charged attempt) : Runtime Unit).run
  | .execute execution => (fun _ => ()) <$> (executeCurrentWorkerRecovery execution).run
  | .reconcile attemptId now => (fun _ => ()) <$> (reconcileActionWithUia attemptId now).run
  | .revise method => (fun _ => ()) <$> method.program.run
  | .other write edit => .atomic
    (fun db => { write db with
      actionAttempts := db.actionAttempts
      tasks := db.tasks.update (fun _ => true) (keepBudget edit) (keepBudget_taskId edit) })
    (fun _ => .pure ())

/-- The call records through `record_recovery_action_attempt`. -/
def charges : BudgetCall → Bool
  | .record _ charged _ => charged
  | .execute execution => execution.policy.consumeRecoveryBudget
  | .reconcile .. | .revise _ | .other .. => false

end BudgetCall

def budgetMachine : Machine Database Answer BudgetCall Unit := { body := BudgetCall.body }

section Effects
variable {charged : Bool}

private theorem check_accounted {β : Type} (view : Database → Except SupervisorError β) :
    Effects (Accounted charged) (check view : Runtime β).run :=
  .check Accounted.refl

private theorem revise_accounted (revision : Revision) :
    Effects (Accounted charged) (reviseAction revision : Runtime ActionAttempt).run := by
  refine .andThen (check_accounted _) (fun changed => .andThen ?_ (fun _ => check_accounted _))
  exact .transaction Accounted.refl (fun _ _ _ replaced => accounted_replace replaced)

private theorem method_accounted (method : ActionMethod) :
    Effects (Accounted charged) (method.program : Runtime ActionAttempt).run := by
  cases method with
  | recordAckBrowserSignature attemptId signature => exact .andThen .ensure (fun _ => revise_accounted _)
  | _ => exact revise_accounted _

private theorem settle_accounted (attemptId transportName : String) (markedAt : Time) (answer : SubmitAnswer) :
    Effects (Accounted charged) (settleSubmission attemptId transportName markedAt answer).run := by
  cases answer with
  | disabled message => exact .ensure
  | raised exception => exact .andThen (revise_accounted _) (fun _ => .done)
  | returned result =>
    simp only [settleSubmission]
    split
    next => exact .andThen (revise_accounted _) (fun _ => .done)
    next =>
      split
      next => exact .andThen (revise_accounted _) (fun _ => .done)
      next => exact .andThen (revise_accounted _) (fun _ => .done)

private theorem submit_accounted (attemptId prompt transportName : String) (markedAt : Time) :
    Effects (Accounted charged) (submitArmedAction attemptId prompt transportName markedAt).run :=
  .andThen (check_accounted _) (fun _ => .andThen .ask (fun answer => settle_accounted _ _ _ answer))

private theorem execute_accounted (execution : RecoveryExecution) :
    Effects (Accounted execution.policy.consumeRecoveryBudget) (executeCurrentWorkerRecovery execution).run := by
  have arms (attempt : ActionAttempt) : Effects (Accounted execution.policy.consumeRecoveryBudget)
      (transaction (execution.arm attempt) : Runtime Unit).run := by
    refine .transaction Accounted.refl (fun before _ after armed => ?_)
    unfold RecoveryExecution.arm at armed
    cases mode : execution.policy.consumeRecoveryBudget with
    | false =>
      rw [mode] at armed
      exact accounted_current armed
    | true =>
      rw [mode] at armed
      exact accounted_recovery armed
  refine .andThen .ensure (fun _ => .andThen (check_accounted _) (fun task => .andThen .ensure (fun workerId => ?_)))
  refine .andThen (check_accounted _) (fun worker => .andThen .ensure (fun _ => .andThen (check_accounted _) (fun _ => ?_)))
  refine .andThen (check_accounted _) (fun current => .andThen (check_accounted _) (fun binding => ?_))
  refine .andThen (check_accounted _) (fun signature => .andThen .ask (fun name => .andThen .ensure (fun attempt => ?_)))
  exact .andThen (arms _) (fun _ => .andThen (submit_accounted _ _ _ _) (fun _ => .done))

private theorem reconcile_accounted (attemptId : String) (now : Time) :
    Effects (Accounted charged) (reconcileActionWithUia attemptId now).run := by
  refine .andThen (check_accounted _) (fun attempt => ?_)
  split
  next =>
    refine .andThen (check_accounted _) (fun task => .andThen .ensure (fun _ => .andThen (check_accounted _) (fun worker => ?_)))
    refine .andThen .ensure (fun _ => .andThen (check_accounted _) (fun binding => .andThen .ask (fun _ => ?_)))
    refine .andThen .ask (fun observation => ?_)
    unfold acknowledgeObserved
    split
    next => exact .done
    next => exact .andThen (revise_accounted _) (fun _ => .done)
  next => exact .done

theorem budget_effects (call : BudgetCall) : (budgetMachine.body call).Effects (Accounted call.charges) := by
  cases call with
  | record fault charged attempt =>
    refine .map (.transaction Accounted.refl (fun before _ after recorded => ?_))
    have armed := recordWithFault_ok recorded
    cases charged with
    | false => exact accounted_current armed
    | true => exact accounted_recovery armed
  | execute execution => exact .map (execute_accounted execution)
  | reconcile attemptId now => exact .map (reconcile_accounted attemptId now)
  | revise method => exact .map (method_accounted method)
  | other write edit =>
    refine .write (fun db => .still (fun taskId => ?_) (fun row member => ⟨row, member, rfl⟩)
      (fun row member => ⟨row, member, rfl⟩))
    change ((db.tasks.update (fun _ => true) (BudgetCall.keepBudget edit)
      (BudgetCall.keepBudget_taskId edit)).find? taskId).map _ = _
    rw [Table.find?_update, Option.map_map, budgetOf]
    rfl

end Effects

/-- The attempts of a task that the commits of charging processes have inserted. -/
def recoveredIds (charging : Nat → Bool) (taskId : String) (log : List (Event Database Answer Unit)) : List String :=
  log.flatMap (fun event => match event with
    | .committed pid before after => if charging pid then insertedIds before after taskId else []
    | _ => [])

section Logs
variable {charging : Nat → Bool} {log : List (Event Database Answer Unit)} {start store : Database}

private theorem insertedIds_nodup (before after : Database) (taskId : String) :
    (insertedIds before after taskId).Nodup :=
  (List.filter_sublist.map _).nodup after.actionAttempts.distinct

private theorem mem_insertedIds {before after : Database} {taskId attemptId : String}
    (member : attemptId ∈ insertedIds before after taskId) :
    (∃ row ∈ after.actionAttempts, row.attemptId = attemptId) ∧
      ∀ old ∈ before.actionAttempts, old.attemptId ≠ attemptId := by
  obtain ⟨row, inside, rfl⟩ := List.mem_map.mp member
  obtain ⟨present, new⟩ := List.mem_filter.mp inside
  simp only [decide_eq_true_eq] at new
  exact ⟨⟨row, present, rfl⟩, Table.find?_none.mp new.2⟩

private theorem recoveredIds_rows (linked : Linked start log store) (taskId : String)
    (steps : ∀ pid before after, .committed pid before after ∈ log → Accounted (charging pid) before after) :
    (recoveredIds charging taskId log).Nodup ∧
      ∀ attemptId ∈ recoveredIds charging taskId log, ∃ row ∈ store.actionAttempts, row.attemptId = attemptId := by
  induction log generalizing store with
  | nil => simp [recoveredIds]
  | cons event log ih =>
    have earlier {middle : Database} (rest : Linked start log middle) :=
      ih rest (fun pid before after member => steps pid before after (List.mem_cons_of_mem _ member))
    cases event with
    | committed pid before after =>
      obtain ⟨rfl, rest⟩ := linked
      obtain ⟨distinct, rows⟩ := earlier rest
      have step := steps pid before store (List.mem_cons_self ..)
      have kept : ∀ attemptId ∈ recoveredIds charging taskId log, ∃ row ∈ store.actionAttempts,
          row.attemptId = attemptId := by
        intro attemptId member
        obtain ⟨row, present, rfl⟩ := rows attemptId member
        exact step.kept row present
      have split : recoveredIds charging taskId (.committed pid before store :: log) =
          (if charging pid then insertedIds before store taskId else []) ++ recoveredIds charging taskId log := rfl
      rw [split]
      split
      next =>
        refine ⟨List.nodup_append.mpr ⟨insertedIds_nodup .., distinct, ?_⟩, fun attemptId member => ?_⟩
        · rintro attemptId new other old rfl
          obtain ⟨row, present, same⟩ := rows attemptId old
          exact (mem_insertedIds new).2 row present same
        · rcases List.mem_append.mp member with new | old
          · exact (mem_insertedIds new).1
          · exact kept attemptId old
      next => exact ⟨distinct, kept⟩
    | issued pid request found => exact earlier linked.2
    | answered pid request answer => exact earlier linked
    | returned pid value => exact earlier linked

private theorem budgetOf_log (linked : Linked start log store) {taskId : String} {spent limit : Int}
    (found : budgetOf start taskId = some (spent, limit))
    (steps : ∀ pid before after, .committed pid before after ∈ log → Accounted (charging pid) before after) :
    budgetOf store taskId = some (spent + (recoveredIds charging taskId log).length, limit) ∧
      spent + (recoveredIds charging taskId log).length ≤ max spent limit := by
  induction log generalizing store with
  | nil =>
    cases linked
    simp [recoveredIds, found]
  | cons event log ih =>
    have earlier {middle : Database} (rest : Linked start log middle) :=
      ih rest (fun pid before after member => steps pid before after (List.mem_cons_of_mem _ member))
    cases event with
    | committed pid before after =>
      obtain ⟨rfl, rest⟩ := linked
      obtain ⟨held, within⟩ := earlier rest
      have step := steps pid before store (List.mem_cons_self ..)
      have charge := step.charge taskId _ limit held
      have split : recoveredIds charging taskId (.committed pid before store :: log) =
          (if charging pid then insertedIds before store taskId else []) ++ recoveredIds charging taskId log := rfl
      rw [split]
      cases mode : charging pid with
      | false =>
        rw [mode] at charge
        exact ⟨by simpa using charge, by simpa using within⟩
      | true =>
        have bound := step.bound taskId _ limit held mode
        rw [mode] at charge
        simp only [if_true] at charge ⊢
        rw [charge, List.length_append]
        refine ⟨by congr 2; push_cast; ring, ?_⟩
        push_cast
        omega
    | issued pid request found => exact earlier linked.2
    | answered pid request answer => exact earlier linked
    | returned pid value => exact earlier linked

end Logs

abbrev BudgetWorld := World Database Answer BudgetCall Unit

/-- The process records through `record_recovery_action_attempt`. -/
def charging (world : BudgetWorld) (pid : Nat) : Bool := world.processes[pid]?.any (·.call.charges)

/-- The rows of a task that were armed through `record_recovery_action_attempt`. -/
def recoveredRows (world : BudgetWorld) (taskId : String) : List ActionAttempt :=
  world.store.actionAttempts.rows.filter (·.attemptId ∈ recoveredIds (charging world) taskId world.log)

/-- Those of them that were given to a transport. -/
def submittedRecoveries (world : BudgetWorld) (taskId : String) : List ActionAttempt :=
  (recoveredRows world taskId).filter (fun row => world.log.any (sends row.attemptId))

private theorem recoveredRows_length {world : BudgetWorld} {taskId : String}
    (distinct : (recoveredIds (charging world) taskId world.log).Nodup)
    (rows : ∀ attemptId ∈ recoveredIds (charging world) taskId world.log,
      ∃ row ∈ world.store.actionAttempts, row.attemptId = attemptId) :
    (recoveredRows world taskId).length = (recoveredIds (charging world) taskId world.log).length := by
  rw [← List.length_map (·.attemptId)]
  refine List.Perm.length_eq ((List.perm_ext_iff_of_nodup ?_ distinct).mpr (fun attemptId => ?_))
  · exact (List.filter_sublist.map _).nodup world.store.actionAttempts.distinct
  · rw [List.mem_map]
    constructor
    · rintro ⟨row, member, rfl⟩
      simpa using (List.mem_filter.mp member).2
    · intro member
      obtain ⟨row, present, rfl⟩ := rows attemptId member
      exact ⟨row, List.mem_filter.mpr ⟨present, by simpa using member⟩, rfl⟩

/-- In every run a task has been charged once for each of its rows that were armed
through the recovery method, never beyond its limit; no commit lowers the charge,
and only that method raises it. So the number of budgeted recoveries that reach a
transport is at most what was left of the budget. -/
theorem recovery_budget (start : Database) (moves : List (Move Answer BudgetCall)) (taskId : String) (task : TaskRecord)
    (registered : start.tasks.find? taskId = some task) :
    let world := run budgetMachine.move { store := start, log := [] } moves
    (∃ now, world.store.tasks.find? taskId = some now ∧ now.maxRecoveryAttempts = task.maxRecoveryAttempts ∧
      now.recoveryAttempts = task.recoveryAttempts + (recoveredRows world taskId).length ∧
      now.recoveryAttempts ≤ max task.recoveryAttempts task.maxRecoveryAttempts) ∧
    (∀ pid before after, .committed pid before after ∈ world.log →
      ∀ spent limit, budgetOf before taskId = some (spent, limit) → ∃ more, budgetOf after taskId = some (more, limit) ∧
        spent ≤ more ∧ (charging world pid = false → more = spent)) ∧
    ((submittedRecoveries world taskId).length : Int) ≤ max 0 (task.maxRecoveryAttempts - task.recoveryAttempts) := by
  intro world
  have linked : Linked start world.log world.store := run_linked budgetMachine start moves
  have steps (pid : Nat) (before after : Database) (member : .committed pid before after ∈ world.log) :
      Accounted (charging world pid) before after := by
    obtain ⟨call, made, accounted⟩ := run_call_effects budget_effects member
    obtain ⟨process, found, rfl⟩ := Option.map_eq_some_iff.mp made
    have mode : charging world pid = process.call.charges := by
      rw [charging, found]
      rfl
    exact mode ▸ accounted
  obtain ⟨distinct, rows⟩ := recoveredIds_rows linked taskId steps
  have found : budgetOf start taskId = some (task.recoveryAttempts, task.maxRecoveryAttempts) := by
    rw [budgetOf, registered, Option.map_some]
  obtain ⟨charge, bound⟩ := budgetOf_log linked found steps
  rw [← recoveredRows_length distinct rows] at charge bound
  obtain ⟨now, present, same⟩ := Option.map_eq_some_iff.mp charge
  rw [Prod.mk.injEq] at same
  refine ⟨⟨now, present, same.2, same.1, by rw [same.1]; exact bound⟩, ?_, ?_⟩
  · intro pid before after member spent limit held
    refine ⟨_, (steps pid before after member).charge taskId spent limit held, ?_, fun uncharged => ?_⟩
    · exact Int.le_add_of_nonneg_right (Int.natCast_nonneg _)
    · rw [uncharged]
      simp
  · have fewer : (submittedRecoveries world taskId).length ≤ (recoveredRows world taskId).length :=
      List.length_filter_le ..
    omega

/-- A task with one recovery left and its active worker. -/
def oneRecoveryLeft : Database :=
  { tasks := ⟨[{ taskId := "task", state := .running, currentWorkerId := some "worker", recoveryAttempts := 2,
                 maxRecoveryAttempts := 3 }], by simp⟩
    workers := ⟨[{ workerId := "worker", taskId := "task", conversationUrl := "", status := .active, startedAt := 0 }],
      by simp⟩ }

def armedRecovery (attemptId : String) : ActionAttempt :=
  { attemptId, taskId := "task", workerId := "worker", action := "", fenceToken := "", fenceVersion := 1, promptHash := "",
    nonce := "", state := .armed, createdAt := 0, updatedAt := 0 }

/-- A fault at the charge rolls the row back, the second recovery takes the last
of the budget, and the third one is refused. -/
theorem recovery_budget_last :
    let moves : List (Move Answer BudgetCall) :=
      [.start (.record (some (4, .runtime "disk")) true (armedRecovery "first")), .step 0, .step 0,
       .start (.record none true (armedRecovery "second")), .step 1, .step 1,
       .start (.revise (.cancel "second" "" 1)), .step 2, .step 2, .step 2, .step 2,
       .start (.record none true (armedRecovery "third")), .step 3, .step 3]
    let world := run budgetMachine.move { store := oneRecoveryLeft, log := [] } moves
    (recoveredRows world "task").map (·.attemptId) = ["second"] ∧
      ∃ now, world.store.tasks.find? "task" = some now ∧ now.recoveryAttempts ≤ 3 := by
  refine ⟨by decide +kernel, ?_⟩
  obtain ⟨⟨now, found, _, _, bound⟩, _⟩ := recovery_budget oneRecoveryLeft _ "task" _ rfl
  exact ⟨now, found, bound⟩

end WebSupervisor.ActionRuntime.Proofs
