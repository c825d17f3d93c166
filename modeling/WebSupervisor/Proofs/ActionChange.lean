import WebSupervisor.ActionRuntime

/-! What the registry does to the action attempts. A commit arms one fresh
attempt of a task without unresolved attempts, or writes one row back under its
own id and task, or leaves the attempts as they are. -/

namespace WebSupervisor.Registry.Proofs
open Library

/-- The commit arms the attempt. -/
structure Arms (attempt : ActionAttempt) (before after : Database) : Prop where
  state : attempt.state = .armed
  fresh : ∀ old ∈ before.actionAttempts, old.attemptId ≠ attempt.attemptId
  resolved : ∀ old ∈ before.actionAttempts, old.taskId = attempt.taskId → ¬ old.state.Unresolved
  rows : ∀ row, row ∈ after.actionAttempts ↔ row ∈ before.actionAttempts ∨ row = attempt

inductive AttemptChange (before after : Database) : Prop where
  | same (same : after.actionAttempts = before.actionAttempts)
  | armed (attempt : ActionAttempt) (arms : Arms attempt before after)
  | revised (old attempt : ActionAttempt) (member : old ∈ before.actionAttempts)
      (sameId : old.attemptId = attempt.attemptId) (sameTask : old.taskId = attempt.taskId)
      (rows : ∀ row, row ∈ after.actionAttempts ↔
        row = attempt ∨ row ∈ before.actionAttempts ∧ row.attemptId ≠ attempt.attemptId)

/-- The attempt has a row, of this task. -/
def Recorded (db : Database) (attemptId taskId : String) : Prop :=
  ∃ row ∈ db.actionAttempts, row.attemptId = attemptId ∧ row.taskId = taskId

/-- No attempt is lost and none changes its task. -/
def Retained (before after : Database) : Prop :=
  ∀ attemptId taskId, Recorded before attemptId taskId → Recorded after attemptId taskId

theorem Retained.refl (db : Database) : Retained db db := fun _ _ recorded => recorded

theorem Retained.trans {first second third : Database} (one : Retained first second) (two : Retained second third) :
    Retained first third :=
  fun attemptId taskId recorded => two attemptId taskId (one attemptId taskId recorded)

variable {db before after : Database}

theorem AttemptChange.retained (change : AttemptChange before after) : Retained before after := by
  rintro attemptId taskId ⟨row, member, rfl, rfl⟩
  cases change with
  | same same => exact ⟨row, same ▸ member, rfl, rfl⟩
  | armed attempt arms => exact ⟨row, (arms.rows row).mpr (Or.inl member), rfl, rfl⟩
  | revised old attempt present sameId sameTask rows =>
    by_cases own : row.attemptId = attempt.attemptId
    · have equal : row = old := Table.eq_of_key member present (own.trans sameId.symm)
      exact ⟨attempt, (rows attempt).mpr (Or.inl rfl), own.symm, equal ▸ sameTask.symm⟩
    · exact ⟨row, (rows row).mpr (Or.inr ⟨member, own⟩), rfl, rfl⟩

/-- Two rows of one attempt are one row. -/
theorem attempt_eq {first second : ActionAttempt} (firstMember : first ∈ db.actionAttempts)
    (secondMember : second ∈ db.actionAttempts) (same : first.attemptId = second.attemptId) : first = second :=
  Table.eq_of_key firstMember secondMember same

section Transactions
variable {attempt : ActionAttempt}

theorem getActionAttempt_ok {attemptId : String} (found : getActionAttempt db attemptId = .ok attempt) :
    attempt ∈ db.actionAttempts ∧ attempt.attemptId = attemptId := by
  unfold getActionAttempt at found
  split at found
  next => cases found
  next row present =>
    cases found
    exact Table.find?_some.mp present

private theorem requireNoUnresolved_ok (passed : requireNoUnresolved db attempt = .ok ()) :
    ∀ old ∈ db.actionAttempts, old.taskId = attempt.taskId → ¬ old.state.Unresolved := by
  unfold requireNoUnresolved at passed
  split at passed
  next missing =>
    intro old member same unresolved
    have absent := List.find?_eq_none.mp missing old member
    simp only [decide_eq_true_eq] at absent
    exact absent ⟨same, unresolved⟩
  next => cases passed

private theorem insertActionAttempt_ok (inserted : insertActionAttempt db attempt = .ok after) :
    (∀ old ∈ db.actionAttempts, old.attemptId ≠ attempt.attemptId) ∧
      ∀ row, row ∈ after.actionAttempts ↔ row ∈ db.actionAttempts ∨ row = attempt := by
  unfold insertActionAttempt at inserted
  split at inserted
  next => cases inserted
  next => cases inserted
  next actionAttempts grown =>
    cases inserted
    have added := IndexedTable.insert_ok grown
    exact ⟨(Table.insert?_some.mp added).1, fun row => Table.mem_insert? added⟩

theorem updateTask_attempts (taskId : String) (change : TaskRecord → TaskRecord) :
    (updateTask db taskId change).actionAttempts = db.actionAttempts := by
  unfold updateTask
  split <;> rfl

theorem recordCurrentWorkerActionAttempt_ok
    (armed : recordCurrentWorkerActionAttempt attempt db = .ok ((), after)) : Arms attempt db after := by
  simp only [recordCurrentWorkerActionAttempt, bind_eq_ok, refuse_eq_ok, not_not] at armed
  obtain ⟨_, state, task, _, _, _, _, _, ⟨⟩, free, next, inserted, same⟩ := armed
  cases same
  obtain ⟨fresh, rows⟩ := insertActionAttempt_ok inserted
  exact ⟨state, fresh, requireNoUnresolved_ok free, rows⟩

theorem recordRecoveryActionAttempt_ok (armed : recordRecoveryActionAttempt attempt db = .ok ((), after)) :
    Arms attempt db after := by
  simp only [recordRecoveryActionAttempt, bind_eq_ok, refuse_eq_ok, not_not] at armed
  obtain ⟨_, state, task, _, _, _, _, _, _, _, ⟨⟩, free, next, inserted, same⟩ := armed
  cases same
  obtain ⟨fresh, rows⟩ := insertActionAttempt_ok inserted
  refine ⟨state, fresh, requireNoUnresolved_ok free, fun row => ?_⟩
  rw [updateTask_attempts]
  exact rows row

theorem arm_ok {execution : ActionRuntime.RecoveryExecution} (armed : execution.arm attempt db = .ok ((), after)) :
    Arms attempt db after := by
  unfold ActionRuntime.RecoveryExecution.arm at armed
  split at armed
  · exact recordRecoveryActionAttempt_ok armed
  · exact recordCurrentWorkerActionAttempt_ok armed

theorem replaceActionAttempt_ok (replaced : replaceActionAttempt attempt db = .ok ((), after)) :
    (∃ old ∈ db.actionAttempts, old.attemptId = attempt.attemptId) ∧
      ∀ row, row ∈ after.actionAttempts ↔
        row = attempt ∨ row ∈ db.actionAttempts ∧ row.attemptId ≠ attempt.attemptId := by
  unfold replaceActionAttempt at replaced
  split at replaced
  next => cases replaced
  next old found =>
    split at replaced
    next => cases replaced
    next actionAttempts changed =>
      cases replaced
      have member := Table.find?_some.mp found
      refine ⟨⟨old, member⟩, fun row => ?_⟩
      rw [IndexedTable.mem_toTable, IndexedTable.replace?_some changed, Table.mem_replace, IndexedTable.mem_toTable]
      have present : ∃ old ∈ db.actionAttempts.toTable, old.attemptId = attempt.attemptId := ⟨old, member⟩
      rw [and_iff_left present]

end Transactions

/-- What the change of a method does to the attempt it has read. The state that
it writes is known, and it only accepts an unresolved attempt or one that is in
that state already. -/
structure Revises (revision : Revision) (target : ActionAttemptState) : Prop where
  identity : ∀ {attempt changed}, revision.change attempt = .ok changed → changed.attemptId = attempt.attemptId
  task : ∀ {attempt changed}, revision.change attempt = .ok changed → changed.taskId = attempt.taskId
  state : ∀ {attempt changed}, revision.change attempt = .ok changed → changed.state = target
  guard : ∀ {attempt changed}, revision.change attempt = .ok changed →
    attempt.state.Unresolved ∨ attempt.state = target

section Revisions

private theorem refuseTerminal_ok {attemptId : String} {attempt : ActionAttempt} :
    refuseTerminal attemptId attempt = .ok () ↔ attempt.state.Unresolved := by
  simp [refuseTerminal]

private theorem revises_of {revision : Revision} {target : ActionAttemptState}
    {guard : ActionAttempt → Except SupervisorError Unit} {edit : ActionAttempt → ActionAttempt}
    (shape : ∀ attempt, revision.change attempt = (guard attempt >>= fun _ => pure (edit attempt)))
    (identity : ∀ attempt, (edit attempt).attemptId = attempt.attemptId)
    (task : ∀ attempt, (edit attempt).taskId = attempt.taskId)
    (state : ∀ attempt, guard attempt = .ok () → (edit attempt).state = target)
    (accepts : ∀ attempt, guard attempt = .ok () → attempt.state.Unresolved ∨ attempt.state = target) :
    Revises revision target := by
  have passed {attempt changed : ActionAttempt} (accepted : revision.change attempt = .ok changed) :
      guard attempt = .ok () ∧ edit attempt = changed := by
    rw [shape, bind_eq_ok] at accepted
    obtain ⟨_, guarded, same⟩ := accepted
    exact ⟨guarded, Except.ok.inj same⟩
  constructor <;> intro attempt changed accepted <;> obtain ⟨guarded, rfl⟩ := passed accepted
  · exact identity attempt
  · exact task attempt
  · exact state attempt guarded
  · exact accepts attempt guarded

theorem submittedRevision_revises (attemptId transportName : String) (now : Time) :
    Revises (submittedRevision attemptId transportName now) .submitted := by
  refine revises_of (fun _ => rfl) (fun _ => rfl) (fun _ => rfl) (fun _ _ => rfl) (fun attempt armed => ?_)
  rw [refuse_eq_ok, not_not] at armed
  exact Or.inl (Or.inl armed)

theorem reconcileRequiredRevision_revises (attemptId error : String) (transportName : Option String) (now : Time) :
    Revises (reconcileRequiredRevision attemptId error transportName now) .reconcileRequired :=
  revises_of (fun _ => rfl) (fun _ => rfl) (fun _ => rfl) (fun _ _ => rfl)
    (fun _ passed => Or.inl (refuseTerminal_ok.mp passed))

theorem failedRevision_revises (attemptId error : String) (transportName : Option String) (now : Time) :
    Revises (failedRevision attemptId error transportName now) .failed :=
  revises_of (fun _ => rfl) (fun _ => rfl) (fun _ => rfl) (fun _ _ => rfl)
    (fun _ passed => Or.inl (refuseTerminal_ok.mp passed))

theorem acknowledgedRevision_revises (acknowledgement : ActionAcknowledgement) :
    Revises (acknowledgedRevision acknowledgement) .acknowledged := by
  refine revises_of (fun _ => rfl) (fun _ => rfl) (fun _ => rfl) (fun _ _ => rfl) (fun attempt valid => ?_)
  simp only [validateAcknowledgement, bind_eq_ok, refuse_eq_ok, not_not] at valid
  obtain ⟨_, unresolved, _⟩ := valid
  exact Or.inl unresolved

theorem browserSignatureRevision_revises (attemptId signature : String) :
    Revises (browserSignatureRevision attemptId signature) .acknowledged := by
  have acknowledged {attempt : ActionAttempt} (passed : refuse (attempt.state ≠ .acknowledged)
      (SupervisorError.runtime "browser acknowledgement signature requires ACKNOWLEDGED action") = .ok ()) :
      attempt.state = .acknowledged := by
    rwa [refuse_eq_ok, not_not] at passed
  exact revises_of (fun _ => rfl) (fun _ => rfl) (fun _ => rfl) (fun _ passed => acknowledged passed)
    (fun _ passed => Or.inr (acknowledged passed))

theorem cancelledRevision_revises (attemptId reason : String) (now : Time) :
    Revises (cancelledRevision attemptId reason now) .cancelled :=
  revises_of (fun _ => rfl) (fun _ => rfl) (fun _ => rfl) (fun _ _ => rfl)
    (fun _ passed => Or.inl (refuseTerminal_ok.mp passed))

end Revisions

end WebSupervisor.Registry.Proofs
