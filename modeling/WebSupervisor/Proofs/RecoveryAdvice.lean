import WebSupervisor.Recovery

/-! The advice of the watcher. A new turn is only ever advised for a task whose session
is idle and undecided, and never as a thing to do without reconciliation, except for a
task that waits in the queue with nothing to reconcile. -/

namespace WebSupervisor.Recovery.Proofs
open Watcher

variable {policy : WatchPolicy} {now : Time} {task : TaskRecord} {checkpoint : Checkpoint}
  {browser : Option BrowserObservation} {lsm : Option LsmObservation} {workspace : Option WorkspaceObservation}
  {network : Option NetworkObservation} {evidence : List String} {assessment : Assessment}

/-- A verdict that leaves nothing to act on unreconciled. -/
inductive Careful (task : TaskRecord) (assessment : Assessment) : Prop where
  | reconcile (required : assessment.requiresReconcile = true)
  | running (active : assessment.state = .running)
  | early (same : assessment.state = task.state) (waiting : task.state = .queued ∨ task.state = .starting)

theorem stallVerdict_careful {domQuiet lsmQuiet : Time} :
    Careful task (stallVerdict policy now network evidence domQuiet lsmQuiet) := by
  unfold stallVerdict
  split
  next => split <;> exact .reconcile rfl
  next => exact .reconcile rfl

theorem calmVerdict_careful : Careful task (calmVerdict task browser lsm evidence) := by
  unfold calmVerdict
  split
  next => exact .running rfl
  next =>
    split
    next => exact .running rfl
    next =>
      split
      next waiting => exact .early rfl waiting
      next => exact .reconcile rfl

theorem observedVerdict_careful : Careful task (observedVerdict policy now task browser lsm network evidence) := by
  unfold observedVerdict
  split
  next => exact .reconcile rfl
  next =>
    split
    next => exact .reconcile rfl
    next =>
      split
      next => exact .running rfl
      next =>
        split
        next => split <;> exact .reconcile rfl
        next =>
          split
          next =>
            split
            next => exact stallVerdict_careful
            next => exact calmVerdict_careful
          next => exact calmVerdict_careful

/-- The session neither ends the task nor works on it. -/
structure Undecided (lsm : LsmObservation) : Prop where
  alive : lsm.sessionStatus ≠ some "completed" ∧ lsm.sessionStatus ≠ some "cancelled"
  unblocked : lsm.planStatus ≠ some "blocked"
  idle : lsm.inFlightCalls ≤ 0 ∧ lsm.activeJobs ≤ 0

theorem sessionVerdict_none {observed : LsmObservation} (undecided : sessionVerdict evidence observed = none) :
    Undecided observed := by
  unfold sessionVerdict at undecided
  split at undecided
  next => cases undecided
  next completed =>
    split at undecided
    next => cases undecided
    next cancelled =>
      split at undecided
      next => cases undecided
      next blocked =>
        split at undecided
        next => cases undecided
        next =>
          split at undecided
          next => cases undecided
          next idle =>
            rw [not_or, not_lt, not_lt] at idle
            exact ⟨⟨completed, cancelled⟩, blocked, idle⟩

/-- The states on which no new turn is advised. -/
def Settled (state : SupervisorState) : Prop :=
  state ∈ [SupervisorState.completed, .abandoned, .needsHuman, .blocked, .running, .starting, .recovering]

theorem sessionVerdict_settled {observed : LsmObservation}
    (decided : sessionVerdict evidence observed = some assessment) :
    Settled assessment.state := by
  unfold sessionVerdict at decided
  repeat' split at decided
  all_goals first | (cases decided; simp [Settled]) | contradiction

theorem assess_unsettled
    (unsettled : ¬ Settled (assess task checkpoint browser lsm workspace network now policy).state) :
    (∀ observed ∈ lsm, Undecided observed) ∧ (∀ observed ∈ workspace, observed.cwdExists = true) ∧
      Careful task (assess task checkpoint browser lsm workspace network now policy) := by
  unfold assess at unsettled ⊢
  split at unsettled
  next => exact absurd (by simp [Settled]) unsettled
  next active =>
    split at unsettled
    next => exact absurd (by simp [Settled]) unsettled
    next standing =>
      rw [if_neg active, if_neg standing]
      dsimp only at unsettled ⊢
      split at unsettled
      next verdict decided =>
        obtain ⟨observed, _, said⟩ := Option.bind_eq_some_iff.mp decided
        exact absurd (sessionVerdict_settled said) unsettled
      next undecided =>
        split at unsettled
        next => exact absurd (by simp [Settled]) unsettled
        next present =>
          rw [if_neg present]
          refine ⟨?_, ?_, observedVerdict_careful⟩
          · rintro observed seen
            rw [Option.mem_def] at seen
            rw [seen, Option.bind_some] at undecided
            exact sessionVerdict_none undecided
          · rintro observed seen
            rw [Option.mem_def] at seen
            rw [seen] at present
            simpa using present

/-- What a new turn is advised on. -/
structure TurnFits (task : TaskRecord) (lsm : Option LsmObservation) (workspace : Option WorkspaceObservation)
    (assessment : Assessment) : Prop where
  standing : task.state ≠ .completed ∧ task.state ≠ .abandoned
  budget : task.recoveryAttempts < task.maxRecoveryAttempts
  session : ∃ observed, lsm = some observed ∧ Undecided observed ∧ observed.continuationPending ≠ some true
  place : ∀ observed ∈ workspace, observed.cwdExists = true
  reconciled : assessment.requiresReconcile = true ∨ task.state = .queued ∧ assessment.state = .queued

theorem recommend_continues
    (continues : (recommend task checkpoint assessment lsm workspace).action = "reconcile_then_continue") :
    (task.state ≠ .completed ∧ task.state ≠ .abandoned) ∧ ¬ Settled assessment.state ∧
      task.recoveryAttempts < task.maxRecoveryAttempts ∧
      ∃ observed, lsm = some observed ∧ observed.continuationPending ≠ some true := by
  unfold recommend at continues
  dsimp only at continues
  split at continues
  next => simp [Advice.plain] at continues
  next completed =>
    split at continues
    next => simp [Advice.plain] at continues
    next abandoned =>
      refine ⟨⟨completed, abandoned⟩, ?_⟩
      split at continues
      next => simp [Advice.plain] at continues
      next done =>
        split at continues
        next => simp [Advice.plain] at continues
        next cancelled =>
          split at continues
          next => simp [Advice.plain] at continues
          next human =>
            split at continues
            next => simp [Advice.plain] at continues
            next blocked =>
              split at continues
              next => simp [Advice.plain] at continues
              next active =>
                split at continues
                next => simp [Advice.plain] at continues
                next budget =>
                  refine ⟨?_, not_le.mp budget, ?_⟩
                  · simp_all [Settled]
                  · split at continues
                    next observed _ =>
                      split at continues
                      next => simp [Advice.plain] at continues
                      next idle => exact ⟨observed, rfl, fun pending => idle (.inr (.inr pending))⟩
                    next => simp [Advice.plain] at continues

theorem recommend_withheld : (recommend task checkpoint assessment lsm workspace).safeToDispatch = false := by
  unfold recommend
  dsimp only
  repeat' split
  all_goals rfl

/-- Whatever was observed, a new turn is advised only where it fits, and is never
declared safe to send. -/
theorem advice_fits (task : TaskRecord) (checkpoint : Checkpoint) (browser : Option BrowserObservation)
    (lsm : Option LsmObservation) (workspace : Option WorkspaceObservation) (network : Option NetworkObservation)
    (now : Time) (policy : WatchPolicy) :
    let assessment := assess task checkpoint browser lsm workspace network now policy
    let advice := recommend task checkpoint assessment lsm workspace
    advice.safeToDispatch = false ∧
      (advice.action = "reconcile_then_continue" → TurnFits task lsm workspace assessment) := by
  refine ⟨recommend_withheld, fun continues => ?_⟩
  obtain ⟨standing, unsettled, budget, observed, seen, quiet⟩ := recommend_continues continues
  obtain ⟨undecided, place, careful⟩ := assess_unsettled unsettled
  refine ⟨standing, budget, ⟨observed, seen, undecided observed seen, quiet⟩, place, ?_⟩
  cases careful with
  | reconcile required => exact .inl required
  | running active => exact absurd (by simp [Settled, active]) unsettled
  | early same waiting =>
    rcases waiting with queued | starting
    · exact .inr ⟨queued, same.trans queued⟩
    · exact absurd (by simp [Settled, same, starting]) unsettled

example :
    (recommend { taskId := "task", state := .running, lsmSessionId := some "session" } { json := "null" }
      (assess { taskId := "task", state := .running, lsmSessionId := some "session" } { json := "null" } none
        (some { taskId := "task", observedAt := 0 }) none none 1 {})
      (some { taskId := "task", observedAt := 0 }) none).action = "reconcile_then_continue" := by
  decide +kernel

end WebSupervisor.Recovery.Proofs
