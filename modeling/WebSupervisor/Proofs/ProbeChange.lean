import WebSupervisor.Registry.Probes

/-! What the probe mutation methods do to the operations. A call arms one fresh
operation, or moves one operation from the state it resumes to another one, or
leaves the operations as they are. -/

namespace WebSupervisor.Registry.Proofs
open Library

theorem effectiveState_of_ne {operation : ProbeMutationOperation} (notFenced : operation.state ≠ .reconcileRequired) :
    effectiveState operation = operation.state := by
  unfold effectiveState
  rw [if_pos notFenced]

theorem effectiveState_resumed {operation : ProbeMutationOperation} {resumed : ProbeMutationState}
    (state : operation.state = .reconcileRequired) (resume : operation.resumeState = some resumed.value) :
    effectiveState operation = resumed := by
  have named : operation.resumeState.getD "" = resumed.value := by rw [resume, Option.getD_some]
  unfold effectiveState
  rw [if_neg (not_not.mpr state), named, if_neg resumed.value_ne_empty, ProbeMutationState.ofValue?_value,
    Option.getD_some]

/-- The observation is whole, not from the future, and shows neither target. -/
def ShowsNeither (observation : ProbeMutationObservation) (current : Time) : Prop :=
  observation.observedAt ≤ current ∧ observation.complete = true ∧ observation.error.getD "" = "" ∧
    observation.oldMatches = [] ∧ observation.newMatches = []

instance (observation : ProbeMutationObservation) (current : Time) : Decidable (ShowsNeither observation current) :=
  inferInstanceAs (Decidable (_ ∧ _))

/-- What a decision may do to the state that the operation resumes. -/
inductive Decides (operation : ProbeMutationOperation) (observation : ProbeMutationObservation) (current : Time) :
    ProbeMutationState → Prop where
  | fenced : Decides operation observation current .reconcileRequired
  | armed (resumes : effectiveState operation = .armed) : Decides operation observation current .armed
  | ready (kind : operation.kind = .rotate)
      (resumes : effectiveState operation ∈ [.armed, .closeSubmitted, .readyToOpen])
      (neither : ShowsNeither observation current) : Decides operation observation current .readyToOpen
  | completed (authority : operation.kind ≠ .close → effectiveState operation = .openSubmitted) :
      Decides operation observation current .completed

section Decisions
variable {operation : ProbeMutationOperation} {observation : ProbeMutationObservation} {current : Time}
  {old new : Option ProbeWindowMatch}

private theorem decideOpen_decides (observedAt : Time) :
    Decides operation observation current (decideOpen operation observedAt old new).nextState := by
  unfold decideOpen
  split
  next => exact .fenced
  next =>
    split
    next =>
      split
      next => exact .fenced
      next authority => exact .completed (fun _ => not_not.mp authority)
    next =>
      split
      next resumes => exact .armed resumes
      next => exact .fenced

private theorem decideClose_decides (kind : operation.kind = .close) :
    Decides operation observation current (decideClose operation old new).nextState := by
  unfold decideClose
  split
  next => exact .fenced
  next =>
    split
    next => exact .completed (fun other => absurd kind other)
    next =>
      split
      next resumes => exact .armed resumes
      next => exact .fenced

private theorem decideRotate_decides (kind : operation.kind = .rotate) (observedAt : Time)
    (neither : old = none → new = none → ShowsNeither observation current) :
    Decides operation observation current (decideRotate operation observedAt old new).nextState := by
  unfold decideRotate
  split
  next =>
    split
    next => exact .fenced
    next authority => exact .completed (fun _ => not_not.mp authority)
  next =>
    split
    next resumes => exact .armed resumes
    next => exact .fenced
  next =>
    split
    next resumes => exact .ready kind resumes (neither rfl rfl)
    next => exact .fenced

theorem decideProbeReconciliation_decides (casefold : String → String) (operation : ProbeMutationOperation)
    (observation : ProbeMutationObservation) (current : Time) :
    Decides operation observation current
      (decideProbeReconciliation casefold operation observation current).nextState := by
  unfold decideProbeReconciliation
  split
  next => exact .fenced
  next present =>
    split
    next => exact .fenced
    next whole =>
      have neither : observation.oldMatches.head? = none → observation.newMatches.head? = none →
          ShowsNeither observation current := by
        intro noOld noNew
        rw [not_or, Bool.not_eq_false, not_not] at whole
        exact ⟨not_lt.mp present, whole.1, whole.2, List.head?_eq_none_iff.mp noOld, List.head?_eq_none_iff.mp noNew⟩
      -- The three checks of the matches and the check for both targets only fence.
      split
      next => exact .fenced
      next =>
        split
        next => exact .fenced
        next =>
          split
          next => exact .fenced
          next =>
            simp only
            split
            next => exact .fenced
            next =>
              split
              next => exact decideOpen_decides _
              next kind => exact decideClose_decides kind
              next kind => exact decideRotate_decides kind _ neither

end Decisions

/-- How a call moves an operation. -/
inductive Advances (old new : ProbeMutationOperation) : ProbeMethod → Prop where
  | opened (now : Time)
      (ready : old.kind = .openNew ∧ old.state = .armed ∨ old.kind = .rotate ∧ old.state = .readyToOpen)
      (moved : new.state = .openSubmitted) : Advances old new (.authorizeOpen old.operationId now)
  | closed (now : Time) (kind : old.kind ≠ .openNew) (ready : old.state = .armed)
      (moved : new.state = .closeSubmitted) : Advances old new (.authorizeClose old.operationId now)
  | failed (reason : String) (now : Time) (ready : old.state = .armed) (moved : new.state = .failed) :
      Advances old new (.fail old.operationId reason now)
  | completed (binding : Option ProbeWindowSlotBinding) (now : Time) (outcome : Option String)
      (authority : old.kind ≠ .close → old.state = .openSubmitted) (moved : new.state = .completed) :
      Advances old new (.complete old.operationId binding now outcome)
  | reconciled (observation : ProbeMutationObservation) (current : Time)
      (decided : Decides old observation current new.state)
      (resumes : new.state = .reconcileRequired → effectiveState new = effectiveState old) :
      Advances old new (.reconcile old.operationId observation current)

/-- The operation is written over the old one of its id. -/
structure Saved (operation : ProbeMutationOperation) (before after : Database) : Prop where
  rows : ∀ row, row ∈ after.probeMutationOperations ↔
    row = operation ∨ row ∈ before.probeMutationOperations ∧ row.operationId ≠ operation.operationId

inductive ProbeChange (before after : Database) (operation : ProbeMutationOperation) (method : ProbeMethod) : Prop where
  | same (same : after.probeMutationOperations = before.probeMutationOperations)
      (noOpen : ∀ operationId now, method ≠ .authorizeOpen operationId now)
      (noClose : ∀ operationId now, method ≠ .authorizeClose operationId now)
  | armed (armed : method = .arm operation) (state : operation.state = .armed)
      (fresh : ∀ old ∈ before.probeMutationOperations, old.operationId ≠ operation.operationId)
      (rows : ∀ row, row ∈ after.probeMutationOperations ↔ row ∈ before.probeMutationOperations ∨ row = operation)
  | advanced (old : ProbeMutationOperation) (member : old ∈ before.probeMutationOperations)
      (sameId : operation.operationId = old.operationId) (sameKind : operation.kind = old.kind)
      (unresolved : old.state.Unresolved) (saved : Saved operation before after)
      (advances : Advances old operation method)

section Transactions
variable {before after : Database} {operation : ProbeMutationOperation} {operationId : String}

theorem getProbeMutationOperation_ok (found : getProbeMutationOperation before operationId = .ok operation) :
    operation ∈ before.probeMutationOperations ∧ operation.operationId = operationId := by
  unfold getProbeMutationOperation at found
  split at found
  next => cases found
  next row present =>
    cases found
    exact Table.find?_some.mp present

theorem save_ok {written : ProbeMutationOperation}
    (result : saveProbeMutationOperation written before = .ok (operation, after)) :
    operation = written ∧ Saved written before after := by
  unfold saveProbeMutationOperation at result
  split at result
  next => cases result
  next old present =>
    split at result
    next => cases result
    next table replaced =>
      cases result
      refine ⟨rfl, ⟨fun row => ?_⟩⟩
      have held : ∃ old ∈ before.probeMutationOperations.toTable, old.operationId = operation.operationId :=
        ⟨old, Table.find?_some.mp present⟩
      change row ∈ table.toTable ↔ _
      rw [IndexedTable.replace?_some replaced, Table.mem_replace, and_iff_left held]
      rfl

private theorem armProbe_ok {armed : ProbeMutationOperation}
    (result : armProbeMutationOperation armed before = .ok (operation, after)) :
    ProbeChange before after operation (.arm armed) := by
  unfold armProbeMutationOperation at result
  simp only [bind_eq_ok] at result
  obtain ⟨_, armable, _, _, rest⟩ := result
  split at rest
  next => cases rest
  next =>
    simp only [bind_eq_ok] at rest
    obtain ⟨_, _, _, _, next, inserted, done⟩ := rest
    cases done
    have state : operation.state = .armed := by
      unfold requireArmable at armable
      simp only [bind_eq_ok, refuse_eq_ok, not_not] at armable
      exact armable.choose_spec.1
    unfold insertProbeMutationOperation at inserted
    simp only [bind_eq_ok] at inserted
    obtain ⟨_, _, entered⟩ := inserted
    split at entered
    next => cases entered
    next => cases entered
    next table grown =>
      cases entered
      have grew := IndexedTable.insert_ok grown
      exact .armed rfl state (Table.insert?_some.mp grew).1 (fun row => Table.mem_insert? grew)

theorem completeLocked_ok {casefold : String → String} {old : ProbeMutationOperation}
    {binding : Option ProbeWindowSlotBinding} {ts : Time} {outcome : Option String} {reconciled : Bool}
    (result : completeProbeMutationLocked casefold old binding ts outcome reconciled before = .ok (operation, after)) :
    operation.operationId = old.operationId ∧ operation.kind = old.kind ∧ operation.state = .completed ∧
      Saved operation before after := by
  unfold completeProbeMutationLocked at result
  simp only [bind_eq_ok] at result
  obtain ⟨_, _, _, _, _, _, saved⟩ := result
  obtain ⟨rfl, rows⟩ := save_ok saved
  refine ⟨rfl, rfl, rfl, ⟨fun row => ?_⟩⟩
  -- Publishing the slot leaves the operations alone.
  have untouched : (publishProbeSlot before old binding).probeMutationOperations = before.probeMutationOperations := by
    unfold publishProbeSlot
    split <;> rfl
  rw [rows.rows row, untouched]

private theorem authorizeOpen_ok {now : Time}
    (result : authorizeProbeOpen operationId now before = .ok (operation, after)) :
    ProbeChange before after operation (.authorizeOpen operationId now) := by
  unfold authorizeProbeOpen at result
  simp only [bind_eq_ok, refuse_eq_ok, not_not] at result
  obtain ⟨old, found, _, ready, saved⟩ := result
  obtain ⟨member, rfl⟩ := getProbeMutationOperation_ok found
  obtain ⟨rfl, rows⟩ := save_ok saved
  have unresolved : old.state.Unresolved := by
    rcases ready with ⟨_, armed⟩ | ⟨_, waiting⟩
    · exact armed ▸ by decide
    · exact waiting ▸ by decide
  exact .advanced old member rfl rfl unresolved rows (.opened now ready rfl)

private theorem authorizeClose_ok {now : Time}
    (result : authorizeProbeClose operationId now before = .ok (operation, after)) :
    ProbeChange before after operation (.authorizeClose operationId now) := by
  unfold authorizeProbeClose at result
  simp only [bind_eq_ok, refuse_eq_ok, not_not] at result
  obtain ⟨old, found, _, kind, _, ready, saved⟩ := result
  obtain ⟨member, rfl⟩ := getProbeMutationOperation_ok found
  obtain ⟨rfl, rows⟩ := save_ok saved
  refine .advanced old member rfl rfl (ready ▸ by decide) rows (.closed now ?_ ready rfl)
  intro opens
  simp [opens] at kind

theorem requireFailable_ok (checked : requireFailable operationId before = .ok operation) :
    operation ∈ before.probeMutationOperations ∧ operation.operationId = operationId ∧ operation.state = .armed := by
  unfold requireFailable at checked
  simp only [bind_eq_ok, refuse_eq_ok, not_not] at checked
  obtain ⟨old, found, _, ready, same⟩ := checked
  cases same
  obtain ⟨member, named⟩ := getProbeMutationOperation_ok found
  exact ⟨member, named, ready⟩

private theorem fail_ok {reason : String} {now : Time}
    (result : failProbeMutationOperation operationId reason now before = .ok (operation, after)) :
    ProbeChange before after operation (.fail operationId reason now) := by
  unfold failProbeMutationOperation at result
  rw [bind_eq_ok] at result
  obtain ⟨old, checked, saved⟩ := result
  obtain ⟨member, rfl, ready⟩ := requireFailable_ok checked
  obtain ⟨rfl, rows⟩ := save_ok saved
  exact .advanced old member rfl rfl (ready ▸ by decide) rows (.failed reason now ready rfl)

private theorem complete_ok {casefold : String → String} {binding : Option ProbeWindowSlotBinding} {now : Time}
    {outcome : Option String}
    (result : completeProbeMutationOperation casefold operationId binding now outcome before = .ok (operation, after)) :
    ProbeChange before after operation (.complete operationId binding now outcome) := by
  unfold completeProbeMutationOperation at result
  simp only [bind_eq_ok] at result
  obtain ⟨old, found, rest⟩ := result
  obtain ⟨member, rfl⟩ := getProbeMutationOperation_ok found
  split at rest
  next =>
    cases rest
    exact .same rfl (by simp) (by simp)
  next =>
    simp only [bind_eq_ok] at rest
    obtain ⟨_, unresolved, _, authority, locked⟩ := rest
    rw [refuse_eq_ok, not_not] at unresolved
    obtain ⟨sameId, sameKind, moved, saved⟩ := completeLocked_ok locked
    refine .advanced old member sameId sameKind unresolved saved (.completed binding now outcome (fun kind => ?_) moved)
    unfold requireCompletionAuthority at authority
    split at authority
    next => simpa only [refuse_eq_ok, not_not] using authority
    next other =>
      cases shape : old.kind <;> simp_all

private theorem applied_resumes (old : ProbeMutationOperation) (observation : ProbeMutationObservation)
    (decision : ProbeReconcileDecision)
    (fenced : (applyProbeDecision old observation decision).state = .reconcileRequired) :
    effectiveState (applyProbeDecision old observation decision) = effectiveState old := by
  have next : decision.nextState = .reconcileRequired := fenced
  by_cases again : old.state = .reconcileRequired
  · have resume : (applyProbeDecision old observation decision).resumeState = old.resumeState := by
      simp [applyProbeDecision, next, again]
    unfold effectiveState
    rw [resume, fenced, again]
  · rw [effectiveState_of_ne again]
    exact effectiveState_resumed fenced (by simp [applyProbeDecision, next, again])

private theorem reconcile_ok {casefold : String → String} {observation : ProbeMutationObservation} {current : Time}
    (result : reconcileProbeMutationOperation casefold operationId observation current before =
      .ok (operation, after)) :
    ProbeChange before after operation (.reconcile operationId observation current) := by
  unfold reconcileProbeMutationOperation at result
  simp only [bind_eq_ok] at result
  obtain ⟨old, found, rest⟩ := result
  obtain ⟨member, rfl⟩ := getProbeMutationOperation_ok found
  have decided := decideProbeReconciliation_decides casefold old observation current
  split at rest
  next =>
    cases rest
    exact .same rfl (by simp) (by simp)
  next open_ =>
    have unresolved : old.state.Unresolved := not_not.mp open_
    split at rest
    next next =>
      obtain ⟨sameId, sameKind, moved, saved⟩ := completeLocked_ok rest
      refine .advanced old member sameId sameKind unresolved saved (.reconciled observation current ?_ ?_)
      · rw [moved, ← next]
        exact decided
      · rw [moved]
        simp
    next =>
      obtain ⟨rfl, rows⟩ := save_ok rest
      exact .advanced old member rfl rfl unresolved rows
        (.reconciled observation current decided (applied_resumes old observation _))

theorem ProbeMethod.change {casefold : String → String} {method : ProbeMethod}
    (result : method.transaction casefold before = .ok (operation, after)) :
    ProbeChange before after operation method := by
  cases method with
  | arm armed => exact armProbe_ok result
  | authorizeOpen operationId now => exact authorizeOpen_ok result
  | authorizeClose operationId now => exact authorizeClose_ok result
  | complete operationId binding now outcome => exact complete_ok result
  | fail operationId reason now => exact fail_ok result
  | reconcile operationId observation current => exact reconcile_ok result

end Transactions

end WebSupervisor.Registry.Proofs
