import WebSupervisor.Proofs.ProbeChange

/-! The decisions about a probe mutation and the authority that the registry gives.
A decision looks at the state that a fenced operation resumes, the registry at the
stored one: after a reconciliation they agree. -/

namespace WebSupervisor.Registry.Proofs
open Library

/-- The phase in which the authority to open is given. -/
def OpenReady (kind : ProbeMutationKind) (state : ProbeMutationState) : Prop :=
  kind = .openNew ∧ state = .armed ∨ kind = .rotate ∧ state = .readyToOpen

/-- The phase in which the authority to close is given. -/
def CloseReady (kind : ProbeMutationKind) (state : ProbeMutationState) : Prop :=
  kind ∈ [ProbeMutationKind.rotate, .close] ∧ state = .armed

/-- The observation is whole and not from the future. -/
def Whole (observation : ProbeMutationObservation) (current : Time) : Prop :=
  observation.observedAt ≤ current ∧ observation.complete = true ∧ observation.error.getD "" = ""

/-- What a completed operation has to show: its new target alone, or after a CLOSE no target. -/
def ShowsResult (casefold : String → String) (operation : ProbeMutationOperation)
    (observation : ProbeMutationObservation) : Prop :=
  observation.oldMatches = [] ∧
    if operation.kind = .close then observation.newMatches = []
    else ∃ found, observation.newMatches = [found] ∧ matchIsExactNew casefold operation found = true

section Decisions
variable {casefold : String → String} {operation : ProbeMutationOperation} {observation : ProbeMutationObservation}
  {current : Time} {old new : Option ProbeWindowMatch}

/-- What is behind a decision that is not made for want of a clear observation. -/
structure Grounded (casefold : String → String) (operation : ProbeMutationOperation)
    (observation : ProbeMutationObservation) (decision : ProbeReconcileDecision) : Prop where
  opens : decision.mayOpen = true ↔ OpenReady operation.kind decision.nextState
  closes : decision.mayClose = true ↔ CloseReady operation.kind decision.nextState
  adopts : ∀ binding, decision.adoptBinding = some binding →
    validateProbeCompletionBinding casefold operation binding = .ok ()
  completes : decision.nextState = .completed → ShowsResult casefold operation observation

theorem grounded_fenced (outcome : ProbeReconcileOutcome) (reason : String) :
    Grounded casefold operation observation (fenced outcome reason) :=
  ⟨by simp [fenced, OpenReady], by simp [fenced, CloseReady], nofun, nofun⟩

theorem bindingFromNewMatch_valid {found : ProbeWindowMatch} (exact_ : matchIsExactNew casefold operation found = true)
    (observedAt : Time) :
    validateProbeCompletionBinding casefold operation (bindingFromNewMatch operation found observedAt) = .ok () := by
  obtain ⟨handle, pid, _, _⟩ := of_decide_eq_true exact_
  unfold validateProbeCompletionBinding
  simp only [bind_eq_ok, refuse_eq_ok]
  have same {α : Type} (value : α) : ¬ value ≠ value := not_not.mpr rfl
  exact ⟨(), same _, (), same _, (), same _, (), same _, (), same _, (), same _,
    not_or.mpr ⟨not_le.mpr handle, not_le.mpr pid⟩⟩

private theorem head_none {found : List ProbeWindowMatch} (none : found.head? = none) : found = [] := List.head?_eq_none_iff.mp none

private theorem head_alone {matches_ : List ProbeWindowMatch} {found : ProbeWindowMatch} (short : ¬ 1 < matches_.length)
    (first : matches_.head? = some found) : matches_ = [found] := by
  cases matches_ with
  | nil => cases first
  | cons head rest =>
    cases first
    have none : rest = [] := List.length_eq_zero_iff.mp (by simp only [List.length_cons] at short; omega)
    rw [none]

/-- What a decision function is given: each target is absent, or alone and exact. -/
structure Single (casefold : String → String) (operation : ProbeMutationOperation)
    (observation : ProbeMutationObservation) (old new : Option ProbeWindowMatch) : Prop where
  noOld : old = none → observation.oldMatches = []
  noNew : new = none → observation.newMatches = []
  alone : ∀ found, new = some found → observation.newMatches = [found] ∧ matchIsExactNew casefold operation found = true
  notBoth : ¬ (old.isSome ∧ new.isSome)

private theorem decideOpen_grounded (single : Single casefold operation observation old new) (kind : operation.kind = .openNew) :
    Grounded casefold operation observation (decideOpen operation observation.observedAt old new) := by
  unfold decideOpen
  split
  next => exact grounded_fenced ..
  next noOld =>
    split
    next found =>
      split
      next => exact grounded_fenced ..
      next =>
        obtain ⟨only, exact_⟩ := single.alone found rfl
        refine ⟨by simp [OpenReady], by simp [CloseReady], ?_, fun _ => ⟨single.noOld (by simpa using noOld), ?_⟩⟩
        · rintro binding ⟨⟩
          exact bindingFromNewMatch_valid exact_ _
        · rw [if_neg (by simp [kind])]
          exact ⟨found, only, exact_⟩
    next =>
      split
      next => exact ⟨by simp [OpenReady, kind], by simp [CloseReady, kind], nofun, nofun⟩
      next => exact grounded_fenced ..

private theorem decideClose_grounded (single : Single casefold operation observation old new) (kind : operation.kind = .close) :
    Grounded casefold operation observation (decideClose operation old new) := by
  unfold decideClose
  split
  next => exact grounded_fenced ..
  next noNew =>
    split
    next noOld =>
      refine ⟨by simp [OpenReady], by simp [CloseReady], nofun, fun _ => ⟨single.noOld (by simpa using noOld), ?_⟩⟩
      rw [if_pos kind]
      exact single.noNew (by simpa using noNew)
    next =>
      split
      next => exact ⟨by simp [OpenReady, kind], by simp [CloseReady, kind], nofun, nofun⟩
      next => exact grounded_fenced ..

private theorem decideRotate_grounded (single : Single casefold operation observation old new)
    (kind : operation.kind = .rotate) :
    Grounded casefold operation observation (decideRotate operation observation.observedAt old new) := by
  unfold decideRotate
  split
  next _ found =>
    split
    next => exact grounded_fenced ..
    next =>
      obtain ⟨only, exact_⟩ := single.alone found rfl
      have noOld : observation.oldMatches = [] := by
        refine single.noOld ?_
        have alone := single.notBoth
        simpa using alone
      refine ⟨by simp [OpenReady], by simp [CloseReady], ?_, fun _ => ⟨noOld, ?_⟩⟩
      · rintro binding ⟨⟩
        exact bindingFromNewMatch_valid exact_ _
      · rw [if_neg (by simp [kind])]
        exact ⟨found, only, exact_⟩
  next =>
    split
    next => exact ⟨by simp [OpenReady, kind], by simp [CloseReady, kind], nofun, nofun⟩
    next => exact grounded_fenced ..
  next =>
    split
    next => exact ⟨by simp [OpenReady, kind], by simp [CloseReady, kind], nofun, nofun⟩
    next => exact grounded_fenced ..

theorem decideProbeReconciliation_grounded :
    Grounded casefold operation observation (decideProbeReconciliation casefold operation observation current) := by
  unfold decideProbeReconciliation
  split
  next => exact grounded_fenced ..
  next =>
    split
    next => exact grounded_fenced ..
    next =>
      split
      next => exact grounded_fenced ..
      next few =>
        split
        next => exact grounded_fenced ..
        next =>
          split
          next => exact grounded_fenced ..
          next exact_ =>
            dsimp only
            split
            next => exact grounded_fenced ..
            next notBoth =>
              rw [not_or] at few
              have single : Single casefold operation observation observation.oldMatches.head? observation.newMatches.head? := by
                refine ⟨head_none, head_none, fun found first => ⟨head_alone few.2 first, ?_⟩, notBoth⟩
                rw [first] at exact_
                simpa using exact_
              split
              next kind => exact decideOpen_grounded single kind
              next kind => exact decideClose_grounded single kind
              next kind => exact decideRotate_grounded single kind

/-- Whatever is not fenced rests on a whole observation. -/
theorem decided_whole (free : (decideProbeReconciliation casefold operation observation current).nextState ≠ .reconcileRequired) :
    Whole observation current := by
  unfold decideProbeReconciliation at free
  split at free
  next => exact absurd rfl free
  next present =>
    split at free
    next => exact absurd rfl free
    next whole =>
      rw [not_or, Bool.not_eq_false, not_not] at whole
      exact ⟨not_lt.mp present, whole⟩

/-- A later clock decides alike on an observation that is not from the future. -/
theorem decided_later {later : Time} (past : observation.observedAt ≤ current) (passed : current ≤ later) :
    decideProbeReconciliation casefold operation observation later =
      decideProbeReconciliation casefold operation observation current := by
  unfold decideProbeReconciliation
  rw [if_neg (not_lt.mpr past), if_neg (not_lt.mpr (past.trans passed))]

end Decisions

section Authority
variable {casefold : String → String} {db after : Database} {operation new : ProbeMutationOperation}
  {observation : ProbeMutationObservation} {current now : Time}

/-- The call returns. -/
def Succeeds {α : Type} (result : Except SupervisorError α) : Prop := ∃ value, result = .ok value

private theorem Saved.found (saved : Saved new db after) :
    after.probeMutationOperations.find? new.operationId = some new :=
  Table.find?_some.mpr ⟨(saved.rows new).mpr (Or.inl rfl), rfl⟩

private theorem save_succeeds (new : ProbeMutationOperation)
    (found : db.probeMutationOperations.find? operation.operationId = some operation)
    (sameId : new.operationId = operation.operationId) (unresolved : operation.state.Unresolved)
    (still : new.state.Unresolved) : Succeeds (saveProbeMutationOperation new db) := by
  obtain ⟨member, _⟩ := Table.find?_some.mp found
  have index : operation.unresolvedIndex = new.unresolvedIndex := by
    rw [ProbeMutationOperation.unresolvedIndex, ProbeMutationOperation.unresolvedIndex, if_pos unresolved, if_pos still]
  obtain ⟨table, replaced⟩ := IndexedTable.replace?_same_index member sameId.symm index
  unfold Succeeds saveProbeMutationOperation
  rw [sameId, found]
  dsimp only
  rw [replaced]
  exact ⟨_, rfl⟩

theorem authorizeProbeOpen_iff (found : db.probeMutationOperations.find? operation.operationId = some operation) :
    Succeeds (authorizeProbeOpen operation.operationId now db) ↔ OpenReady operation.kind operation.state := by
  have read : getProbeMutationOperation db operation.operationId = .ok operation := by rw [getProbeMutationOperation, found]
  constructor
  · rintro ⟨⟨_, _⟩, opened⟩
    unfold authorizeProbeOpen at opened
    simp only [bind_eq_ok, refuse_eq_ok, not_not] at opened
    obtain ⟨_, same, _, ready, _⟩ := opened
    cases same.symm.trans read
    exact ready
  · intro ready
    have unresolved : operation.state.Unresolved := by
      rcases ready with ⟨_, state⟩ | ⟨_, state⟩ <;> exact state ▸ by decide
    obtain ⟨result, saved⟩ := save_succeeds
      { operation with state := .openSubmitted, resumeState := none, updatedAt := now } found rfl unresolved
      (show ProbeMutationState.Unresolved .openSubmitted by decide)
    refine ⟨result, ?_⟩
    unfold authorizeProbeOpen
    simp only [bind_eq_ok, refuse_eq_ok, not_not]
    exact ⟨operation, read, (), ready, saved⟩

theorem authorizeProbeClose_iff (found : db.probeMutationOperations.find? operation.operationId = some operation) :
    Succeeds (authorizeProbeClose operation.operationId now db) ↔ CloseReady operation.kind operation.state := by
  have read : getProbeMutationOperation db operation.operationId = .ok operation := by rw [getProbeMutationOperation, found]
  constructor
  · rintro ⟨⟨_, _⟩, closed⟩
    unfold authorizeProbeClose at closed
    simp only [bind_eq_ok, refuse_eq_ok, not_not] at closed
    obtain ⟨_, same, _, kind, _, state, _⟩ := closed
    cases same.symm.trans read
    exact ⟨kind, state⟩
  · rintro ⟨kind, state⟩
    obtain ⟨result, saved⟩ := save_succeeds { operation with state := .closeSubmitted, updatedAt := now } found rfl
      (state ▸ by decide) (show ProbeMutationState.Unresolved .closeSubmitted by decide)
    refine ⟨result, ?_⟩
    unfold authorizeProbeClose
    simp only [bind_eq_ok, refuse_eq_ok, not_not]
    exact ⟨operation, read, (), kind, (), state, saved⟩

/-- An applied observation leaves the operation in the state that was decided. -/
theorem reconciled_row (found : db.probeMutationOperations.find? operation.operationId = some operation)
    (unresolved : operation.state.Unresolved)
    (applied : reconcileProbeMutationOperation casefold operation.operationId observation current db = .ok (new, after)) :
    new.operationId = operation.operationId ∧ new.kind = operation.kind ∧
      new.state = (decideProbeReconciliation casefold operation observation current).nextState ∧
      after.probeMutationOperations.find? new.operationId = some new := by
  have read : getProbeMutationOperation db operation.operationId = .ok operation := by rw [getProbeMutationOperation, found]
  unfold reconcileProbeMutationOperation at applied
  rw [read] at applied
  simp only [bind, Except.bind, if_neg (not_not.mpr unresolved)] at applied
  split at applied
  next completes =>
    obtain ⟨sameId, sameKind, state, saved⟩ := completeLocked_ok applied
    exact ⟨sameId, sameKind, state.trans completes.symm, saved.found⟩
  next =>
    obtain ⟨rfl, saved⟩ := save_ok applied
    exact ⟨rfl, rfl, rfl, saved.found⟩

/-- An observation that leaves the operation unresolved is applied. -/
theorem reconcile_succeeds (found : db.probeMutationOperations.find? operation.operationId = some operation)
    (unresolved : operation.state.Unresolved)
    (still : (decideProbeReconciliation casefold operation observation current).nextState.Unresolved) :
    Succeeds (reconcileProbeMutationOperation casefold operation.operationId observation current db) := by
  have read : getProbeMutationOperation db operation.operationId = .ok operation := by rw [getProbeMutationOperation, found]
  have open_ : (decideProbeReconciliation casefold operation observation current).nextState ≠ .completed := by
    intro completed
    rw [completed] at still
    exact absurd still (by decide)
  obtain ⟨result, saved⟩ := save_succeeds (applyProbeDecision operation observation
    (decideProbeReconciliation casefold operation observation current)) found rfl unresolved still
  refine ⟨result, ?_⟩
  unfold reconcileProbeMutationOperation
  rw [read]
  simp only [bind, Except.bind, if_neg (not_not.mpr unresolved), if_neg open_]
  exact saved

private theorem applied_phase (found : db.probeMutationOperations.find? operation.operationId = some operation)
    (unresolved : operation.state.Unresolved)
    (applied : reconcileProbeMutationOperation casefold operation.operationId observation current db = .ok (new, after)) :
    let decision := decideProbeReconciliation casefold operation observation current
    (∀ now, Succeeds (authorizeProbeOpen operation.operationId now after) ↔ decision.mayOpen = true) ∧
      ∀ now, Succeeds (authorizeProbeClose operation.operationId now after) ↔ decision.mayClose = true := by
  intro decision
  have grounded : Grounded casefold operation observation decision := decideProbeReconciliation_grounded
  obtain ⟨sameId, sameKind, state, row⟩ := reconciled_row found unresolved applied
  constructor
  · intro now
    rw [← sameId, authorizeProbeOpen_iff row, sameKind, state, grounded.opens]
  · intro now
    rw [← sameId, authorizeProbeClose_iff row, sameKind, state, grounded.closes]

end Authority

/-- The registry acts on an observation as the decision about it says. -/
structure Concurs (casefold : String → String) (db : Database) (operation : ProbeMutationOperation)
    (observation : ProbeMutationObservation) (current : Time) (decision : ProbeReconcileDecision) : Prop where
  opens : decision.mayOpen = true → ∀ clock, current ≤ clock →
    Succeeds (reconcileProbeMutationOperation casefold operation.operationId observation clock db) ∧ ∀ now,
      Succeeds (authorizeProbeOpen operation.operationId now
        ((reconcileProbeMutationOperation casefold operation.operationId observation clock).after db))
  closes : decision.mayClose = true → ∀ clock, current ≤ clock →
    Succeeds (reconcileProbeMutationOperation casefold operation.operationId observation clock db) ∧ ∀ now,
      Succeeds (authorizeProbeClose operation.operationId now
        ((reconcileProbeMutationOperation casefold operation.operationId observation clock).after db))
  /-- Where no authority is decided there is none, unless the observation was not applied. -/
  staysShut : decision.mayOpen = false → ∀ now,
    Succeeds (authorizeProbeOpen operation.operationId now
      ((reconcileProbeMutationOperation casefold operation.operationId observation current).after db)) →
    Succeeds (authorizeProbeOpen operation.operationId now db) ∧
      ¬ Succeeds (reconcileProbeMutationOperation casefold operation.operationId observation current db)
  staysOpen : decision.mayClose = false → ∀ now,
    Succeeds (authorizeProbeClose operation.operationId now
      ((reconcileProbeMutationOperation casefold operation.operationId observation current).after db)) →
    Succeeds (authorizeProbeClose operation.operationId now db) ∧
      ¬ Succeeds (reconcileProbeMutationOperation casefold operation.operationId observation current db)
  adopts : ∀ binding, decision.adoptBinding = some binding →
    validateProbeCompletionBinding casefold operation binding = .ok ()
  completes : decision.nextState = .completed → Whole observation current ∧ ShowsResult casefold operation observation

/-- The decision about any unresolved operation agrees with the registry's authority. -/
theorem probe_decision_agrees (casefold : String → String) (db : Database) (operation : ProbeMutationOperation)
    (observation : ProbeMutationObservation) (current : Time)
    (found : db.probeMutationOperations.find? operation.operationId = some operation)
    (unresolved : operation.state.Unresolved) :
    Concurs casefold db operation observation current
      (decideProbeReconciliation casefold operation observation current) := by
  have grounded : Grounded casefold operation observation
      (decideProbeReconciliation casefold operation observation current) := decideProbeReconciliation_grounded
  have after {clock : Time} {new : ProbeMutationOperation} {next : Database}
      (applied : reconcileProbeMutationOperation casefold operation.operationId observation clock db = .ok (new, next)) :
      (reconcileProbeMutationOperation casefold operation.operationId observation clock).after db = next := by
    rw [Transaction.after, applied]
  have failed (refused : ¬ Succeeds (reconcileProbeMutationOperation casefold operation.operationId observation current db)) :
      (reconcileProbeMutationOperation casefold operation.operationId observation current).after db = db := by
    unfold Transaction.after
    split
    next result => exact absurd ⟨_, result⟩ refused
    next => rfl
  -- What is granted now is granted at every later clock.
  have still {clock : Time} (passed : current ≤ clock)
      (state : (decideProbeReconciliation casefold operation observation current).nextState ∈
        [ProbeMutationState.armed, .readyToOpen]) :
      decideProbeReconciliation casefold operation observation clock =
          decideProbeReconciliation casefold operation observation current ∧
        Succeeds (reconcileProbeMutationOperation casefold operation.operationId observation clock db) := by
    have unfenced : (decideProbeReconciliation casefold operation observation current).nextState ≠ .reconcileRequired := by
      intro fenced
      rw [fenced] at state
      exact absurd state (by decide)
    have same := @decided_later casefold operation observation current clock (decided_whole unfenced).1 passed
    refine ⟨same, reconcile_succeeds found unresolved ?_⟩
    rw [same]
    exact (show ∀ state ∈ [ProbeMutationState.armed, .readyToOpen], state.Unresolved by decide) _ state
  refine ⟨fun opens clock passed => ?_, fun closes clock passed => ?_, fun shut now succeeded => ?_,
    fun shut now succeeded => ?_, grounded.adopts, fun completed => ?_⟩
  · have state := grounded.opens.mp opens
    obtain ⟨same, ⟨⟨new, next⟩, applied⟩⟩ := still passed (by rcases state with ⟨_, state⟩ | ⟨_, state⟩ <;> simp [state])
    refine ⟨⟨_, applied⟩, fun now => ?_⟩
    rw [after applied, (applied_phase found unresolved applied).1 now, same]
    exact opens
  · have state := (grounded.closes.mp closes).2
    obtain ⟨same, ⟨⟨new, next⟩, applied⟩⟩ := still passed (by simp [state])
    refine ⟨⟨_, applied⟩, fun now => ?_⟩
    rw [after applied, (applied_phase found unresolved applied).2 now, same]
    exact closes
  · by_cases applied : Succeeds (reconcileProbeMutationOperation casefold operation.operationId observation current db)
    · obtain ⟨⟨new, next⟩, applied⟩ := applied
      rw [after applied, (applied_phase found unresolved applied).1 now, shut] at succeeded
      cases succeeded
    · exact ⟨failed applied ▸ succeeded, applied⟩
  · by_cases applied : Succeeds (reconcileProbeMutationOperation casefold operation.operationId observation current db)
    · obtain ⟨⟨new, next⟩, applied⟩ := applied
      rw [after applied, (applied_phase found unresolved applied).2 now, shut] at succeeded
      cases succeeded
    · exact ⟨failed applied ▸ succeeded, applied⟩
  · have unfenced : (decideProbeReconciliation casefold operation observation current).nextState ≠ .reconcileRequired := by
      rw [completed]
      decide
    exact ⟨decided_whole unfenced, grounded.completes completed⟩

/-- An opening that is fenced, and was armed before. -/
def fencedOpening : ProbeMutationOperation where
  operationId := "open"
  nonce := "nonce"
  kind := .openNew
  state := .reconcileRequired
  slotId := "probe:default"
  targetTaskId := "task"
  targetWorkerId := "worker"
  targetConversationUrl := "https://chatgpt.com/c/2"
  ownerToken := "owner"
  expectedActualUrl := "https://chatgpt.com/c/2#lws"
  expectedChromeExecutable := "chrome"
  source := "windows_uia_lws_probe"
  priorSlot := none
  createdAt := 1
  updatedAt := 1
  resumeState := some "ARMED"

def fencedDatabase : Database where
  probeMutationOperations := ⟨⟨[fencedOpening], by simp⟩, by simp⟩

/-- No window is there, and the operation may be authorised again. -/
theorem probe_decision_agrees_fenced :
    Succeeds (authorizeProbeOpen "open" 6 ((reconcileProbeMutationOperation id "open" { observedAt := 4 } 5).after
      fencedDatabase)) :=
  ((probe_decision_agrees id fencedDatabase fencedOpening { observedAt := 4 } 5 (by decide +kernel) (by decide)).opens
    (by decide +kernel) 5 le_rfl).2 6

end WebSupervisor.Registry.Proofs
