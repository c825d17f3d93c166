import WebSupervisor.Models

/-! Probe window mutations and the reconciliation of `probe_ops.py`. Comparing
executables folds case by the rules of the host language; the folding is a
parameter. -/

namespace WebSupervisor

structure ProbeWindowSlotBinding where
  slotId : String
  ownerToken : String
  targetWorkerId : String
  targetConversationUrl : String
  actualUrl : String
  windowHandle : Int
  browserPid : Int
  chromeExecutable : String
  source : String
  boundAt : Time
  observedAt : Time
  expiresAt : Time
  deriving DecidableEq

inductive ProbeMutationKind where
  | openNew | rotate | close
  deriving DecidableEq

inductive ProbeMutationState where
  | armed | closeSubmitted | readyToOpen | openSubmitted | reconcileRequired | completed | failed | cancelled
  deriving DecidableEq

def ProbeMutationState.value : ProbeMutationState → String
  | .armed => "ARMED"
  | .closeSubmitted => "CLOSE_SUBMITTED"
  | .readyToOpen => "READY_TO_OPEN"
  | .openSubmitted => "OPEN_SUBMITTED"
  | .reconcileRequired => "RECONCILE_REQUIRED"
  | .completed => "COMPLETED"
  | .failed => "FAILED"
  | .cancelled => "CANCELLED"

/-- `ProbeMutationState(text)`. -/
def ProbeMutationState.ofValue? (text : String) : Option ProbeMutationState :=
  [.armed, .closeSubmitted, .readyToOpen, .openSubmitted, .reconcileRequired, .completed, .failed, .cancelled].find?
    (fun state => state.value = text)

@[simp]
theorem ProbeMutationState.ofValue?_value (state : ProbeMutationState) : ofValue? state.value = some state := by
  cases state <;> decide

theorem ProbeMutationState.value_ne_empty (state : ProbeMutationState) : state.value ≠ "" := by
  cases state <;> decide

/-- Membership in `UNRESOLVED_PROBE_MUTATION_STATES`. -/
def ProbeMutationState.Unresolved (state : ProbeMutationState) : Prop :=
  state ∈ [.armed, .closeSubmitted, .readyToOpen, .openSubmitted, .reconcileRequired]

instance ProbeMutationState.decidableUnresolved (state : ProbeMutationState) : Decidable state.Unresolved :=
  inferInstanceAs (Decidable (_ ∈ _))

/-- The prior slot is kept as the record that `slot_from_snapshot` reads back. -/
structure ProbeMutationOperation where
  operationId : String
  nonce : String
  kind : ProbeMutationKind
  state : ProbeMutationState
  slotId : String
  targetTaskId : String
  targetWorkerId : String
  targetConversationUrl : String
  ownerToken : String
  expectedActualUrl : String
  expectedChromeExecutable : String
  source : String
  priorSlot : Option ProbeWindowSlotBinding
  createdAt : Time
  updatedAt : Time
  slotTtlS : Time := 120
  reconcileAttempts : Int := 0
  lastReconcileAt : Option Time := none
  lastOutcome : Option String := none
  lastError : Option String := none
  resumeState : Option String := none
  deriving DecidableEq

/-- The value of a row in `idx_probe_mutation_one_unresolved`. -/
def ProbeMutationOperation.unresolvedIndex (operation : ProbeMutationOperation) : Option Unit :=
  if operation.state.Unresolved then some () else none

inductive ProbeReconcileOutcome where
  | exactTargetAbsent | exactUniqueOwnedTargetPresent | oldTargetStillPresent | bothOldAndNewPresent
  | multipleMatches | staleOrChangedIdentity | unknownObservation
  deriving DecidableEq

def ProbeReconcileOutcome.value : ProbeReconcileOutcome → String
  | .exactTargetAbsent => "EXACT_TARGET_ABSENT"
  | .exactUniqueOwnedTargetPresent => "EXACT_UNIQUE_OWNED_TARGET_PRESENT"
  | .oldTargetStillPresent => "OLD_TARGET_STILL_PRESENT"
  | .bothOldAndNewPresent => "BOTH_OLD_AND_NEW_PRESENT"
  | .multipleMatches => "MULTIPLE_MATCHES"
  | .staleOrChangedIdentity => "STALE_OR_CHANGED_IDENTITY"
  | .unknownObservation => "UNKNOWN_OBSERVATION"

structure ProbeWindowMatch where
  windowHandle : Int
  browserPid : Int
  chromeExecutable : String
  actualUrl : String
  deriving DecidableEq

structure ProbeMutationObservation where
  observedAt : Time
  oldMatches : List ProbeWindowMatch := []
  newMatches : List ProbeWindowMatch := []
  complete : Bool := true
  error : Option String := none
  deriving DecidableEq

structure ProbeReconcileDecision where
  outcome : ProbeReconcileOutcome
  nextState : ProbeMutationState
  reason : String
  mayClose : Bool := false
  mayOpen : Bool := false
  adoptBinding : Option ProbeWindowSlotBinding := none
  deriving DecidableEq

/-- The state that a fenced operation resumes. -/
def effectiveState (operation : ProbeMutationOperation) : ProbeMutationState :=
  if operation.state ≠ .reconcileRequired then
    operation.state
  else if operation.resumeState.getD "" = "" then
    operation.state
  else
    (ProbeMutationState.ofValue? (operation.resumeState.getD "")).getD operation.state

section Reconciliation
variable (casefold : String → String)

def matchIsExactNew (operation : ProbeMutationOperation) (found : ProbeWindowMatch) : Bool :=
  decide (0 < found.windowHandle ∧ 0 < found.browserPid ∧
    rstripSlash found.actualUrl = rstripSlash operation.expectedActualUrl ∧
    casefold found.chromeExecutable = casefold operation.expectedChromeExecutable)

def matchIsExactOld (operation : ProbeMutationOperation) (found : ProbeWindowMatch) : Bool :=
  match operation.priorSlot with
  | none => false
  | some prior =>
    decide (found.windowHandle = prior.windowHandle ∧ found.browserPid = prior.browserPid ∧
      rstripSlash found.actualUrl = rstripSlash prior.actualUrl ∧
      casefold found.chromeExecutable = casefold prior.chromeExecutable)

def bindingFromNewMatch (operation : ProbeMutationOperation) (found : ProbeWindowMatch) (observedAt : Time) :
    ProbeWindowSlotBinding where
  slotId := operation.slotId
  ownerToken := operation.ownerToken
  targetWorkerId := operation.targetWorkerId
  targetConversationUrl := operation.targetConversationUrl
  actualUrl := operation.expectedActualUrl
  windowHandle := found.windowHandle
  browserPid := found.browserPid
  chromeExecutable := operation.expectedChromeExecutable
  source := operation.source
  boundAt := observedAt
  observedAt := observedAt
  expiresAt := observedAt + max 1 operation.slotTtlS

/-- A decision that keeps the operation fenced. -/
def fenced (outcome : ProbeReconcileOutcome) (reason : String) : ProbeReconcileDecision :=
  { outcome, nextState := .reconcileRequired, reason }

/-- The part of the decision for an OPEN operation. The old and the new target
are each absent or the exact match that is given. -/
def decideOpen (operation : ProbeMutationOperation) (observedAt : Time) (old new : Option ProbeWindowMatch) :
    ProbeReconcileDecision :=
  if old.isSome then
    fenced .staleOrChangedIdentity "OPEN operation unexpectedly observed a prior target"
  else
    match new with
    | some found =>
      if effectiveState operation ≠ .openSubmitted then
        fenced .staleOrChangedIdentity "expected target appeared before durable OPEN authority was issued"
      else
        { outcome := .exactUniqueOwnedTargetPresent, nextState := .completed,
          reason := "exactly one expected LWS-owned probe target is present; adopt it",
          adoptBinding := some (bindingFromNewMatch operation found observedAt) }
    | none =>
      if effectiveState operation = .armed then
        { outcome := .exactTargetAbsent, nextState := .armed,
          reason := "no target exists and no OPEN authority has been issued", mayOpen := true }
      else
        fenced .exactTargetAbsent "target is absent after OPEN authority was issued; do not replay blindly"

def decideClose (operation : ProbeMutationOperation) (old new : Option ProbeWindowMatch) : ProbeReconcileDecision :=
  if new.isSome then
    fenced .staleOrChangedIdentity "CLOSE operation unexpectedly observed a replacement target"
  else if old.isNone then
    { outcome := .exactTargetAbsent, nextState := .completed,
      reason := "the exact old LWS-owned probe target is absent; close is reconciled" }
  else if effectiveState operation = .armed then
    { outcome := .oldTargetStillPresent, nextState := .armed,
      reason := "the exact old target remains and no CLOSE authority has been issued", mayClose := true }
  else
    fenced .oldTargetStillPresent "old target remains after CLOSE authority was issued; do not replay blindly"

def decideRotate (operation : ProbeMutationOperation) (observedAt : Time) (old new : Option ProbeWindowMatch) :
    ProbeReconcileDecision :=
  match new, old with
  | some found, _ =>
    if effectiveState operation ≠ .openSubmitted then
      fenced .staleOrChangedIdentity "replacement appeared before durable OPEN authority was issued"
    else
      { outcome := .exactUniqueOwnedTargetPresent, nextState := .completed,
        reason := "replacement is the unique expected owned target and the old target is absent; adopt it",
        adoptBinding := some (bindingFromNewMatch operation found observedAt) }
  | none, some _ =>
    if effectiveState operation = .armed then
      { outcome := .oldTargetStillPresent, nextState := .armed,
        reason := "old target remains and no CLOSE authority has been issued", mayClose := true }
    else
      fenced .oldTargetStillPresent "old target remains after CLOSE/OPEN progress; do not replay blindly"
  | none, none =>
    -- The safe crash point after the close and before the authority to open.
    if effectiveState operation ∈ [.armed, .closeSubmitted, .readyToOpen] then
      { outcome := .exactTargetAbsent, nextState := .readyToOpen,
        reason := "old target is absent and replacement has not appeared; replacement may be opened once",
        mayOpen := true }
    else
      fenced .exactTargetAbsent "both targets are absent after OPEN authority was issued; do not replay blindly"

/-- `current` is the clock of the reconciling process. -/
def decideProbeReconciliation (operation : ProbeMutationOperation) (observation : ProbeMutationObservation)
    (current : Time) : ProbeReconcileDecision :=
  if current < observation.observedAt then
    fenced .unknownObservation "probe observation timestamp is in the future"
  else if observation.complete = false ∨ observation.error.getD "" ≠ "" then
    fenced .unknownObservation "probe observation was incomplete or failed"
  else if 1 < observation.oldMatches.length ∨ 1 < observation.newMatches.length then
    fenced .multipleMatches "more than one window matched an ownership tag"
  else if observation.oldMatches.head?.any (fun found => !matchIsExactOld casefold operation found) then
    fenced .staleOrChangedIdentity "old ownership tag no longer matches its durable HWND/PID/executable identity"
  else if observation.newMatches.head?.any (fun found => !matchIsExactNew casefold operation found) then
    fenced .staleOrChangedIdentity "new ownership tag no longer matches the expected executable/target identity"
  else
    let old := observation.oldMatches.head?
    let new := observation.newMatches.head?
    if old.isSome ∧ new.isSome then
      fenced .bothOldAndNewPresent "both old and replacement probe targets are present"
    else
      match operation.kind with
      | .openNew => decideOpen operation observation.observedAt old new
      | .close => decideClose operation old new
      | .rotate => decideRotate operation observation.observedAt old new

end Reconciliation

end WebSupervisor
