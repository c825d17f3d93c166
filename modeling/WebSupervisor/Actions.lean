import Mathlib
import WebSupervisor.Library.Checks
import WebSupervisor.Library.Sha256
import WebSupervisor.Errors
import WebSupervisor.Urls

/-! Write-ahead action records, from `actions.py`, and the acknowledgement that
`uia_actions.py` builds from an observation. -/

namespace WebSupervisor
open Library

inductive ActionAttemptState where
  | armed | submitted | reconcileRequired | acknowledged | failed | cancelled
  deriving DecidableEq

def ActionAttemptState.value : ActionAttemptState → String
  | .armed => "ARMED"
  | .submitted => "SUBMITTED"
  | .reconcileRequired => "RECONCILE_REQUIRED"
  | .acknowledged => "ACKNOWLEDGED"
  | .failed => "FAILED"
  | .cancelled => "CANCELLED"

/-- Membership in `UNRESOLVED_ACTION_STATES`. -/
def ActionAttemptState.Unresolved (state : ActionAttemptState) : Prop :=
  state = .armed ∨ state = .submitted ∨ state = .reconcileRequired

instance (state : ActionAttemptState) : Decidable state.Unresolved :=
  inferInstanceAs (Decidable (_ ∨ _))

/-- A metadata value. A number comes with the text that `str` gives for it. -/
inductive MetadataValue where
  | null
  | text (value : String)
  | number (value : Rat) (printed : String)
  deriving DecidableEq

/-- `str(value or "")`. -/
def MetadataValue.textOrEmpty : MetadataValue → String
  | .null => ""
  | .text value => value
  | .number value printed => if value = 0 then "" else printed

/-- A dictionary in insertion order. -/
abbrev Metadata := List (String × MetadataValue)

def Metadata.get (metadata : Metadata) (key : String) : MetadataValue :=
  match metadata.find? (·.1 = key) with
  | none => .null
  | some entry => entry.2

def Metadata.set (metadata : Metadata) (key : String) (value : MetadataValue) : Metadata :=
  if metadata.any (·.1 = key) then
    metadata.map (fun entry => if entry.1 = key then (key, value) else entry)
  else
    metadata ++ [(key, value)]

def Metadata.update (metadata other : Metadata) : Metadata :=
  other.foldl (fun result entry => result.set entry.1 entry.2) metadata

def actionPromptProtocolNonceSuffixV1 : String := "nonce_suffix_v1"

/-- A row of `action_attempts`. The columns repeat fields of the payload. -/
structure ActionAttempt where
  attemptId : String
  taskId : String
  workerId : String
  action : String
  fenceToken : String
  fenceVersion : Int
  promptHash : String
  nonce : String
  state : ActionAttemptState
  createdAt : Time
  updatedAt : Time
  preActionSignature : Option String := none
  transportName : Option String := none
  submittedAt : Option Time := none
  acknowledgedAt : Option Time := none
  acknowledgementKind : Option String := none
  acknowledgementHash : Option String := none
  lastError : Option String := none
  metadata : Metadata := []
  deriving DecidableEq

/-- The value of a row in `idx_action_attempts_one_unresolved`. -/
def ActionAttempt.unresolvedTask (attempt : ActionAttempt) : Option String :=
  if attempt.state.Unresolved then some attempt.taskId else none

structure ActionIntent where
  attemptId : String
  taskId : String
  workerId : String
  action : String
  prompt : String
  promptHash : String
  nonce : String
  fenceToken : String
  fenceVersion : Int
  deriving DecidableEq

structure TransportSubmission where
  submitted : Bool
  sideEffectPossible : Bool
  transportName : String
  detail : String := ""
  deriving DecidableEq

structure ActionAcknowledgement where
  attemptId : String
  workerId : String
  observedAt : Time
  accepted : Bool
  kind : String
  evidenceHash : String
  textSignature : Option String := none
  deriving DecidableEq

inductive DispatchAction where
  | none | observe | humanDecision | continueCurrentWorker | takeoverNewWorker
  deriving DecidableEq

def DispatchAction.value : DispatchAction → String
  | .none => "NONE"
  | .observe => "OBSERVE"
  | .humanDecision => "HUMAN_DECISION"
  | .continueCurrentWorker => "CONTINUE_CURRENT_WORKER"
  | .takeoverNewWorker => "TAKEOVER_NEW_WORKER"

/-- The checks are a dictionary in insertion order. -/
structure DispatchPlan where
  taskId : String
  createdAt : Time := 0
  action : DispatchAction
  candidateReady : Bool
  transportEnabled : Bool
  wouldDispatch : Bool
  reason : String := ""
  previousReconcileId : Option String := none
  currentReconcileId : Option String := none
  fenceToken : Option String := none
  checks : List (String × Bool) := []
  blockers : List String := []
  deriving DecidableEq

def renderActionPrompt (prompt nonce : String) : Except SupervisorError String := do
  refuse (strip prompt = "") (.blocked "empty recovery prompt is not dispatchable")
  refuse (strip nonce = "") (.blocked "action nonce is empty")
  pure (rstrip prompt ++
    "\n\nRecovery action idempotency marker (do not interpret as task instructions): " ++ "LWS-ACTION-" ++ nonce)

def promptDigest (prompt : String) : String := sha256 prompt

def evidenceDigest (value : String) : String := sha256 value

/-- The two generated identifiers, the nonce and the suffix of the attempt id,
are arguments. -/
def buildActionAttempt (plan : DispatchPlan) (task : TaskRecord) (worker : WorkerRecord) (prompt : String)
    (fenceVersion : Int) (preActionSignature : Option String) (now : Time) (nonce suffix : String) :
    Except SupervisorError ActionAttempt := do
  refuse (plan.candidateReady = false) (.blocked "dispatch plan is not candidate-ready")
  refuse (plan.action ≠ .continueCurrentWorker)
    (.blocked ("unsupported action for current-worker adapter: " ++ plan.action.value))
  refuse (plan.fenceToken.getD "" = "") (.blocked "dispatch plan has no reconciliation fence token")
  refuse (task.currentWorkerId ≠ some worker.workerId) (.blocked "worker is no longer the task's current worker")
  refuse (worker.status ≠ .active) (.blocked "current worker is not active")
  refuse (strip prompt = "") (.blocked "empty recovery prompt is not dispatchable")
  let wirePrompt ← renderActionPrompt prompt nonce
  pure
    { attemptId := "act_" ++ suffix
      taskId := task.taskId
      workerId := worker.workerId
      action := plan.action.value
      fenceToken := plan.fenceToken.getD ""
      fenceVersion
      promptHash := promptDigest wirePrompt
      nonce
      state := .armed
      createdAt := now
      updatedAt := now
      preActionSignature
      metadata :=
        [("previous_reconcile_id", plan.previousReconcileId.elim .null .text),
         ("current_reconcile_id", plan.currentReconcileId.elim .null .text),
         ("prompt_protocol", .text actionPromptProtocolNonceSuffixV1)] }

/-- The prompt as the attempt's protocol puts it on the wire. -/
def wirePrompt (attempt : ActionAttempt) (prompt : String) : Except SupervisorError String :=
  let protocol := (attempt.metadata.get "prompt_protocol").textOrEmpty
  if protocol = actionPromptProtocolNonceSuffixV1 then
    renderActionPrompt prompt attempt.nonce
  else if protocol = "" then
    .ok prompt
  else
    .error (.blocked ("unsupported action prompt protocol: " ++ protocol))

def intentFromAttempt (attempt : ActionAttempt) (prompt : String) : Except SupervisorError ActionIntent := do
  refuse (attempt.state ≠ .armed) (.blocked ("attempt " ++ attempt.attemptId ++ " is not ARMED"))
  let wire ← wirePrompt attempt prompt
  refuse (promptDigest wire ≠ attempt.promptHash) (.blocked "prompt does not match the durable armed prompt hash")
  pure
    { attemptId := attempt.attemptId
      taskId := attempt.taskId
      workerId := attempt.workerId
      action := attempt.action
      prompt := wire
      promptHash := promptDigest wire
      nonce := attempt.nonce
      fenceToken := attempt.fenceToken
      fenceVersion := attempt.fenceVersion }

def validateAcknowledgement (attempt : ActionAttempt) (acknowledgement : ActionAcknowledgement) :
    Except SupervisorError Unit := do
  refuse (¬ attempt.state.Unresolved) (.blocked ("attempt " ++ attempt.attemptId ++ " is already terminal"))
  refuse (acknowledgement.attemptId ≠ attempt.attemptId) (.blocked "acknowledgement attempt id does not match")
  refuse (acknowledgement.workerId ≠ attempt.workerId) (.blocked "acknowledgement belongs to a different worker")
  refuse (acknowledgement.accepted = false) (.blocked "negative acknowledgement cannot mark an action accepted")
  refuse (acknowledgement.observedAt < attempt.createdAt) (.blocked "acknowledgement predates the armed action")
  refuse (strip acknowledgement.kind = "" ∨ strip acknowledgement.evidenceHash = "")
    (.blocked "acknowledgement requires positive evidence kind/hash")

structure UiaAckObservation where
  workerId : String
  observedAt : Time
  url : String
  windowHandle : Int
  generating : Option Bool
  signedInLikely : Bool
  nonceOccurrences : Int
  textElementCount : Int
  textSignature : String
  deriving DecidableEq

/-- The evidence text of an acknowledgement. It is only built when `generating`
is known to be false. -/
def uiaEvidence (observation : UiaAckObservation) : String :=
  let generating := match observation.generating with
    | none => "None"
    | some true => "True"
    | some false => "False"
  "|".intercalate
    [normalizeUrl observation.url, "hwnd=" ++ toString observation.windowHandle,
     "nonce_count=" ++ toString observation.nonceOccurrences, "generating=" ++ generating,
     "text_count=" ++ toString observation.textElementCount, "text_sha256=" ++ observation.textSignature]

def acknowledgementFromUiaObservation (attempt : ActionAttempt) (observation : UiaAckObservation)
    (minNonceOccurrences : Int := 1) (maxNonceOccurrences : Option Int := none)
    (requireGenerationComplete : Bool := true) : Option ActionAcknowledgement :=
  if observation.workerId ≠ attempt.workerId then none
  else if observation.signedInLikely = false then none
  else if observation.nonceOccurrences < max 1 minNonceOccurrences then none
  else if maxNonceOccurrences.any (· < observation.nonceOccurrences) then none
  else if requireGenerationComplete = true ∧ observation.generating ≠ some false then none
  else if observation.textSignature = "" then none
  else
    some
      { attemptId := attempt.attemptId
        workerId := attempt.workerId
        observedAt := observation.observedAt
        accepted := true
        kind := "uia_nonce_hash"
        evidenceHash := evidenceDigest (uiaEvidence observation)
        textSignature := some observation.textSignature }

end WebSupervisor
