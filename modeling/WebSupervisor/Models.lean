import Mathlib
import WebSupervisor.Text

/-! Records shared by the registry and the runtime, from `models.py`. A text
column that only ever receives the value of an enumeration has that
enumeration as its type. -/

namespace WebSupervisor

/-- Seconds since the epoch. The source keeps them as finite floating point
numbers; the model keeps their exact values and adds them without rounding. -/
abbrev Time := Rat

inductive SupervisorState where
  | queued | starting | running | suspect | reconciling | recovering | blocked | needsHuman
  | completed | abandoned
  deriving DecidableEq

inductive WorkerStatus where
  | active | parked | superseded | dead
  deriving DecidableEq

def WorkerStatus.value : WorkerStatus → String
  | .active => "active"
  | .parked => "parked"
  | .superseded => "superseded"
  | .dead => "dead"

/-- A row of `tasks`, without its checkpoint. -/
structure TaskRecord where
  taskId : String
  project : String := ""
  objective : String := ""
  cwd : String := ""
  state : SupervisorState
  lsmSessionId : Option String := none
  currentWorkerId : Option String := none
  recoveryAttempts : Int := 0
  maxRecoveryAttempts : Int := 3
  createdAt : Time := 0
  updatedAt : Time := 0
  deriving DecidableEq

structure WorkerRecord where
  workerId : String
  taskId : String
  conversationUrl : String
  conversationId : Option String := none
  status : WorkerStatus
  startedAt : Time
  lastSeenAt : Option Time := none
  endedAt : Option Time := none
  deriving DecidableEq

structure WorkerWindowBinding where
  workerId : String
  windowHandle : Int
  browserPid : Int
  chromeExecutable : String
  conversationUrl : String
  source : String
  boundAt : Time
  observedAt : Time
  expiresAt : Time
  deriving DecidableEq

def WorkerWindowBinding.isFresh (binding : WorkerWindowBinding) (now : Time) : Bool :=
  decide (binding.boundAt ≤ binding.observedAt ∧ binding.observedAt ≤ now ∧ now < binding.expiresAt ∧
    binding.observedAt ≤ binding.expiresAt)

/-- Of the `raw` part only the entry `composer_present` is read, by its truth
value. -/
structure BrowserObservation where
  workerId : String
  observedAt : Time
  url : Option String := none
  generating : Option Bool := none
  sendButtonReady : Option Bool := none
  pendingToolCalls : Option Int := none
  visibleError : Option String := none
  lastDomChangeAt : Option Time := none
  messageSignature : Option String := none
  composerPresent : Option Bool := none
  deriving DecidableEq

/-- The part of a network observation that a reconciliation reads. -/
structure NetworkObservation where
  workerId : String
  observedAt : Time
  source : String
  pageUrl : Option String := none
  eventCount : Int := 0
  loadingFailed : Int := 0
  lastActivityAt : Option Time := none
  quietSinceAt : Option Time := none
  inflightRequests : Int := 0
  deriving DecidableEq

structure LsmObservation where
  taskId : String
  observedAt : Time
  sessionId : Option String := none
  sessionStatus : Option String := none
  activeRunId : Option String := none
  planStatus : Option String := none
  planLastAgentActivity : Option Time := none
  continuationDue : Option Bool := none
  continuationPending : Option Bool := none
  inFlightCalls : Int := 0
  freshestInFlightHeartbeat : Option Time := none
  activeJobs : Int := 0
  failedJobs : Int := 0
  succeededJobs : Int := 0
  recentEventType : Option String := none
  recentEventAt : Option Time := none
  completedSteps : Option Int := none
  totalSteps : Option Int := none
  deriving DecidableEq

structure WorkspaceObservation where
  taskId : String
  observedAt : Time
  cwd : String
  cwdExists : Bool
  isGitRepo : Option Bool := none
  gitRoot : Option String := none
  gitHead : Option String := none
  gitBranch : Option String := none
  gitDirty : Option Bool := none
  gitStatusHash : Option String := none
  error : Option String := none
  deriving DecidableEq

structure Assessment where
  state : SupervisorState
  reason : String
  confidence : String
  evidence : List String := []
  requiresReconcile : Bool := false
  deriving DecidableEq

/-- The `task` part of a snapshot. -/
structure TaskFacts where
  taskId : String
  state : SupervisorState
  currentWorkerId : Option String
  registeredWorkerUrl : Option String
  registeredWorkerStatus : Option WorkerStatus
  lsmSessionId : Option String
  recoveryAttempts : Int
  maxRecoveryAttempts : Int
  checkpointDigest : String
  deriving DecidableEq

structure BrowserFacts where
  workerId : String
  url : Option String
  generating : Option Bool
  sendButtonReady : Option Bool
  composerPresent : Option Bool
  pendingToolCalls : Option Int
  visibleError : Option String
  lastDomChangeAt : Option Time
  messageSignature : Option String
  deriving DecidableEq

structure NetworkFacts where
  workerId : String
  source : String
  pageUrl : Option String
  eventCount : Int
  loadingFailed : Int
  lastActivityAt : Option Time
  quietSinceAt : Option Time
  inflightRequests : Int
  deriving DecidableEq

structure LsmFacts where
  sessionId : Option String
  sessionStatus : Option String
  activeRunId : Option String
  planStatus : Option String
  planLastAgentActivity : Option Time
  continuationDue : Option Bool
  continuationPending : Option Bool
  inFlightCalls : Int
  freshestInFlightHeartbeat : Option Time
  activeJobs : Int
  failedJobs : Int
  succeededJobs : Int
  recentEventType : Option String
  recentEventAt : Option Time
  completedSteps : Option Int
  totalSteps : Option Int
  deriving DecidableEq

structure WorkspaceFacts where
  cwd : String
  cwdExists : Bool
  isGitRepo : Option Bool
  gitRoot : Option String
  gitHead : Option String
  gitDirty : Option Bool
  gitStatusHash : Option String
  error : Option String
  deriving DecidableEq

/-- A part of a snapshot with its entry `observed_at`. -/
structure Sampled (α : Type) where
  observedAt : Time
  facts : α
  deriving DecidableEq

/-- The `snapshot` of a reconciliation record. A part is none where the
dictionary has no such entry, or a null one. -/
structure Snapshot where
  task : Option TaskFacts := none
  browser : Option (Sampled BrowserFacts) := none
  network : Option (Sampled NetworkFacts) := none
  lsm : Option (Sampled LsmFacts) := none
  workspace : Option (Sampled WorkspaceFacts) := none
  deriving DecidableEq

structure ReconciliationRecord where
  reconcileId : String
  taskId : String
  createdAt : Time
  state : SupervisorState := .queued
  confidence : String := ""
  reason : String := ""
  requiresReconcile : Bool := false
  currentWorkerId : Option String := none
  fenceToken : String
  fenceVersion : Int := 1
  evidence : List String := []
  snapshot : Snapshot := {}
  deriving DecidableEq

structure RecoveryRecommendation where
  action : String
  reason : String := ""
  prompt : Option String := none
  deriving DecidableEq

end WebSupervisor
