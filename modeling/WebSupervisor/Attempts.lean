import WebSupervisor.Actions
import WebSupervisor.Library.Json

/-! Child dispatches and the write-ahead records of replacements and of child
spawns, from `models.py`. -/

namespace WebSupervisor

/-- A row of `child_dispatches`. The payload is the text of the metadata, and stands
here as what is decoded from it. -/
structure ChildDispatchRecord where
  dispatchId : String
  parentTaskId : String
  childTaskId : String
  childKey : String
  promptText : String
  promptSha256 : String
  expectedBranch : Option String
  baseRef : Option String
  webProjectUrl : Option String
  createdAt : Time
  updatedAt : Time
  metadata : Library.Json.Object := .empty
  deriving DecidableEq

inductive ReplacementAttemptState where
  | armed | lsmTakeoverSubmitted | reconcileRequired | completed | failed
  deriving DecidableEq

def ReplacementAttemptState.value : ReplacementAttemptState → String
  | .armed => "ARMED"
  | .lsmTakeoverSubmitted => "LSM_TAKEOVER_SUBMITTED"
  | .reconcileRequired => "RECONCILE_REQUIRED"
  | .completed => "COMPLETED"
  | .failed => "FAILED"

def ReplacementAttemptState.Unresolved (state : ReplacementAttemptState) : Prop :=
  state ∈ [.armed, .lsmTakeoverSubmitted, .reconcileRequired]

instance ReplacementAttemptState.decidableUnresolved (state : ReplacementAttemptState) : Decidable state.Unresolved :=
  inferInstanceAs (Decidable (_ ∈ _))

/-- A row of `replacement_attempts`. The columns repeat fields of the payload. -/
structure ReplacementAttempt where
  attemptId : String
  taskId : String
  candidateWorkerId : String
  state : ReplacementAttemptState
  expectedRevision : Int
  previousWorkerId : Option String
  previousGeneration : Int
  lsmSessionId : String
  previousActiveRunId : Option String
  workspaceGitHead : Option String
  workspaceStatusHash : Option String
  expectedBranch : Option String
  mode : String
  takeoverReason : String
  createdAt : Time
  updatedAt : Time
  newActiveRunId : Option String := none
  lastError : Option String := none
  metadata : Metadata := []
  deriving DecidableEq

/-- The value of a row in `idx_replacement_attempts_one_unresolved`. -/
def ReplacementAttempt.unresolvedTask (attempt : ReplacementAttempt) : Option String :=
  if attempt.state.Unresolved then some attempt.taskId else none

inductive ChildSpawnAttemptState where
  | armed | windowOpenSubmitted | windowBound | promptSubmitted | reconcileRequired | completed | failed
  deriving DecidableEq

def ChildSpawnAttemptState.value : ChildSpawnAttemptState → String
  | .armed => "ARMED"
  | .windowOpenSubmitted => "WINDOW_OPEN_SUBMITTED"
  | .windowBound => "WINDOW_BOUND"
  | .promptSubmitted => "PROMPT_SUBMITTED"
  | .reconcileRequired => "RECONCILE_REQUIRED"
  | .completed => "COMPLETED"
  | .failed => "FAILED"

def ChildSpawnAttemptState.Unresolved (state : ChildSpawnAttemptState) : Prop :=
  state ∈ [.armed, .windowOpenSubmitted, .windowBound, .promptSubmitted, .reconcileRequired]

instance ChildSpawnAttemptState.decidableUnresolved (state : ChildSpawnAttemptState) : Decidable state.Unresolved :=
  inferInstanceAs (Decidable (_ ∈ _))

structure ChildSpawnAttempt where
  attemptId : String
  childTaskId : String
  state : ChildSpawnAttemptState
  ownerToken : String
  projectUrl : String
  projectId : String
  taggedProjectUrl : String
  promptSha256 : String
  chromeExecutable : String
  createdAt : Time
  updatedAt : Time
  windowHandle : Option Int := none
  browserPid : Option Int := none
  conversationUrl : Option String := none
  workerId : Option String := none
  lastError : Option String := none
  metadata : Metadata := []
  deriving DecidableEq

/-- A row of `child_spawn_attempts`. The payload is the record; its state is
repeated in a column of its own, which can be written without the payload and
the payload without it. -/
structure ChildSpawnRow where
  state : ChildSpawnAttemptState
  payload : ChildSpawnAttempt
  deriving DecidableEq

def ChildSpawnRow.attemptId (row : ChildSpawnRow) : String := row.payload.attemptId

/-- The value of a row in `idx_child_spawn_attempts_one_unresolved`. -/
def ChildSpawnRow.unresolvedTask (row : ChildSpawnRow) : Option String :=
  if row.state.Unresolved then some row.payload.childTaskId else none

/-- A row of `runtime_cooldowns`, without its metadata. -/
structure RuntimeCooldown where
  name : String
  untilAt : Time
  reason : String
  updatedAt : Time
  deriving DecidableEq

/-- A row of `watchdog_leases`. -/
structure WatchdogLease where
  name : String
  ownerId : String
  pid : Int
  host : String
  startedAt : Time
  heartbeatAt : Time
  expiresAt : Time
  deriving DecidableEq

end WebSupervisor
