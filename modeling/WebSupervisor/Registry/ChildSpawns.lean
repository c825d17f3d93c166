import WebSupervisor.Registry.Replacements

/-! The child spawn methods of `registry.py`, and the two calls of
`child_spawn.py` that take authority through them. Reads and writes are separate
statements. -/

namespace WebSupervisor.Registry
open Library

def getChildSpawnAttempt (db : Database) (attemptId : String) : Except SupervisorError ChildSpawnAttempt :=
  match db.childSpawnAttempts.find? attemptId with
  | none => .error (.key ("unknown child spawn attempt: " ++ attemptId))
  | some row => .ok row.payload

def insertChildSpawnAttempt (attempt : ChildSpawnAttempt) : Transaction Unit := fun db =>
  match db.childSpawnAttempts.insert { state := attempt.state, payload := attempt } with
  | .error .key => .error (.integrity "UNIQUE constraint failed: child_spawn_attempts.attempt_id")
  | .error .index => .error (.integrity "UNIQUE constraint failed: child_spawn_attempts.child_task_id")
  | .ok childSpawnAttempts => .ok ((), { db with childSpawnAttempts })

/-- `UPDATE … WHERE attempt_id = ?` of one row. -/
def writeSpawnRow (attemptId : String) (change : ChildSpawnRow → ChildSpawnRow) : Transaction Unit := fun db =>
  match db.childSpawnAttempts.find? attemptId with
  | none => .error (.key ("unknown child spawn attempt: " ++ attemptId))
  | some row =>
    match db.childSpawnAttempts.replace? (change row) with
    | none => .error (.integrity "UNIQUE constraint failed: child_spawn_attempts.child_task_id")
    | some childSpawnAttempts => .ok ((), { db with childSpawnAttempts })

/-- The write of both the state column and the payload. -/
def replaceChildSpawnAttempt (attempt : ChildSpawnAttempt) : Transaction Unit :=
  writeSpawnRow attempt.attemptId (fun _ => { state := attempt.state, payload := attempt })

/-- The write of the payload alone. -/
def replaceSpawnPayload (attempt : ChildSpawnAttempt) : Transaction Unit :=
  writeSpawnRow attempt.attemptId (fun row => { row with payload := attempt })

/-- The write of the state column alone. -/
def repairSpawnState (attempt : ChildSpawnAttempt) : Transaction Unit :=
  writeSpawnRow attempt.attemptId (fun row => { row with state := attempt.state })

/-- The states that an attempt may go to. -/
def ChildSpawnAttemptState.allowed : ChildSpawnAttemptState → List ChildSpawnAttemptState
  | .armed => [.windowOpenSubmitted, .failed]
  | .windowOpenSubmitted => [.windowBound, .reconcileRequired, .failed]
  | .windowBound => [.promptSubmitted, .reconcileRequired, .failed]
  | .promptSubmitted => [.windowBound, .completed, .reconcileRequired]
  | .reconcileRequired => [.windowBound, .completed, .reconcileRequired]
  | .completed | .failed => []

/-- The arguments of an update after the attempt id. -/
structure SpawnUpdate where
  state : ChildSpawnAttemptState
  windowHandle : Option Int := none
  browserPid : Option Int := none
  conversationUrl : Option String := none
  workerId : Option String := none
  lastError : Option String := none
  metadataUpdates : Metadata := []
  deriving DecidableEq

def requireAllowedSpawn (attempt : ChildSpawnAttempt) (state : ChildSpawnAttemptState) : Except SupervisorError Unit :=
  refuse (state ≠ attempt.state ∧ state ∉ ChildSpawnAttemptState.allowed attempt.state)
    (.runtime ("invalid child spawn transition " ++ attempt.state.value ++ " -> " ++ state.value))

def updatedSpawn (attempt : ChildSpawnAttempt) (update : SpawnUpdate) (now : Time) : ChildSpawnAttempt :=
  { attempt with
    state := update.state
    updatedAt := now
    windowHandle := update.windowHandle.or attempt.windowHandle
    browserPid := update.browserPid.or attempt.browserPid
    conversationUrl := givenText update.conversationUrl attempt.conversationUrl
    workerId := givenText update.workerId attempt.workerId
    lastError := (update.lastError.map (clip 1000)).or attempt.lastError
    metadata := attempt.metadata.update update.metadataUpdates }

/-- The rows of a child as the scan for an unresolved attempt selects them:
`ORDER BY created_at DESC, attempt_id DESC`. -/
def spawnRows (db : Database) (childTaskId : String) : List (String × ChildSpawnAttemptState) :=
  let rows := db.childSpawnAttempts.rows.filter (fun row => row.payload.childTaskId = childTaskId)
  let latest := rows.insertionSort (fun first second =>
    second.payload.createdAt < first.payload.createdAt ∨
      second.payload.createdAt = first.payload.createdAt ∧ second.attemptId ≤ first.attemptId)
  latest.map (fun row => (row.attemptId, row.state))

/-- The rest of the scan after a first repair, which holds the database until
it commits. -/
def repairingScan : List (String × ChildSpawnAttemptState) → Transaction (Option ChildSpawnAttempt)
  | [], db => .ok (none, db)
  | (attemptId, column) :: rest, db => do
    let attempt ← getChildSpawnAttempt db attemptId
    let (_, db) ← if column ≠ attempt.state then repairSpawnState attempt db else .ok ((), db)
    if attempt.state.Unresolved then
      .ok (some attempt, db)
    else
      repairingScan rest db

/-- The first repair and what follows it. -/
def repairAndScan (attempt : ChildSpawnAttempt) (rest : List (String × ChildSpawnAttemptState)) :
    Transaction (Option ChildSpawnAttempt) := fun db => do
  let (_, db) ← repairSpawnState attempt db
  if attempt.state.Unresolved then
    .ok (some attempt, db)
  else
    repairingScan rest db

section Programs
open Program
variable {ρ : Type} {ω : ρ → Type}

/-- The scan reads the payload of every row and trusts it over the column. -/
def scanSpawns : List (String × ChildSpawnAttemptState) →
    ExceptT SupervisorError (Program Database ω) (Option ChildSpawnAttempt)
  | [] => pure none
  | (attemptId, column) :: rest => do
    let attempt ← check (fun db => getChildSpawnAttempt db attemptId)
    if column ≠ attempt.state then
      transaction (repairAndScan attempt rest)
    else if attempt.state.Unresolved then
      pure (some attempt)
    else
      scanSpawns rest

def unresolvedChildSpawnAttempt (childTaskId : String) :
    ExceptT SupervisorError (Program Database ω) (Option ChildSpawnAttempt) := do
  let rows ← check (fun db => .ok (spawnRows db childTaskId))
  scanSpawns rows

def recordChildSpawnAttempt (attempt : ChildSpawnAttempt) :
    ExceptT SupervisorError (Program Database ω) ChildSpawnAttempt := do
  let _ ← check (fun db => getChildDispatch db attempt.childTaskId)
  ensure (refuse (attempt.state ≠ .armed) (.value "child spawn attempt must be ARMED before durable recording"))
  let unresolved ← unresolvedChildSpawnAttempt attempt.childTaskId
  ensure (refuse (unresolved ≠ none) (.runtime "child task already has an unresolved spawn attempt"))
  transaction (insertChildSpawnAttempt attempt)
  check (fun db => getChildSpawnAttempt db attempt.attemptId)

def annotateChildSpawnAttempt (attemptId : String) (metadataUpdates : Metadata) (now : Time) :
    ExceptT SupervisorError (Program Database ω) ChildSpawnAttempt := do
  let attempt ← check (fun db => getChildSpawnAttempt db attemptId)
  transaction (replaceSpawnPayload
    { attempt with metadata := attempt.metadata.update metadataUpdates, updatedAt := now })
  check (fun db => getChildSpawnAttempt db attemptId)

/-- An update to the state that the attempt already has is a write like any other. -/
def updateChildSpawnAttempt (attemptId : String) (update : SpawnUpdate) (now : Time) :
    ExceptT SupervisorError (Program Database ω) ChildSpawnAttempt := do
  let attempt ← check (fun db => getChildSpawnAttempt db attemptId)
  ensure (requireAllowedSpawn attempt update.state)
  transaction (replaceChildSpawnAttempt (updatedSpawn attempt update now))
  check (fun db => getChildSpawnAttempt db attemptId)

/-- The record that is returned authorises one window. -/
def submitChildSpawnOpen (attemptId : String) (now : Time) :
    ExceptT SupervisorError (Program Database ω) ChildSpawnAttempt := do
  let attempt ← check (fun db => getChildSpawnAttempt db attemptId)
  ensure (refuse (attempt.state ≠ .armed) (.runtime ("child spawn " ++ attemptId ++ " is not ARMED")))
  updateChildSpawnAttempt attemptId { state := .windowOpenSubmitted } now

/-- The record and the text that are returned authorise one send. -/
def submitChildSpawnPrompt (attemptId : String) (now : Time) :
    ExceptT SupervisorError (Program Database ω) (ChildSpawnAttempt × String) := do
  let attempt ← check (fun db => getChildSpawnAttempt db attemptId)
  ensure (refuse (attempt.state ≠ .windowBound) (.runtime "child spawn project window is not durably bound"))
  let dispatch ← check (fun db => getChildDispatch db attempt.childTaskId)
  ensure (refuse (dispatch.promptSha256 ≠ attempt.promptSha256)
    (.childSpawnBlocked ["persisted child prompt changed after spawn was armed"]))
  let submitted ← updateChildSpawnAttempt attemptId { state := .promptSubmitted } now
  pure (submitted, dispatch.promptText)

end Programs

end WebSupervisor.Registry
