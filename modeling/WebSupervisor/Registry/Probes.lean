import WebSupervisor.Registry.Workers

/-! The probe mutation methods of `registry.py`. Each is one transaction; the
record that a method returns is the row it leaves. -/

namespace WebSupervisor.Registry
open Library

def getProbeMutationOperation (db : Database) (operationId : String) : Except SupervisorError ProbeMutationOperation :=
  match db.probeMutationOperations.find? operationId with
  | none => .error (.key ("unknown probe mutation operation: " ++ operationId))
  | some operation => .ok operation

/-- At most one row is unresolved, so that the order of the query does not matter. -/
def unresolvedProbeMutationOperation (db : Database) : Option ProbeMutationOperation :=
  db.probeMutationOperations.rows.find? (fun operation => operation.state.Unresolved)

/-- The one durable slot. -/
def currentProbeSlot (db : Database) : Except SupervisorError (Option ProbeWindowSlotBinding) :=
  match db.probeWindowSlots.rows with
  | [] => .ok none
  | [slot] => .ok (some slot)
  | _ => .error (.runtime "multiple durable probe slots require reconciliation")

def insertProbeMutationOperation (db : Database) (operation : ProbeMutationOperation) :
    Except SupervisorError Database := do
  refuse (∃ old ∈ db.probeMutationOperations.rows, old.nonce = operation.nonce)
    (SupervisorError.integrity "UNIQUE constraint failed: probe_mutation_operations.nonce")
  match db.probeMutationOperations.insert operation with
  | .error .key => .error (.integrity "UNIQUE constraint failed: probe_mutation_operations.operation_id")
  | .error .index => .error (.integrity "UNIQUE constraint failed: index 'idx_probe_mutation_one_unresolved'")
  | .ok probeMutationOperations => .ok { db with probeMutationOperations }

/-- The checks of an operation before the transaction that arms it. -/
def requireArmable (operation : ProbeMutationOperation) : Except SupervisorError Unit := do
  refuse (operation.state ≠ .armed) (.value "probe mutation must be ARMED before durable recording")
  refuse (strip operation.operationId = "" ∨ strip operation.nonce = "")
    (.value "probe mutation requires operation id and nonce")
  refuse (strip operation.slotId = "" ∨ strip operation.ownerToken = "")
    (.value "probe mutation requires slot id and owner token")
  refuse (strip operation.expectedChromeExecutable = "")
    (.value "probe mutation requires an expected Chrome executable")
  refuse (operation.kind ≠ .close ∧ strip operation.expectedActualUrl = "")
    (.value "OPEN/ROTATE mutation requires an expected tagged target")

def requireParkedTarget (db : Database) (operation : ProbeMutationOperation) : Except SupervisorError Unit := do
  let _ ← getTask db operation.targetTaskId
  let worker ← getWorker db operation.targetWorkerId
  refuse (worker.taskId ≠ operation.targetTaskId) (.value "probe mutation worker belongs to a different task")
  refuse (worker.status ≠ .parked) (.value "probe mutation requires a parked target worker")
  refuse (rstripSlash worker.conversationUrl ≠ rstripSlash operation.targetConversationUrl)
    (.value "probe mutation target URL no longer matches the worker")

/-- The slot that an operation starts from is the durable one. -/
def requirePriorSlot (operation : ProbeMutationOperation) (current : Option ProbeWindowSlotBinding) :
    Except SupervisorError Unit :=
  if operation.kind = .openNew then
    refuse (operation.priorSlot ≠ none ∨ current ≠ none)
      (.runtime "OPEN mutation requires no existing durable probe slot")
  else do
    refuse (operation.priorSlot = none) (.value "ROTATE/CLOSE mutation requires a prior slot snapshot")
    refuse (current ≠ operation.priorSlot) (.runtime "durable probe slot changed before mutation could be armed")

def armProbeMutationOperation (operation : ProbeMutationOperation) : Transaction ProbeMutationOperation := fun db => do
  requireArmable operation
  requireParkedTarget db operation
  match unresolvedProbeMutationOperation db with
  | some unresolved => .error (.runtime ("unresolved probe mutation already exists: " ++ unresolved.operationId))
  | none =>
    let current ← currentProbeSlot db
    requirePriorSlot operation current
    let db ← insertProbeMutationOperation db operation
    pure (operation, db)

def saveProbeMutationOperation (operation : ProbeMutationOperation) : Transaction ProbeMutationOperation := fun db =>
  match db.probeMutationOperations.find? operation.operationId with
  | none => .error (.key ("unknown probe mutation operation: " ++ operation.operationId))
  | some _ =>
    match db.probeMutationOperations.replace? operation with
    | none => .error (.integrity "UNIQUE constraint failed: index 'idx_probe_mutation_one_unresolved'")
    | some probeMutationOperations => .ok (operation, { db with probeMutationOperations })

def authorizeProbeClose (operationId : String) (now : Time) : Transaction ProbeMutationOperation := fun db => do
  let operation ← getProbeMutationOperation db operationId
  refuse (operation.kind ∉ [.rotate, .close]) (.runtime "probe operation does not contain a CLOSE phase")
  refuse (operation.state ≠ .armed) (.runtime ("probe operation " ++ operationId ++ " is not ARMED"))
  saveProbeMutationOperation { operation with state := .closeSubmitted, updatedAt := now } db

def authorizeProbeOpen (operationId : String) (now : Time) : Transaction ProbeMutationOperation := fun db => do
  let operation ← getProbeMutationOperation db operationId
  refuse (¬ (operation.kind = .openNew ∧ operation.state = .armed ∨
      operation.kind = .rotate ∧ operation.state = .readyToOpen))
    (.runtime ("probe operation " ++ operationId ++ " is not ready for OPEN"))
  saveProbeMutationOperation { operation with state := .openSubmitted, resumeState := none, updatedAt := now } db

section Completion
variable (casefold : String → String)

def validateProbeCompletionBinding (operation : ProbeMutationOperation) (binding : ProbeWindowSlotBinding) :
    Except SupervisorError Unit := do
  refuse (binding.slotId ≠ operation.slotId) (.value "completion binding uses the wrong probe slot")
  refuse (binding.ownerToken ≠ operation.ownerToken) (.value "completion binding uses the wrong ownership token")
  refuse (binding.targetWorkerId ≠ operation.targetWorkerId)
    (.value "completion binding uses the wrong target worker")
  refuse (rstripSlash binding.targetConversationUrl ≠ rstripSlash operation.targetConversationUrl)
    (.value "completion binding uses the wrong target conversation")
  refuse (rstripSlash binding.actualUrl ≠ rstripSlash operation.expectedActualUrl)
    (.value "completion binding does not match the expected tagged target")
  refuse (casefold binding.chromeExecutable ≠ casefold operation.expectedChromeExecutable)
    (.value "completion binding executable identity changed")
  refuse (binding.windowHandle ≤ 0 ∨ binding.browserPid ≤ 0)
    (.value "completion binding requires positive HWND and browser PID")

/-- The binding that a completion publishes; none for a CLOSE. -/
def requireCompletionBinding (operation : ProbeMutationOperation) (binding : Option ProbeWindowSlotBinding) :
    Except SupervisorError Unit :=
  match operation.kind, binding with
  | .close, none => .ok ()
  | .close, some _ => .error (.value "CLOSE completion must not provide a replacement binding")
  | _, none => .error (.value "OPEN/ROTATE completion requires an exact observed binding")
  | _, some binding => validateProbeCompletionBinding casefold operation binding

def requireUnchangedSlot (operation : ProbeMutationOperation) (current : Option ProbeWindowSlotBinding) :
    Except SupervisorError Unit :=
  if operation.kind = .openNew then
    refuse (current ≠ none) (.runtime "durable probe slot appeared while OPEN was unresolved")
  else
    refuse (current ≠ operation.priorSlot) (.runtime "durable probe slot changed while mutation was unresolved")

/-- `INSERT … ON CONFLICT` of the new slot, or `DELETE` for a CLOSE. -/
def publishProbeSlot (db : Database) (operation : ProbeMutationOperation) (binding : Option ProbeWindowSlotBinding) :
    Database :=
  match binding with
  | none => { db with probeWindowSlots := db.probeWindowSlots.delete operation.slotId }
  | some binding => { db with probeWindowSlots := db.probeWindowSlots.upsert binding }

/-- `_complete_probe_mutation_locked`. -/
def completeProbeMutationLocked (operation : ProbeMutationOperation) (binding : Option ProbeWindowSlotBinding)
    (ts : Time) (outcome : Option String) (reconciled : Bool) : Transaction ProbeMutationOperation := fun db => do
  requireCompletionBinding casefold operation binding
  let current ← currentProbeSlot db
  requireUnchangedSlot operation current
  saveProbeMutationOperation
    { operation with
      state := .completed
      resumeState := none
      updatedAt := ts
      lastOutcome := (outcome.map (clip 200)).or operation.lastOutcome
      reconcileAttempts := if reconciled then operation.reconcileAttempts + 1 else operation.reconcileAttempts
      lastReconcileAt := if reconciled then some ts else operation.lastReconcileAt
      lastError := none }
    (publishProbeSlot db operation binding)

/-- The authority that a direct result needs. -/
def requireCompletionAuthority (operation : ProbeMutationOperation) : Except SupervisorError Unit :=
  if operation.kind ∈ [.openNew, .rotate] then
    refuse (operation.state ≠ .openSubmitted)
      (.runtime "replacement binding may complete only after durable OPEN authority")
  else
    refuse (operation.state ≠ .closeSubmitted) (.runtime "CLOSE may complete only after durable CLOSE authority")

def completeProbeMutationOperation (operationId : String) (binding : Option ProbeWindowSlotBinding) (now : Time)
    (outcome : Option String) : Transaction ProbeMutationOperation := fun db => do
  let operation ← getProbeMutationOperation db operationId
  if operation.state = .completed then
    pure (operation, db)
  else
    refuse (¬ operation.state.Unresolved) (.runtime ("probe operation " ++ operationId ++ " is already terminal"))
    requireCompletionAuthority operation
    completeProbeMutationLocked casefold operation binding now outcome false db

/-- The read of a failing call and its check. -/
def requireFailable (operationId : String) (db : Database) : Except SupervisorError ProbeMutationOperation := do
  let operation ← getProbeMutationOperation db operationId
  refuse (operation.state ≠ .armed)
    (.runtime "probe mutation may fail terminally only before mutation authority")
  pure operation

def failedOperation (operation : ProbeMutationOperation) (reason : String) (now : Time) : ProbeMutationOperation :=
  { operation with state := .failed, lastError := some (clip 1000 reason), updatedAt := now }

def failProbeMutationOperation (operationId reason : String) (now : Time) :
    Transaction ProbeMutationOperation := fun db => do
  let operation ← requireFailable operationId db
  saveProbeMutationOperation (failedOperation operation reason now) db

/-- The operation after a decision that does not complete it. -/
def applyProbeDecision (operation : ProbeMutationOperation) (observation : ProbeMutationObservation)
    (decision : ProbeReconcileDecision) : ProbeMutationOperation :=
  { operation with
    state := decision.nextState
    resumeState :=
      if decision.nextState = .reconcileRequired then
        if operation.state ≠ .reconcileRequired then some operation.state.value else operation.resumeState
      else
        none
    lastError := if decision.nextState = .reconcileRequired then some (clip 1000 decision.reason) else none
    updatedAt := max operation.updatedAt observation.observedAt
    reconcileAttempts := operation.reconcileAttempts + 1
    lastReconcileAt := some observation.observedAt
    lastOutcome := some decision.outcome.value }

/-- `current` is the clock that the decision reads. -/
def reconcileProbeMutationOperation (operationId : String) (observation : ProbeMutationObservation) (current : Time) :
    Transaction ProbeMutationOperation := fun db => do
  let operation ← getProbeMutationOperation db operationId
  if ¬ operation.state.Unresolved then
    pure (operation, db)
  else
    let decision := decideProbeReconciliation casefold operation observation current
    if decision.nextState = .completed then
      completeProbeMutationLocked casefold operation decision.adoptBinding
        (max operation.updatedAt observation.observedAt) (some decision.outcome.value) true db
    else
      saveProbeMutationOperation (applyProbeDecision operation observation decision) db

/-- One call of a probe mutation method. -/
inductive ProbeMethod where
  | arm (operation : ProbeMutationOperation)
  | authorizeOpen (operationId : String) (now : Time)
  | authorizeClose (operationId : String) (now : Time)
  | complete (operationId : String) (binding : Option ProbeWindowSlotBinding) (now : Time) (outcome : Option String)
  | fail (operationId reason : String) (now : Time)
  | reconcile (operationId : String) (observation : ProbeMutationObservation) (current : Time)

def ProbeMethod.transaction : ProbeMethod → Transaction ProbeMutationOperation
  | .arm operation => armProbeMutationOperation operation
  | .authorizeOpen operationId now => authorizeProbeOpen operationId now
  | .authorizeClose operationId now => authorizeProbeClose operationId now
  | .complete operationId binding now outcome => completeProbeMutationOperation casefold operationId binding now outcome
  | .fail operationId reason now => failProbeMutationOperation operationId reason now
  | .reconcile operationId observation current =>
    reconcileProbeMutationOperation casefold operationId observation current

end Completion

/-- The slot is fenced while a mutation is unresolved. -/
def requireNoProbeMutation (db : Database) : Except SupervisorError Unit :=
  match unresolvedProbeMutationOperation db with
  | none => .ok ()
  | some unresolved =>
    .error (.runtime ("probe slot is fenced by unresolved mutation " ++ unresolved.operationId))

/-- The arguments of a binding. -/
structure ProbeSlotArgs where
  slotId : String
  ownerToken : String
  targetWorkerId : String
  targetConversationUrl : String
  actualUrl : String
  windowHandle : Int
  browserPid : Int
  chromeExecutable : String
  source : String := "windows_uia_lws_probe"
  observedAt : Time
  ttlSeconds : Time := 120

def requireOnlySlot (db : Database) (slotId : String) : Except SupervisorError Unit :=
  match db.probeWindowSlots.rows.find? (·.slotId ≠ slotId) with
  | none => .ok ()
  | some other =>
    .error (.value ("LWS supports only one durable probe slot; existing slot is " ++ other.slotId))

/-- A slot that exists keeps the time at which it was bound. -/
def bindProbeWindowSlot (args : ProbeSlotArgs) : Transaction ProbeWindowSlotBinding := fun db => do
  requireNoProbeMutation db
  let worker ← getWorker db args.targetWorkerId
  refuse (worker.status ≠ .parked) (.value "probe slot binding requires a parked worker")
  requireOnlySlot db args.slotId
  refuse (strip args.slotId = "" ∨ strip args.ownerToken = "")
    (.value "probe slot requires non-empty slot id and owner token")
  refuse (args.windowHandle ≤ 0 ∨ args.browserPid ≤ 0) (.value "probe slot requires positive HWND and browser PID")
  refuse (strip args.chromeExecutable = "") (.value "probe slot requires a Chrome executable path")
  refuse (rstripSlash worker.conversationUrl ≠ rstripSlash args.targetConversationUrl)
    (.value "probe slot target URL must match the registered worker URL")
  let existing := db.probeWindowSlots.find? args.slotId
  let slot : ProbeWindowSlotBinding :=
    { slotId := args.slotId, ownerToken := args.ownerToken, targetWorkerId := args.targetWorkerId,
      targetConversationUrl := args.targetConversationUrl, actualUrl := args.actualUrl,
      windowHandle := args.windowHandle, browserPid := args.browserPid, chromeExecutable := args.chromeExecutable,
      source := args.source, boundAt := (existing.map (·.boundAt)).getD args.observedAt, observedAt := args.observedAt,
      expiresAt := args.observedAt + max 1 args.ttlSeconds }
  pure (slot, { db with probeWindowSlots := db.probeWindowSlots.upsert slot })

def clearProbeWindowSlot (slotId : String) : Transaction Bool := fun db => do
  requireNoProbeMutation db
  pure ((db.probeWindowSlots.find? slotId).isSome, { db with probeWindowSlots := db.probeWindowSlots.delete slotId })

section Programs
open Program
variable {ρ : Type} {ω : ρ → Type}

/-- The statements of a failing call. It is the one method that does not hold
the database from its read to its write. -/
def failProbeMutationSteps (operationId reason : String) (now : Time) :
    ExceptT SupervisorError (Program Database ω) ProbeMutationOperation := do
  let operation ← check (requireFailable operationId)
  let _ ← transaction (saveProbeMutationOperation (failedOperation operation reason now))
  check (fun db => getProbeMutationOperation db operationId)

end Programs

end WebSupervisor.Registry
