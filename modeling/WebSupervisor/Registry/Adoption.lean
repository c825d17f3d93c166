import WebSupervisor.Registry.ChildSpawns

/-! `adopt_child_worker` of `registry.py`, which registers and claims the worker of
one conversation in two transactions, and the list of the spawns of a child. -/

namespace WebSupervisor.Registry
open Library WorkerProtocol WorkerPersistence

/-- The arguments of `adopt_child_worker`. The id that a registration draws when it
is given none is an argument. -/
structure AdoptArgs where
  childTaskId : String
  conversationUrl : String
  leaseSeconds : Time := 7200
  workerId : Option String := none
  generated : String
  now : Time

/-- `SELECT attempt_id … ORDER BY created_at DESC, attempt_id LIMIT ?`. -/
def childSpawnIds (db : Database) (childTaskId : String) (limit : Nat) : List String :=
  let rows := db.childSpawnAttempts.rows.filter (fun row => row.payload.childTaskId = childTaskId)
  let latest := rows.insertionSort (fun first second =>
    second.payload.createdAt < first.payload.createdAt ∨
      second.payload.createdAt = first.payload.createdAt ∧ first.attemptId ≤ second.attemptId)
  (latest.map (·.attemptId)).take (max 1 (min limit 500))

section Programs
open Program
variable {ρ : Type} {ω : ρ → Type}

def registerChildWorker (args : AdoptArgs) (conversationUrl : String) (state : WorkerTaskState) :
    ExceptT SupervisorError (Program Database ω) (WorkerTaskState × WorkerLease) := do
  let registered ← transaction
    (protocolRegisterWorker args.childTaskId conversationUrl state.revision args.workerId args.generated args.now)
  ensure (refuse (registered.accepted = false)
    (SupervisorError.runtime ("child worker registration rejected: " ++ registered.code.value)))
  match registered.state.workers.find? (·.conversationRef = some conversationUrl) with
  | none => ensure (.error (.raised "StopIteration" ""))
  | some candidate => pure (registered.state, candidate)

def claimChildWorker (args : AdoptArgs) (state : WorkerTaskState) (candidate : WorkerLease) :
    ExceptT SupervisorError (Program Database ω) WorkerTaskState := do
  let claimed ← transaction
    (protocolClaimWorker args.childTaskId candidate.workerId state.revision args.leaseSeconds args.now)
  ensure (refuse (claimed.accepted = false)
    (SupervisorError.runtime ("child worker claim rejected: " ++ claimed.code.value)))
  pure claimed.state

/-- The adoption after its checks, by the workers that have the conversation. -/
def adoptMatching (args : AdoptArgs) (conversationUrl : String) (state : WorkerTaskState) (found : List WorkerLease) :
    ExceptT SupervisorError (Program Database ω) WorkerTaskState :=
  match state.currentWorkerId, found with
  | some current, found =>
    if found.head?.map (·.workerId) = some current then
      pure state
    else
      ensure (.error (.runtime "child already has an authoritative worker; use replacement protocol"))
  | none, candidate :: _ => do
    ensure (refuse (candidate.status ≠ .candidate)
      (SupervisorError.runtime "existing conversation worker is terminal and cannot be re-adopted"))
    claimChildWorker args state candidate
  | none, [] => do
    let (registered, candidate) ← registerChildWorker args conversationUrl state
    claimChildWorker args registered candidate

def adoptChildWorker (args : AdoptArgs) : ExceptT SupervisorError (Program Database ω) WorkerTaskState := do
  let _ ← check (fun db => getChildDispatch db args.childTaskId)
  let conversationUrl := strip args.conversationUrl
  ensure (refuse (conversationUrl = "") (SupervisorError.value "conversation_url must be non-empty"))
  ensure (refuse (args.leaseSeconds ≤ 0) (SupervisorError.value "lease_seconds must be positive"))
  let state ← check (fun db => loadWorkerProtocol db args.childTaskId)
  let found := state.workers.filter (·.conversationRef = some conversationUrl)
  ensure (refuse (1 < found.length)
    (SupervisorError.runtime "multiple protocol workers unexpectedly share the conversation URL"))
  adoptMatching args conversationUrl state found

/-- Each attempt of the list is read on its own. -/
def getSpawns : List String → ExceptT SupervisorError (Program Database ω) (List ChildSpawnAttempt)
  | [] => pure []
  | attemptId :: rest => do
    let attempt ← check (fun db => getChildSpawnAttempt db attemptId)
    let attempts ← getSpawns rest
    pure (attempt :: attempts)

def childSpawnAttempts (childTaskId : String) (limit : Nat) :
    ExceptT SupervisorError (Program Database ω) (List ChildSpawnAttempt) := do
  let ids ← check (fun db => .ok (childSpawnIds db childTaskId limit))
  getSpawns ids

end Programs

end WebSupervisor.Registry
