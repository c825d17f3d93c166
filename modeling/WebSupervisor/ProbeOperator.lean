import WebSupervisor.Registry.Probes

/-! The evidence about a probe mutation that an operator submits, from
`probe_operator.py`, and the command that applies it. The file has been read and
decoded. Every exception of the parser is a `ProbeOperatorEvidenceError`, given
here by its text. -/

namespace WebSupervisor.ProbeOperator
open Library Registry

/-- A decoded JSON value. A `float` that is not finite has no value; an object has
each of its names once. -/
inductive Payload where
  | null
  | bool (value : Bool)
  | int (value : Int)
  | float (value : Option Time)
  | text (value : String)
  | array (items : List Payload)
  | object (entries : List (String × Payload))

def maxMatchesPerTarget : Nat := 8

def maxIdentityText : Nat := 2048

def allowedTopLevel : List String :=
  ["operation_id", "owner_token", "observed_at", "complete", "old_matches", "new_matches"]

def allowedMatchKeys : List String := ["window_handle", "browser_pid", "chrome_executable", "actual_url"]

def classifyProbeOperation : Option ProbeMutationOperation → String
  | none => "NONE"
  | some operation =>
    if operation.state = .completed then "COMPLETED"
    else if operation.state = .reconcileRequired then "BLOCKED"
    else if operation.state.Unresolved then "UNRESOLVED"
    else "TERMINAL"

/-- `payload[name]` of an object that has the name. -/
def Payload.field (entries : List (String × Payload)) (name : String) : Payload :=
  ((entries.find? (fun entry => entry.1 = name)).map Prod.snd).getD .null

/-- What is wrong with the names of an object, if anything: the missing ones and the
surplus ones, each in order. -/
def fieldFault (allowed : List String) (entries : List (String × Payload)) : Option String :=
  let missing := (allowed.filter (fun name => name ∉ entries.map Prod.fst)).insertionSort (· ≤ ·)
  let extra := ((entries.map Prod.fst).filter (fun name => name ∉ allowed)).insertionSort (· ≤ ·)
  if missing = [] ∧ extra = [] then none
  else
    let detail := (if missing = [] then [] else ["missing=" ++ ",".intercalate missing]) ++
      (if extra = [] then [] else ["extra=" ++ ",".intercalate extra])
    some (" (" ++ "; ".intercalate detail ++ ")")

def boundedText (value : Payload) (name : String) : Except String String :=
  match value with
  | .text value =>
    if value = "" then .error (name ++ " must be a non-empty string")
    else if maxIdentityText < value.toList.length then .error (name ++ " exceeds the bounded identity length")
    else .ok value
  | _ => .error (name ++ " must be a non-empty string")

def positiveInt (value : Payload) (name : String) : Except String Int :=
  match value with
  | .int value => if value ≤ 0 then .error (name ++ " must be a positive integer") else .ok value
  | _ => .error (name ++ " must be a positive integer")

def expectedOldUrl (operation : ProbeMutationOperation) : Option String :=
  match operation.priorSlot with
  | none => none
  | some prior => if prior.actualUrl = "" then none else some prior.actualUrl

def parseMatch (raw : Payload) (name : String) (expectedUrl : Option String) : Except String ProbeWindowMatch :=
  match raw with
  | .object entries =>
    match fieldFault allowedMatchKeys entries with
    | some detail => .error (name ++ " match fields are invalid" ++ detail)
    | none => do
      let actualUrl ← boundedText (.field entries "actual_url") (name ++ ".actual_url")
      match expectedUrl with
      | none => .error (name ++ " evidence is not valid for this operation")
      | some expected => do
        refuse (rstripSlash actualUrl ≠ rstripSlash expected) (name ++ ".actual_url does not match this operation")
        let windowHandle ← positiveInt (.field entries "window_handle") (name ++ ".window_handle")
        let browserPid ← positiveInt (.field entries "browser_pid") (name ++ ".browser_pid")
        let chromeExecutable ← boundedText (.field entries "chrome_executable") (name ++ ".chrome_executable")
        pure { windowHandle, browserPid, chromeExecutable, actualUrl }
  | _ => .error (name ++ " entries must be JSON objects")

/-- The entries of the list, with the numbers that they have in it. -/
def parseMatches (name : String) (expectedUrl : Option String) : Nat → List Payload → Except String (List ProbeWindowMatch)
  | _, [] => .ok []
  | index, item :: items => do
    let parsed ← parseMatch item (name ++ "[" ++ toString index ++ "]") expectedUrl
    let rest ← parseMatches name expectedUrl (index + 1) items
    pure (parsed :: rest)

def parseMatchList (raw : Payload) (name : String) (expectedUrl : Option String) : Except String (List ProbeWindowMatch) :=
  match raw with
  | .array items =>
    if maxMatchesPerTarget < items.length then
      .error (name ++ " exceeds the maximum of " ++ toString maxMatchesPerTarget ++ " matches")
    else
      parseMatches name expectedUrl 0 items
  | _ => .error (name ++ " must be a JSON array")

/-- A finite number, as a time. -/
def Payload.time? : Payload → Option Time
  | .int value => some value
  | .float value => value
  | _ => none

def predates : String := "observed_at predates the operation's current durable state"

/-- `now` is the clock that the parser reads. An integer beyond the range of a float is
refused here as too far in the future, where `float(value)` raises `OverflowError`. -/
def parseObservedAt (value : Payload) (operation : ProbeMutationOperation) (now : Time) : Except String Time :=
  match value.time? with
  | none => .error "observed_at must be a finite non-negative number"
  | some observedAt => do
    refuse (observedAt < 0) "observed_at must be a finite non-negative number"
    refuse (observedAt < operation.updatedAt) predates
    refuse (now + 300 < observedAt) "observed_at is implausibly far in the future"
    pure observedAt

def parseProbeReconciliationEvidence (payload : Payload) (operation : ProbeMutationOperation) (now : Time) :
    Except String ProbeMutationObservation :=
  match payload with
  | .object entries =>
    match fieldFault allowedTopLevel entries with
    | some detail => .error ("probe reconciliation evidence fields are invalid" ++ detail)
    | none => do
      let operationId ← boundedText (.field entries "operation_id") "operation_id"
      let ownerToken ← boundedText (.field entries "owner_token") "owner_token"
      refuse (operationId ≠ operation.operationId) "evidence operation_id does not match the requested operation"
      refuse (ownerToken ≠ operation.ownerToken) "evidence owner_token does not match the durable operation"
      let observedAt ← parseObservedAt (.field entries "observed_at") operation now
      match Payload.field entries "complete" with
      | .bool complete => do
        let oldMatches ← parseMatchList (.field entries "old_matches") "old_matches" (expectedOldUrl operation)
        let newMatches ← parseMatchList (.field entries "new_matches") "new_matches"
          (if operation.expectedActualUrl = "" then none else some operation.expectedActualUrl)
        pure { observedAt, oldMatches, newMatches, complete }
      | _ => .error "complete must be a boolean"
  | _ => .error "probe reconciliation evidence must be a JSON object"

/-- One use of `probe-op-reconcile`, with the clocks that the parser and the decision read. -/
structure Submission where
  payload : Payload
  parsedAt : Time
  decidedAt : Time

/-- `probe-op-reconcile`, as far as the registry. -/
def reconcileFromEvidence (casefold : String → String) (operationId : String) (submission : Submission) :
    Transaction ProbeMutationOperation := fun db => do
  let before ← getProbeMutationOperation db operationId
  refuse (classifyProbeOperation (some before) ∈ ["COMPLETED", "TERMINAL"])
    (.value ("probe operation " ++ before.operationId ++ " is terminal in state " ++ before.state.value))
  let observation ← (parseProbeReconciliationEvidence submission.payload before submission.parsedAt).mapError .value
  reconcileProbeMutationOperation casefold before.operationId observation submission.decidedAt db

end WebSupervisor.ProbeOperator
