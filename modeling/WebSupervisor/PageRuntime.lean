import WebSupervisor.Urls
import WebSupervisor.ProbeOps
import WebSupervisor.Errors
import WebSupervisor.Library.Checks

/-! Planning of the one probe slot and the operations that are built from a
plan, from `page_runtime.py`. The random tokens are arguments. -/

namespace WebSupervisor.PageRuntime
open Library

def probeSlotSource : String := "windows_uia_lws_probe"

inductive ProbeSlotAction where
  | reuse | openNew | rotate | blocked
  deriving DecidableEq

structure ProbeSlotPlan where
  slotId : String
  workerId : String
  targetConversationUrl : String
  action : ProbeSlotAction
  mutationRequired : Bool
  reason : String
  checks : List (String × Bool)
  ownerToken : Option String := none
  deriving DecidableEq

/-- The schemes that a host follows. -/
def usesNetloc : List String :=
  ["", "ftp", "http", "gopher", "nntp", "telnet", "imap", "wais", "file", "mms", "https", "shttp", "snews", "prospero",
    "rtsp", "rtspu", "rsync", "svn", "svn+ssh", "sftp", "nfs", "git", "git+ssh", "ws", "wss", "itms-services"]

def urlunsplit (url : SplitResult) : String :=
  let rooted := if url.path ≠ "" ∧ url.path.toList.head? ≠ some '/' then "/" ++ url.path else url.path
  let hosted := url.netloc ≠ "" ∨ url.scheme ≠ "" ∧ url.scheme ∈ usesNetloc ∧ url.path.toList.take 2 ≠ ['/', '/']
  let address := if hosted then "//" ++ url.netloc ++ rooted else url.path
  let scheme := if url.scheme = "" then "" else url.scheme ++ ":"
  let query := if url.query = "" then "" else "?" ++ url.query
  let fragment := if url.fragment = "" then "" else "#" ++ url.fragment
  scheme ++ address ++ query ++ fragment

/-- `urlsplit`, which may raise. -/
def splitUrl (url : String) : Except SupervisorError SplitResult :=
  match urlsplit url with
  | none => .error (.value "Invalid URL")
  | some parsed => .ok parsed

/-- `_conversation_identity`. -/
def conversationIdentity (url : String) : Except SupervisorError (Option (String × String)) := do
  let parsed ← splitUrl (strip url)
  if lower parsed.scheme ≠ "https" ∨ lower parsed.netloc ≠ "chatgpt.com" then
    pure none
  else
    match conversationIdFromUrl url with
    | none => pure none
    | some conversationId => pure (some (lower parsed.netloc, lower conversationId))

def taggedProbeUrl (conversationUrl slotId ownerToken : String) : Except SupervisorError String := do
  let identity ← conversationIdentity conversationUrl
  refuse (identity = none) (.value "probe slot requires an https://chatgpt.com/c/... conversation URL")
  refuse (strip slotId = "" ∨ strip ownerToken = "") (.value "probe slot tag requires slot id and owner token")
  let parsed ← splitUrl (strip conversationUrl)
  pure (urlunsplit { parsed with fragment := "lws-probe=" ++ slotId ++ ":" ++ ownerToken })

example : taggedProbeUrl "https://chatgpt.com/c/0123456789abcdef?m=1#x" "probe:default" "t" =
    .ok "https://chatgpt.com/c/0123456789abcdef?m=1#lws-probe=probe:default:t" := by
  decide +kernel

/-- Every exception that the tag raises is a `ValueError`. -/
def slotOwnsActualUrl (slot : ProbeWindowSlotBinding) : Bool :=
  match taggedProbeUrl slot.targetConversationUrl slot.slotId slot.ownerToken with
  | .error _ => false
  | .ok expected => rstripSlash slot.actualUrl = rstripSlash expected

def slotIsFresh (slot : ProbeWindowSlotBinding) (now : Time) : Bool :=
  decide (slot.boundAt ≤ slot.observedAt ∧ slot.observedAt ≤ now ∧ now < slot.expiresAt ∧
    slot.observedAt ≤ slot.expiresAt)

/-- The plan for a worker and the slot that was read. -/
def planProbeSlot (worker : WorkerRecord) (existing : Option ProbeWindowSlotBinding) (slotId : String) (now : Time)
    (token : String) : Except SupervisorError ProbeSlotPlan := do
  let identity ← conversationIdentity worker.conversationUrl
  let checks := [("worker_is_parked", decide (worker.status = .parked)), ("target_is_web_conversation", identity.isSome)]
  let plan (action : ProbeSlotAction) (mutationRequired : Bool) (reason : String) (checks : List (String × Bool))
      (ownerToken : Option String) : ProbeSlotPlan :=
    { slotId, workerId := worker.workerId, targetConversationUrl := worker.conversationUrl, action, mutationRequired,
      reason, checks, ownerToken }
  if checks.any (fun check => !check.2) then
    pure (plan .blocked false
      "probe slots are only for parked workers with an existing web chat conversation URL" checks none)
  else
    match existing with
    | none =>
      pure (plan .openNew true "no probe slot is bound; open exactly one tagged LWS probe window" checks (some token))
    | some slot =>
      let checks := checks ++
        [("slot_id_matches", decide (slot.slotId = slotId)), ("slot_source_owned", decide (slot.source = probeSlotSource)),
         ("slot_fresh", slotIsFresh slot now), ("slot_owner_tag_matches", slotOwnsActualUrl slot)]
      if checks.any (fun check => !check.2) then
        pure (plan .blocked false ("existing probe slot is stale, ambiguous, or no longer proves LWS ownership; " ++
          "reconcile it before opening another window") checks (some slot.ownerToken))
      else if slot.targetWorkerId ≠ worker.workerId then
        pure (plan .rotate true "rotate the single LWS probe slot by exact-close-before-open"
          (checks ++ [("same_target", false)]) (some token))
      else
        let target ← conversationIdentity slot.targetConversationUrl
        if target = identity then
          pure (plan .reuse false "fresh LWS-owned probe slot already targets this parked worker"
            (checks ++ [("same_target", true)]) (some slot.ownerToken))
        else
          pure (plan .rotate true "rotate the single LWS probe slot by exact-close-before-open"
            (checks ++ [("same_target", false)]) (some token))

/-- What a builder of an operation is given beside the plan. The identifiers are
those it would draw when none are given. -/
structure OperationArgs where
  chromeExecutable : String
  now : Time
  operationId : String
  nonce : String
  slotTtlS : Time := 120

def probeOperationFromPlan (worker : WorkerRecord) (plan : ProbeSlotPlan) (existing : Option ProbeWindowSlotBinding)
    (args : OperationArgs) : Except SupervisorError ProbeMutationOperation := do
  refuse (plan.workerId ≠ worker.workerId ∨ plan.targetConversationUrl ≠ worker.conversationUrl)
    (.value "probe plan no longer matches its worker")
  refuse (plan.action ∉ [.openNew, .rotate]) (.value "only OPEN/ROTATE plans create probe mutation operations")
  let ownerToken := plan.ownerToken.getD ""
  refuse (ownerToken = "") (.value "mutating probe plan requires an ownership token")
  refuse (plan.action = .openNew ∧ existing ≠ none) (.value "OPEN operation must not have a prior slot")
  refuse (plan.action = .rotate ∧ existing = none) (.value "ROTATE operation requires the prior slot")
  let expectedActualUrl ← taggedProbeUrl worker.conversationUrl plan.slotId ownerToken
  pure
    { operationId := args.operationId
      nonce := args.nonce
      kind := if plan.action = .openNew then .openNew else .rotate
      state := .armed
      slotId := plan.slotId
      targetTaskId := worker.taskId
      targetWorkerId := worker.workerId
      targetConversationUrl := worker.conversationUrl
      ownerToken
      expectedActualUrl
      expectedChromeExecutable := args.chromeExecutable
      source := probeSlotSource
      priorSlot := existing
      createdAt := args.now
      updatedAt := args.now
      slotTtlS := max 1 args.slotTtlS }

def probeCloseOperation (worker : WorkerRecord) (existing : ProbeWindowSlotBinding) (now : Time)
    (operationId nonce : String) : Except SupervisorError ProbeMutationOperation := do
  refuse (worker.status ≠ .parked) (.value "probe CLOSE requires a parked worker")
  refuse (existing.targetWorkerId ≠ worker.workerId) (.value "probe CLOSE worker does not own the durable slot")
  refuse (slotOwnsActualUrl existing = false) (.value "probe CLOSE requires an exact LWS ownership tag")
  pure
    { operationId
      nonce
      kind := .close
      state := .armed
      slotId := existing.slotId
      targetTaskId := worker.taskId
      targetWorkerId := worker.workerId
      targetConversationUrl := worker.conversationUrl
      ownerToken := existing.ownerToken
      expectedActualUrl := ""
      expectedChromeExecutable := existing.chromeExecutable
      source := existing.source
      priorSlot := some existing
      createdAt := now
      updatedAt := now
      slotTtlS := max 1 (existing.expiresAt - existing.observedAt) }

end WebSupervisor.PageRuntime
