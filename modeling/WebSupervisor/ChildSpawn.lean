import WebSupervisor.PageRuntime
import WebSupervisor.Registry.Adoption
import WebSupervisor.Registry.Actions
import WebSupervisor.Registry.Probes
import WebSupervisor.Registry.Windows

/-! The first worker of a child in a browser window, from `child_spawn.py`. The
registry is read and written in separate steps; the browser and the clock are asked.
What the browser transport answers is a part of the environment here. -/

namespace WebSupervisor.ChildSpawn
open Library Library.Program Registry WorkerProtocol

def webChildDispatchCooldown : String := "web_child_dispatch"

def defaultRateLimitCooldownS : Time := 120

/-- What a method of the transport reports. -/
structure ChildSpawnExecution where
  changed : Bool
  sideEffectPossible : Bool
  detail : String
  windowHandle : Option Int := none
  browserPid : Option Int := none
  url : Option String := none
  rateLimited : Bool := false
  modalDismissed : Bool := false
  deriving DecidableEq

/-- `if result.window_handle and result.browser_pid and result.url`. -/
def ChildSpawnExecution.window (result : ChildSpawnExecution) : Option (Int × Int × String) :=
  match result.windowHandle, result.browserPid, result.url with
  | some handle, some pid, some url => if handle ≠ 0 ∧ pid ≠ 0 ∧ url ≠ "" then some (handle, pid, url) else none
  | _, _, _ => none

structure ChildSpawnDeliveryObservation where
  url : String
  generating : Bool
  composerValue : String
  sendButtonReady : Bool
  promptMatchesDraft : Bool
  detail : String
  deriving DecidableEq

def ChildSpawnDeliveryObservation.delivered (observed : ChildSpawnDeliveryObservation) : Bool :=
  decide (observed.url ≠ "") && (observed.generating || (!observed.promptMatchesDraft && !observed.sendButtonReady))

section Addresses

/-- The segments of an address of the web chat. -/
def chatSegments (url : String) : Option (List String) :=
  match urlsplit (strip url) with
  | none => none
  | some parsed => if parsed.scheme ≠ "https" ∨ parsed.hostname ≠ "chatgpt.com" then none else some parsed.segments

/-- The project of a conversation, whatever query or fragment its address has. -/
def webConversationProjectId (url : String) : Option String :=
  match chatSegments url with
  | some ["g", token, "c", segment] =>
    match projectToken token with
    | none => none
    | some project => if conversationSegment segment then some project else none
  | _ => none

/-- An explicit project id from any recognized project-scoped route. -/
def webRouteProjectId (url : String) : Option String :=
  match chatSegments url with
  | some ("g" :: token :: _) => projectToken token
  | _ => none

/-- The root of the attempt's project, in any spelling, with the attempt's owner tag. -/
def ownedProjectRootMatches (url : String) (attempt : ChildSpawnAttempt) : Bool :=
  match urlsplit (strip url) with
  | none => false
  | some parsed =>
    if parsed.query ≠ "" ∨ parsed.fragment ≠ "lws-child=" ++ attempt.ownerToken then
      false
    else
      match webProjectId (PageRuntime.urlunsplit { parsed with query := "", fragment := "" }) with
      | .error _ => false
      | .ok project => project = attempt.projectId

/-- `[A-Za-z0-9_.:-]`. -/
def ownerChar (c : Char) : Bool := c.isAlphanum || c == '_' || c == '.' || c == ':' || c == '-'

def ownerTag (ownerToken : String) : String := "lws-child=" ++ ownerToken

/-- Every exception that it raises is a `ValueError`. -/
def taggedProjectUrl (projectUrl ownerToken : String) : Except String String := do
  let _ ← webProjectId projectUrl
  let owner := strip ownerToken
  if ¬ (8 ≤ owner.toList.length ∧ owner.toList.length ≤ 160 ∧ owner.toList.all ownerChar) then
    .error "child-spawn owner token is invalid"
  match urlsplit projectUrl with
  | none => .error "Invalid URL"
  | some parsed => .ok (PageRuntime.urlunsplit { parsed with query := "", fragment := ownerTag owner })

/-- The spellings of a conversation: with the slug of its project and without. -/
def conversationUrlCandidates (url : String) : List String :=
  match conversationIdentity url, urlsplit (strip url) with
  | some (projectId, conversationId), some parsed =>
    let token := parsed.segments.getD 1 ""
    let spelled (name : String) : String := PageRuntime.urlunsplit
      { parsed with path := "/g/" ++ name ++ "/c/" ++ conversationId, query := "", fragment := "" }
    [spelled token, spelled ("g-p-" ++ projectId)].eraseDups
  | _, _ => [strip url]

end Addresses

section Arming

/-- `_fresh_workspace`. -/
def freshWorkspace (dispatch : ChildDispatchRecord) (workspace : Option WorkspaceObservation) (now maxAgeS : Time) :
    List String :=
  match workspace with
  | none => ["fresh workspace reconciliation is required before opening a child conversation"]
  | some workspace =>
    let age := now - workspace.observedAt
    (if age < 0 ∨ maxAgeS < age then ["workspace observation is stale or from the future"] else []) ++
    (if workspace.cwdExists then [] else ["child working directory does not exist"]) ++
    (if workspace.error.getD "" = "" then []
      else ["workspace reconciliation failed: " ++ workspace.error.getD ""]) ++
    (if dispatch.expectedBranch.getD "" = "" then []
      else if workspace.isGitRepo ≠ some true then
        ["dispatch expects a Git branch but workspace is not a verified Git repository"]
      else if workspace.gitBranch ≠ dispatch.expectedBranch then
        ["workspace branch changed: expected " ++ dispatch.expectedBranch.getD "" ++ ", observed " ++
          (orText workspace.gitBranch (some "<detached>")).getD ""]
      else [])

/-- The project of a dispatch, or the reason why it has none. -/
def dispatchProject (dispatch : ChildDispatchRecord) : Except String (String × String) :=
  let projectUrl := dispatch.webProjectUrl.getD ""
  if projectUrl = "" then .error "child dispatch has no explicit web project URL"
  else (webProjectId projectUrl).map (fun projectId => (projectUrl, projectId))

/-- What `arm_child_spawn` reads before it decides. -/
structure ArmEvidence where
  dispatch : ChildDispatchRecord
  protocol : WorkerTaskState
  action : Option ActionAttempt
  probe : Option ProbeMutationOperation
  replacement : Option ReplacementAttempt
  spawn : Option ChildSpawnAttempt

def armBlockers (found : ArmEvidence) (chromeExecutable : String) (workspace : Option WorkspaceObservation)
    (now maxEvidenceAgeS : Time) : List String :=
  (match dispatchProject found.dispatch with
    | .error reason => [reason]
    | .ok _ => []) ++
  (if chromeExecutable = "" then ["Google Chrome executable is required"] else []) ++
  (if found.protocol.currentWorkerId ≠ none ∨ found.protocol.generation ≠ 0 ∨ found.protocol.workers ≠ [] then
    ["automatic child-spawn is initial-worker only; task already has worker history"] else []) ++
  (if found.action ≠ none then ["child has an unresolved external browser action"] else []) ++
  (if found.probe ≠ none then ["a global probe-window mutation is unresolved"] else []) ++
  (if found.replacement ≠ none then ["child has an unresolved replacement attempt"] else []) ++
  (if found.spawn ≠ none then ["child already has an unresolved spawn attempt"] else []) ++
  freshWorkspace found.dispatch workspace now maxEvidenceAgeS

def workspaceMetadata (workspace : Option WorkspaceObservation) : Metadata :=
  let entry (value : Option String) : MetadataValue := (value.map MetadataValue.text).getD .null
  [("workspace_git_head", entry (workspace.bind (·.gitHead))),
    ("workspace_status_hash", entry (workspace.bind (·.gitStatusHash))),
    ("workspace_git_branch", entry (workspace.bind (·.gitBranch)))]

/-- The attempt of a dispatch, with the two identifiers that were drawn. -/
def armedAttempt (dispatch : ChildDispatchRecord) (childTaskId chromeExecutable first second : String)
    (workspace : Option WorkspaceObservation) (now : Time) : Except String ChildSpawnAttempt := do
  let (projectUrl, projectId) ← dispatchProject dispatch
  let attemptId := "spawn_" ++ clip 16 first
  let ownerToken := attemptId ++ ":" ++ clip 16 second
  let taggedProjectUrl ← taggedProjectUrl projectUrl ownerToken
  pure
    { attemptId, childTaskId, state := .armed, ownerToken, projectUrl, projectId, taggedProjectUrl,
      promptSha256 := dispatch.promptSha256, chromeExecutable, createdAt := now, updatedAt := now,
      metadata := workspaceMetadata workspace }

end Arming

/-- The methods of the transport that report an execution. -/
inductive TransportCall where
  | openAuthorized (attempt : ChildSpawnAttempt)
  | reuseAuthorized (attempt : ChildSpawnAttempt) (sourceWorker : WorkerRecord) (sourceBinding : WorkerWindowBinding)
  | reuseCompletedSpawnAuthorized (attempt sourceAttempt : ChildSpawnAttempt)
  | observeOwnedProject (attempt : ChildSpawnAttempt)
  | observeBoundUrl (attempt : ChildSpawnAttempt)
  | sendAuthorized (attempt : ChildSpawnAttempt) (prompt : String)
  | waitForConversation (attempt : ChildSpawnAttempt)
  | invokeExistingDraftAuthorized (attempt : ChildSpawnAttempt) (prompt conversationUrl : String)
  | closeWorkerBindingAuthorized (worker : WorkerRecord) (binding : WorkerWindowBinding)
  | closeCompletedSpawnAuthorized (sourceAttempt : ChildSpawnAttempt)
  deriving DecidableEq

/-- What the program asks of its environment. A `uuid` answers with the text that is drawn. -/
inductive SpawnRequest where
  | transport (call : TransportCall)
  | waitForDelivery (attempt : ChildSpawnAttempt) (prompt : String)
  | workspace (childTaskId : String)
  | clock
  | uuid
  deriving DecidableEq

/-- A method of the transport, or the loader of a workspace, may raise. -/
abbrev SpawnAnswer : SpawnRequest → Type
  | .transport _ => Except SupervisorError ChildSpawnExecution
  | .waitForDelivery .. => Except SupervisorError ChildSpawnDeliveryObservation
  | .workspace _ => Except SupervisorError WorkspaceObservation
  | .clock => Time
  | .uuid => String

abbrev Spawning (α : Type) := ExceptT SupervisorError (Program Database SpawnAnswer) α

def transport (called : TransportCall) : Spawning ChildSpawnExecution := ask (.transport called) id

/-- `time.time() if now is None else float(now)`. -/
def clockOr (now : Option Time) : Spawning Time :=
  match now with
  | none => ask .clock .ok
  | some now => pure now

/-- `arm_child_spawn`. An exception of the tag is a `ValueError`. -/
def armChildSpawn (childTaskId chromeExecutable : String) (workspace : Option WorkspaceObservation) (now : Option Time)
    (maxEvidenceAgeS : Time) : Spawning ChildSpawnAttempt := do
  let ts ← clockOr now
  let dispatch ← check (fun db => getChildDispatch db childTaskId)
  let protocol ← check (fun db => WorkerPersistence.loadWorkerProtocol db childTaskId)
  let chrome := strip chromeExecutable
  let action ← check (fun db => unresolvedActionAttempt db childTaskId)
  let probe ← check (fun db => .ok (unresolvedProbeMutationOperation db))
  let replacement ← check (fun db => .ok (unresolvedReplacementAttempt db childTaskId))
  let spawn ← unresolvedChildSpawnAttempt childTaskId
  let blockers := armBlockers { dispatch, protocol, action, probe, replacement, spawn } chrome workspace ts maxEvidenceAgeS
  ensure (refuse (blockers ≠ []) (.childSpawnBlocked blockers))
  let first ← ask .uuid .ok
  let second ← ask .uuid .ok
  let armed ← ensure ((armedAttempt dispatch childTaskId chrome first second workspace ts).mapError .value)
  recordChildSpawnAttempt armed

/-- The checks of a binding. -/
def requireOwnedWindow (attempt : ChildSpawnAttempt) (windowHandle browserPid : Int) (observedUrl : String) :
    Except SupervisorError Unit := do
  refuse (attempt.state ∉ [.windowOpenSubmitted, .reconcileRequired])
    (SupervisorError.runtime "child spawn is not waiting for its owned project window")
  refuse (windowHandle ≤ 0 ∨ browserPid ≤ 0)
    (SupervisorError.value "spawn window binding requires positive HWND and Chrome PID")
  refuse (ownedProjectRootMatches observedUrl attempt = false)
    (SupervisorError.childSpawnBlocked ["observed project window URL does not match the LWS ownership tag/project id"])

def bindChildSpawnWindow (attemptId : String) (windowHandle browserPid : Int) (observedUrl : String) (now : Time) :
    Spawning ChildSpawnAttempt := do
  let attempt ← check (fun db => getChildSpawnAttempt db attemptId)
  ensure (requireOwnedWindow attempt windowHandle browserPid observedUrl)
  updateChildSpawnAttempt attemptId
    { state := .windowBound, windowHandle := some windowHandle, browserPid := some browserPid } now

/-- The worker of the conversation is registered and claimed, its window is bound, and
the attempt is completed, each in a transaction of its own. -/
def completeFromBoundConversation (attempt : ChildSpawnAttempt) (conversationUrl : String) (now leaseSeconds : Time) :
    Spawning ChildSpawnAttempt := do
  ensure (refuse (webConversationProjectId conversationUrl ≠ some attempt.projectId)
    (.childSpawnBlocked ["bound window did not transition to a conversation in the expected project"]))
  let generated ← ask .uuid .ok
  let state ← adoptChildWorker
    { childTaskId := attempt.childTaskId, conversationUrl, leaseSeconds, workerId := attempt.workerId, generated, now }
  let workerId := state.currentWorkerId.getD ""
  ensure (refuse (workerId = "")
    (.runtime "child-spawn conversation adoption did not publish a current worker"))
  let _ ← bindWorkerWindow
    { workerId, windowHandle := attempt.windowHandle.getD 0, browserPid := attempt.browserPid.getD 0,
      chromeExecutable := attempt.chromeExecutable, conversationUrl, observedAt := now, ttlS := 60 }
  updateChildSpawnAttempt attempt.attemptId
    { state := .completed, conversationUrl := some conversationUrl, workerId := some workerId } now

/-- The window that a new attempt takes over, if any. -/
inductive ReuseSource where
  | fresh
  | worker (sourceWorker : WorkerRecord) (sourceBinding : WorkerWindowBinding)
  | completedSpawn (sourceSpawn : ChildSpawnAttempt)
  deriving DecidableEq

/-- The source that the three optional arguments name. -/
def reuseSource (sourceWorker : Option WorkerRecord) (sourceBinding : Option WorkerWindowBinding)
    (sourceSpawn : Option ChildSpawnAttempt) : Except SupervisorError ReuseSource :=
  match sourceWorker, sourceBinding, sourceSpawn with
  | some _, none, _ => .error (.childSpawnBlocked ["reused worker requires its exact window binding"])
  | none, some _, _ => .error (.childSpawnBlocked ["reused window binding requires its worker identity"])
  | some _, some _, some _ =>
    .error (.childSpawnBlocked ["choose either a current worker source or a completed-spawn source"])
  | some worker, some binding, none => .ok (.worker worker binding)
  | none, none, some spawn => .ok (.completedSpawn spawn)
  | none, none, none => .ok .fresh

def ReuseSource.call (submitted : ChildSpawnAttempt) : ReuseSource → TransportCall
  | .fresh => .openAuthorized submitted
  | .worker sourceWorker sourceBinding => .reuseAuthorized submitted sourceWorker sourceBinding
  | .completedSpawn sourceSpawn => .reuseCompletedSpawnAuthorized submitted sourceSpawn

/-- The truth value of a metadata entry. -/
def isSet : MetadataValue → Bool
  | .null => false
  | .text value => decide (value ≠ "")
  | .number value _ => decide (value ≠ 0)

/-- `_spawn_page_unconsumed`. -/
def spawnPageUnconsumed (attempt : ChildSpawnAttempt) : Bool :=
  !(isSet (attempt.metadata.get "window_recycled_to") || isSet (attempt.metadata.get "window_closed_at"))

/-- The completed spawn whose window the worker has. -/
def ownsPage (sourceWorker : WorkerRecord) (sourceBinding : WorkerWindowBinding) (attempt : ChildSpawnAttempt) : Bool :=
  decide (attempt.state = .completed ∧ attempt.workerId = some sourceWorker.workerId ∧
    attempt.windowHandle = some sourceBinding.windowHandle ∧ attempt.browserPid = some sourceBinding.browserPid) &&
  spawnPageUnconsumed attempt

def recycledTo (attemptId : String) : Metadata := [("window_recycled_to", .text attemptId)]

/-- The source of a window that now belongs to the attempt gives it up. A completed
spawn that this registry does not know is left alone. -/
def releaseSource (attemptId : String) (now : Time) : ReuseSource → Spawning Unit
  | .fresh => pure ()
  | .completedSpawn sourceSpawn => do
    let marked ← attempt (annotateChildSpawnAttempt sourceSpawn.attemptId (recycledTo attemptId) now)
    match marked with
    | .ok _ | .error (.key _) => pure ()
    | .error error => ensure (.error error)
  | .worker sourceWorker sourceBinding => do
    let attempts ← childSpawnAttempts sourceWorker.taskId 50
    match attempts.find? (ownsPage sourceWorker sourceBinding) with
    | none => pure ()
    | some owner => do
      let _ ← annotateChildSpawnAttempt owner.attemptId (recycledTo attemptId) now
      pure ()
    let _ ← clearWorkerWindowBinding sourceWorker.workerId
    pure ()

/-- What becomes of the attempt when the transport has reported. -/
def settleOpen (attemptId : String) (source : ReuseSource) (result : ChildSpawnExecution) (now : Time) :
    Spawning ChildSpawnAttempt :=
  match result.window with
  | some (windowHandle, browserPid, url) => do
    let bound ← bindChildSpawnWindow attemptId windowHandle browserPid url now
    releaseSource attemptId now source
    pure bound
  | none =>
    updateChildSpawnAttempt attemptId
      { state := if result.sideEffectPossible then .reconcileRequired else .failed, lastError := some result.detail } now

def executeChildSpawnOpen (attemptId : String) (sourceWorker : Option WorkerRecord)
    (sourceBinding : Option WorkerWindowBinding) (sourceSpawn : Option ChildSpawnAttempt) (now : Option Time) :
    Spawning ChildSpawnAttempt := do
  let source ← ensure (reuseSource sourceWorker sourceBinding sourceSpawn)
  let submittedAt ← clockOr now
  let submitted ← submitChildSpawnOpen attemptId submittedAt
  let result ← transport (source.call submitted)
  let ts ← clockOr now
  settleOpen attemptId source result ts

/-- The end of a reconciliation whose observation decided nothing. -/
def stillAmbiguous (attemptId : String) (now : Time) : Spawning ChildSpawnAttempt :=
  updateChildSpawnAttempt attemptId
    { state := .reconcileRequired
      lastError := some "child-spawn outcome remains ambiguous; do not open/send again" } now

/-- The window of an attempt that has not been bound is looked for by its owner tag. -/
def reconcileUnbound (attempt : ChildSpawnAttempt) (now : Time) : Spawning ChildSpawnAttempt := do
  let observed ← transport (.observeOwnedProject attempt)
  match observed.window with
  | some (windowHandle, browserPid, url) => bindChildSpawnWindow attempt.attemptId windowHandle browserPid url now
  | none =>
    if attempt.state ≠ .reconcileRequired then
      updateChildSpawnAttempt attempt.attemptId { state := .reconcileRequired, lastError := some observed.detail } now
    else
      pure attempt

def reconcileBound (attempt : ChildSpawnAttempt) (leaseSeconds now : Time) : Spawning ChildSpawnAttempt := do
  let observed ← transport (.observeBoundUrl attempt)
  let url := observed.url.getD ""
  if url ≠ "" ∧ webConversationProjectId url = some attempt.projectId then
    completeFromBoundConversation attempt url now leaseSeconds
  else if url ≠ "" ∧ ownedProjectRootMatches url attempt then
    -- The project root proves whose window it is, not that a second send is safe.
    pure attempt
  else
    stillAmbiguous attempt.attemptId now

/-- A handle or a process id that is there and not zero. -/
def given (value : Option Int) : Bool := decide (value.getD 0 ≠ 0)

def reconcileChildSpawn (attemptId : String) (leaseSeconds : Time) (now : Option Time) : Spawning ChildSpawnAttempt := do
  let attempt ← check (fun db => getChildSpawnAttempt db attemptId)
  let ts ← clockOr now
  if attempt.state = .completed then
    pure attempt
  else if attempt.state = .windowOpenSubmitted ∨ attempt.state = .reconcileRequired ∧ given attempt.windowHandle = false then
    reconcileUnbound attempt ts
  else if given attempt.windowHandle ∧ given attempt.browserPid then
    reconcileBound attempt leaseSeconds ts
  else
    stillAmbiguous attemptId ts

end WebSupervisor.ChildSpawn
