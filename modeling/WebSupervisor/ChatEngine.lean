import WebSupervisor.ChatDispatch

/-! The engine of `chat_dispatch.py`, and the calls of the store that other
processes make. The browser and the clock are the environment; every statement
of the store is a step of its own. -/

namespace WebSupervisor.ChatDispatch
open Library Library.Program

structure BrowserSendResult where
  submitted : Bool
  sideEffectPossible : Bool
  detail : String
  conversationUrl : Option String := none
  rateLimited : Bool := false
  deriving DecidableEq

structure BrowserAckResult where
  observed : Bool
  nonceOccurrences : Int
  generating : Option Bool
  deriving DecidableEq

structure BrowserCloseResult where
  closed : Bool
  absent : Bool
  detail : String
  deriving DecidableEq

/-- A window that shows a conversation. `find_existing` never takes one for its
own. -/
structure FoundPage where
  conversationUrl : String
  windowHandle : Int
  browserPid : Int
  chromeExecutable : String
  deriving DecidableEq

def FoundPage.identity (found : FoundPage) : PageIdentity :=
  { conversationUrl := found.conversationUrl, windowHandle := found.windowHandle, browserPid := found.browserPid,
    chromeExecutable := found.chromeExecutable, owned := false }

inductive Request where
  | time
  | findExisting (conversationUrl : String)
  | openExisting (conversationUrl : String)
  | openNew (projectUrl ownerToken promptSha256 : String)
  | recoverNew (projectUrl ownerToken promptSha256 : String)
  | sendExisting (job : ChatDispatchJob) (page : ChatPage)
  | sendNew (job : ChatDispatchJob) (page : ChatPage)
  | observeAck (job : ChatDispatchJob) (page : ChatPage)
  | currentUrl (page : ChatPage)
  | closePage (page : ChatPage)
  deriving DecidableEq

abbrev Answer : Request → Type
  | .time => Time
  | .findExisting _ => Except Raised (Option FoundPage)
  | .openExisting _ => Except Raised PageIdentity
  | .openNew .. => Except Raised PageIdentity
  | .recoverNew .. => Except Raised (Option PageIdentity)
  | .sendExisting .. => Except Raised BrowserSendResult
  | .sendNew .. => Except Raised BrowserSendResult
  | .observeAck .. => Except Raised BrowserAckResult
  | .currentUrl _ => Except Raised (Option String)
  | .closePage _ => Except Raised BrowserCloseResult

abbrev Engine := ExceptT Raised (Program ChatStore Answer)

def clock : Engine Time := ask .time .ok

/-- An unconditional statement. -/
def write (change : ChatStore → ChatStore) : Engine Unit := transaction (fun store => .ok ((), change store))

/-- A query. -/
def query {α : Type} (view : ChatStore → α) : Engine α := check (fun store => .ok (view store))

def updateJob (dispatchId : String) (change : JobChange) : Engine ChatDispatchJob := do
  let now ← clock
  write (updateJobRow dispatchId change now)
  check (getJob dispatchId)

def setPageClosed (pageId : String) (ambiguous : Bool) (error : Option String) : Engine Unit := do
  write (markPageClosed pageId ambiguous error)
  let _ ← check (getPage pageId)

def setPageUrl (pageId conversationUrl : String) : Engine ChatPage := do
  let now ← clock
  write (updatePageUrl pageId conversationUrl now)
  check (getPage pageId)

def setPageOpen (pageId : String) : Engine ChatPage := do
  let now ← clock
  write (markPageOpen pageId now)
  check (getPage pageId)

def setPageIdle (pageId : String) (idleCloseS now : Time) : Engine Unit := do
  let page ← check (getPage pageId)
  write (markPageIdle page idleCloseS now)
  let _ ← check (getPage pageId)

def recordPage (conversationKey : String) (identity : PageIdentity) : Engine ChatPage := do
  let now ← clock
  write (upsertPage conversationKey identity now)
  check (getPage (pageIdOf identity))

def bindKey (conversationKey conversationUrl : String) : Engine Unit := do
  let now ← clock
  transaction (bindConversation conversationKey conversationUrl now)

/-- The settings of an engine, as its constructor bounds them. -/
structure ChatDispatchEngine where
  maxWindows : Nat
  idleCloseS : Time
  rateLimitCooldownS : Time

def ChatDispatchEngine.make (maxWindows : Int) (idleCloseS rateLimitCooldownS : Time) : ChatDispatchEngine :=
  { maxWindows := (max 1 (min maxWindows 16)).toNat
    idleCloseS := max 1 idleCloseS
    rateLimitCooldownS := max 1 rateLimitCooldownS }

/-- What to do with a page of the conversation that shows `current`. -/
def pageShows (job : ChatDispatchJob) (page : ChatPage) (current : String) : Engine (Option ChatPage) :=
  let url := job.conversationUrl.getD ""
  if isSet job.conversationUrl ∧ conversationIdFromUrl current = conversationIdFromUrl url then
    if normalizeUrl current ≠ normalizeUrl page.conversationUrl then
      some <$> setPageUrl page.pageId current
    else
      pure (some page)
  else if !isSet job.conversationUrl && isSet job.projectUrl then
    pure (some page)
  else do
    setPageClosed page.pageId true (some "page identity changed")
    pure none

/-- `_page` after the page was found in the store. -/
def checkPage (job : ChatDispatchJob) (page : ChatPage) : Engine (Option ChatPage) := do
  match ← ask (.currentUrl page) id with
  | none =>
    setPageClosed page.pageId false (some "owned/bound window is no longer observable")
    pure none
  | some current => pageShows job page current

def pageOf (job : ChatDispatchJob) : Engine (Option ChatPage) := do
  match ← query (pageForConversation job.conversationKey) with
  | none => pure none
  | some page => checkPage job page

def ownerToken (job : ChatDispatchJob) : String := "chat-dispatch:" ++ job.dispatchId ++ ":" ++ job.nonce

def wirePromptDigest (job : ChatDispatchJob) : Except Raised String :=
  match renderActionPrompt job.promptText job.nonce with
  | .ok prompt => .ok (promptDigest prompt)
  | .error (.blocked message) => .error ⟨"ActionBlocked", message⟩
  | .error _ => .error ⟨"ActionBlocked", ""⟩

/-- What can be observed of a window whose opening was interrupted. -/
def recoverOpening (job : ChatDispatchJob) : Engine (Option PageIdentity) :=
  if isSet job.conversationUrl then do
    let found ← ask (.findExisting (job.conversationUrl.getD "")) id
    pure (found.map (fun page => { page.identity with owned := false }))
  else if isSet job.projectUrl then do
    let digest ← ensure (wirePromptDigest job)
    ask (.recoverNew (job.projectUrl.getD "") (ownerToken job) digest) id
  else
    pure none

/-- The identity of a window that was opened, or the record that the outcome is
not known. -/
def openOutcome (job : ChatDispatchJob) (failure : String) :
    Except Raised PageIdentity → Engine (Option PageIdentity)
  | .ok identity => pure (some identity)
  | .error exception => do
    let _ ← updateJob job.dispatchId
      { state := some .reconcileRequired, lastError := some (failure ++ exception.text) }
    pure none

/-- Write OPENING ahead and open a window, if no window shows the conversation and
the pool allows one more. -/
def openExistingWindow (engine : ChatDispatchEngine) (job : ChatDispatchJob) : Engine (Option PageIdentity) := do
  match ← ask (.findExisting (job.conversationUrl.getD "")) id with
  | some page => pure (some page.identity)
  | none =>
    let count ← query ownedOpenCount
    if engine.maxWindows ≤ count then
      pure none
    else do
      let _ ← updateJob job.dispatchId { state := some .opening }
      let outcome ← ask (.openExisting (job.conversationUrl.getD "")) .ok
      openOutcome job "existing-conversation window open outcome unresolved: " outcome

def openNewWindow (engine : ChatDispatchEngine) (job : ChatDispatchJob) : Engine (Option PageIdentity) := do
  ensure (refuse (!isSet job.projectUrl) ⟨"RuntimeError", "unresolved conversation has no project_url"⟩)
  let count ← query ownedOpenCount
  if engine.maxWindows ≤ count then
    pure none
  else do
    let _ ← updateJob job.dispatchId { state := some .opening }
    -- The prompt is rendered inside the `try`, so that its failure is one of the open.
    match wirePromptDigest job with
    | .error exception => openOutcome job "new-conversation window open outcome unresolved: " (.error exception)
    | .ok digest => do
      let outcome ← ask (.openNew (job.projectUrl.getD "") (ownerToken job) digest) .ok
      openOutcome job "new-conversation window open outcome unresolved: " outcome

def reconcileOpening (job : ChatDispatchJob) : Engine (Option PageIdentity) := do
  match ← recoverOpening job with
  | some identity => pure (some identity)
  | none =>
    let _ ← updateJob job.dispatchId
      { state := some .reconcileRequired,
        lastError := some "browser open outcome is unresolved; no automatic replay" }
    pure none

def acquire (engine : ChatDispatchEngine) (job : ChatDispatchJob) : Engine (Option PageIdentity) :=
  if job.state = .opening then reconcileOpening job
  else if isSet job.conversationUrl then openExistingWindow engine job
  else openNewWindow engine job

def bindWindow (job : ChatDispatchJob) (identity : PageIdentity) : Engine ChatPage := do
  let page ← recordPage job.conversationKey identity
  let _ ← updateJob job.dispatchId
    { state := some .windowBound, windowHandle := some page.windowHandle, browserPid := some page.browserPid,
      chromeExecutable := some page.chromeExecutable, pageOwned := some page.owned }
  pure page

def ensurePage (engine : ChatDispatchEngine) (job : ChatDispatchJob) : Engine (Option ChatPage) := do
  match ← pageOf job with
  | some page => some <$> setPageOpen page.pageId
  | none =>
    match ← acquire engine job with
    | none => pure none
    | some identity => some <$> bindWindow job identity

/-- `text or default`. -/
def textOr (text fallback : String) : String := if text = "" then fallback else text

/-- The durable consequence of a send that returned. -/
def settleSend (engine : ChatDispatchEngine) (job : ChatDispatchJob) (result : BrowserSendResult) (current : Time) :
    Engine Unit := do
  let _ ← updateJob job.dispatchId
    (if result.submitted then
      { state := some .submitted, conversationUrl := orText result.conversationUrl job.conversationUrl,
        submittedAt := some current }
    else if result.sideEffectPossible then
      { state := some .reconcileRequired, lastError := some (textOr result.detail "send outcome is ambiguous") }
    else if result.rateLimited then
      { state := some .retryWait, nextAttemptAt := some (current + engine.rateLimitCooldownS),
        lastError := some (textOr result.detail "rate limited before send") }
    else
      { state := some .failed,
        lastError := some (textOr result.detail "send was safely rejected before side effect") })

/-- The address that a send reports is bound to the conversation and the page. -/
def recordSentUrl (job : ChatDispatchJob) (page : ChatPage) (result : BrowserSendResult) : Engine Unit :=
  if isSet result.conversationUrl then do
    bindKey job.conversationKey (result.conversationUrl.getD "")
    let _ ← setPageUrl page.pageId (result.conversationUrl.getD "")
  else
    pure ()

def sendOutcome (engine : ChatDispatchEngine) (job : ChatDispatchJob) (page : ChatPage) (current : Time) :
    Except Raised BrowserSendResult → Engine Unit
  | .error exception => do
    let _ ← updateJob job.dispatchId
      { state := some .reconcileRequired, lastError := some ("send raised " ++ exception.text) }
  | .ok result => do
    recordSentUrl job page result
    settleSend engine job result current

def send (job : ChatDispatchJob) (page : ChatPage) : Engine (Except Raised BrowserSendResult) :=
  if isSet job.conversationUrl then ask (.sendExisting job page) .ok else ask (.sendNew job page) .ok

def submit (engine : ChatDispatchEngine) (job : ChatDispatchJob) (page : ChatPage) : Engine Unit := do
  let current ← clock
  let job ← updateJob job.dispatchId
    { state := some .submitting, attempts := some (job.attempts + 1), windowHandle := some page.windowHandle,
      browserPid := some page.browserPid, chromeExecutable := some page.chromeExecutable,
      pageOwned := some page.owned }
  let outcome ← send job page
  sendOutcome engine job page current outcome

/-- An acknowledgement that was observed on the page. -/
def settleAck (job : ChatDispatchJob) (page : ChatPage) (ack : BrowserAckResult) : Engine Unit :=
  if ack.observed = false then
    pure ()
  else if 1 < ack.nonceOccurrences then do
    let _ ← updateJob job.dispatchId
      { state := some .reconcileRequired,
        lastError := some ("nonce appeared " ++ toString ack.nonceOccurrences ++
          " times; duplicate delivery requires human review") }
    setPageClosed page.pageId true (some "duplicate nonce evidence")
  else if ack.nonceOccurrences = 1 ∧ ack.generating = some false then do
    let now ← clock
    let _ ← updateJob job.dispatchId { state := some .acknowledged, acknowledgedAt := some now }
    let pending ← query (hasPendingForConversation job.conversationKey)
    if pending then pure () else setPageIdle page.pageId job.idleCloseS now
  else
    pure ()

def observe (job : ChatDispatchJob) (page : ChatPage) : Engine Unit := do
  let ack ← ask (.observeAck job page) id
  settleAck job page ack

/-- `job.submitted_at or time.time()`. -/
def submittedTime (job : ChatDispatchJob) : Engine Time :=
  if job.submittedAt.getD 0 ≠ 0 then pure (job.submittedAt.getD 0) else clock

/-- A new conversation becomes known by the address of its page. -/
def discover (job : ChatDispatchJob) (page : ChatPage) : Engine Unit := do
  let found ← ask (.currentUrl page) id
  let current := found.getD ""
  if isSet found ∧ conversationIdFromUrl current ≠ none then do
    bindKey job.conversationKey current
    let _ ← setPageUrl page.pageId current
    let submittedAt ← submittedTime job
    let job ← updateJob job.dispatchId
      { state := some .submitted, conversationUrl := some current, submittedAt := some submittedAt }
    let page ← check (getPage page.pageId)
    observe job page
  else
    pure ()

def reconcile (job : ChatDispatchJob) : Engine Unit := do
  match ← pageOf job with
  | none => pure ()
  | some page => if isSet job.conversationUrl then observe job page else discover job page

/-- The handling of a job that may be sent: whether there was progress. -/
def advance (engine : ChatDispatchEngine) (job : ChatDispatchJob) : Engine Bool := do
  match ← attempt (ensurePage engine job) with
  | .error exception =>
    let _ ← updateJob job.dispatchId
      { state := some .failed, lastError := some ("page acquisition failed: " ++ exception.text) }
    pure true
  | .ok none => pure false
  | .ok (some page) =>
    let job ← check (getJob job.dispatchId)
    submit engine job page
    pure true

/-- A job whose send may have happened is reconciled and never sent again. -/
def resume (job : ChatDispatchJob) : Engine Bool := do
  let _ ← updateJob job.dispatchId
    { state := some .reconcileRequired,
      lastError := some "worker resumed from SUBMITTING; Send outcome requires reconciliation" }
  let job ← check (getJob job.dispatchId)
  reconcile job
  pure true

def follow (job : ChatDispatchJob) : Engine Bool := do
  reconcile job
  let after ← check (getJob job.dispatchId)
  pure (after.state ≠ job.state)

def retry (engine : ChatDispatchEngine) (job : ChatDispatchJob) : Engine Bool := do
  let now ← clock
  if now < job.nextAttemptAt then pure false else advance engine job

def runJob (engine : ChatDispatchEngine) (job : ChatDispatchJob) : Engine Bool := do
  let older ← query (hasOlderUnfinished job)
  if older then pure false
  else if job.state = .submitting then resume job
  else if job.state = .submitted ∨ job.state = .reconcileRequired then follow job
  else if job.state = .retryWait then retry engine job
  else advance engine job

def handleJob (engine : ChatDispatchEngine) (job : ChatDispatchJob) : Engine Bool :=
  if job.state.Terminal then pure false else runJob engine job

/-- The loop over the jobs that were eligible when it started. -/
def runJobs (engine : ChatDispatchEngine) : List ChatDispatchJob → Engine Bool
  | [] => pure false
  | job :: jobs => do
    let first ← handleJob engine job
    let rest ← runJobs engine jobs
    pure (first || rest)

def closePage (page : ChatPage) : Engine Unit := do
  let result ← ask (.closePage page) id
  if result.closed || result.absent then
    setPageClosed page.pageId false none
  else
    setPageClosed page.pageId true (some (textOr result.detail "exact owned-page close could not be proven"))

def closeIdlePage (engine : ChatDispatchEngine) (now : Time) (page : ChatPage) : Engine Unit :=
  if page.owned = false then
    pure ()
  else do
    let pending ← query (hasPendingForConversation page.conversationKey)
    if pending then
      pure ()
    else if page.state = .isOpen then
      setPageIdle page.pageId engine.idleCloseS now
    else if page.state ≠ .idle ∨ page.closeAfterAt.all (now < ·) then
      pure ()
    else
      closePage page

def closePages (engine : ChatDispatchEngine) (now : Time) : List ChatPage → Engine Unit
  | [] => pure ()
  | page :: pages => do
    closeIdlePage engine now page
    closePages engine now pages

def closeIdlePages (engine : ChatDispatchEngine) : Engine Unit := do
  let now ← clock
  let pages ← query listPages
  closePages engine now pages

structure RunSummary where
  progressed : Bool
  pending : Nat
  ownedOpen : Nat

def runOnce (engine : ChatDispatchEngine) : Engine RunSummary := do
  let now ← clock
  let jobs ← query (eligibleJobs now 200)
  let progressed ← runJobs engine jobs
  closeIdlePages engine
  let pending ← query pendingCount
  let ownedOpen ← query ownedOpenCount
  pure { progressed, pending, ownedOpen }

def defaultReconcileHoldS : Time := 90

/-- A job that keeps the worker from leaving. -/
def ChatDispatchJob.Holding (now : Time) (job : ChatDispatchJob) : Prop :=
  job.state = .reconcileRequired ∧ now - job.updatedAt < defaultReconcileHoldS ∨
    ¬ job.state.Terminal ∧ job.state ≠ .reconcileRequired

instance ChatDispatchJob.holdingDecidable (now : Time) (job : ChatDispatchJob) : Decidable (job.Holding now) :=
  inferInstanceAs (Decidable (_ ∨ _))

def shouldExit : Engine Bool := do
  let jobs ← query (listJobs 500)
  let pending ← query pendingCount
  if 0 < pending then do
    let now ← clock
    pure (!jobs.any (fun job => job.Holding now))
  else do
    let count ← query ownedOpenCount
    pure (count = 0)

def enqueue (request : Enqueue) : Engine ChatDispatchJob := do
  match ← transaction (enqueueTransaction request) with
  | .existing job => pure job
  | .added dispatchId => check (getJob dispatchId)

/-- What `cancel` decides on the job it has read: it returns a finished one. -/
def cancelCheck (dispatchId : String) (store : ChatStore) : Except Raised (Option ChatDispatchJob) := do
  let job ← getJob dispatchId store
  if job.state.Terminal then
    pure (some job)
  else do
    refuse (job.state = .submitting ∨ job.state = .reconcileRequired ∨ job.state = .submitted)
      ⟨"RuntimeError", "cannot cancel a dispatch whose external send may already have happened"⟩
    pure none

def cancel (dispatchId : String) : Engine ChatDispatchJob := do
  match ← check (cancelCheck dispatchId) with
  | some job => pure job
  | none => updateJob dispatchId { state := some .cancelled }

/-- The calls on one queue. -/
inductive ChatCall where
  | enqueue (request : Enqueue)
  | cancel (dispatchId : String)
  | runOnce (engine : ChatDispatchEngine)

/-- What a call returns. -/
inductive ChatResult where
  | job (result : Except Raised ChatDispatchJob)
  | summary (result : Except Raised RunSummary)

def ChatCall.body : ChatCall → Program ChatStore Answer ChatResult
  | .enqueue request => .job <$> (ChatDispatch.enqueue request).run
  | .cancel dispatchId => .job <$> (ChatDispatch.cancel dispatchId).run
  | .runOnce engine => .summary <$> (ChatDispatch.runOnce engine).run

/-- The lease lets one engine run at a time. -/
def ChatCall.compatible : ChatCall → ChatCall → Bool
  | .runOnce _, .runOnce _ => false
  | _, _ => true

def chatMachine : Machine ChatStore Answer ChatCall ChatResult :=
  { body := ChatCall.body, compatible := ChatCall.compatible }

end WebSupervisor.ChatDispatch
