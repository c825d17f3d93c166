import WebSupervisor.Library.Program
import WebSupervisor.Library.Table
import WebSupervisor.Actions

/-! The queue of chat prompts, from the store of `chat_dispatch.py`. Jobs stand in
the order of their row ids. The lease table is left out: runs of the engine hold
the lease, so that there is one at a time. -/

namespace WebSupervisor.ChatDispatch
open Library

inductive ChatDispatchState where
  | queued | claimed | opening | windowBound | submitting | submitted | reconcileRequired | retryWait
  | acknowledged | failed | cancelled
  deriving DecidableEq

/-- Membership in `TERMINAL_JOB_STATES`. The other states are the pending ones. -/
def ChatDispatchState.Terminal (state : ChatDispatchState) : Prop :=
  state = .acknowledged ∨ state = .failed ∨ state = .cancelled

instance (state : ChatDispatchState) : Decidable state.Terminal := inferInstanceAs (Decidable (_ ∨ _))

inductive ChatPageState where
  | isOpen | idle | closed | ambiguous
  deriving DecidableEq

structure ChatConversation where
  conversationKey : String
  conversationUrl : Option String
  projectUrl : Option String
  createdAt : Time
  updatedAt : Time
  deriving DecidableEq

structure ChatDispatchJob where
  dispatchId : String
  dispatchKey : Option String
  conversationKey : String
  conversationUrl : Option String
  projectUrl : Option String
  promptText : String
  promptSha256 : String
  nonce : String
  state : ChatDispatchState
  createdAt : Time
  updatedAt : Time
  nextAttemptAt : Time
  attempts : Nat
  idleCloseS : Time
  maxWindows : Int
  windowHandle : Option Int := none
  browserPid : Option Int := none
  chromeExecutable : Option String := none
  pageOwned : Bool := false
  submittedAt : Option Time := none
  acknowledgedAt : Option Time := none
  lastError : Option String := none
  deriving DecidableEq

structure ChatPage where
  pageId : String
  conversationKey : String
  conversationUrl : String
  windowHandle : Int
  browserPid : Int
  chromeExecutable : String
  owned : Bool
  state : ChatPageState
  openedAt : Time
  lastUsedAt : Time
  idleSince : Option Time := none
  closeAfterAt : Option Time := none
  lastError : Option String := none
  deriving DecidableEq

structure PageIdentity where
  conversationUrl : String
  windowHandle : Int
  browserPid : Int
  chromeExecutable : String
  owned : Bool
  deriving DecidableEq

structure ChatStore where
  conversations : IndexedTable ChatConversation ChatConversation.conversationKey ChatConversation.conversationUrl :=
    .empty
  jobs : IndexedTable ChatDispatchJob ChatDispatchJob.dispatchId ChatDispatchJob.dispatchKey := .empty
  pages : Table ChatPage ChatPage.pageId := .empty

/-- The truth value of an optional text. -/
def isSet (text : Option String) : Bool := text.getD "" ≠ ""

def valueError (message : String) : Raised := ⟨"ValueError", message⟩

def integrityError (column : String) : Raised := ⟨"IntegrityError", "UNIQUE constraint failed: " ++ column⟩

/-- `str(text).strip() if text else None`. -/
def stripped (text : Option String) : Option String :=
  if isSet text then some (strip (text.getD "")) else none

def projectIdOf (url : String) : Except Raised String := (webProjectId url).mapError valueError

/-- The arguments of `enqueue`, with the identifiers it generates. -/
structure Enqueue where
  prompt : String
  conversationKey : Option String := none
  conversationUrl : Option String := none
  projectUrl : Option String := none
  dispatchKey : Option String := none
  idleCloseS : Time := 90
  maxWindows : Int := 4
  now : Time
  keySuffix : String
  dispatchSuffix : String
  nonce : String

namespace Enqueue

def requestedKey (request : Enqueue) : String := strip (request.conversationKey.getD "")

def validate (request : Enqueue) : Except Raised Unit := do
  refuse (strip request.prompt = "") (valueError "prompt must be non-empty")
  refuse (256 * 1024 < request.prompt.utf8ByteSize) (valueError "prompt exceeds 256 KiB")
  refuse (isSet (stripped request.conversationUrl) ∧
      conversationIdFromUrl ((stripped request.conversationUrl).getD "") = none)
    (valueError "conversation_url must be a ChatGPT /c/ conversation URL")
  if isSet (stripped request.projectUrl) then
    let _ ← projectIdOf ((stripped request.projectUrl).getD "")
  refuse (200 < request.requestedKey.length) (valueError "conversation_key must be <= 200 characters")
  refuse (240 < ((stripped request.dispatchKey).getD "").length) (valueError "dispatch_key must be <= 240 characters")

/-- Whether both addresses are set and name different projects. -/
def projectChanged (requested stored : Option String) : Except Raised Bool :=
  if isSet requested ∧ isSet stored then do
    let first ← projectIdOf (requested.getD "")
    let second ← projectIdOf (stored.getD "")
    pure (first ≠ second)
  else
    pure false

/-- The check of a repeated dispatch key. -/
def sameDispatch (request : Enqueue) (job : ChatDispatchJob) : Except Raised Unit := do
  let url := stripped request.conversationUrl
  let changed ← projectChanged (stripped request.projectUrl) job.projectUrl
  refuse (job.promptSha256 ≠ sha256 request.prompt ∨
      (request.requestedKey ≠ "" ∧ job.conversationKey ≠ request.requestedKey) ∨
      (isSet url ∧ isSet job.conversationUrl ∧
        ¬ conversationUrlMatches (job.conversationUrl.getD "") (url.getD "")) ∨ changed = true)
    (valueError "dispatch_key already exists for a different dispatch")

def key (request : Enqueue) : String :=
  let url := stripped request.conversationUrl
  if request.requestedKey ≠ "" then request.requestedKey
  else if isSet url then "conversation:" ++ (conversationIdFromUrl (url.getD "")).getD "None"
  else "new:" ++ request.keySuffix

/-- The conversation address, which a bound key brings with it. -/
def resolveUrl (request : Enqueue) (known : Option ChatConversation) : Except Raised (Option String) :=
  let url := stripped request.conversationUrl
  let knownUrl := known.bind (·.conversationUrl)
  if isSet knownUrl then do
    refuse (isSet url ∧ ¬ conversationUrlMatches (knownUrl.getD "") (url.getD ""))
      (valueError "conversation_key is already bound to a different conversation")
    pure knownUrl
  else
    pure url

def resolveProject (request : Enqueue) (known : Option ChatConversation) : Option String :=
  let project := stripped request.projectUrl
  let knownProject := known.bind (·.projectUrl)
  if !isSet project && isSet knownProject then knownProject else project

end Enqueue

/-- `INSERT … ON CONFLICT(conversation_key) DO UPDATE` with the older values kept
where there are any. -/
def upsertConversation (store : ChatStore) (row : ChatConversation) : Except Raised ChatStore :=
  match store.conversations.find? row.conversationKey with
  | none =>
    match store.conversations.insert row with
    | .error _ => .error (integrityError "chat_conversations.conversation_url")
    | .ok conversations => .ok { store with conversations }
  | some old =>
    let merged := { old with
      conversationUrl := old.conversationUrl.or row.conversationUrl
      projectUrl := old.projectUrl.or row.projectUrl
      updatedAt := row.updatedAt }
    match store.conversations.replace? merged with
    | none => .error (integrityError "chat_conversations.conversation_url")
    | some conversations => .ok { store with conversations }

def insertJob (store : ChatStore) (job : ChatDispatchJob) : Except Raised ChatStore :=
  match store.jobs.insert job with
  | .error .key => .error (integrityError "chat_dispatch_jobs.dispatch_id")
  | .error .index => .error (integrityError "chat_dispatch_jobs.dispatch_key")
  | .ok jobs => .ok { store with jobs }

/-- The job that an enqueue with new identifiers adds. -/
def Enqueue.job (request : Enqueue) (conversationUrl projectUrl : Option String) : ChatDispatchJob :=
  { dispatchId := "chat_" ++ request.dispatchSuffix
    dispatchKey := stripped request.dispatchKey
    conversationKey := request.key
    conversationUrl, projectUrl
    promptText := request.prompt
    promptSha256 := sha256 request.prompt
    nonce := request.nonce
    state := .queued
    createdAt := request.now
    updatedAt := request.now
    nextAttemptAt := request.now
    attempts := 0
    idleCloseS := max 1 request.idleCloseS
    maxWindows := max 1 (min request.maxWindows 16) }

def enqueueNew (request : Enqueue) (store : ChatStore) : Except Raised (ChatDispatchJob × ChatStore) := do
  let known := store.conversations.find? request.key
  let conversationUrl ← request.resolveUrl known
  let projectUrl := request.resolveProject known
  refuse (!isSet conversationUrl && !isSet projectUrl)
    (valueError "new conversation dispatch requires project_url unless conversation_key is already resolved")
  let store ← upsertConversation store
    { conversationKey := request.key, conversationUrl, projectUrl, createdAt := request.now, updatedAt := request.now }
  let job := request.job conversationUrl projectUrl
  let store ← insertJob store job
  pure (job, store)

/-- The job under the dispatch key of the request. -/
def Enqueue.existing (request : Enqueue) (store : ChatStore) : Option ChatDispatchJob :=
  let key := stripped request.dispatchKey
  if isSet key then store.jobs.rows.find? (·.dispatchKey = key) else none

/-- A repeated request finds its job; a new one adds it. -/
inductive Enqueued where
  | existing (job : ChatDispatchJob)
  | added (dispatchId : String)

def enqueueTransaction (request : Enqueue) (store : ChatStore) : Except Raised (Enqueued × ChatStore) := do
  request.validate
  match request.existing store with
  | some job =>
    request.sameDispatch job
    pure (.existing job, store)
  | none =>
    let (job, store) ← enqueueNew request store
    pure (.added job.dispatchId, store)

def getJob (dispatchId : String) (store : ChatStore) : Except Raised ChatDispatchJob :=
  match store.jobs.find? dispatchId with
  | none => .error ⟨"KeyError", "'unknown chat dispatch: " ++ dispatchId ++ "'"⟩
  | some job => .ok job

def getPage (pageId : String) (store : ChatStore) : Except Raised ChatPage :=
  match store.pages.find? pageId with
  | none => .error ⟨"KeyError", "'unknown chat page: " ++ pageId ++ "'"⟩
  | some page => .ok page

/-- The newest jobs first. -/
def listJobs (limit : Nat) (store : ChatStore) : List ChatDispatchJob :=
  store.jobs.rows.reverse.take (max 1 (min limit 500))

/-- `ORDER BY last_used_at DESC`. SQLite leaves the order of rows of one time open; here
they stand in row order. -/
def byLastUse (pages : List ChatPage) : List ChatPage :=
  pages.insertionSort (fun first second => second.lastUsedAt ≤ first.lastUsedAt)

def listPages (store : ChatStore) : List ChatPage :=
  byLastUse (store.pages.rows.filter (·.state ≠ .closed))

/-- The page that was used last. Which one that is among pages of one time is left open
by SQLite, see `byLastUse`. -/
def pageForConversation (conversationKey : String) (store : ChatStore) : Option ChatPage :=
  (byLastUse (store.pages.rows.filter (fun page =>
    page.conversationKey = conversationKey ∧ (page.state = .isOpen ∨ page.state = .idle)))).head?

def pageIdOf (identity : PageIdentity) : String :=
  "hwnd:" ++ toString identity.windowHandle ++ ":pid:" ++ toString identity.browserPid

/-- The page is owned from the first time on that it was recorded as owned. -/
def upsertPage (conversationKey : String) (identity : PageIdentity) (now : Time) (store : ChatStore) : ChatStore :=
  let fresh : ChatPage :=
    { pageId := pageIdOf identity, conversationKey, conversationUrl := identity.conversationUrl,
      windowHandle := identity.windowHandle, browserPid := identity.browserPid,
      chromeExecutable := identity.chromeExecutable, owned := identity.owned, state := .isOpen,
      openedAt := now, lastUsedAt := now }
  let row := match store.pages.find? fresh.pageId with
    | none => fresh
    | some old => { fresh with
        windowHandle := old.windowHandle, browserPid := old.browserPid, owned := old.owned || identity.owned,
        openedAt := old.openedAt }
  { store with pages := store.pages.upsert row }

def updatePage (pageId : String) (change : ChatPage → ChatPage) (kept : ∀ page, (change page).pageId = page.pageId)
    (store : ChatStore) : ChatStore :=
  { store with pages := store.pages.update (·.pageId = pageId) change kept }

def updatePageUrl (pageId conversationUrl : String) (now : Time) : ChatStore → ChatStore :=
  updatePage pageId (fun page => { page with
    conversationUrl, state := .isOpen, lastUsedAt := now, idleSince := none, closeAfterAt := none, lastError := none })
    (fun _ => rfl)

def markPageOpen (pageId : String) (now : Time) : ChatStore → ChatStore :=
  updatePage pageId (fun page => { page with
    state := .isOpen, lastUsedAt := now, idleSince := none, closeAfterAt := none, lastError := none }) (fun _ => rfl)

/-- When the page became idle. `page` is the row as it was read. -/
def idleSince (page : ChatPage) (now : Time) : Time :=
  if page.state = .idle then page.idleSince.getD now else now

def markPageIdle (page : ChatPage) (idleCloseS now : Time) : ChatStore → ChatStore :=
  let since := idleSince page now
  updatePage page.pageId (fun row => { row with
    state := .idle, idleSince := some since, lastUsedAt := now
    closeAfterAt := if page.owned then some (since + max 1 idleCloseS) else none }) (fun _ => rfl)

def markPageClosed (pageId : String) (ambiguous : Bool) (error : Option String) : ChatStore → ChatStore :=
  updatePage pageId (fun page => { page with
    state := if ambiguous then .ambiguous else .closed, lastError := error, closeAfterAt := none }) (fun _ => rfl)

/-- Bind a key to an address, and the jobs of the key that have none yet. -/
def bindConversation (conversationKey conversationUrl : String) (now : Time) (store : ChatStore) :
    Except Raised (Unit × ChatStore) :=
  match store.conversations.rows.find? (fun row =>
    row.conversationUrl = some conversationUrl ∧ row.conversationKey ≠ conversationKey) with
  | some conflicting =>
    .error ⟨"RuntimeError", "conversation URL is already owned by key " ++ conflicting.conversationKey⟩
  | none =>
    let jobs := store.jobs.update
      (fun job => job.conversationKey = conversationKey ∧ job.conversationUrl = none)
      (fun job => { job with conversationUrl := some conversationUrl, updatedAt := now }) (fun _ => rfl) (fun _ => rfl)
    match store.conversations.find? conversationKey with
    | none => .ok ((), { store with jobs })
    | some old =>
      match store.conversations.replace? { old with conversationUrl := some conversationUrl, updatedAt := now } with
      | none => .error (integrityError "chat_conversations.conversation_url")
      | some conversations => .ok ((), { store with conversations, jobs })

/-- The optional arguments of `update_job`. -/
structure JobChange where
  state : Option ChatDispatchState := none
  nextAttemptAt : Option Time := none
  attempts : Option Nat := none
  windowHandle : Option Int := none
  browserPid : Option Int := none
  chromeExecutable : Option String := none
  pageOwned : Option Bool := none
  conversationUrl : Option String := none
  submittedAt : Option Time := none
  acknowledgedAt : Option Time := none
  lastError : Option String := none

def JobChange.apply (change : JobChange) (now : Time) (job : ChatDispatchJob) : ChatDispatchJob :=
  { job with
    updatedAt := now
    state := change.state.getD job.state
    nextAttemptAt := change.nextAttemptAt.getD job.nextAttemptAt
    attempts := change.attempts.getD job.attempts
    windowHandle := change.windowHandle.or job.windowHandle
    browserPid := change.browserPid.or job.browserPid
    chromeExecutable := change.chromeExecutable.or job.chromeExecutable
    pageOwned := change.pageOwned.getD job.pageOwned
    conversationUrl := change.conversationUrl.or job.conversationUrl
    submittedAt := change.submittedAt.or job.submittedAt
    acknowledgedAt := change.acknowledgedAt.or job.acknowledgedAt
    lastError :=
      if change.lastError = none ∧ change.state ∈ [some .queued, some .submitted, some .acknowledged] then none
      else change.lastError.or job.lastError }

def updateJobRow (dispatchId : String) (change : JobChange) (now : Time) (store : ChatStore) : ChatStore :=
  { store with
    jobs := store.jobs.update (·.dispatchId = dispatchId) (change.apply now) (fun _ => rfl) (fun _ => rfl) }

/-- The states that `eligible_jobs` asks for. -/
def ChatDispatchState.Eligible (state : ChatDispatchState) : Prop :=
  state ∈ [.queued, .opening, .windowBound, .submitting, .retryWait, .submitted, .reconcileRequired]

instance (state : ChatDispatchState) : Decidable state.Eligible := inferInstanceAs (Decidable (_ ∈ _))

def eligibleJobs (now : Time) (limit : Nat) (store : ChatStore) : List ChatDispatchJob :=
  (store.jobs.rows.filter (fun job => job.state.Eligible ∧ job.nextAttemptAt ≤ now)).take (max 1 (min limit 500))

/-- Row ids grow with the position of a row. -/
def hasOlderUnfinished (job : ChatDispatchJob) (store : ChatStore) : Bool :=
  (store.jobs.rows.any (·.dispatchId = job.dispatchId)) &&
    (store.jobs.rows.takeWhile (·.dispatchId ≠ job.dispatchId)).any (fun older =>
      older.conversationKey = job.conversationKey ∧ ¬ older.state.Terminal)

def hasPendingForConversation (conversationKey : String) (store : ChatStore) : Bool :=
  store.jobs.rows.any (fun job => job.conversationKey = conversationKey ∧ ¬ job.state.Terminal)

def pendingCount (store : ChatStore) : Nat := store.jobs.rows.countP (fun job => ¬ job.state.Terminal)

def ownedOpenCount (store : ChatStore) : Nat :=
  store.pages.rows.countP (fun page => page.owned ∧ (page.state = .isOpen ∨ page.state = .idle))

end WebSupervisor.ChatDispatch
