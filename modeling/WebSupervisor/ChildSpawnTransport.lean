import WebSupervisor.ChildSpawn

/-! `ChromeUiaChildSpawnTransport` of `child_spawn.py`, as far as it opens, takes
over or closes a window. The helper scripts, the browser launch and the clock are the
environment: a method is a function of what they answer. A wait is given the answers
of its rounds, and has not returned when these run out. -/

namespace WebSupervisor.ChildSpawn
open Library

/-- What the script that reads the address of a window prints. -/
structure WindowReading where
  isPresent : Bool
  ambiguous : Bool
  windowHandle : Int := 0
  browserPid : Int := 0
  url : String := ""
  detail : String := ""
  deriving DecidableEq

/-- What the script that navigates a window prints. -/
structure NavigateReading where
  changed : Bool
  ambiguous : Bool
  detail : String := ""
  deriving DecidableEq

/-- `casefold` is the host language's. `onWindows` is `os.name == "nt"`. -/
structure ChromeTransport where
  chromeExecutable : String
  enabled : Bool
  onWindows : Bool
  openTimeoutS : Time
  casefold : String → String

/-- `str(text or default)`. -/
def textOr (text default : String) : String := if text = "" then default else text

/-- The exception of a helper, as it leaves a method. -/
def thrown (exception : Raised) : SupervisorError := .raised exception.kind exception.message

def gated : SupervisorError := .childSpawnBlocked ["child-spawn browser mutation transport is gated"]

/-- `_owned_project_url_candidates`, the spellings of the owned root. -/
def ownedProjectUrlCandidates (attempt : ChildSpawnAttempt) : List String :=
  match urlsplit attempt.projectUrl with
  | none => []
  | some parsed =>
    let token := parsed.segments.getD 1 ""
    let bases := ["/g/" ++ token, "/g/" ++ token ++ "/project", "/g/g-p-" ++ attempt.projectId,
      "/g/g-p-" ++ attempt.projectId ++ "/project"]
    (bases.map (fun path => PageRuntime.urlunsplit
      { parsed with path, query := "", fragment := "lws-child=" ++ attempt.ownerToken })).eraseDups

/-- `_find`: the windows at an address. -/
abbrev Finder := String → Except Raised (List ProbeWindowMatch)

/-- The windows that any candidate finds, one for each handle and process, the last
one that was found. -/
def ownedWindows (find : Finder) (candidates : List String) : Except Raised (List ProbeWindowMatch) := do
  let found ← candidates.mapM find
  let identity (item : ProbeWindowMatch) : Int × Int := (item.windowHandle, item.browserPid)
  pure (found.flatten.foldl (fun kept item =>
    if kept.any (fun old => identity old = identity item) then
      kept.map (fun old => if identity old = identity item then item else old)
    else
      kept ++ [item]) [])

/-- Whether the observation has found no window. -/
def observedNone : Except Raised (List ProbeWindowMatch) → Bool
  | .ok [] => true
  | _ => false

def observeOwnedProject (chrome : ChromeTransport) (attempt : ChildSpawnAttempt)
    (found : Except Raised (List ProbeWindowMatch)) : ChildSpawnExecution :=
  match found with
  | .error exception => { changed := false, sideEffectPossible := false
                          detail := "owned project observation failed: " ++ exception.kind }
  | .ok [item] =>
    if chrome.casefold item.chromeExecutable ≠ chrome.casefold attempt.chromeExecutable then
      { changed := false, sideEffectPossible := false, detail := "owned project window executable changed" }
    else
      { changed := false, sideEffectPossible := false, detail := "single LWS-tagged project window observed"
        windowHandle := some item.windowHandle, browserPid := some item.browserPid, url := some item.actualUrl }
  | .ok found =>
    { changed := false, sideEffectPossible := false
      detail := "expected exactly one LWS-tagged project window, observed " ++ toString found.length }

/-- The rounds of the wait for the opened window: the clock, and the finder's answers. -/
def awaitOpened (chrome : ChromeTransport) (attempt : ChildSpawnAttempt) (deadline : Time) :
    List (Time × Finder) → Option ChildSpawnExecution
  | [] => none
  | (clock, find) :: rounds =>
    if clock < deadline then
      let found := ownedWindows find (ownedProjectUrlCandidates attempt)
      let observed := observeOwnedProject chrome attempt found
      if given observed.windowHandle ∧ given observed.browserPid then
        some { observed with
          changed := true, sideEffectPossible := true, detail := "single LWS-owned project window opened" }
      else if observedNone found then
        awaitOpened chrome attempt deadline rounds
      else
        some { changed := false, sideEffectPossible := true, detail := observed.detail }
    else
      some { changed := false, sideEffectPossible := true
             detail := "Chrome launch returned but the unique tagged project window was not observed in time" }

/-- `launched` is what starting the browser did, `began` the clock after it. -/
def openAuthorized (chrome : ChromeTransport) (attempt : ChildSpawnAttempt) (launched : Except Raised Unit)
    (began : Time) (rounds : List (Time × Finder)) : Option (Except SupervisorError ChildSpawnExecution) :=
  if chrome.enabled = false then some (.error gated)
  else if chrome.onWindows = false then
    some (.ok { changed := false, sideEffectPossible := false, detail := "Windows UI Automation is unavailable" })
  else if attempt.state ≠ .windowOpenSubmitted then
    some (.ok { changed := false, sideEffectPossible := false
                detail := "WINDOW_OPEN authority was not durably submitted" })
  else if chrome.casefold attempt.chromeExecutable ≠ chrome.casefold chrome.chromeExecutable then
    some (.ok { changed := false, sideEffectPossible := false
                detail := "transport executable does not match durable spawn authority" })
  else
    match launched with
    | .error exception =>
      some (.ok { changed := false, sideEffectPossible := false
                  detail := "Chrome launch failed before observation: " ++ exception.kind })
    | .ok _ => (awaitOpened chrome attempt (began + chrome.openTimeoutS) rounds).map .ok

/-- `_observe_bound_url` of an attempt with a window. -/
def observeBoundUrl (windowHandle browserPid : Option Int) (reading : WindowReading) : ChildSpawnExecution :=
  if given windowHandle = false ∨ given browserPid = false then
    { changed := false, sideEffectPossible := false, detail := "spawn attempt has no durable HWND/PID binding" }
  else if reading.ambiguous then
    { changed := false, sideEffectPossible := false, detail := textOr reading.detail "spawn window identity ambiguous" }
  else if reading.isPresent = false then
    { changed := false, sideEffectPossible := false, detail := textOr reading.detail "spawn window absent" }
  else
    { changed := false, sideEffectPossible := false, detail := textOr reading.detail "spawn window observed"
      windowHandle := some reading.windowHandle, browserPid := some reading.browserPid, url := some reading.url }

/-- The window that a method takes over. -/
structure SourceWindow where
  windowHandle : Int
  browserPid : Int
  chromeExecutable : String
  conversationUrl : String
  deriving DecidableEq

/-- A result that names the window and the address that it was last seen at. -/
def SourceWindow.result (source : SourceWindow) (changed sideEffectPossible : Bool) (detail : String)
    (url : Option String) : ChildSpawnExecution :=
  { changed, sideEffectPossible, detail, windowHandle := some source.windowHandle
    browserPid := some source.browserPid, url }

/-- The rounds of the wait for the new root: the clock, and the reading of the window.
`last` is the result of the round before. -/
def awaitNavigated (attempt : ChildSpawnAttempt) (source : SourceWindow) (sourceUrl : String) (deadline : Time) :
    List (Time × Except Raised WindowReading) → ChildSpawnExecution → Option (Except SupervisorError ChildSpawnExecution)
  | [], _ => none
  | (clock, reading) :: rounds, last =>
    if clock < deadline then
      match reading with
      | .error exception => some (.error (thrown exception))
      | .ok reading =>
        let last := observeBoundUrl (some source.windowHandle) (some source.browserPid) reading
        let url := last.url.getD ""
        if url ≠ "" ∧ ownedProjectRootMatches url attempt then
          some (.ok (source.result true true "exact dispatcher HWND navigated to the new LWS-owned project root" last.url))
        else if url ≠ "" ∧ webRouteProjectId url ≠ none ∧ webRouteProjectId url ≠ some attempt.projectId then
          some (.ok (source.result false true "dispatcher navigated into a different web project" last.url))
        else
          awaitNavigated attempt source sourceUrl deadline rounds last
    else
      some (.ok (source.result false true (textOr last.detail "dispatcher navigation not observed in time")
        (some (textOr (last.url.getD "") sourceUrl))))

/-- What the environment answers to a method that takes over a window. -/
structure ReuseAnswers where
  source : Except Raised WindowReading
  navigation : Except Raised NavigateReading
  began : Time
  rounds : List (Time × Except Raised WindowReading)

def navigateReusedWindow (chrome : ChromeTransport) (attempt : ChildSpawnAttempt) (source : SourceWindow)
    (sourceUrl : String) (answers : ReuseAnswers) : Option (Except SupervisorError ChildSpawnExecution) :=
  if chrome.enabled = false then some (.error gated)
  else if chrome.onWindows = false then
    some (.ok { changed := false, sideEffectPossible := false, detail := "Windows UI Automation is unavailable" })
  else
    match answers.navigation with
    | .error exception =>
      some (.ok { changed := false, sideEffectPossible := false
                  detail := "dispatcher navigation failed before observation: " ++ exception.kind })
    | .ok reading =>
      if reading.ambiguous then
        some (.ok (source.result false true (textOr reading.detail "dispatcher navigation outcome ambiguous")
          (some sourceUrl)))
      else if reading.changed = false then
        some (.ok (source.result false false (textOr reading.detail "dispatcher navigation was not submitted")
          (some sourceUrl)))
      else
        awaitNavigated attempt source sourceUrl (answers.began + chrome.openTimeoutS) answers.rounds
          { changed := false, sideEffectPossible := true, detail := "dispatcher navigation not observed" }

/-- The two methods that take over a window, after their own checks. -/
def reuseWindow (chrome : ChromeTransport) (attempt : ChildSpawnAttempt) (source : SourceWindow) (changedDetail : String)
    (answers : ReuseAnswers) : Option (Except SupervisorError ChildSpawnExecution) :=
  match answers.source with
  | .error exception => some (.error (thrown exception))
  | .ok reading =>
    let current := observeBoundUrl (some source.windowHandle) (some source.browserPid) reading
    let url := current.url.getD ""
    if url = "" ∨ conversationUrlMatches url source.conversationUrl = false then
      some (.ok (source.result false false changedDetail current.url))
    else
      navigateReusedWindow chrome attempt source url answers

def reuseAuthorized (chrome : ChromeTransport) (attempt : ChildSpawnAttempt) (sourceWorker : WorkerRecord)
    (sourceBinding : WorkerWindowBinding) (answers : ReuseAnswers) : Option (Except SupervisorError ChildSpawnExecution) :=
  if attempt.state ≠ .windowOpenSubmitted then
    some (.ok { changed := false, sideEffectPossible := false
                detail := "WINDOW_OPEN authority was not durably submitted" })
  else if sourceBinding.workerId ≠ sourceWorker.workerId then
    some (.ok { changed := false, sideEffectPossible := false
                detail := "dispatcher source binding belongs to a different worker" })
  else
    reuseWindow chrome attempt
      { windowHandle := sourceBinding.windowHandle, browserPid := sourceBinding.browserPid
        chromeExecutable := sourceBinding.chromeExecutable, conversationUrl := sourceWorker.conversationUrl }
      "dispatcher source conversation identity changed" answers

def reuseCompletedSpawnAuthorized (chrome : ChromeTransport) (attempt sourceAttempt : ChildSpawnAttempt)
    (answers : ReuseAnswers) : Option (Except SupervisorError ChildSpawnExecution) :=
  if sourceAttempt.state ≠ .completed then
    some (.ok { changed := false, sideEffectPossible := false, detail := "dispatcher source spawn is not COMPLETED" })
  else if given sourceAttempt.windowHandle = false ∨ given sourceAttempt.browserPid = false ∨
      sourceAttempt.conversationUrl.getD "" = "" then
    some (.ok { changed := false, sideEffectPossible := false
                detail := "dispatcher source spawn lacks exact page identity" })
  else
    reuseWindow chrome attempt
      { windowHandle := sourceAttempt.windowHandle.getD 0, browserPid := sourceAttempt.browserPid.getD 0
        chromeExecutable := sourceAttempt.chromeExecutable, conversationUrl := sourceAttempt.conversationUrl.getD "" }
      "completed dispatcher source conversation identity changed" answers

/-- The environment of the script that closes a window. It has two slots for the
addresses that the window may show. -/
structure CloseIdentity where
  windowHandle : Int
  browserPid : Int
  chromeExecutable : String
  url₁ : String
  url₂ : Option String
  deriving DecidableEq

/-- The addresses that the script is handed. -/
def CloseIdentity.urls (identity : CloseIdentity) : List String := identity.url₁ :: identity.url₂.toList

/-- Whether the script takes the address of the window for one of the handed ones.
`norm` is the script's spelling of an address for its comparison. -/
def CloseIdentity.accepts (norm : String → String) (identity : CloseIdentity) (url : String) : Bool :=
  (identity.urls.map norm).contains (norm url)

/-- What the script prints. -/
structure CloseReading where
  closed : Bool
  isAbsent : Bool
  ambiguous : Bool
  detail : String := ""
  deriving DecidableEq

/-- The identity that is handed to the script, when it is complete. -/
def closeIdentity (windowHandle browserPid : Int) (chromeExecutable : String) (expectedUrls : List String) :
    Option CloseIdentity :=
  match expectedUrls with
  | [] => none
  | url₁ :: rest =>
    if windowHandle ≤ 0 ∨ browserPid ≤ 0 then none
    else some { windowHandle, browserPid, chromeExecutable, url₁, url₂ := rest.head? }

/-- `_close_authorized_identity`. The script is a part of the environment. -/
def closeAuthorizedIdentity (chrome : ChromeTransport) (windowHandle browserPid : Int) (chromeExecutable : String)
    (expectedUrls : List String) (script : CloseIdentity → Except Raised CloseReading) :
    Except SupervisorError ChildSpawnExecution :=
  if chrome.enabled = false then .error gated
  else if chrome.onWindows = false then
    .ok { changed := false, sideEffectPossible := false, detail := "Windows UI Automation is unavailable" }
  else
    match closeIdentity windowHandle browserPid chromeExecutable expectedUrls with
    | none =>
      .ok { changed := false, sideEffectPossible := false, detail := "exact child window close identity is incomplete" }
    | some identity =>
      match script identity with
      | .error exception =>
        .ok { changed := false, sideEffectPossible := false
              detail := "exact child window close failed before observation: " ++ exception.kind }
      | .ok reading =>
        let result (changed sideEffectPossible : Bool) (default : String) : ChildSpawnExecution :=
          { changed, sideEffectPossible, detail := textOr reading.detail default
            windowHandle := some windowHandle, browserPid := some browserPid }
        if reading.ambiguous then .ok (result false true "exact child window close identity is ambiguous")
        else if reading.isAbsent then .ok (result false false "exact child window already absent")
        else .ok (result reading.closed reading.closed "exact LWS child window close completed")

def closeOwnedProject (chrome : ChromeTransport) (attempt : ChildSpawnAttempt)
    (script : CloseIdentity → Except Raised CloseReading) : Except SupervisorError ChildSpawnExecution :=
  if attempt.state ≠ .windowBound then
    .ok { changed := false, sideEffectPossible := false, detail := "pre-send close requires WINDOW_BOUND state" }
  else if given attempt.windowHandle = false ∨ given attempt.browserPid = false then
    .ok { changed := false, sideEffectPossible := false, detail := "pre-send close requires exact HWND/PID binding" }
  else
    closeAuthorizedIdentity chrome (attempt.windowHandle.getD 0) (attempt.browserPid.getD 0) attempt.chromeExecutable
      (ownedProjectUrlCandidates attempt) script

/-- The spellings of the conversation of a binding and of that of its worker. -/
def workerUrlCandidates (worker : WorkerRecord) (binding : WorkerWindowBinding) : List String :=
  (conversationUrlCandidates binding.conversationUrl ++ conversationUrlCandidates worker.conversationUrl).eraseDups

def closeWorkerBindingAuthorized (chrome : ChromeTransport) (worker : WorkerRecord) (binding : WorkerWindowBinding)
    (script : CloseIdentity → Except Raised CloseReading) : Except SupervisorError ChildSpawnExecution :=
  if binding.workerId ≠ worker.workerId then
    .ok { changed := false, sideEffectPossible := false, detail := "window binding belongs to a different worker" }
  else
    closeAuthorizedIdentity chrome binding.windowHandle binding.browserPid binding.chromeExecutable
      (workerUrlCandidates worker binding) script

end WebSupervisor.ChildSpawn
