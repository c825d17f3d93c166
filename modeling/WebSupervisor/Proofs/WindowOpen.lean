import WebSupervisor.Proofs.ProjectAddresses
import WebSupervisor.Proofs.SpawnRequests

/-! The outcomes of an open. The dispatch looks at the window of a result before its
side effect, so that a result with a window that is not the attempt's own raises from
the binding, after the open has been submitted. A launch reports only windows that were
found at the attempt's own root; a takeover that is in doubt names the window it had. -/

namespace WebSupervisor.ChildSpawn.Proofs
open Library Library.Program Registry Registry.Proofs

/-- The state that an attempt should be left in by a result. -/
def classified (attempt : ChildSpawnAttempt) (result : ChildSpawnExecution) : ChildSpawnAttemptState :=
  if result.window.any (fun window => ownedProjectRootMatches window.2.2 attempt) then .windowBound
  else if result.sideEffectPossible then .reconcileRequired
  else .failed

/-- The call returns, and leaves the attempt in that state. -/
structure Classified (attempt : ChildSpawnAttempt) (result : ChildSpawnExecution)
    (outcome : Except SupervisorError ChildSpawnAttempt) (after : Database) : Prop where
  returns : ∃ returned, outcome = .ok returned
  state : spawnState after attempt.attemptId = some (classified attempt result)

/-- The window can be bound to the attempt. -/
def Bindable (attempt : ChildSpawnAttempt) (window : Int × Int × String) : Prop :=
  0 < window.1 ∧ 0 < window.2.1 ∧ ownedProjectRootMatches window.2.2 attempt = true

section Open
variable {db after store : Database} {trace : List (Happening Database SpawnAnswer)} {attemptId : String}
  {row : ChildSpawnRow} {now : Time} {outcome : Except SupervisorError ChildSpawnAttempt}

private theorem solo_clear {workerId : String} {result : Except SupervisorError Unit}
    (run : Solo (do
      let _ ← clearWorkerWindowBinding workerId
      pure () : Spawning Unit).run db trace result after) :
    result = .ok () ∧ ∀ wanted, spawnState after wanted = spawnState db wanted := by
  obtain ⟨_, _, run⟩ := run.committed rfl
  obtain ⟨_, rfl, rfl⟩ := solo_done.mp run
  exact ⟨rfl, fun _ => rfl⟩

private theorem solo_release {source : ReuseSource} {result : Except SupervisorError Unit}
    (run : Solo (releaseSource attemptId now source).run db trace result after) :
    result = .ok () ∧ ∀ wanted, spawnState after wanted = spawnState db wanted := by
  cases source with
  | fresh =>
    obtain ⟨_, rfl, rfl⟩ := solo_done.mp run
    exact ⟨rfl, fun _ => rfl⟩
  | completedSpawn spawn =>
    unfold releaseSource at run
    rcases solo_andThen.mp run with ⟨_, _, _, _, rfl, marking, going⟩ | ⟨_, _, raised⟩
    case inr =>
      obtain ⟨_, _, wrong⟩ := solo_attempt.mp raised
      cases wrong
    obtain ⟨marked, marking, same⟩ := solo_attempt.mp marking
    cases same
    clear run
    cases found : db.childSpawnAttempts.find? spawn.attemptId with
    | some row =>
      obtain ⟨rfl, written⟩ := solo_annotate found marking
      obtain ⟨_, rfl, rfl⟩ := solo_done.mp going
      exact ⟨rfl, written.kept found rfl⟩
    | none =>
      obtain ⟨⟨_, rfl⟩, rfl⟩ := solo_annotate_unknown found marking
      obtain ⟨_, rfl, rfl⟩ := solo_done.mp going
      exact ⟨rfl, fun _ => rfl⟩
  | worker worker binding =>
    unfold releaseSource at run
    rcases solo_andThen.mp run with ⟨_, _, attempts, _, rfl, listing, run⟩ | ⟨_, _, raised⟩
    case inr => cases (solo_childSpawnAttempts raised).1
    obtain ⟨same, rfl⟩ := solo_childSpawnAttempts listing
    cases same
    split at run
    next => exact solo_clear run
    next owner chosen =>
      obtain ⟨row, listed, rfl⟩ := List.mem_map.mp (List.mem_of_find?_eq_some chosen)
      have found := Table.find?_some.mpr ⟨(listedSpawns_mem listed).1, rfl⟩
      rcases solo_andThen.mp run with ⟨_, _, _, _, rfl, marking, run⟩ | ⟨_, _, raised⟩
      case inr => cases (solo_annotate found raised).1
      obtain ⟨_, written⟩ := solo_annotate found marking
      obtain ⟨done, kept⟩ := solo_clear run
      exact ⟨done, fun wanted => (kept wanted).trans (written.kept found rfl wanted)⟩

/-- The attempt is found in the state that a submitted open leaves. -/
private def Submitted (db : Database) (attempt : ChildSpawnAttempt) : Prop :=
  ∃ row, db.childSpawnAttempts.find? attempt.attemptId = some row ∧ row.state = .windowOpenSubmitted ∧
    row.payload.state = .windowOpenSubmitted ∧ row.payload.ownerToken = attempt.ownerToken ∧
    row.payload.projectId = attempt.projectId

private theorem owned_congr {first second : ChildSpawnAttempt} (owner : first.ownerToken = second.ownerToken)
    (project : first.projectId = second.projectId) (url : String) :
    ownedProjectRootMatches url first = ownedProjectRootMatches url second := by
  unfold ownedProjectRootMatches
  rw [owner, project]

private theorem solo_move {attempt : ChildSpawnAttempt} (submitted : Submitted db attempt) {change : SpawnUpdate}
    (next : change.state ∈ ChildSpawnAttemptState.allowed .windowOpenSubmitted)
    (run : Solo (updateChildSpawnAttempt (ω := SpawnAnswer) attempt.attemptId change now).run db trace outcome after) :
    (∃ returned, outcome = .ok returned) ∧ spawnState after attempt.attemptId = some change.state := by
  obtain ⟨row, found, column, state, _⟩ := submitted
  rcases solo_update found (.inl (by rw [column]; decide)) run with ⟨_, rfl, written⟩ | ⟨stuck, _⟩
  · exact ⟨⟨_, rfl⟩, written.spawnState⟩
  · exact absurd (.inr (state ▸ next)) stuck

private theorem solo_bind {attempt : ChildSpawnAttempt} (submitted : Submitted db attempt) {window : Int × Int × String}
    (run : Solo (bindChildSpawnWindow attempt.attemptId window.1 window.2.1 window.2.2 now).run db trace outcome after) :
    Bindable attempt window ∧ (∃ returned, outcome = .ok returned) ∧
        spawnState after attempt.attemptId = some .windowBound ∨
      ¬ Bindable attempt window ∧ (∃ error, outcome = .error error) ∧ after = db := by
  obtain ⟨row, found, column, state, owner, project⟩ := id submitted
  obtain ⟨_, _, run⟩ := run.checked (getChildSpawnAttempt_found found)
  have accepted : requireOwnedWindow row.payload window.1 window.2.1 window.2.2 = .ok () ↔ Bindable attempt window := by
    simp only [requireOwnedWindow, bind_eq_ok, refuse_eq_ok, state, owned_congr owner project, Bindable]
    simp [not_or, and_assoc]
  by_cases bindable : Bindable attempt window
  · obtain ⟨returned, moved⟩ := solo_move submitted (by simp [ChildSpawnAttemptState.allowed]) (run.ensured (accepted.mpr bindable))
    exact .inl ⟨bindable, returned, moved⟩
  · cases refused : requireOwnedWindow row.payload window.1 window.2.1 window.2.2 with
    | ok =>
      exact absurd (accepted.mp refused) bindable
    | error error =>
      obtain ⟨_, rfl, rfl⟩ := run.ensuredError refused
      exact .inr ⟨bindable, ⟨error, rfl⟩, rfl⟩

private theorem solo_settle {attempt : ChildSpawnAttempt} (submitted : Submitted db attempt) {source : ReuseSource}
    {result : ChildSpawnExecution}
    (run : Solo (settleOpen attempt.attemptId source result now).run db trace outcome after) :
    Classified attempt result outcome after ↔ ∀ window ∈ result.window, Bindable attempt window := by
  unfold settleOpen at run
  cases shown : result.window with
  | none =>
    rw [shown] at run
    obtain ⟨returned, moved⟩ := solo_move submitted (by dsimp only; split <;> decide) run
    refine iff_of_true ⟨returned, ?_⟩ (fun _ impossible => nomatch impossible)
    rw [moved, classified, shown]
    rfl
  | some window =>
    rw [shown] at run
    simp only [Option.mem_some_iff, forall_eq']
    rcases solo_andThen.mp run with ⟨_, _, bound, middle, rfl, binding, run⟩ | ⟨error, rfl, raised⟩
    · rcases solo_bind submitted binding with ⟨bindable, _, moved⟩ | ⟨_, ⟨_, wrong⟩, _⟩
      · rcases solo_andThen.mp run with ⟨_, _, _, _, rfl, releasing, run⟩ | ⟨_, _, raised⟩
        case inr => cases (solo_release raised).1
        obtain ⟨_, kept⟩ := solo_release releasing
        obtain ⟨_, rfl, rfl⟩ := solo_done.mp run
        refine iff_of_true ⟨⟨_, rfl⟩, ?_⟩ bindable
        rw [kept, moved, classified, shown, Option.any_some, bindable.2.2, if_pos rfl]
      · cases wrong
    · rcases solo_bind submitted raised with ⟨_, ⟨_, wrong⟩, _⟩ | ⟨unbindable, _, rfl⟩
      · cases wrong
      · refine iff_of_false (fun classified => ?_) unbindable
        obtain ⟨_, wrong⟩ := classified.returns
        cases wrong

private theorem solo_submit (found : db.childSpawnAttempts.find? attemptId = some row) {submitted : ChildSpawnAttempt}
    (run : Solo (submitChildSpawnOpen (ω := SpawnAnswer) attemptId now).run db trace (.ok submitted) after) :
    Submitted after row.payload ∧ submitted.ownerToken = row.payload.ownerToken ∧
      submitted.projectId = row.payload.projectId := by
  obtain rfl : row.payload.attemptId = attemptId := (Table.find?_some.mp found).2
  obtain ⟨_, _, run⟩ := run.checked (getChildSpawnAttempt_found found)
  by_cases armed : row.payload.state = .armed
  case neg =>
    obtain ⟨_, wrong, _⟩ := run.ensuredError (if_pos armed)
    cases wrong
  have going := run.ensured (if_neg (not_not.mpr armed))
  obtain ⟨_, rfl, written⟩ := solo_updated found going
  exact ⟨⟨_, written.found, rfl, rfl, rfl, rfl⟩, rfl, rfl⟩

private theorem solo_reported {sourceWorker : Option WorkerRecord} {sourceBinding : Option WorkerWindowBinding}
    {sourceSpawn : Option ChildSpawnAttempt} {clock : Option Time} {called : TransportCall} {result : ChildSpawnExecution}
    (found : db.childSpawnAttempts.find? attemptId = some row)
    (run : Solo (executeChildSpawnOpen attemptId sourceWorker sourceBinding sourceSpawn clock).run db trace outcome after)
    (reported : .asked store (.transport called) (.ok result) ∈ trace) :
    ∃ source submitted middle time rest, called = ReuseSource.call submitted source ∧
      submitted.ownerToken = row.payload.ownerToken ∧ submitted.projectId = row.payload.projectId ∧
      Submitted middle row.payload ∧
      Solo (settleOpen row.payload.attemptId source result time).run middle rest outcome after := by
  have named : row.payload.attemptId = attemptId := (Table.find?_some.mp found).2
  cases chosen : reuseSource sourceWorker sourceBinding sourceSpawn with
  | error error =>
    obtain ⟨rfl, _⟩ := run.ensuredError chosen
    cases reported
  | ok source =>
    obtain ⟨time, first, rest, rfl, quiet, opening⟩ := solo_clockOr (run.ensured chosen)
    have reported := (List.mem_append.mp reported).resolve_left (quiet _ _ _)
    rcases solo_andThen.mp opening with ⟨_, rest, submitted, middle, rfl, submitting, going⟩ | ⟨_, _, raised⟩
    case inr => exact absurd (silent_submit.solo raised reported) id
    have reported := (List.mem_append.mp reported).resolve_left (silent_submit.solo submitting)
    obtain ⟨stored, owner, project⟩ := solo_submit found submitting
    obtain ⟨answer, rest, rfl, ⟨value, rfl, answered⟩ | ⟨error, rfl, rfl, rfl, rfl⟩⟩ := going.asked
    · obtain ⟨time, first, rest, rfl, quiet, settling⟩ := solo_clockOr answered
      rcases List.mem_cons.mp reported with own | later
      · cases own
        exact ⟨source, submitted, _, time, rest, rfl, owner, project, stored, named ▸ settling⟩
      · rcases List.mem_append.mp later with clock | late
        · exact absurd clock (quiet _ _ _)
        · exact absurd (silent_settle.solo settling late) id
    · rw [List.mem_singleton] at reported
      cases reported

end Open

/-- An open whose transport has reported a result is classified exactly when the
window of the result, if it has one, can be bound to the attempt. -/
theorem window_open_classified {db after store : Database} {trace : List (Happening Database SpawnAnswer)}
    {attemptId : String} {row : ChildSpawnRow} {sourceWorker : Option WorkerRecord}
    {sourceBinding : Option WorkerWindowBinding} {sourceSpawn : Option ChildSpawnAttempt} {now : Option Time}
    {outcome : Except SupervisorError ChildSpawnAttempt} {called : TransportCall} {result : ChildSpawnExecution}
    (found : db.childSpawnAttempts.find? attemptId = some row)
    (run : Solo (executeChildSpawnOpen attemptId sourceWorker sourceBinding sourceSpawn now).run db trace outcome after)
    (reported : .asked store (.transport called) (.ok result) ∈ trace) :
    Classified row.payload result outcome after ↔ ∀ window ∈ result.window, Bindable row.payload window := by
  obtain ⟨_, _, _, _, _, _, _, _, submitted, settling⟩ := solo_reported found run reported
  exact solo_settle submitted settling

def armedSpawn : ChildSpawnAttempt :=
  { attemptId := "spawn_1", childTaskId := "child", state := .armed, ownerToken := "spawn_1:owner"
    projectUrl := "https://chatgpt.com/g/g-p-0123456789abcdef0123456789abcdef"
    projectId := "0123456789abcdef0123456789abcdef"
    taggedProjectUrl := "https://chatgpt.com/g/g-p-0123456789abcdef0123456789abcdef#lws-child=spawn_1:owner"
    promptSha256 := "hash", chromeExecutable := "chrome.exe", createdAt := 10, updatedAt := 10 }

def armedRegistry : Database :=
  { childSpawnAttempts := ⟨⟨[{ state := .armed, payload := armedSpawn }], by simp⟩, by simp⟩ }

/-- An environment whose transport reports one result. -/
def reporting (result : ChildSpawnExecution) : ∀ request, SpawnAnswer request
  | .transport _ => .ok result
  | .waitForDelivery .. => .error (.raised "RuntimeError" "unused")
  | .workspace _ => .error (.raised "RuntimeError" "unused")
  | .clock => 11
  | .uuid => "unused"

def isTransport : Happening Database SpawnAnswer → Bool
  | .asked _ (.transport _) _ => true
  | _ => false

private theorem reported_of_play {program : Program Database SpawnAnswer (Except SupervisorError ChildSpawnAttempt)}
    {result : ChildSpawnExecution} {db : Database}
    (called : (program.play (reporting result) db).1.any isTransport = true) :
    ∃ store called, .asked store (.transport called) (.ok result) ∈ (program.play (reporting result) db).1 := by
  obtain ⟨happening, member, transport⟩ := List.any_eq_true.mp called
  cases happening with
  | changed => cases transport
  | asked store request answer =>
    cases request with
    | transport called =>
      obtain rfl := play_replies (reporting result) program db store _ answer member
      exact ⟨store, called, member⟩
    | _ => cases transport

/-- The opened window shows the slug spelling of the project root. -/
theorem window_open_classified_slug :
    let url := "https://chatgpt.com/g/g-p-0123456789abcdef0123456789abcdef-docs/project#lws-child=spawn_1:owner"
    let result : ChildSpawnExecution :=
      { changed := true, sideEffectPossible := true, detail := "single LWS-owned project window opened"
        windowHandle := some 101, browserPid := some 202, url := some url }
    let run := (executeChildSpawnOpen "spawn_1" none none none none).run.play (reporting result) armedRegistry
    Classified armedSpawn result run.2.1 run.2.2 := by
  intro url result run
  have found : armedRegistry.childSpawnAttempts.find? "spawn_1" = some { state := .armed, payload := armedSpawn } := by
    decide +kernel
  obtain ⟨store, called, reported⟩ := reported_of_play (show run.1.any isTransport = true by decide +kernel)
  have owned : ownedProjectRootMatches url armedSpawn = true := by decide +kernel
  have shown : result.window = some (101, 202, url) := by decide +kernel
  refine (window_open_classified found (solo_play _ _ _) reported).mpr ?_
  rw [shown]
  rintro _ ⟨⟩
  exact ⟨by decide, by decide, owned⟩

/-- The window of the source worker shows another conversation, so that the takeover
does nothing and says so. The open raises, and the attempt stays submitted. -/
theorem window_open_unclassified :
    let worker : WorkerRecord :=
      { workerId := "worker_1", taskId := "other", status := .active, startedAt := 1
        conversationUrl := "https://chatgpt.com/g/g-p-0123456789abcdef0123456789abcdef/c/0123abcd-0123abcd" }
    let binding : WorkerWindowBinding :=
      { workerId := "worker_1", windowHandle := 101, browserPid := 202, chromeExecutable := "chrome.exe"
        conversationUrl := worker.conversationUrl, source := "windows_uia_chrome", boundAt := 1, observedAt := 1
        expiresAt := 1000 }
    let chrome : ChromeTransport :=
      { chromeExecutable := "chrome.exe", enabled := true, onWindows := true, openTimeoutS := 12, casefold := id }
    let answers : ReuseAnswers :=
      { source := .ok { isPresent := true, ambiguous := false, windowHandle := 101, browserPid := 202
                        url := "https://chatgpt.com/", detail := "bound spawn window observed" }
        navigation := .ok { changed := true, ambiguous := false }, began := 11, rounds := [] }
    let submitted := { armedSpawn with state := .windowOpenSubmitted, updatedAt := 11 }
    let result : ChildSpawnExecution :=
      { changed := false, sideEffectPossible := false, detail := "dispatcher source conversation identity changed"
        windowHandle := some 101, browserPid := some 202, url := some "https://chatgpt.com/" }
    let run := (executeChildSpawnOpen "spawn_1" (some worker) (some binding) none none).run.play (reporting result)
      armedRegistry
    reuseAuthorized chrome submitted worker binding answers = some (.ok result) ∧
      classified armedSpawn result = .failed ∧ ¬ Classified armedSpawn result run.2.1 run.2.2 ∧
      run.2.1 = .error (.childSpawnBlocked
        ["observed project window URL does not match the LWS ownership tag/project id"]) ∧
      spawnState run.2.2 "spawn_1" = some .windowOpenSubmitted := by
  intro worker binding chrome answers submitted result run
  have raised : run.2.1 = .error (.childSpawnBlocked
      ["observed project window URL does not match the LWS ownership tag/project id"]) := by decide +kernel
  refine ⟨by decide +kernel, by decide +kernel, fun classified => ?_, raised, by decide +kernel⟩
  obtain ⟨_, wrong⟩ := classified.returns
  rw [raised] at wrong
  cases wrong

section Transport
variable {chrome : ChromeTransport} {attempt : ChildSpawnAttempt} {source : SourceWindow} {sourceUrl : String}
  {result : ChildSpawnExecution}

/-- What a takeover reports of its window. Once the window may have moved, the result
names it and an address, which is the attempt's own root exactly when the result says
that the window has changed. -/
structure TakeoverReport (attempt : ChildSpawnAttempt) (windowHandle browserPid : Int) (result : ChildSpawnExecution) :
    Prop where
  possible : result.changed = true → result.sideEffectPossible = true
  shown : result.sideEffectPossible = true → result.windowHandle = some windowHandle ∧
    result.browserPid = some browserPid ∧ ∃ url, url ≠ "" ∧ result.url = some url ∧
      (ownedProjectRootMatches url attempt = true ↔ result.changed = true)

private theorem report_untouched {windowHandle browserPid : Int} (unchanged : result.changed = false)
    (certain : result.sideEffectPossible = false) : TakeoverReport attempt windowHandle browserPid result :=
  ⟨fun changed => by simp [unchanged] at changed, fun possible => by simp [certain] at possible⟩

private theorem report_shown {url detail : String} {changed : Bool} (named : url ≠ "")
    (owned : ownedProjectRootMatches url attempt = true ↔ changed = true) :
    TakeoverReport attempt source.windowHandle source.browserPid (source.result changed true detail (some url)) :=
  ⟨fun _ => rfl, fun _ => ⟨rfl, rfl, url, named, rfl, owned⟩⟩

private theorem some_of_getD {text : Option String} (named : text.getD "" ≠ "") : text = some (text.getD "") := by
  cases text with
  | none => exact absurd rfl named
  | some text => rfl

private theorem conversation_foreign {url other : String} (same : conversationUrlMatches url other = true) :
    ownedProjectRootMatches url attempt = false := by
  unfold conversationUrlMatches at same
  obtain ⟨⟨id, identity⟩, known⟩ := Option.isSome_iff_exists.mp (Bool.and_eq_true_iff.mp same).1
  obtain ⟨parsed, _, split, _, ⟨_, bare⟩, _⟩ := conversationIdentity_iff.mp known
  rw [← Bool.not_eq_true, owned_iff]
  rintro ⟨_, again, _, tagged, _⟩
  cases split.symm.trans again
  rw [bare] at tagged
  simp [ownerTag] at tagged

private theorem awaitNavigated_report {deadline : Time} {rounds : List (Time × Except Raised WindowReading)}
    {last : ChildSpawnExecution} (named : sourceUrl ≠ "") (foreign : ownedProjectRootMatches sourceUrl attempt = false)
    (before : last.url.getD "" ≠ "" → ownedProjectRootMatches (last.url.getD "") attempt = false)
    (returned : awaitNavigated attempt source sourceUrl deadline rounds last = some (.ok result)) :
    TakeoverReport attempt source.windowHandle source.browserPid result := by
  induction rounds generalizing last with
  | nil => cases returned
  | cons round rounds ih =>
    obtain ⟨clock, reading⟩ := round
    unfold awaitNavigated at returned
    split at returned
    next =>
      split at returned
      next => cases returned
      next reading =>
        dsimp only at returned
        set seen := observeBoundUrl (some source.windowHandle) (some source.browserPid) reading
        split at returned
        next own =>
          cases returned
          rw [some_of_getD own.1]
          exact report_shown own.1 (iff_of_true own.2 rfl)
        next other =>
          have elsewhere (shown : seen.url.getD "" ≠ "") : ownedProjectRootMatches (seen.url.getD "") attempt = false := by
            rw [← Bool.not_eq_true]
            exact fun owned => other ⟨shown, owned⟩
          split at returned
          next away =>
            cases returned
            rw [some_of_getD away.1]
            exact report_shown away.1 (iff_of_false (by simp [elsewhere away.1]) (by decide))
          next => exact ih elsewhere returned
    next =>
      cases returned
      unfold textOr
      by_cases shown : last.url.getD "" = ""
      · rw [if_pos shown]
        exact report_shown named (iff_of_false (by simp [foreign]) (by decide))
      · rw [if_neg shown]
        exact report_shown shown (iff_of_false (by simp [before shown]) (by decide))

private theorem navigateReusedWindow_report {answers : ReuseAnswers} (named : sourceUrl ≠ "")
    (foreign : ownedProjectRootMatches sourceUrl attempt = false)
    (returned : navigateReusedWindow chrome attempt source sourceUrl answers = some (.ok result)) :
    TakeoverReport attempt source.windowHandle source.browserPid result := by
  unfold navigateReusedWindow at returned
  split at returned
  next => cases returned
  next =>
    split at returned
    next =>
      cases returned
      exact report_untouched rfl rfl
    next =>
      split at returned
      next =>
        cases returned
        exact report_untouched rfl rfl
      next reading _ =>
        split at returned
        next =>
          cases returned
          exact report_shown named (iff_of_false (by simp [foreign]) (by decide))
        next =>
          split at returned
          next =>
            cases returned
            exact report_untouched rfl rfl
          next => exact awaitNavigated_report named foreign (fun shown => absurd rfl shown) returned

private theorem reuseWindow_report {changedDetail : String} {answers : ReuseAnswers}
    (returned : reuseWindow chrome attempt source changedDetail answers = some (.ok result)) :
    TakeoverReport attempt source.windowHandle source.browserPid result := by
  unfold reuseWindow at returned
  split at returned
  next => cases returned
  next reading _ =>
    dsimp only at returned
    split at returned
    next =>
      cases returned
      exact report_untouched rfl rfl
    next own =>
      rw [not_or, Bool.not_eq_false] at own
      exact navigateReusedWindow_report own.1 (conversation_foreign own.2) returned

/-- A takeover for an attempt, by either of the two methods, of the window with these
numbers. -/
inductive TakesOver (chrome : ChromeTransport) (attempt : ChildSpawnAttempt) :
    TransportCall → Int → Int → ChildSpawnExecution → Prop where
  | worker {sourceWorker : WorkerRecord} {sourceBinding : WorkerWindowBinding} {answers : ReuseAnswers}
      {result : ChildSpawnExecution}
      (returned : reuseAuthorized chrome attempt sourceWorker sourceBinding answers = some (.ok result)) :
      TakesOver chrome attempt (.reuseAuthorized attempt sourceWorker sourceBinding) sourceBinding.windowHandle
        sourceBinding.browserPid result
  | completedSpawn {sourceAttempt : ChildSpawnAttempt} {answers : ReuseAnswers} {result : ChildSpawnExecution}
      (returned : reuseCompletedSpawnAuthorized chrome attempt sourceAttempt answers = some (.ok result)) :
      TakesOver chrome attempt (.reuseCompletedSpawnAuthorized attempt sourceAttempt)
        (sourceAttempt.windowHandle.getD 0) (sourceAttempt.browserPid.getD 0) result

theorem TakesOver.report {called : TransportCall} {windowHandle browserPid : Int}
    (taken : TakesOver chrome attempt called windowHandle browserPid result) :
    TakeoverReport attempt windowHandle browserPid result := by
  cases taken with
  | worker returned =>
    unfold reuseAuthorized at returned
    split at returned
    next =>
      cases returned
      exact report_untouched rfl rfl
    next =>
      split at returned
      next =>
        cases returned
        exact report_untouched rfl rfl
      next => exact reuseWindow_report returned
  | completedSpawn returned =>
    unfold reuseCompletedSpawnAuthorized at returned
    split at returned
    next =>
      cases returned
      exact report_untouched rfl rfl
    next =>
      split at returned
      next =>
        cases returned
        exact report_untouched rfl rfl
      next => exact reuseWindow_report returned

/-- A window that the finder of some round has found at an address of the attempt's root. -/
def FoundOwned (attempt : ChildSpawnAttempt) (rounds : List (Time × Finder)) (window : Int × Int × String) : Prop :=
  ∃ round ∈ rounds, ∃ url ∈ ownedProjectUrlCandidates attempt, ∃ found, round.2 url = .ok found ∧
    ∃ item ∈ found, window = (item.windowHandle, item.browserPid, item.actualUrl)

private theorem merged_mem {identity : ProbeWindowMatch → Int × Int} {items kept : List ProbeWindowMatch}
    {item : ProbeWindowMatch}
    (member : item ∈ items.foldl (fun kept item =>
      if kept.any (fun old => identity old = identity item) then
        kept.map (fun old => if identity old = identity item then item else old)
      else
        kept ++ [item]) kept) : item ∈ kept ∨ item ∈ items := by
  induction items generalizing kept with
  | nil => exact .inl member
  | cons first items ih =>
    rcases ih member with early | late
    · have chosen : item ∈ kept ∨ item = first := by
        beta_reduce at early
        split at early
        next =>
          obtain ⟨old, inside, same⟩ := List.mem_map.mp early
          split at same
          next => exact .inr same.symm
          next => exact .inl (same ▸ inside)
        next => simpa using early
      rcases chosen with old | rfl
      · exact .inl old
      · exact .inr List.mem_cons_self
    · exact .inr (List.mem_cons_of_mem _ late)

private theorem ownedWindows_mem {find : Finder} {candidates : List String} {windows : List ProbeWindowMatch}
    {item : ProbeWindowMatch} (observed : ownedWindows find candidates = .ok windows) (member : item ∈ windows) :
    ∃ url ∈ candidates, ∃ found, find url = .ok found ∧ item ∈ found := by
  unfold ownedWindows at observed
  rw [bind_eq_ok] at observed
  obtain ⟨lists, mapped, same⟩ := observed
  cases same
  have inside := (merged_mem member).resolve_left (List.not_mem_nil)
  obtain ⟨found, listed, holds⟩ := List.mem_flatten.mp inside
  obtain ⟨url, candidate, answered⟩ := (mapM_eq_ok mapped).2 found listed
  exact ⟨url, candidate, found, answered, holds⟩

private theorem observeOwnedProject_window {found : Except Raised (List ProbeWindowMatch)} {window : Int × Int × String}
    (shown : (observeOwnedProject chrome attempt found).window = some window) :
    ∃ item, found = .ok [item] ∧ window = (item.windowHandle, item.browserPid, item.actualUrl) := by
  unfold observeOwnedProject at shown
  split at shown
  next => cases shown
  next item =>
    split at shown
    next => cases shown
    next =>
      refine ⟨item, rfl, ?_⟩
      unfold ChildSpawnExecution.window at shown
      dsimp only at shown
      split at shown <;> cases shown
      rfl
  next => cases shown

private theorem awaitOpened_window {deadline : Time} {rounds : List (Time × Finder)} {window : Int × Int × String}
    (returned : awaitOpened chrome attempt deadline rounds = some result) (shown : result.window = some window) :
    result.changed = true ∧ FoundOwned attempt rounds window := by
  induction rounds with
  | nil => cases returned
  | cons round rounds ih =>
    obtain ⟨clock, find⟩ := round
    unfold awaitOpened at returned
    split at returned
    case isFalse =>
      cases returned
      cases shown
    dsimp only at returned
    split at returned
    next =>
      cases returned
      obtain ⟨item, alone, same⟩ := observeOwnedProject_window (show (observeOwnedProject chrome attempt
        (ownedWindows find (ownedProjectUrlCandidates attempt))).window = some window from shown)
      obtain ⟨url, candidate, found, answered, member⟩ := ownedWindows_mem alone (List.mem_singleton_self item)
      exact ⟨rfl, (clock, find), List.mem_cons_self, url, candidate, found, answered, item, member, same⟩
    next =>
      split at returned
      next =>
        obtain ⟨changed, round, member, rest⟩ := ih returned
        exact ⟨changed, round, List.mem_cons_of_mem _ member, rest⟩
      next =>
        cases returned
        cases shown

/-- Only a window that was found is reported of a launch, and the result says that it
has changed. -/
theorem openAuthorized_window {launched : Except Raised Unit} {began : Time} {rounds : List (Time × Finder)}
    {window : Int × Int × String}
    (returned : openAuthorized chrome attempt launched began rounds = some (.ok result))
    (shown : result.window = some window) : result.changed = true ∧ FoundOwned attempt rounds window := by
  unfold openAuthorized at returned
  split at returned
  next => cases returned
  next =>
    split at returned
    next =>
      cases returned
      cases shown
    next =>
      split at returned
      next =>
        cases returned
        cases shown
      next =>
        split at returned
        next =>
          cases returned
          cases shown
        next =>
          split at returned
          next =>
            cases returned
            cases shown
          next =>
            obtain ⟨opened, waited, same⟩ := Option.map_eq_some_iff.mp returned
            cases same
            exact awaitOpened_window waited shown

section Runs
variable {db after store : Database} {trace : List (Happening Database SpawnAnswer)} {attemptId : String}
  {row : ChildSpawnRow} {sourceWorker : Option WorkerRecord} {sourceBinding : Option WorkerWindowBinding}
  {sourceSpawn : Option ChildSpawnAttempt} {now : Option Time} {outcome : Except SupervisorError ChildSpawnAttempt}
  {called : TransportCall}

/-- A takeover that may have moved its window is classified exactly when it says that it
has: every doubtful result names the window at an address of another page. -/
theorem takeover_classified {windowHandle browserPid : Int}
    (found : db.childSpawnAttempts.find? attemptId = some row)
    (run : Solo (executeChildSpawnOpen attemptId sourceWorker sourceBinding sourceSpawn now).run db trace outcome after)
    (reported : .asked store (.transport called) (.ok result) ∈ trace)
    (taken : TakesOver chrome attempt called windowHandle browserPid result)
    (positive : 0 < windowHandle ∧ 0 < browserPid) (possible : result.sideEffectPossible = true) :
    Classified row.payload result outcome after ↔ result.changed = true := by
  obtain ⟨source, submitted, _, _, _, same, owner, project, stored, settling⟩ := solo_reported found run reported
  obtain rfl : attempt = submitted := by
    cases taken <;> cases source <;> cases same <;> rfl
  obtain ⟨handle, pid, url, named, address, owned⟩ := taken.report.shown possible
  have shown : result.window = some (windowHandle, browserPid, url) := by
    unfold ChildSpawnExecution.window
    rw [handle, pid, address]
    exact if_pos ⟨ne_of_gt positive.1, ne_of_gt positive.2, named⟩
  rw [solo_settle stored settling, shown, ← owned, owned_congr owner project]
  simp [Bindable, positive]

/-- A launch is classified when each window that may be found for the attempt can be
bound to it. -/
theorem opened_classified {launched : Except Raised Unit} {began : Time} {rounds : List (Time × Finder)}
    (found : db.childSpawnAttempts.find? attemptId = some row)
    (run : Solo (executeChildSpawnOpen attemptId sourceWorker sourceBinding sourceSpawn now).run db trace outcome after)
    (reported : .asked store (.transport (.openAuthorized attempt)) (.ok result) ∈ trace)
    (returned : openAuthorized chrome attempt launched began rounds = some (.ok result))
    (own : ∀ window, FoundOwned attempt rounds window → Bindable row.payload window) :
    Classified row.payload result outcome after := by
  obtain ⟨_, _, _, _, _, _, _, _, stored, settling⟩ := solo_reported found run reported
  refine (solo_settle stored settling).mpr (fun window shown => own window ?_)
  exact (openAuthorized_window returned shown).2

end Runs

end Transport

end WebSupervisor.ChildSpawn.Proofs
