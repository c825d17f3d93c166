import WebSupervisor.Proofs.ConversationAddresses
import WebSupervisor.Proofs.OwnerTags
import WebSupervisor.Proofs.SpawnSteps
import WebSupervisor.Registry.Tasks

/-! The closing of a window. The script has two slots for the addresses that the
window may show, and an address of a project has two or four spellings: those that
find no slot are refused when the window shows them. -/

namespace WebSupervisor.ChildSpawn.Proofs
open Library Library.Program Registry PageRuntime

/-- The closing script on a window that is there and shows the address. -/
def scriptAt (norm : String → String) (shown : String) (identity : CloseIdentity) : Except Raised CloseReading :=
  if identity.accepts norm shown then
    .ok { closed := true, isAbsent := false, ambiguous := false, detail := "exact LWS child window close requested" }
  else
    .ok { closed := false, isAbsent := false, ambiguous := true, detail := "exact child window close identity changed" }

/-- A method that closes a window with the given spellings hands all of them to the
script, and closes the window whichever it shows. -/
structure ClosesEach (windowHandle browserPid : Int) (chromeExecutable : String) (urls : List String)
    (close : (CloseIdentity → Except Raised CloseReading) → Except SupervisorError ChildSpawnExecution) : Prop where
  handed : ∃ identity, closeIdentity windowHandle browserPid chromeExecutable urls = some identity ∧
    ∀ url, url ∈ identity.urls ↔ url ∈ urls
  accepted : ∀ norm, ∀ url ∈ urls, ∃ result, close (scriptAt norm url) = .ok result ∧ result.changed = true

/-- The transport may close windows. -/
def Opened (chrome : ChromeTransport) : Prop := chrome.enabled = true ∧ chrome.onWindows = true

section Slots
variable {urls : List String} {windowHandle browserPid : Int} {chromeExecutable : String}

/-- There are addresses, and at most two. -/
def AtMostTwo (urls : List String) : Prop := urls ≠ [] ∧ ∃ first second, ∀ url ∈ urls, url = first ∨ url = second

private theorem handed_iff (positive : 0 < windowHandle ∧ 0 < browserPid) :
    (∃ identity, closeIdentity windowHandle browserPid chromeExecutable urls.eraseDups = some identity ∧
      ∀ url, url ∈ identity.urls ↔ url ∈ urls.eraseDups) ↔ AtMostTwo urls.eraseDups := by
  have complete : ¬ (windowHandle ≤ 0 ∨ browserPid ≤ 0) := by omega
  unfold AtMostTwo
  simp only [List.mem_eraseDups]
  cases urls with
  | nil => simp [closeIdentity]
  | cons first urls =>
    simp only [List.eraseDups_cons, closeIdentity, if_neg complete, Option.some.injEq, exists_eq_left', ne_eq,
      reduceCtorEq, not_false_eq_true, true_and, CloseIdentity.urls]
    cases found : urls.filter (fun url => !url == first) with
    | nil =>
      have all : ∀ url ∈ urls, url = first := by simpa using List.filter_eq_nil_iff.mp found
      refine ⟨fun _ => ⟨first, first, ?_⟩, fun _ url => by simpa using all url⟩
      intro url member
      rcases List.mem_cons.mp member with same | later
      · exact Or.inl same
      · exact Or.inl (all url later)
    | cons second rest =>
      have inside : second ∈ urls ∧ second ≠ first := by
        have member : second ∈ urls.filter (fun url => !url == first) := by rw [found]; simp
        simpa using List.mem_filter.mp member
      rw [List.eraseDups_cons]
      simp only [List.head?_cons, Option.toList_some, List.mem_cons, List.not_mem_nil, or_false]
      constructor
      · intro all
        exact ⟨first, second, fun url member => (all url).mpr member⟩
      · rintro ⟨one, two, all⟩ url
        constructor
        · rintro (same | rfl)
          · exact Or.inl same
          · exact Or.inr inside.1
        · intro member
          have a := all first (Or.inl rfl)
          have b := all second (Or.inr inside.1)
          have c := all url member
          grind

private theorem closes_each {chrome : ChromeTransport} (opened : Opened chrome)
    {close : (CloseIdentity → Except Raised CloseReading) → Except SupervisorError ChildSpawnExecution}
    (closes : ∀ script, close script =
      closeAuthorizedIdentity chrome windowHandle browserPid chromeExecutable urls script) :
    ClosesEach windowHandle browserPid chromeExecutable urls close ↔
      ∃ identity, closeIdentity windowHandle browserPid chromeExecutable urls = some identity ∧
        ∀ url, url ∈ identity.urls ↔ url ∈ urls := by
  refine ⟨ClosesEach.handed, fun handed => ⟨handed, fun norm url member => ?_⟩⟩
  obtain ⟨identity, known, all⟩ := handed
  have accepts : identity.accepts norm url = true := by
    rw [CloseIdentity.accepts, List.contains_iff_mem]
    exact List.mem_map_of_mem ((all url).mpr member)
  rw [closes, closeAuthorizedIdentity, if_neg (by simp [opened.1]), if_neg (by simp [opened.2]), known]
  simp [scriptAt, accepts]

end Slots

section Arming
variable {attempt : ChildSpawnAttempt}

/-- The project addresses of the stored dispatches have no white space around them. -/
def StrippedUrls (db : Database) : Prop :=
  ∀ dispatch ∈ db.childDispatches, strip (dispatch.webProjectUrl.getD "") = dispatch.webProjectUrl.getD ""

/-- What is drawn consists of hexadecimal digits. -/
def HexIds (trace : List (Happening Database SpawnAnswer)) : Prop :=
  ∀ store (answer : String), Happening.asked store SpawnRequest.uuid answer ∈ trace → answer.toList.all isHex = true

/-- A run of `arm_child_spawn` has returned the attempt. -/
def Arms (attempt : ChildSpawnAttempt) : Prop :=
  ∃ childTaskId chromeExecutable workspace now maxEvidenceAgeS store trace after,
    StrippedUrls store ∧ HexIds trace ∧
      Solo (armChildSpawn childTaskId chromeExecutable workspace now maxEvidenceAgeS).run store trace (.ok attempt) after

private theorem optionalText_stripped (text : Option String) :
    strip ((optionalText text).getD "") = (optionalText text).getD "" := by
  unfold optionalText
  split
  next => decide +kernel
  next text =>
    split
    next => decide +kernel
    next => exact strip_strip text

/-- The registry stores the addresses so. -/
theorem createChildDispatch_stripped {args : DispatchArgs} {before after : Database} {found : Option ChildDispatchRecord}
    (stripped : StrippedUrls before) (written : createChildDispatchWrite args.cleaned before = .ok (found, after)) :
    StrippedUrls after := by
  unfold createChildDispatchWrite at written
  simp only [bind_eq_ok] at written
  obtain ⟨_, _, written⟩ := written
  split at written
  next => cases written
  next parent _ =>
    simp only [bind_eq_ok] at written
    obtain ⟨_, _, written⟩ := written
    split at written
    next old _ =>
      simp only [bind_eq_ok] at written
      obtain ⟨_, _, same⟩ := written
      cases same
      exact stripped
    next =>
      simp only [bind_eq_ok] at written
      obtain ⟨_, _, next, inserted, same⟩ := written
      cases same
      obtain ⟨db, _, _, childDispatches, task, _, _, grown, rfl⟩ := insertChild_ok inserted
      have kept : db.childDispatches = before.childDispatches := by
        unfold insertTask at task
        split at task <;> cases task
        rfl
      intro dispatch member
      rcases (Table.mem_insert? grown).mp member with old | rfl
      · exact stripped dispatch (kept ▸ old)
      · change strip ((optionalText args.webProjectUrl).getD "") = (optionalText args.webProjectUrl).getD ""
        exact optionalText_stripped args.webProjectUrl

private theorem clockOr_kept {now : Option Time} {store after : Database}
    {trace : List (Happening Database SpawnAnswer)} {time : Time} (run : Solo (clockOr now).run store trace (.ok time) after) :
    after = store := by
  unfold clockOr at run
  split at run
  next =>
    obtain ⟨_, _, _, same⟩ := solo_ask.mp run
    exact same
  next => exact (solo_pure.mp run).2.2

private theorem recorded_returned {store after : Database} {trace : List (Happening Database SpawnAnswer)}
    {armed returned : ChildSpawnAttempt} (run : Solo (recordChildSpawnAttempt armed).run store trace (.ok returned) after) :
    returned = armed := by
  obtain ⟨_, _, _, _, rfl, _, run₁⟩ := solo_andThen_ok.mp run
  obtain ⟨_, _, _, _, rfl, _, run₂⟩ := solo_andThen_ok.mp run₁
  obtain ⟨_, _, _, _, rfl, _, run₃⟩ := solo_andThen_ok.mp run₂
  obtain ⟨_, _, _, _, rfl, _, run₄⟩ := solo_andThen_ok.mp run₃
  obtain ⟨_, _, _, middle, rfl, inserted, read⟩ := solo_andThen_ok.mp run₄
  obtain ⟨_, ⟨_, written, _⟩ | ⟨_, _, impossible, _⟩⟩ := solo_transaction.mp inserted
  · obtain ⟨_, same, _⟩ := solo_check.mp read
    unfold insertChildSpawnAttempt at written
    split at written
    next => cases written
    next => cases written
    next grown added =>
      cases written
      have inside := IndexedTable.insert_ok added
      have found : grown.toTable.find? armed.attemptId = some ⟨armed.state, armed⟩ :=
        Table.find?_some.mpr ⟨(Table.mem_insert? inside).mpr (Or.inr rfl), rfl⟩
      rw [Registry.Proofs.getChildSpawnAttempt_found found] at same
      cases same
      rfl
  · cases impossible

private theorem Arms.made (arms : Arms attempt) : ∃ dispatch childTaskId chromeExecutable first second workspace now,
    strip (dispatch.webProjectUrl.getD "") = dispatch.webProjectUrl.getD "" ∧
      first.toList.all isHex = true ∧ second.toList.all isHex = true ∧
      armedAttempt dispatch childTaskId chromeExecutable first second workspace now = .ok attempt := by
  obtain ⟨childTaskId, chromeExecutable, workspace, now, maxEvidenceAgeS, store, trace, after, stripped, hex, run⟩ := arms
  obtain ⟨_, _, ts, _, rfl, clock, run₁⟩ := solo_andThen_ok.mp run
  obtain rfl := clockOr_kept clock
  obtain ⟨_, _, dispatch, _, rfl, read, run₂⟩ := solo_andThen_ok.mp run₁
  obtain ⟨rfl, found, rfl⟩ := solo_check.mp read
  obtain ⟨_, _, _, _, rfl, _, run₃⟩ := solo_andThen_ok.mp run₂
  obtain ⟨_, _, _, _, rfl, _, run₄⟩ := solo_andThen_ok.mp run₃
  obtain ⟨_, _, _, _, rfl, _, run₅⟩ := solo_andThen_ok.mp run₄
  obtain ⟨_, _, _, _, rfl, _, run₆⟩ := solo_andThen_ok.mp run₅
  obtain ⟨_, _, _, _, rfl, _, run₇⟩ := solo_andThen_ok.mp run₆
  obtain ⟨_, _, _, before, rfl, _, run₈⟩ := solo_andThen_ok.mp run₇
  obtain ⟨_, _, first, between, rfl, one, run₉⟩ := solo_andThen_ok.mp run₈
  obtain ⟨_, _, second, _, rfl, two, run₁₀⟩ := solo_andThen_ok.mp run₉
  obtain ⟨_, rfl, ⟨⟩, _⟩ := solo_ask.mp one
  obtain ⟨_, rfl, ⟨⟩, _⟩ := solo_ask.mp two
  obtain ⟨_, _, armed, _, rfl, made, run₁₁⟩ := solo_andThen_ok.mp run₁₀
  obtain ⟨rfl, made, rfl⟩ := solo_ensure.mp made
  obtain rfl := recorded_returned run₁₁
  refine ⟨dispatch, childTaskId, strip chromeExecutable, first, second, workspace, ts, ?_, hex before first ?_,
    hex between second ?_, ?_⟩
  · unfold getChildDispatch at found
    split at found
    next => cases found
    next row =>
      cases found
      exact stripped _ (Table.find?_some.mp row).1
  · simp
  · simp
  · cases built : armedAttempt dispatch childTaskId (strip chromeExecutable) first second workspace ts with
    | error error =>
      rw [built] at made
      cases made
    | ok armed =>
      rw [built] at made
      cases made
      rfl

private theorem hex_plain {c : Char} (hex : isHex c = true) : isSpace c = false :=
  (dash_letter (by rw [isHexDash, hex, Bool.true_or])).2.2

/-- The address of an armed attempt has no white space around it, nor has its token. -/
theorem Arms.tagged (arms : Arms attempt) : strip attempt.projectUrl = attempt.projectUrl ∧
    TaggedBy attempt attempt.projectUrl attempt.ownerToken ∧ strip attempt.ownerToken = attempt.ownerToken := by
  obtain ⟨dispatch, childTaskId, chromeExecutable, first, second, workspace, now, stripped, _, hex, made⟩ := arms.made
  unfold armedAttempt at made
  simp only [bind_eq_ok] at made
  obtain ⟨⟨projectUrl, projectId⟩, project, tagged, url, same⟩ := made
  cases same
  unfold dispatchProject at project
  dsimp only at project
  split at project
  next => cases project
  next =>
    cases found : webProjectId (dispatch.webProjectUrl.getD "") with
    | error error =>
      rw [found] at project
      cases project
    | ok id =>
      rw [found] at project
      cases project
      refine ⟨stripped, ⟨rfl, found, rfl, url⟩, ?_⟩
      have text : ("spawn_" ++ clip 16 first ++ ":" ++ clip 16 second).toList =
          's' :: ("pawn_".toList ++ (clip 16 first).toList ++ [':'] ++ (clip 16 second).toList) := by
        simp [String.toList_append]
      rw [strip_front, rstrip_last]
      · intro c last
        rw [text, ← List.cons_append, List.getLast?_append] at last
        cases end_ : (clip 16 second).toList.getLast? with
        | none =>
          rw [end_] at last
          have colon : c = ':' := by
            rw [← List.cons_append, List.getLast?_append] at last
            simpa using last.symm
          subst colon
          decide
        | some digit =>
          rw [end_] at last
          cases last
          have inside : c ∈ second.toList := by
            have member := List.mem_of_getLast? end_
            rw [clip, String.toList_ofList] at member
            exact List.mem_of_mem_take member
          exact hex_plain (List.all_eq_true.mp hex c inside)
      · intro c head
        rw [text] at head
        cases head
        decide

end Arming

section Project
variable {attempt later : ChildSpawnAttempt}

/-- The attempt when its window is bound. -/
structure OwnsWindow (attempt later : ChildSpawnAttempt) : Prop where
  state : later.state = .windowBound
  window : 0 < later.windowHandle.getD 0 ∧ 0 < later.browserPid.getD 0
  url : later.projectUrl = attempt.projectUrl
  project : later.projectId = attempt.projectId
  owner : later.ownerToken = attempt.ownerToken

/-- The project of the attempt is named without a slug, in small letters. -/
def PlainProject (attempt : ChildSpawnAttempt) : Prop := projectSegment attempt.projectUrl = "g-p-" ++ attempt.projectId

private theorem spelling_injective {parsed : SplitResult} {first second : List String} {owner : String}
    (left : Built (spelling parsed first owner)) (right : Built (spelling parsed second owner))
    (leftNames : (spelling parsed first owner).segments = first)
    (rightNames : (spelling parsed second owner).segments = second)
    (same : urlunsplit (spelling parsed first owner) = urlunsplit (spelling parsed second owner)) : first = second := by
  have texts := congrArg String.toList same
  rw [left.toList, right.toList] at texts
  have paths := List.append_cancel_left (List.append_cancel_left texts)
  have path : pathOf first = pathOf second := String.toList_inj.mp (List.append_cancel_right paths)
  rw [← leftNames, ← rightNames]
  unfold spelling
  rw [path]

private theorem two_spellings (arms : Arms attempt) :
    AtMostTwo (ownedProjectUrlCandidates attempt) ↔ PlainProject attempt := by
  obtain ⟨stripped, made, token⟩ := arms.tagged
  obtain ⟨parsed, name, rest, accepted⟩ := accepted_of stripped made.project
  have members (url : String) := @mem_candidates parsed attempt url accepted.split
  have second : parsed.segments.getD 1 "" = name := by rw [accepted.segments]; rfl
  unfold PlainProject
  rw [accepted.projectSegment]
  simp only [second] at members
  constructor
  · rintro ⟨_, first, other, all⟩
    by_contra slugged
    have apart {name' tail name'' tail'} (one : name' = name ∨ name' = "g-p-" ++ attempt.projectId)
        (two : name'' = name ∨ name'' = "g-p-" ++ attempt.projectId) (form : tail = [] ∨ tail = ["project"])
        (form' : tail' = [] ∨ tail' = ["project"])
        (same : urlunsplit (spelling parsed ("g" :: name' :: tail) attempt.ownerToken) =
          urlunsplit (spelling parsed ("g" :: name'' :: tail') attempt.ownerToken)) : name' = name'' ∧ tail = tail' := by
      have names := spelling_injective (accepted.built _ one form) (accepted.built _ two form')
        (accepted.segments_spelling _ one form) (accepted.segments_spelling _ two form') same
      simpa using names
    have a := all _ ((members _).mpr ⟨name, [], Or.inl rfl, Or.inl rfl, rfl⟩)
    have b := all _ ((members _).mpr ⟨name, ["project"], Or.inl rfl, Or.inr rfl, rfl⟩)
    have c := all _ ((members _).mpr ⟨_, [], Or.inr rfl, Or.inl rfl, rfl⟩)
    have ab := mt (apart (Or.inl rfl) (Or.inl rfl) (Or.inl rfl) (Or.inr rfl)) (by simp)
    have ac := mt (apart (Or.inl rfl) (Or.inr rfl) (Or.inl rfl) (Or.inl rfl)) (fun same => slugged same.1)
    have bc := mt (apart (Or.inl rfl) (Or.inr rfl) (Or.inr rfl) (Or.inl rfl)) (fun same => slugged same.1)
    grind
  · intro plain
    refine ⟨List.ne_nil_of_mem ((members _).mpr ⟨name, [], Or.inl rfl, Or.inl rfl, rfl⟩),
      urlunsplit (spelling parsed ["g", name] attempt.ownerToken),
      urlunsplit (spelling parsed ["g", name, "project"] attempt.ownerToken), fun url member => ?_⟩
    obtain ⟨name', tail, known, form, rfl⟩ := (members url).mp member
    have one : name' = name := by rcases known with same | same <;> simp [same, plain]
    rcases form with rfl | rfl
    · exact Or.inl (by rw [one])
    · exact Or.inr (by rw [one])

private theorem OwnsWindow.candidates (owns : OwnsWindow attempt later) :
    ownedProjectUrlCandidates later = ownedProjectUrlCandidates attempt := by
  unfold ownedProjectUrlCandidates
  rw [owns.url, owns.project, owns.owner]

private theorem OwnsWindow.owned (owns : OwnsWindow attempt later) (url : String) :
    ownedProjectRootMatches url later = ownedProjectRootMatches url attempt := by
  unfold ownedProjectRootMatches
  rw [owns.project, owns.owner]

private theorem plain_owned (arms : Arms attempt) (plain : PlainProject attempt) :
    ∀ url ∈ ownedProjectUrlCandidates attempt, ownedProjectRootMatches url attempt = true := by
  obtain ⟨stripped, made, token⟩ := arms.tagged
  obtain ⟨parsed, name, rest, accepted⟩ := accepted_of stripped made.project
  have valid := (taggedProjectUrl_ok made.tagged).1
  rw [token] at valid
  have second : parsed.segments.getD 1 "" = name := by rw [accepted.segments]; rfl
  unfold PlainProject at plain
  rw [accepted.projectSegment] at plain
  intro url member
  obtain ⟨name', tail, known, form, rfl⟩ := (mem_candidates accepted.split).mp member
  exact accepted.owned valid (plain ▸ (projectToken_canonical accepted.known).2) (second ▸ known) form

private theorem candidates_distinct : ∃ urls, ownedProjectUrlCandidates attempt = List.eraseDups urls := by
  unfold ownedProjectUrlCandidates
  split
  next => exact ⟨[], rfl⟩
  next => exact ⟨_, rfl⟩

private theorem owned_closes {chrome : ChromeTransport} (opened : Opened chrome) (arms : Arms attempt)
    (owns : OwnsWindow attempt later) :
    (ClosesEach (later.windowHandle.getD 0) (later.browserPid.getD 0) later.chromeExecutable
        (ownedProjectUrlCandidates later) (closeOwnedProject chrome later) ∧
      ∀ url ∈ ownedProjectUrlCandidates later, ownedProjectRootMatches url later = true) ↔ PlainProject attempt := by
  have closes (script : CloseIdentity → Except Raised CloseReading) : closeOwnedProject chrome later script =
      closeAuthorizedIdentity chrome (later.windowHandle.getD 0) (later.browserPid.getD 0) later.chromeExecutable
        (ownedProjectUrlCandidates later) script := by
    have window := owns.window
    rw [closeOwnedProject, if_neg (by simp [owns.state]), if_neg]
    simp only [given, decide_eq_false_iff_not, not_not]
    omega
  rw [closes_each opened closes, owns.candidates]
  obtain ⟨urls, distinct⟩ := @candidates_distinct attempt
  rw [distinct, handed_iff owns.window, ← distinct, two_spellings arms]
  simp only [owns.owned]
  exact ⟨And.left, fun plain => ⟨plain, plain_owned arms plain⟩⟩

end Project

section Workers
variable {url first second : String}

/-- The conversation that an address names: its host as it is written, the project
and the name that it has there, and the conversation. -/
structure Spot where
  netloc : String
  name : String
  project : String
  conversation : String
  deriving DecidableEq

def spot (url : String) : Option Spot :=
  match conversationIdentity url, urlsplit (strip url) with
  | some (project, conversation), some parsed =>
    some { netloc := parsed.netloc, name := parsed.segments.getD 1 "", project, conversation }
  | _, _ => none

namespace Spot

/-- The project is named without a slug, in small letters. -/
def Plain (spot : Spot) : Prop := spot.name = "g-p-" ++ spot.project

/-- The same conversation at the same host, under at most one name beside the plain one. -/
structure Alike (first second : Spot) : Prop where
  netloc : first.netloc = second.netloc
  project : first.project = second.project
  conversation : first.conversation = second.conversation
  name : first.name = second.name ∨ first.Plain ∨ second.Plain

theorem Alike.symm {first second : Spot} (alike : first.Alike second) : second.Alike first :=
  ⟨alike.netloc.symm, alike.project.symm, alike.conversation.symm, by rcases alike.name with same | one | two <;> tauto⟩

/-- The address under a name of the project. -/
def spelled (spot : Spot) (name : String) : String :=
  urlunsplit { scheme := "https", netloc := spot.netloc, path := pathOf ["g", name, "c", spot.conversation], query := ""
               fragment := "" }

end Spot

/-- The two addresses have at most two spellings together: no project has a slug, or
both name the same conversation. -/
def Fits (first second : Option Spot) : Prop :=
  ((∀ spot ∈ first, spot.Plain) ∧ ∀ spot ∈ second, spot.Plain) ∨ ∃ one ∈ first, ∃ two ∈ second, one.Alike two

private theorem spot_none (none : spot url = none) : conversationIdentity url = .none ∧ conversationUrlCandidates url = [strip url] := by
  unfold spot at none
  cases found : conversationIdentity url with
  | none => exact ⟨rfl, by rw [conversationUrlCandidates, found]⟩
  | some pair =>
    obtain ⟨_, _, parsed, conversation, _, _⟩ := conversation_of_identity found
    rw [found, conversation.split] at none
    cases none

private theorem spot_some {found : Spot} (named : spot url = some found) :
    (∀ candidate, candidate ∈ conversationUrlCandidates url ↔
      ∃ name, (name = found.name ∨ name = "g-p-" ++ found.project) ∧ candidate = found.spelled name) ∧
    ∀ name, (name = found.name ∨ name = "g-p-" ++ found.project) →
      Conversation (found.spelled name) found.project found.conversation name
        { scheme := "https", netloc := found.netloc, path := pathOf ["g", name, "c", found.conversation], query := ""
          fragment := "" } := by
  unfold spot at named
  cases same : conversationIdentity url with
  | none =>
    rw [same] at named
    cases named
  | some pair =>
    obtain ⟨project, identity⟩ := pair
    obtain ⟨segment, token, parsed, conversation, bare, rfl⟩ := conversation_of_identity same
    rw [same, conversation.split] at named
    simp only [Option.some.injEq] at named
    have second : parsed.segments.getD 1 "" = token := by rw [conversation.segments]; rfl
    rw [second] at named
    subst named
    have parts (name : String) : conversationParts parsed name (lower segment) =
        { scheme := "https", netloc := parsed.netloc, path := pathOf ["g", name, "c", lower segment], query := ""
          fragment := "" } := by
      rw [conversationParts, conversation.chat.1]
    refine ⟨fun candidate => ?_, fun name known => ?_⟩
    · rw [conversation.mem_candidates bare]
      simp only [parts]
      rfl
    · have again := conversation.respelled known
      rw [parts] at again
      exact again

private theorem spelled_unique {one two : Spot} {name name' : String} (left : spot first = some one)
    (right : spot second = some two) (known : name = one.name ∨ name = "g-p-" ++ one.project)
    (known' : name' = two.name ∨ name' = "g-p-" ++ two.project) (same : one.spelled name = two.spelled name') :
    one.netloc = two.netloc ∧ one.project = two.project ∧ one.conversation = two.conversation ∧ name = name' := by
  have here := (spot_some left).2 name known
  have there := (spot_some right).2 name' known'
  rw [same] at here
  have parts := Option.some.inj (here.split.symm.trans there.split)
  have segments := here.segments
  rw [parts, there.segments] at segments
  simp only [List.cons.injEq, true_and, and_true] at segments
  obtain ⟨names, conversation⟩ := segments
  have projects := here.known
  rw [← names, there.known] at projects
  exact ⟨congrArg SplitResult.netloc parts, (Option.some.inj projects).symm, conversation.symm, names.symm⟩

/-- All spellings are among two. -/
private def Covered (first second : String) : Prop :=
  ∃ one two, ∀ url, url ∈ conversationUrlCandidates first ∨ url ∈ conversationUrlCandidates second → url = one ∨ url = two

private theorem slug_covers {one : Spot} (covered : Covered first second) (named : spot first = some one)
    (slugged : ¬ one.Plain) : ∃ two ∈ spot second, one.Alike two := by
  obtain ⟨x, y, all⟩ := covered
  obtain ⟨members, conversations⟩ := spot_some named
  have apart : one.spelled one.name ≠ one.spelled ("g-p-" ++ one.project) := fun same =>
    slugged (spelled_unique named named (Or.inl rfl) (Or.inr rfl) same).2.2.2
  have a := all _ (Or.inl ((members _).mpr ⟨_, Or.inl rfl, rfl⟩))
  have b := all _ (Or.inl ((members _).mpr ⟨_, Or.inr rfl, rfl⟩))
  have taken (url : String) (member : url ∈ conversationUrlCandidates second) :
      ∃ name, (name = one.name ∨ name = "g-p-" ++ one.project) ∧ url = one.spelled name := by
    have c := all url (Or.inr member)
    by_cases slug : url = one.spelled one.name
    · exact ⟨_, Or.inl rfl, slug⟩
    · exact ⟨_, Or.inr rfl, by grind⟩
  cases other : spot second with
  | none =>
    obtain ⟨unidentified, only⟩ := spot_none other
    obtain ⟨name, known, same⟩ := taken (strip second) (by rw [only]; exact List.mem_singleton_self _)
    have again := (conversations name known).identity ⟨rfl, rfl⟩
    rw [← same] at again
    unfold WebSupervisor.conversationIdentity at again unidentified
    rw [strip_strip] at again
    rw [again] at unidentified
    cases unidentified
  | some two =>
    have theirs := (spot_some other).1
    obtain ⟨name, known, same⟩ := taken _ ((theirs _).mpr ⟨two.name, Or.inl rfl, rfl⟩)
    obtain ⟨netloc, project, conversation, names⟩ := spelled_unique other named (Or.inl rfl) known same
    refine ⟨two, rfl, netloc.symm, project.symm, conversation.symm, ?_⟩
    rcases known with rfl | rfl
    · exact Or.inl names.symm
    · exact Or.inr (Or.inr (names.trans (by rw [project])))

private theorem plain_single (plain : ∀ found ∈ spot url, found.Plain) :
    ∃ one, ∀ candidate ∈ conversationUrlCandidates url, candidate = one := by
  cases named : spot url with
  | none => exact ⟨strip url, by rw [(spot_none named).2]; simp⟩
  | some found =>
    refine ⟨found.spelled found.name, fun candidate member => ?_⟩
    obtain ⟨name, known, rfl⟩ := ((spot_some named).1 candidate).mp member
    have same : found.name = "g-p-" ++ found.project := plain found named
    rcases known with rfl | rfl
    · rfl
    · rw [same]

private theorem covered_iff : Covered first second ↔ Fits (spot first) (spot second) := by
  constructor
  · intro covered
    by_cases left : ∀ found ∈ spot first, found.Plain
    · by_cases right : ∀ found ∈ spot second, found.Plain
      · exact Or.inl ⟨left, right⟩
      · push Not at right
        obtain ⟨two, named, slugged⟩ := right
        obtain ⟨x, y, all⟩ := covered
        obtain ⟨one, found, alike⟩ := slug_covers ⟨x, y, fun url member => all url member.symm⟩ named slugged
        exact Or.inr ⟨one, found, two, named, alike.symm⟩
    · push Not at left
      obtain ⟨one, named, slugged⟩ := left
      obtain ⟨two, found, alike⟩ := slug_covers covered named slugged
      exact Or.inr ⟨one, named, two, found, alike⟩
  · rintro (⟨left, right⟩ | ⟨one, left, two, right, alike⟩)
    · obtain ⟨x, all⟩ := plain_single left
      obtain ⟨y, rest⟩ := plain_single right
      refine ⟨x, y, fun url member => ?_⟩
      rcases member with here | there
      · exact Or.inl (all url here)
      · exact Or.inr (rest url there)
    · obtain ⟨netloc, project, conversation, names⟩ := alike
      have same (name : String) : two.spelled name = one.spelled name := by rw [Spot.spelled, Spot.spelled, netloc, conversation]
      -- The name that is not plain, if one of the two is not.
      obtain ⟨slug, mine, theirs⟩ : ∃ slug, (one.name = slug ∨ one.Plain) ∧ (two.name = slug ∨ two.Plain) := by
        rcases names with same | plain | plain
        · exact ⟨one.name, Or.inl rfl, Or.inl same.symm⟩
        · exact ⟨two.name, Or.inr plain, Or.inl rfl⟩
        · exact ⟨one.name, Or.inl rfl, Or.inr plain⟩
      refine ⟨one.spelled slug, one.spelled ("g-p-" ++ one.project), fun url member => ?_⟩
      rcases member with here | there
      · obtain ⟨name, rfl | rfl, rfl⟩ := ((spot_some left).1 url).mp here
        · rcases mine with same | plain
          · exact Or.inl (by rw [same])
          · exact Or.inr (by rw [show one.name = _ from plain])
        · exact Or.inr rfl
      · obtain ⟨name, rfl | rfl, rfl⟩ := ((spot_some right).1 url).mp there
        · rw [same]
          rcases theirs with same | plain
          · exact Or.inl (by rw [same])
          · exact Or.inr (by rw [show two.name = _ from plain, project])
        · rw [same, project]
          exact Or.inr rfl

private theorem worker_closes {chrome : ChromeTransport} (opened : Opened chrome) {worker : WorkerRecord}
    {binding : WorkerWindowBinding} (bound : binding.workerId = worker.workerId)
    (window : 0 < binding.windowHandle ∧ 0 < binding.browserPid) :
    ClosesEach binding.windowHandle binding.browserPid binding.chromeExecutable (workerUrlCandidates worker binding)
      (closeWorkerBindingAuthorized chrome worker binding) ↔
        Fits (spot binding.conversationUrl) (spot worker.conversationUrl) := by
  have closes (script : CloseIdentity → Except Raised CloseReading) : closeWorkerBindingAuthorized chrome worker binding
      script = closeAuthorizedIdentity chrome binding.windowHandle binding.browserPid binding.chromeExecutable
        (workerUrlCandidates worker binding) script := by
    rw [closeWorkerBindingAuthorized, if_neg (not_not.mpr bound)]
  have filled : conversationUrlCandidates binding.conversationUrl ≠ [] := by
    cases named : spot binding.conversationUrl with
    | none => simp [(spot_none named).2]
    | some found => exact List.ne_nil_of_mem (((spot_some named).1 _).mpr ⟨_, Or.inl rfl, rfl⟩)
  rw [closes_each opened closes, workerUrlCandidates, handed_iff window, ← covered_iff]
  unfold AtMostTwo Covered
  simp only [List.mem_eraseDups, List.mem_append]
  refine and_iff_right (fun none => filled (List.eq_nil_iff_forall_not_mem.mpr (fun url member => ?_)))
  have inside := List.mem_eraseDups.mpr (List.mem_append_left (conversationUrlCandidates worker.conversationUrl) member)
  rw [none] at inside
  cases inside

end Workers

/-- The close slots of an armed attempt are enough exactly when its project is named
without a slug in small letters; those of a binding, when the addresses of the binding
and of the worker have no slug, or name one conversation with one. -/
theorem spellings_close {chrome : ChromeTransport} (opened : Opened chrome) {attempt later : ChildSpawnAttempt}
    (arms : Arms attempt) (owns : OwnsWindow attempt later) {worker : WorkerRecord} {binding : WorkerWindowBinding}
    (bound : binding.workerId = worker.workerId) (window : 0 < binding.windowHandle ∧ 0 < binding.browserPid) :
    ((ClosesEach (later.windowHandle.getD 0) (later.browserPid.getD 0) later.chromeExecutable
        (ownedProjectUrlCandidates later) (closeOwnedProject chrome later) ∧
      ∀ url ∈ ownedProjectUrlCandidates later, ownedProjectRootMatches url later = true) ↔ PlainProject attempt) ∧
    (ClosesEach binding.windowHandle binding.browserPid binding.chromeExecutable (workerUrlCandidates worker binding)
      (closeWorkerBindingAuthorized chrome worker binding) ↔
        Fits (spot binding.conversationUrl) (spot worker.conversationUrl)) :=
  ⟨owned_closes opened arms owns, worker_closes opened bound window⟩

section Samples

/-- A dispatched child without workers, whose project has the given slug. -/
def projectChild (slug : String) : Database :=
  { tasks := .single { taskId := "child", state := .queued }
    childDispatches := .single
      { dispatchId := "dispatch", parentTaskId := "parent", childTaskId := "child", childKey := "key",
        promptText := "prompt", promptSha256 := "hash", expectedBranch := none, baseRef := none,
        webProjectUrl := some (sluggedAttempt slug).projectUrl, createdAt := 0, updatedAt := 0 }
    protocolTasks := .single
      { taskId := "child", revision := 0, generation := 0, taskStatus := .opened, currentWorkerId := none
        handoffTargetWorkerId := none, handoffRequestedAt := none, parentTaskId := none, rootTaskId := "child"
        childKey := none, completedAt := none, completionRef := none } }

/-- Every identifier is the same, and the browser is never reached. -/
def drawn : ∀ request, SpawnAnswer request
  | .transport _ | .waitForDelivery .. | .workspace _ => .error (.runtime "not reached")
  | .clock => (10 : Time)
  | .uuid => "0123456789abcdef0123456789abcdef"

def checkout : WorkspaceObservation := { taskId := "child", observedAt := 5, cwd := "/child", cwdExists := true }

def armedRun (slug : String) : List (Happening Database SpawnAnswer) × Except SupervisorError ChildSpawnAttempt × Database :=
  (armChildSpawn "child" "chrome" (some checkout) (some 10) 60).run.play drawn (projectChild slug)

def armedOn (slug : String) : ChildSpawnAttempt :=
  match (armedRun slug).2.1 with
  | .ok attempt => attempt
  | .error _ => sluggedAttempt slug

/-- The attempt with its window. -/
def withWindow (attempt : ChildSpawnAttempt) : ChildSpawnAttempt :=
  { attempt with state := .windowBound, windowHandle := some 7, browserPid := some 9 }

def someChrome : ChromeTransport :=
  { chromeExecutable := "chrome", enabled := true, onWindows := true, openTimeoutS := 10, casefold := id }

private theorem armedOn_arms (slug : String) (returned : (armedRun slug).2.1.toOption ≠ none)
    (stripped : strip (sluggedAttempt slug).projectUrl = (sluggedAttempt slug).projectUrl) : Arms (armedOn slug) := by
  have made : (armedRun slug).2.1 = .ok (armedOn slug) := by
    unfold armedOn
    cases found : (armedRun slug).2.1 with
    | ok attempt => rfl
    | error error =>
      rw [found] at returned
      exact absurd rfl returned
  have run := solo_play drawn (armChildSpawn "child" "chrome" (some checkout) (some 10) 60).run (projectChild slug)
  change Solo _ _ (armedRun slug).1 (armedRun slug).2.1 (armedRun slug).2.2 at run
  rw [made] at run
  refine ⟨_, _, _, _, _, _, _, _, ?_, ?_, run⟩
  · intro dispatch member
    obtain rfl := List.mem_singleton.mp (Table.mem_def.mp member)
    exact stripped
  · intro store answer member
    rw [play_replies drawn _ _ store .uuid answer member]
    decide

private theorem withWindow_owns (attempt : ChildSpawnAttempt) : OwnsWindow attempt (withWindow attempt) :=
  ⟨rfl, by simp [withWindow], rfl, rfl, rfl⟩

/-- A worker at a conversation of the project, and its window. -/
def workerAt (slug : String) : WorkerRecord :=
  { workerId := "worker_1", taskId := "child", status := .active, startedAt := 0
    conversationUrl := "https://chatgpt.com/g/g-p-0123456789abcdef0123456789abcdef" ++ slug ++ "/c/0123abcd-0123abcd" }

def bindingAt (slug : String) : WorkerWindowBinding :=
  { workerId := "worker_1", windowHandle := 7, browserPid := 9, chromeExecutable := "chrome"
    conversationUrl := (workerAt slug).conversationUrl, source := "", boundAt := 0, observedAt := 0, expiresAt := 60 }

end Samples

/-- A project without a slug, and a worker whose address has one that its binding lacks. -/
theorem spellings_close_plain :
    (∀ url ∈ ownedProjectUrlCandidates (withWindow (armedOn "")), ownedProjectRootMatches url (withWindow (armedOn "")) = true) ∧
      ClosesEach 7 9 "chrome" (workerUrlCandidates (workerAt "-docs") (bindingAt ""))
        (closeWorkerBindingAuthorized someChrome (workerAt "-docs") (bindingAt "")) := by
  have both := @spellings_close someChrome ⟨rfl, rfl⟩ (armedOn "") (withWindow (armedOn ""))
    (armedOn_arms "" (by decide +kernel) (by decide +kernel)) (withWindow_owns _) (workerAt "-docs") (bindingAt "") rfl
    (by decide)
  refine ⟨(both.1.mpr (by unfold PlainProject; decide +kernel)).2, both.2.mpr (Or.inr ?_)⟩
  refine ⟨⟨"chatgpt.com", "g-p-0123456789abcdef0123456789abcdef", "0123456789abcdef0123456789abcdef",
    "0123abcd-0123abcd"⟩, by decide +kernel, ⟨"chatgpt.com", "g-p-0123456789abcdef0123456789abcdef-docs",
    "0123456789abcdef0123456789abcdef", "0123abcd-0123abcd"⟩, by decide +kernel, rfl, rfl, rfl, ?_⟩
  exact Or.inr (Or.inl (by unfold Spot.Plain; decide))

/-- The project has a slug: of its four spellings two find no slot. -/
theorem spellings_close_fails : ∃ attempt later, Arms attempt ∧ OwnsWindow attempt later ∧
    ¬ ClosesEach (later.windowHandle.getD 0) (later.browserPid.getD 0) later.chromeExecutable
      (ownedProjectUrlCandidates later) (closeOwnedProject someChrome later) := by
  refine ⟨armedOn "-docs", withWindow (armedOn "-docs"), armedOn_arms "-docs" (by decide +kernel) (by decide +kernel), withWindow_owns _,
    fun closes => ?_⟩
  obtain ⟨identity, known, all⟩ := closes.handed
  have lost : ((closeIdentity 7 9 (withWindow (armedOn "-docs")).chromeExecutable (ownedProjectUrlCandidates (withWindow (armedOn "-docs")))).map
      (fun identity => (ownedProjectUrlCandidates (withWindow (armedOn "-docs"))).all (identity.urls.contains ·))) = some false := by
    decide +kernel
  have kept : (ownedProjectUrlCandidates (withWindow (armedOn "-docs"))).all (identity.urls.contains ·) = true :=
    List.all_eq_true.mpr (fun url member => List.contains_iff_mem.mpr ((all url).mpr member))
  change closeIdentity 7 9 _ _ = _ at known
  rw [known, Option.map_some, kept] at lost
  cases lost

end WebSupervisor.ChildSpawn.Proofs
