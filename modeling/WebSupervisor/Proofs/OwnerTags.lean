import WebSupervisor.Proofs.ProjectAddresses

/-! The owner tags of the attempts. An address with a tag belongs to one project and
one token; the spellings of an attempt's root are its own unless the slug of the
project is only white space. -/

namespace WebSupervisor.ChildSpawn.Proofs
open Library PageRuntime

/-- The project and the token that an address carries. -/
def carriedTag (url : String) : Option (String × String) :=
  match urlsplit (strip url) with
  | none => none
  | some parsed =>
    if parsed.query = "" ∧ parsed.fragment = ownerTag (String.ofList (parsed.fragment.toList.drop 10)) then
      match webProjectId (urlunsplit { parsed with query := "", fragment := "" }) with
      | .error _ => none
      | .ok project => some (project, String.ofList (parsed.fragment.toList.drop 10))
    else
      none

/-- The segment of a project address that names the project. -/
def projectSegment (url : String) : String := (((urlsplit url).map SplitResult.segments).getD []).getD 1 ""

/-- What `tagged_project_url` asks of a token. -/
def ValidOwner (token : String) : Prop :=
  8 ≤ token.toList.length ∧ token.toList.length ≤ 160 ∧ token.toList.all ownerChar = true

section Tags
variable {url token other : String}

private theorem ownerTag_toList : (ownerTag token).toList = "lws-child=".toList ++ token.toList := String.toList_append ..

private theorem ownerTag_drop : String.ofList ((ownerTag token).toList.drop 10) = token := by
  rw [ownerTag_toList]
  exact String.ofList_toList

theorem ownerTag_injective (same : ownerTag token = ownerTag other) : token = other := by
  rw [← @ownerTag_drop token, same, ownerTag_drop]

theorem owned_carries {attempt : ChildSpawnAttempt} :
    ownedProjectRootMatches url attempt = true ↔ carriedTag url = some (attempt.projectId, attempt.ownerToken) := by
  rw [owned_iff]
  unfold carriedTag
  cases urlsplit (strip url) with
  | none => simp
  | some parsed =>
    constructor
    · rintro ⟨_, ⟨⟩, query, fragment, known⟩
      dsimp only
      rw [if_pos ⟨query, by rw [fragment, ownerTag_drop]⟩, known, fragment, ownerTag_drop]
    · intro carried
      dsimp only at carried
      split at carried
      next tagged =>
        split at carried
        next => cases carried
        next project known =>
          simp only [Option.some.injEq, Prod.mk.injEq] at carried
          obtain ⟨rfl, token⟩ := carried
          exact ⟨parsed, rfl, tagged.1, token ▸ tagged.2, known⟩
      next => cases carried

private theorem owner_plain {c : Char} (owner : ownerChar c = true) : isSpace c = false ∧ ¬ Dropped c := by
  have small : c.toNat < 128 := by
    simp only [ownerChar, Char.isAlphanum, Char.isAlpha, Char.isUpper, Char.isLower, Char.isDigit, Bool.or_eq_true,
      Bool.and_eq_true, decide_eq_true_eq, beq_iff_eq, UInt32.le_iff_toNat_le, ge_iff_le] at owner
    rcases owner with ((((((⟨_, high⟩ | ⟨_, high⟩) | ⟨_, high⟩) | rfl) | rfl) | rfl) | rfl)
    · exact Nat.lt_of_le_of_lt high (by decide)
    · exact Nat.lt_of_le_of_lt high (by decide)
    · exact Nat.lt_of_le_of_lt high (by decide)
    all_goals decide
  have all : ∀ n < 128, ownerChar (Char.ofNat n) = true →
      isSpace (Char.ofNat n) = false ∧ ¬ (Char.ofNat n = '\t' ∨ Char.ofNat n = '\r' ∨ Char.ofNat n = '\n') := by
    decide +kernel
  have same : Char.ofNat c.toNat = c := Char.ofNat_toNat c
  have facts := all c.toNat small (same.symm ▸ owner)
  rw [same] at facts
  exact facts

end Tags

section Roots
variable {parts : SplitResult} {attempt : ChildSpawnAttempt} {token id : String}

/-- A tagged address of the web chat belongs to the attempts with its token and its project. -/
theorem Built.owned (built : Built parts) (plain : Bare parts) (valid : ValidOwner token)
    (tag : parts.fragment = ownerTag token) : ownedProjectRootMatches (urlunsplit parts) attempt = true ↔
      attempt.ownerToken = token ∧
        ProjectRoot ({ parts with path := rstrip parts.path } : SplitResult).segments attempt.projectId := by
  have kept : ∀ c ∈ parts.fragment.toList, ¬ Dropped c := by
    rw [tag, ownerTag_toList]
    intro c member
    rcases List.mem_append.mp member with front | inside
    · have known : ∀ c ∈ "lws-child=".toList, ¬ Dropped c := by simp [Dropped]
      exact known c front
    · exact (owner_plain (List.all_eq_true.mp valid.2.2 c inside)).2
  have text : fragmentText parts.fragment = '#' :: ("lws-child=".toList ++ token.toList) := by
    rw [fragmentText, tag, ownerTag_toList, if_neg]
    intro none
    have empty := congrArg String.toList none
    rw [ownerTag_toList] at empty
    cases empty
  have stripped : strip (urlunsplit parts) = urlunsplit parts := by
    refine built.stripped (fun c last => ?_)
    rw [text, ← List.cons_append, ← List.append_assoc, List.getLast?_append] at last
    cases found : token.toList.getLast? with
    | none =>
      have long := valid.1
      rw [List.getLast?_eq_none_iff.mp found] at long
      simp at long
    | some c' =>
      rw [found] at last
      cases last
      exact (owner_plain (List.all_eq_true.mp valid.2.2 c (List.mem_of_getLast? found))).1
  have root : Built { parts with query := "", fragment := "" } :=
    ⟨⟨built.clean.host, built.clean.plain, built.clean.path, built.clean.kept, built.clean.rooted⟩, built.chat,
      built.rooted, rfl⟩
  rw [owned_iff, stripped, built.split kept]
  constructor
  · rintro ⟨_, ⟨⟩, _, fragment, known⟩
    exact ⟨ownerTag_injective (fragment.symm.trans tag), (root.project plain rfl).mp known⟩
  · rintro ⟨rfl, segments⟩
    exact ⟨parts, rfl, built.bare, tag, (root.project plain rfl).mpr segments⟩

/-- White space at the end of a path leaves its project, unless it is all that the slug has. -/
theorem ProjectRoot.rstrip {rest : List String} (rooted : parts.path.toList.head? = some '/')
    (segments : parts.segments = "g" :: token :: rest) (known : projectToken token = some id)
    (form : rest = [] ∨ rest = ["project"]) (filled : blankSlug token = false) :
    ProjectRoot ({ parts with path := rstrip parts.path } : SplitResult).segments id := by
  have kept := projectToken_rstrip known
  rw [filled, if_neg Bool.false_ne_true] at kept
  obtain ⟨front, last, whole, trimmed⟩ := segments_rstrip parts rooted
  rw [trimmed]
  rw [segments] at whole
  by_cases none : last = []
  · subst none
    rw [pieceOf, if_pos rfl, List.append_nil] at whole
    have empty : (WebSupervisor.rstrip (String.ofList [])).toList = [] := rfl
    rw [empty, pieceOf, if_pos rfl, List.append_nil, ← whole]
    exact ⟨token, rest, rfl, known, form⟩
  · rw [pieceOf, if_neg none] at whole
    rcases form with rfl | rfl
    · obtain ⟨rfl, same⟩ := List.append_inj' (show ["g"] ++ [token] = _ from whole) rfl
      obtain rfl : token = String.ofList last := List.head_eq_of_cons_eq same
      have nonempty : (WebSupervisor.rstrip (String.ofList last)).toList ≠ [] := by
        intro gone
        rw [← String.ofList_toList (s := WebSupervisor.rstrip (String.ofList last)), gone] at kept
        cases kept
      rw [pieceOf, if_neg nonempty, String.ofList_toList]
      exact ⟨_, [], rfl, kept, Or.inl rfl⟩
    · obtain ⟨rfl, same⟩ := List.append_inj' (show ["g", token] ++ ["project"] = _ from whole) rfl
      obtain named : "project" = String.ofList last := List.head_eq_of_cons_eq same
      rw [← named]
      exact ⟨token, ["project"], rfl, known, Or.inr rfl⟩

end Roots

section Spellings
variable {parsed : SplitResult} {attempt : ChildSpawnAttempt} {url token id : String}

/-- A spelling of the root of a project, with the tag of an owner. -/
def spelling (parsed : SplitResult) (names : List String) (owner : String) : SplitResult :=
  { parsed with path := pathOf names, query := "", fragment := ownerTag owner }

theorem mem_candidates (split : urlsplit attempt.projectUrl = some parsed) :
    url ∈ ownedProjectUrlCandidates attempt ↔ ∃ token rest,
      (token = parsed.segments.getD 1 "" ∨ token = "g-p-" ++ attempt.projectId) ∧ (rest = [] ∨ rest = ["project"]) ∧
        url = urlunsplit (spelling parsed ("g" :: token :: rest) attempt.ownerToken) := by
  have root (token : String) : "/g/" ++ token = pathOf ["g", token] := by
    rw [← String.toList_inj, pathOf, String.toList_append, String.toList_ofList]
    simp
  have page (token : String) : "/g/" ++ token ++ "/project" = pathOf ["g", token, "project"] := by
    rw [← String.toList_inj, pathOf, String.toList_append, String.toList_append, String.toList_ofList]
    simp
  have canonical : "/g/g-p-" ++ attempt.projectId = "/g/" ++ ("g-p-" ++ attempt.projectId) := by
    rw [← String.toList_inj]
    simp
  unfold ownedProjectUrlCandidates
  rw [split]
  dsimp only
  rw [List.mem_eraseDups, canonical, page, page, root, root]
  simp only [List.map_cons, List.map_nil, List.mem_cons, List.not_mem_nil, or_false]
  constructor
  · rintro (same | same | same | same)
    · exact ⟨_, [], Or.inl rfl, Or.inl rfl, same⟩
    · exact ⟨_, ["project"], Or.inl rfl, Or.inr rfl, same⟩
    · exact ⟨_, [], Or.inr rfl, Or.inl rfl, same⟩
    · exact ⟨_, ["project"], Or.inr rfl, Or.inr rfl, same⟩
  · rintro ⟨token, rest, rfl | rfl, rfl | rfl, rfl⟩
    · exact Or.inl rfl
    · exact Or.inr (Or.inl rfl)
    · exact Or.inr (Or.inr (Or.inl rfl))
    · exact Or.inr (Or.inr (Or.inr rfl))

/-- What is known of a project address that is accepted as it stands. -/
structure Accepted (url id : String) (parsed : SplitResult) (token : String) (rest : List String) : Prop where
  split : urlsplit url = some parsed
  chat : OnChat parsed
  plain : Bare parsed
  segments : parsed.segments = "g" :: token :: rest
  known : projectToken token = some id
  form : rest = [] ∨ rest = ["project"]

theorem accepted_of (stripped : strip url = url) (found : webProjectId url = .ok id) :
    ∃ parsed token rest, Accepted url id parsed token rest := by
  obtain ⟨parsed, split, chat, plain, _, _, token, rest, segments, known, form⟩ := webProjectId_iff.mp found
  rw [stripped] at split
  exact ⟨parsed, token, rest, split, chat, plain, segments, known, form⟩

namespace Accepted
variable {rest : List String} (accepted : Accepted url id parsed token rest)
include accepted

theorem projectSegment : projectSegment url = token := by
  rw [Proofs.projectSegment, accepted.split, Option.map_some, Option.getD_some, accepted.segments]
  rfl

theorem rooted : parsed.path.toList.head? = some '/' := by
  have clean := urlsplit_clean accepted.split
  cases found : parsed.path.toList.head? with
  | some c => rw [clean.rooted accepted.chat.hosted c found]
  | none =>
    have empty : parsed.segments = [] := by
      rw [SplitResult.segments, List.head?_eq_none_iff.mp found]
      rfl
    have segments := accepted.segments
    rw [empty] at segments
    cases segments

theorem inside : token ∈ parsed.segments := by
  rw [accepted.segments]
  simp

theorem built (owner : String) {name : String} {tail : List String} (known : name = token ∨ name = "g-p-" ++ id)
    (form : tail = [] ∨ tail = ["project"]) : Built (spelling parsed ("g" :: name :: tail) owner) := by
  refine built_of_split accepted.split accepted.chat ?_ ?_
  · rw [pathOf, String.toList_ofList]
    rfl
  · intro c member
    have letters := name_letters accepted.inside accepted.known known
    have page : "/project".toList.all (fun c => decide (c.isAlphanum ∨ c = '/' ∨ c = '-')) = true := by decide
    rw [pathOf, String.toList_ofList, List.flatMap_cons, List.flatMap_cons] at member
    rcases List.mem_append.mp member with front | member
    · have start : ('/' :: "g".toList).all (fun c => decide (c.isAlphanum ∨ c = '/' ∨ c = '-')) = true := by decide
      exact Or.inr (of_decide_eq_true (List.all_eq_true.mp start c front))
    · rcases List.mem_append.mp member with own | last
      · rcases List.mem_cons.mp own with rfl | own
        · exact Or.inr (Or.inr (Or.inl rfl))
        · exact letters c own
      · rcases form with rfl | rfl
        · cases last
        · exact Or.inr (of_decide_eq_true (List.all_eq_true.mp page c (by simpa using last)))

theorem segments_spelling (owner : String) {name : String} {tail : List String} (known : name = token ∨ name = "g-p-" ++ id)
    (form : tail = [] ∨ tail = ["project"]) :
    (spelling parsed ("g" :: name :: tail) owner).segments = "g" :: name :: tail := by
  have clean : ∀ name' ∈ "g" :: name :: tail, name' ≠ "" ∧ '/' ∉ name'.toList := by
    intro name' member
    rcases List.mem_cons.mp member with rfl | member
    · decide
    · rcases List.mem_cons.mp member with rfl | member
      · exact name_free accepted.inside accepted.known known
      · rcases form with rfl | rfl
        · cases member
        · rw [List.mem_singleton.mp member]
          decide
  exact segments_pathOf { parsed with query := "", fragment := ownerTag owner } clean

end Accepted

end Spellings

theorem taggedProjectUrl_ok {projectUrl token tagged : String} (made : taggedProjectUrl projectUrl token = .ok tagged) :
    ValidOwner (strip token) ∧ ∃ parsed, urlsplit projectUrl = some parsed ∧
      tagged = urlunsplit { parsed with query := "", fragment := ownerTag (strip token) } := by
  unfold taggedProjectUrl at made
  simp only [bind, Except.bind] at made
  split at made
  next => cases made
  next =>
    split at made
    next => cases made
    next valid =>
      split at made
      next => cases made
      next parsed split =>
        cases made
        exact ⟨not_not.mp valid, parsed, split, rfl⟩

/-- The attempt carries the tag of a project address and a token. -/
structure TaggedBy (attempt : ChildSpawnAttempt) (projectUrl token : String) : Prop where
  url : attempt.projectUrl = projectUrl
  project : webProjectId projectUrl = .ok attempt.projectId
  owner : attempt.ownerToken = token
  tagged : taggedProjectUrl projectUrl token = .ok attempt.taggedProjectUrl

/-- The attempt's own addresses are its own, and nobody else's. -/
structure RoundTrip (attempt : ChildSpawnAttempt) : Prop where
  tagged : ownedProjectRootMatches attempt.taggedProjectUrl attempt = true
  spelled : ∀ url ∈ ownedProjectUrlCandidates attempt, ownedProjectRootMatches url attempt = true
  exact : ∀ url, ownedProjectRootMatches url attempt = true →
    carriedTag url = some (attempt.projectId, attempt.ownerToken)
  apart : ∀ other url, ownedProjectRootMatches url attempt = true → ownedProjectRootMatches url other = true →
    other.ownerToken = attempt.ownerToken ∧ other.projectId = attempt.projectId

theorem owned_apart {url : String} {attempt other : ChildSpawnAttempt} (own : ownedProjectRootMatches url attempt = true)
    (also : ownedProjectRootMatches url other = true) :
    other.ownerToken = attempt.ownerToken ∧ other.projectId = attempt.projectId := by
  have same := (owned_carries.mp also).symm.trans (owned_carries.mp own)
  simp only [Option.some.injEq, Prod.mk.injEq] at same
  exact ⟨same.2, same.1⟩

section Accepted
variable {parsed : SplitResult} {attempt : ChildSpawnAttempt} {url token id : String} {rest : List String}

private theorem Accepted.root_filled (accepted : Accepted url id parsed token rest) (owner : String)
    (root : ProjectRoot ({ spelling parsed ["g", token] owner with
      path := rstrip (pathOf ["g", token]) } : SplitResult).segments id) : blankSlug token = false := by
  obtain ⟨digits, slug, text, _⟩ := projectToken_iff.mp accepted.known
  have plain : isSpace '/' = false := by decide
  have letter : isSpace 'g' = false := by decide
  have path : rstrip (pathOf ["g", token]) = pathOf ["g", rstrip token] := by
    have cut := rstrip_after ['/', 'g'] token.toList plain
    rw [String.ofList_toList] at cut
    simpa [pathOf] using cut
  have filled : rstrip token ≠ "" := by
    have cut := rstrip_after [] ('-' :: 'p' :: '-' :: (digits ++ slug)) letter
    have whole : String.ofList ([] ++ 'g' :: '-' :: 'p' :: '-' :: (digits ++ slug)) = token := by
      rw [← String.toList_inj, String.toList_ofList, text]
      rfl
    rw [whole] at cut
    intro none
    have empty := congrArg String.toList (cut.symm.trans none)
    rw [String.toList_ofList, List.nil_append] at empty
    cases empty
  have free : ∀ name ∈ ["g", rstrip token], name ≠ "" ∧ '/' ∉ name.toList := by
    intro name member
    rcases List.mem_cons.mp member with rfl | member
    · decide
    · rw [List.mem_singleton.mp member]
      exact ⟨filled, fun slash => (name_free accepted.inside accepted.known (Or.inl rfl)).2 (rstrip_subset token slash)⟩
  rw [path, segments_pathOf (spelling parsed ["g", token] owner) free] at root
  obtain ⟨token', rest', same, known, _⟩ := root
  obtain rfl : rstrip token = token' := by
    simp only [List.cons.injEq] at same
    exact same.2.1
  rw [projectToken_rstrip accepted.known] at known
  split at known
  next => cases known
  next held => simpa using held

/-- The root of an accepted address belongs to its attempt in every spelling. -/
theorem Accepted.owned (accepted : Accepted url attempt.projectId parsed token rest) (valid : ValidOwner attempt.ownerToken)
    (filled : blankSlug token = false) {name : String} {tail : List String}
    (known : name = token ∨ name = "g-p-" ++ attempt.projectId) (form : tail = [] ∨ tail = ["project"]) :
    ownedProjectRootMatches (urlunsplit (spelling parsed ("g" :: name :: tail) attempt.ownerToken)) attempt = true := by
  have built := accepted.built attempt.ownerToken known form
  refine (built.owned accepted.plain valid rfl).mpr ⟨rfl, ?_⟩
  have segments := accepted.segments_spelling attempt.ownerToken known form
  rcases known with rfl | rfl
  · exact ProjectRoot.rstrip built.rooted segments accepted.known form filled
  · obtain ⟨canonical, plain⟩ := projectToken_canonical accepted.known
    exact ProjectRoot.rstrip built.rooted segments canonical form plain

end Accepted

/-- The tag of an attempt makes the round trip exactly when its token has no white
space around it and the slug of its project, if it has one, is not only white space. -/
theorem owner_tags_round_trip {attempt : ChildSpawnAttempt} {projectUrl token : String}
    (stripped : strip projectUrl = projectUrl) (made : TaggedBy attempt projectUrl token) :
    RoundTrip attempt ↔ strip token = token ∧ blankSlug (projectSegment projectUrl) = false := by
  obtain ⟨parsed, segment, rest, accepted⟩ := accepted_of stripped made.project
  obtain ⟨valid, _, split, tagged⟩ := taggedProjectUrl_ok made.tagged
  cases accepted.split.symm.trans split
  have built : Built { parsed with query := "", fragment := ownerTag (strip token) } :=
    built_of_split split accepted.chat accepted.rooted (fun _ member => Or.inl member)
  have owned := @Built.owned _ attempt _ built accepted.plain valid rfl
  rw [← tagged, made.owner] at owned
  have members (url : String) := @mem_candidates parsed attempt url (made.url ▸ split)
  have second : parsed.segments.getD 1 "" = segment := by rw [accepted.segments]; rfl
  rw [accepted.projectSegment]
  constructor
  · intro trip
    have same := (owned.mp trip.tagged).1
    rw [← same, ← made.owner] at valid
    refine ⟨same.symm, accepted.root_filled attempt.ownerToken ?_⟩
    · have own := trip.spelled _ ((members _).mpr ⟨segment, [], Or.inl second.symm, Or.inl rfl, rfl⟩)
      have here := accepted.built attempt.ownerToken (Or.inl rfl) (Or.inl rfl)
      exact ((here.owned accepted.plain valid rfl).mp own).2
  · rintro ⟨same, filled⟩
    rw [same, ← made.owner] at valid
    refine ⟨?_, ?_, fun url own => owned_carries.mp own, fun other url own also => owned_apart own also⟩
    · exact owned.mpr ⟨same.symm, ProjectRoot.rstrip accepted.rooted accepted.segments accepted.known accepted.form filled⟩
    · intro url member
      obtain ⟨name, tail, known, form, rfl⟩ := (members url).mp member
      exact accepted.owned valid filled (second ▸ known) form

/-- An attempt on a project whose token has the given slug. -/
def sluggedAttempt (slug : String) : ChildSpawnAttempt :=
  let project := "0123456789abcdef0123456789abcdef"
  let projectUrl := "https://chatgpt.com/g/g-p-" ++ project ++ slug ++ "/project"
  { attemptId := "spawn_1", childTaskId := "child", state := .armed, ownerToken := "spawn_1:0123", projectUrl
    projectId := project, taggedProjectUrl := projectUrl ++ "#lws-child=spawn_1:0123", promptSha256 := ""
    chromeExecutable := "chrome.exe", createdAt := 0, updatedAt := 0 }

private theorem slugged_tagged : TaggedBy (sluggedAttempt "-docs") (sluggedAttempt "-docs").projectUrl "spawn_1:0123" :=
  ⟨rfl, by decide +kernel, rfl, by decide +kernel⟩

theorem owner_tags_round_trip_slug : RoundTrip (sluggedAttempt "-docs") :=
  (owner_tags_round_trip (by decide +kernel) slugged_tagged).mpr ⟨by decide +kernel, by decide +kernel⟩

/-- The slug is one blank. The address is accepted, and its spelling that ends in
the slug is not the attempt's own, as the blank is cut off before the comparison. -/
theorem owner_tags_round_trip_fails : ∃ attempt : ChildSpawnAttempt, strip attempt.projectUrl = attempt.projectUrl ∧
    TaggedBy attempt attempt.projectUrl attempt.ownerToken ∧ ¬ RoundTrip attempt := by
  refine ⟨sluggedAttempt "- ", by decide +kernel, ⟨rfl, by decide +kernel, rfl, by decide +kernel⟩, fun trip => ?_⟩
  have lost : (ownedProjectUrlCandidates (sluggedAttempt "- ")).all
      (fun url => ownedProjectRootMatches url (sluggedAttempt "- ")) = false := by decide +kernel
  rw [List.all_eq_true.mpr trip.spelled] at lost
  cases lost

end WebSupervisor.ChildSpawn.Proofs
