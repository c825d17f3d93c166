import WebSupervisor.ChildSpawnTransport
import WebSupervisor.Proofs.Addresses

/-! The addresses of a project, of its conversations and of its owner tags. Each
test on an address is a condition on its parts; the addresses that the supervisor
builds split into the parts they were built from. -/

namespace WebSupervisor.ChildSpawn.Proofs
open Library PageRuntime

section Tokens
variable {token id : String}

/-- The digits and the slug of a project token. -/
theorem projectToken_iff : projectToken token = some id ↔
    ∃ digits slug, token.toList = "g-p-".toList ++ (digits ++ slug) ∧ digits.length = 32 ∧ digits.all isHex = true ∧
      (slug = [] ∨ ∃ first more, slug = '-' :: first :: more) ∧ id = lower (String.ofList digits) := by
  constructor
  · intro found
    unfold projectToken at found
    split at found
    next rest text =>
      dsimp only at found
      split at found
      next good =>
        cases found
        refine ⟨rest.take 32, rest.drop 32, by rw [text, List.take_append_drop]; rfl, good.1, good.2.1, ?_, rfl⟩
        rcases good.2.2 with whole | ⟨longer, dash⟩
        · exact Or.inl (List.drop_eq_nil_of_le (Nat.le_of_eq whole))
        · have size : 2 ≤ (rest.drop 32).length := by rw [List.length_drop]; omega
          rcases slug : rest.drop 32 with _ | ⟨head, _ | ⟨first, more⟩⟩
          · rw [slug] at size; simp at size
          · rw [slug] at size; simp at size
          · rw [slug] at dash
            cases dash
            exact Or.inr ⟨first, more, rfl⟩
      next => cases found
    next => cases found
  · rintro ⟨digits, slug, text, size, hex, form, rfl⟩
    have front : (digits ++ slug).take 32 = digits := by rw [← size, List.take_left]
    have back : (digits ++ slug).drop 32 = slug := by rw [← size, List.drop_left]
    have length : (digits ++ slug).length = 32 + slug.length := by rw [List.length_append, size]
    unfold projectToken
    split
    next rest same =>
      obtain rfl : rest = digits ++ slug := by simpa using same.symm.trans text
      dsimp only
      rw [front, back, length, if_pos]
      refine ⟨size, hex, ?_⟩
      rcases form with rfl | ⟨first, more, rfl⟩
      · exact Or.inl rfl
      · exact Or.inr ⟨by simp only [List.length_cons]; omega, rfl⟩
    next other => exact absurd text (other _)

/-- The token has a slug, and there is only white space in it. -/
def blankSlug (token : String) : Bool :=
  let slug := token.toList.drop 37
  !slug.isEmpty && slug.all isSpace

private theorem hex_small {c : Char} (hex : isHexDash c = true) : c.toNat < 128 := by
  simp only [isHexDash, isHex, Bool.or_eq_true, Bool.and_eq_true, decide_eq_true_eq, beq_iff_eq, Char.le_def,
    UInt32.le_iff_toNat_le] at hex
  rcases hex with ((⟨_, high⟩ | ⟨_, high⟩) | ⟨_, high⟩) | rfl
  · exact Nat.lt_of_le_of_lt high (by decide)
  · exact Nat.lt_of_le_of_lt high (by decide)
  · exact Nat.lt_of_le_of_lt high (by decide)
  · decide

/-- What the digits of the addresses have in common. -/
private structure HexFacts (c : Char) : Prop where
  plain : isSpace c = false
  lowered : isHexDash c.toLower = true
  digit : isHex c = true → isHex c.toLower = true
  again : c.toLower.toLower = c.toLower
  letter : c.isAlphanum ∨ c = '/' ∨ c = '-'
  below : c.toLower.isAlphanum ∨ c.toLower = '/' ∨ c.toLower = '-'
  free : c ≠ '/' ∧ c.toLower ≠ '/'

private instance HexFacts.decidable (c : Char) : Decidable (HexFacts c) :=
  decidable_of_iff (isSpace c = false ∧ isHexDash c.toLower = true ∧ (isHex c = true → isHex c.toLower = true) ∧
      c.toLower.toLower = c.toLower ∧ (c.isAlphanum ∨ c = '/' ∨ c = '-') ∧
      (c.toLower.isAlphanum ∨ c.toLower = '/' ∨ c.toLower = '-') ∧ c ≠ '/' ∧ c.toLower ≠ '/')
    ⟨fun ⟨plain, lowered, digit, again, letter, below, free⟩ => ⟨plain, lowered, digit, again, letter, below, free⟩,
      fun ⟨plain, lowered, digit, again, letter, below, free⟩ => ⟨plain, lowered, digit, again, letter, below, free⟩⟩

private theorem hex_facts {c : Char} (hex : isHexDash c = true) : HexFacts c := by
  have all : ∀ n < 128, isHexDash (Char.ofNat n) = true → HexFacts (Char.ofNat n) := by decide +kernel
  have same : Char.ofNat c.toNat = c := Char.ofNat_toNat c
  exact same ▸ all c.toNat (hex_small hex) (same.symm ▸ hex)

private theorem hex_dash {c : Char} (hex : isHex c = true) : isHexDash c = true := by
  rw [isHexDash, hex, Bool.true_or]

theorem lower_lower {text : String} (hex : text.toList.all isHexDash = true) : lower (lower text) = lower text := by
  unfold lower
  rw [String.toList_ofList, List.map_map]
  exact congrArg String.ofList (List.map_congr_left (fun c member => (hex_facts (List.all_eq_true.mp hex c member)).again))

theorem dash_letter {c : Char} (hex : isHexDash c = true) :
    (c.isAlphanum ∨ c = '/' ∨ c = '-') ∧ c ≠ '/' ∧ isSpace c = false :=
  ⟨(hex_facts hex).letter, (hex_facts hex).free.1, (hex_facts hex).plain⟩

theorem lower_dashes {text : String} (hex : text.toList.all isHexDash = true) : (lower text).toList.all isHexDash = true := by
  rw [lower, String.toList_ofList, List.all_map, List.all_eq_true]
  exact fun c member => (hex_facts (List.all_eq_true.mp hex c member)).lowered

private theorem token_slug {digits slug : List Char} (text : token.toList = "g-p-".toList ++ (digits ++ slug))
    (size : digits.length = 32) : token.toList.drop 37 = slug.drop 1 := by
  have length : ("g-p-".toList ++ digits).length = 36 := by rw [List.length_append, size]; rfl
  rw [text, ← List.append_assoc, show 37 = ("g-p-".toList ++ digits).length + 1 by rw [length],
    List.drop_length_add_append]

/-- A slug that is not blank keeps its token a token when its end is cut off. -/
theorem projectToken_rstrip (found : projectToken token = some id) :
    projectToken (rstrip token) = if blankSlug token then none else some id := by
  obtain ⟨digits, slug, text, size, hex, form, rfl⟩ := projectToken_iff.mp found
  have whole : token = String.ofList ("g-p-".toList ++ (digits ++ slug)) := by rw [← text, String.ofList_toList]
  rcases form with rfl | ⟨first, more, rfl⟩
  · -- Without a slug the token ends in a digit.
    have kept : rstrip token = token := by
      refine rstrip_last (fun c last => (hex_facts (hex_dash ?_)).plain)
      have inside : c ∈ digits := by
        rw [text, List.append_nil, List.getLast?_append] at last
        cases end_ : digits.getLast? with
        | none => rw [List.getLast?_eq_none_iff.mp end_] at size; cases size
        | some c' =>
          rw [end_] at last
          cases last
          exact List.mem_of_getLast? end_
      exact List.all_eq_true.mp hex c inside
    have plain : blankSlug token = false := by rw [blankSlug, token_slug text size]; rfl
    rw [kept, plain, found]
    rfl
  · have cut := rstrip_after ("g-p-".toList ++ digits) (first :: more) (show isSpace '-' = false by decide)
    rw [List.append_assoc, ← whole] at cut
    have blank : blankSlug token = (first :: more).all isSpace := by
      rw [blankSlug, token_slug text size]
      rfl
    rw [cut, blank]
    split
    next spaces =>
      have gone : rstrip (String.ofList (first :: more)) = "" := by
        have all : (first :: more).reverse.dropWhile isSpace = [] := by
          rw [List.dropWhile_eq_nil_iff]
          exact fun c member => List.all_eq_true.mp spaces c (List.mem_reverse.mp member)
        unfold rstrip
        rw [String.toList_ofList, all]
        rfl
      rw [gone]
      by_contra still
      obtain ⟨other, again⟩ := Option.ne_none_iff_exists'.mp still
      obtain ⟨digits', slug', text', size', _, form', _⟩ := projectToken_iff.mp again
      rw [String.toList_ofList, List.append_assoc] at text'
      obtain ⟨_, same⟩ := List.append_inj (List.append_cancel_left text') (size.trans size'.symm)
      rcases form' with none | ⟨first', more', some⟩
      · rw [none] at same
        cases same
      · rw [some] at same
        cases same
    next filled =>
      rw [Bool.not_eq_true] at filled
      obtain ⟨head, tail, kept⟩ : ∃ head tail, (rstrip (String.ofList (first :: more))).toList = head :: tail := by
        cases found : (rstrip (String.ofList (first :: more))).toList with
        | cons head tail => exact ⟨head, tail, rfl⟩
        | nil =>
          unfold rstrip at found
          rw [String.toList_ofList, String.toList_ofList, List.reverse_eq_nil_iff, List.dropWhile_eq_nil_iff] at found
          have all : (first :: more).all isSpace = true :=
            List.all_eq_true.mpr (fun c member => found c (List.mem_reverse.mpr member))
          rw [filled] at all
          cases all
      rw [kept]
      refine projectToken_iff.mpr ⟨digits, '-' :: head :: tail, ?_, size, hex, Or.inr ⟨head, tail, rfl⟩, rfl⟩
      rw [String.toList_ofList, List.append_assoc]

theorem canonical_letters (found : projectToken token = some id) :
    ∀ c ∈ ("g-p-" ++ id).toList, (c.isAlphanum ∨ c = '/' ∨ c = '-') ∧ c ≠ '/' := by
  obtain ⟨digits, _, _, _, hex, _, rfl⟩ := projectToken_iff.mp found
  intro c member
  rw [String.toList_append, lower, String.toList_ofList] at member
  simp only [String.toList_ofList] at member
  rcases List.mem_append.mp member with front | inside
  · have known : "g-p-".toList.all (fun c => decide ((c.isAlphanum ∨ c = '/' ∨ c = '-') ∧ c ≠ '/')) = true := by decide
    exact of_decide_eq_true (List.all_eq_true.mp known c front)
  · obtain ⟨d, digit, rfl⟩ := List.mem_map.mp inside
    have facts := hex_facts (hex_dash (List.all_eq_true.mp hex d digit))
    exact ⟨facts.below, facts.free.2⟩

/-- The token of a project without a slug. -/
theorem projectToken_canonical (found : projectToken token = some id) :
    projectToken ("g-p-" ++ id) = some id ∧ blankSlug ("g-p-" ++ id) = false := by
  obtain ⟨digits, slug, _, size, hex, _, rfl⟩ := projectToken_iff.mp found
  have text : ("g-p-" ++ lower (String.ofList digits)).toList = "g-p-".toList ++ (digits.map Char.toLower ++ []) := by
    rw [String.toList_append, lower, String.toList_ofList, List.append_nil]
    simp only [String.toList_ofList]
  have lowered : (digits.map Char.toLower).length = 32 := by rw [List.length_map, size]
  refine ⟨projectToken_iff.mpr ⟨_, _, text, lowered, ?_, Or.inl rfl, ?_⟩, ?_⟩
  · rw [List.all_map, List.all_eq_true]
    exact fun c member => (hex_facts (hex_dash (List.all_eq_true.mp hex c member))).digit (List.all_eq_true.mp hex c member)
  · have dashes : (String.ofList digits).toList.all isHexDash = true := by
      rw [String.toList_ofList, List.all_eq_true]
      exact fun c member => hex_dash (List.all_eq_true.mp hex c member)
    have again := lower_lower dashes
    rw [lower, lower, String.toList_ofList, String.toList_ofList] at again
    rw [lower, lower, String.toList_ofList, String.toList_ofList]
    exact again.symm
  · rw [blankSlug, token_slug text lowered]
    rfl

/-- The segment of a project under either of its names. -/
theorem name_free {parsed : SplitResult} {name : String} (inside : token ∈ parsed.segments)
    (found : projectToken token = some id) (known : name = token ∨ name = "g-p-" ++ id) : name ≠ "" ∧ '/' ∉ name.toList := by
  rcases known with rfl | rfl
  · exact ⟨(mem_segments inside).1, (mem_segments inside).2.1⟩
  · refine ⟨fun none => ?_, fun slash => (canonical_letters found _ slash).2 rfl⟩
    have empty := congrArg String.toList none
    rw [String.toList_append] at empty
    cases empty

theorem name_letters {parsed : SplitResult} {name : String} (inside : token ∈ parsed.segments)
    (found : projectToken token = some id) (known : name = token ∨ name = "g-p-" ++ id) :
    ∀ c ∈ name.toList, c ∈ parsed.path.toList ∨ c.isAlphanum ∨ c = '/' ∨ c = '-' := by
  rcases known with rfl | rfl
  · exact fun c own => Or.inl ((mem_segments inside).2.2 own)
  · exact fun c own => Or.inr (canonical_letters found c own).1

end Tokens

section Parts

/-- An address of the web chat. -/
def OnChat (url : SplitResult) : Prop := url.scheme = "https" ∧ url.hostname = "chatgpt.com"

/-- The address has neither credentials nor a port of its own. -/
def Bare (url : SplitResult) : Prop :=
  url.hasCredentials = false ∧ (url.port = .ok none ∨ url.port = .ok (some 0))

/-- The segments of the root of a project. -/
def ProjectRoot (segments : List String) (id : String) : Prop :=
  ∃ token rest, segments = "g" :: token :: rest ∧ projectToken token = some id ∧ (rest = [] ∨ rest = ["project"])

/-- The segments of a conversation. -/
def ProjectConversation (segments : List String) (id conversation : String) : Prop :=
  ∃ token, segments = ["g", token, "c", conversation] ∧ projectToken token = some id ∧
    conversationSegment conversation = true

theorem OnChat.hosted {url : SplitResult} (chat : OnChat url) : url.netloc ≠ "" := by
  intro none
  obtain ⟨_, host⟩ := chat
  obtain ⟨scheme, netloc, path, query, fragment⟩ := url
  obtain rfl : netloc = "" := none
  change ({ scheme := "", netloc := "", path := "", query := "", fragment := "" } : SplitResult).hostname = _ at host
  revert host
  decide

private theorem guard_ok {ε α : Type} {bad : Prop} [Decidable bad] {error : ε} {rest : Except ε α} {value : α} :
    (if bad then .error error else rest) = .ok value ↔ ¬ bad ∧ rest = .ok value := by
  split
  next held => simp [held]
  next held => simp [held]

private theorem map_ok {ε α β : Type} {result : Except ε α} {change : α → β} {value : β}
    (mapped : result.map change = .ok value) : ∃ found, result = .ok found ∧ change found = value := by
  cases result with
  | error error => cases mapped
  | ok found =>
    cases mapped
    exact ⟨found, rfl, rfl⟩

theorem webProjectId_iff {url id : String} : webProjectId url = .ok id ↔
    ∃ parsed, urlsplit (strip url) = some parsed ∧ OnChat parsed ∧ Bare parsed ∧ parsed.query = "" ∧
      parsed.fragment = "" ∧ ProjectRoot parsed.segments id := by
  unfold webProjectId projectParts
  cases urlsplit (strip url) with
  | none => simp [Except.map]
  | some parsed =>
    constructor
    · intro mapped
      obtain ⟨⟨_, root⟩, found, rfl⟩ := map_ok mapped
      clear mapped
      simp only [bind, Except.bind, guard_ok, not_or, not_not, Bool.not_eq_true] at found
      obtain ⟨chat, credentials, found⟩ := found
      split at found
      next => cases found
      next port known =>
        simp only [guard_ok, Bool.not_eq_true, not_or, not_not] at found
        obtain ⟨default, ⟨query, fragment⟩, found⟩ := found
        refine ⟨parsed, rfl, chat, ⟨credentials, ?_⟩, query, fragment, ?_⟩
        · rw [known]
          cases port with
          | none => exact Or.inl rfl
          | some number => exact Or.inr (by simpa using default)
        · split at found
          next token rest segments =>
            rw [guard_ok] at found
            obtain ⟨_, found⟩ := found
            split at found
            next => cases found
            next id' token' =>
              rw [guard_ok] at found
              obtain ⟨short, found⟩ := found
              cases found
              exact ⟨token, rest, segments, token', by tauto⟩
          next => cases found
    · rintro ⟨_, ⟨⟩, ⟨scheme, host⟩, ⟨credentials, port⟩, query, fragment, token, rest, segments, known, form⟩
      have short : ¬ 1 < rest.length := by rcases form with rfl | rfl <;> simp
      have root : ¬ (rest ≠ [] ∧ rest ≠ ["project"]) := by tauto
      rcases port with port | port <;>
        simp [Except.map, bind, Except.bind, scheme, host, credentials, port, query, fragment, segments, short, known, root]

theorem webConversationProjectId_iff {url id : String} : webConversationProjectId url = some id ↔
    ∃ parsed conversation, urlsplit (strip url) = some parsed ∧ OnChat parsed ∧
      ProjectConversation parsed.segments id conversation := by
  unfold webConversationProjectId chatSegments
  cases urlsplit (strip url) with
  | none => simp
  | some parsed =>
    constructor
    · intro found
      dsimp only at found
      split at found
      next token segment segments =>
        split at segments
        next => cases segments
        next chat =>
          rw [not_or, not_not, not_not] at chat
          split at found
          next => cases found
          next project known =>
            split at found
            next good =>
              cases found
              exact ⟨parsed, segment, rfl, chat, token, Option.some.inj segments, known, good⟩
            next => cases found
      next => cases found
    · rintro ⟨_, segment, ⟨⟩, ⟨scheme, host⟩, token, segments, known, good⟩
      simp [scheme, host, segments, known, good]

theorem conversationIdentity_iff {url id identity : String} : conversationIdentity url = some (id, identity) ↔
    ∃ parsed conversation, urlsplit (strip url) = some parsed ∧ OnChat parsed ∧ (parsed.query = "" ∧ parsed.fragment = "") ∧
      ProjectConversation parsed.segments id conversation ∧ identity = lower conversation := by
  unfold WebSupervisor.conversationIdentity
  cases urlsplit (strip url) with
  | none => simp
  | some parsed =>
    constructor
    · intro found
      dsimp only at found
      split at found
      next => cases found
      next chat =>
        rw [not_or, not_not, not_not] at chat
        split at found
        next => cases found
        next bare =>
          rw [not_or, not_not, not_not] at bare
          split at found
          next token segment segments =>
            split at found
            next => cases found
            next project known =>
              split at found
              next good =>
                cases found
                exact ⟨parsed, segment, rfl, chat, bare, ⟨token, segments, known, good⟩, rfl⟩
              next => cases found
          next => cases found
    · rintro ⟨_, segment, ⟨⟩, ⟨scheme, host⟩, ⟨query, fragment⟩, ⟨token, segments, known, good⟩, rfl⟩
      have whole : WebSupervisor.conversationSegment segment = true := good
      simp [scheme, host, query, fragment, segments, known, whole]

theorem owned_iff {url : String} {attempt : ChildSpawnAttempt} : ownedProjectRootMatches url attempt = true ↔
    ∃ parsed, urlsplit (strip url) = some parsed ∧ parsed.query = "" ∧ parsed.fragment = ownerTag attempt.ownerToken ∧
      webProjectId (urlunsplit { parsed with query := "", fragment := "" }) = .ok attempt.projectId := by
  unfold ownedProjectRootMatches
  cases urlsplit (strip url) with
  | none => simp
  | some parsed =>
    constructor
    · intro found
      dsimp only at found
      split at found
      next => cases found
      next bare =>
        rw [not_or, not_not, not_not] at bare
        split at found
        next => cases found
        next project known => exact ⟨parsed, rfl, bare.1, bare.2, by rw [known, of_decide_eq_true found]⟩
    · rintro ⟨_, ⟨⟩, query, fragment, known⟩
      dsimp only
      rw [if_neg (by simp [query, fragment, ownerTag]), known]
      simp

end Parts

section Built
variable {parts : SplitResult} {attempt : ChildSpawnAttempt} {token id : String}

/-- An address of the web chat with a path of its own, and nothing else after the host. -/
structure Built (parts : SplitResult) : Prop where
  clean : parts.Clean
  chat : OnChat parts
  rooted : parts.path.toList.head? = some '/'
  bare : parts.query = ""

/-- The path of a split address is replaced. -/
theorem built_of_split {url path fragment : String} {parsed : SplitResult} (split : urlsplit url = some parsed)
    (chat : OnChat parsed) (rooted : path.toList.head? = some '/')
    (plain : ∀ c ∈ path.toList, c ∈ parsed.path.toList ∨ c.isAlphanum ∨ c = '/' ∨ c = '-') :
    Built { parsed with path, query := "", fragment } := by
  have clean := urlsplit_clean split
  have other {c d : Char} (letter : c.isAlphanum ∨ c = '/' ∨ c = '-') (odd : d.isAlphanum = false) (slash : d ≠ '/')
      (dash : d ≠ '-') : c ≠ d := by
    rintro rfl
    rw [odd] at letter
    tauto
  refine ⟨⟨clean.host, clean.plain, fun c member => ?_, fun c member => ?_, fun _ c first => ?_⟩, chat, rooted, rfl⟩
  · rcases plain c member with old | letter
    · exact clean.path c old
    · exact ⟨other letter (by decide) (by decide) (by decide), other letter (by decide) (by decide) (by decide)⟩
  · rcases List.mem_append.mp member with host | inside
    · exact clean.kept c (List.mem_append_left _ host)
    · rcases plain c inside with old | letter
      · exact clean.kept c (List.mem_append_right _ old)
      · rintro (tab | back | line)
        · exact other letter (by decide) (by decide) (by decide) tab
        · exact other letter (by decide) (by decide) (by decide) back
        · exact other letter (by decide) (by decide) (by decide) line
  · rw [Option.mem_def.mp first] at rooted
    exact Option.some.inj rooted

theorem Built.split (built : Built parts) (kept : ∀ c ∈ parts.fragment.toList, ¬ Dropped c) :
    urlsplit (urlunsplit parts) = some parts :=
  urlsplit_urlunsplit built.clean built.chat.1 built.chat.hosted built.rooted built.bare kept

theorem Built.toList (built : Built parts) : (urlunsplit parts).toList =
    "https://".toList ++ (parts.netloc.toList ++ (parts.path.toList ++ fragmentText parts.fragment)) :=
  urlunsplit_toList built.chat.1 built.chat.hosted built.rooted built.bare

theorem Built.front (built : Built parts) : strip (urlunsplit parts) = rstrip (urlunsplit parts) := by
  refine strip_front (fun c first => ?_)
  rw [built.toList] at first
  cases first
  decide

/-- No white space at the end. -/
theorem Built.stripped (built : Built parts)
    (last : ∀ c ∈ (parts.path.toList ++ fragmentText parts.fragment).getLast?, isSpace c = false) :
    strip (urlunsplit parts) = urlunsplit parts := by
  rw [built.front]
  refine rstrip_last (fun c ends => last c ?_)
  rw [built.toList, ← List.append_assoc, List.getLast?_append] at ends
  cases found : (parts.path.toList ++ fragmentText parts.fragment).getLast? with
  | some c' =>
    rw [found] at ends
    exact ends
  | none =>
    have rooted := built.rooted
    rw [(List.append_eq_nil_iff.mp (List.getLast?_eq_none_iff.mp found)).1] at rooted
    cases rooted

/-- The path without the white space at its end. -/
theorem Built.trimmed (built : Built parts) (none : parts.fragment = "") :
    strip (urlunsplit parts) = urlunsplit { parts with path := rstrip parts.path } ∧
      Built { parts with path := rstrip parts.path } := by
  obtain ⟨below, path⟩ : ∃ below, parts.path.toList = '/' :: below := by
    have rooted := built.rooted
    cases found : parts.path.toList with
    | nil => rw [found] at rooted; cases rooted
    | cons head below =>
      rw [found] at rooted
      cases rooted
      exact ⟨below, rfl⟩
  have slash : isSpace '/' = false := by decide
  have cut : rstrip parts.path = String.ofList ('/' :: (rstrip (String.ofList below)).toList) := by
    have trimmed := rstrip_after [] below slash
    rw [List.nil_append, ← path, String.ofList_toList] at trimmed
    exact trimmed
  have within := rstrip_subset parts.path
  have rooted : (rstrip parts.path).toList.head? = some '/' := by
    rw [cut, String.toList_ofList]
    rfl
  have shorter : Built { parts with path := rstrip parts.path } := by
    refine ⟨⟨built.clean.host, built.clean.plain, fun c member => built.clean.path c (within member),
      fun c member => ?_, fun _ c first => ?_⟩, built.chat, rooted, built.bare⟩
    · rcases List.mem_append.mp member with host | inside
      · exact built.clean.kept c (List.mem_append_left _ host)
      · exact built.clean.kept c (List.mem_append_right _ (within inside))
    · rw [Option.mem_def.mp first] at rooted
      exact Option.some.inj rooted
  refine ⟨?_, shorter⟩
  rw [built.front, ← String.toList_inj, shorter.toList]
  have whole : urlunsplit parts = String.ofList (("https://".toList ++ parts.netloc.toList) ++ '/' :: below) := by
    rw [← String.toList_inj, built.toList, String.toList_ofList, path, none]
    simp [fragmentText]
  rw [whole, rstrip_after _ _ slash, cut]
  simp [none, fragmentText]

theorem Built.project (built : Built parts) (plain : Bare parts) (none : parts.fragment = "") :
    webProjectId (urlunsplit parts) = .ok id ↔
      ProjectRoot ({ parts with path := rstrip parts.path } : SplitResult).segments id := by
  obtain ⟨stripped, shorter⟩ := built.trimmed none
  have split := shorter.split (by rw [none]; simp)
  rw [webProjectId_iff, stripped, split]
  constructor
  · rintro ⟨_, ⟨⟩, _, _, _, _, root⟩
    exact root
  · exact fun root => ⟨_, rfl, shorter.chat, plain, shorter.bare, none, root⟩

end Built

end WebSupervisor.ChildSpawn.Proofs
