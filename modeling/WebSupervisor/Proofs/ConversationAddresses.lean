import WebSupervisor.Proofs.ProjectAddresses

/-! The spellings of a conversation. Each one names the conversation again, and so it
is recognised later; what completes a spawn may have a query or a fragment besides,
and is then no identity at all. -/

namespace WebSupervisor.ChildSpawn.Proofs
open Library PageRuntime

/-- The address of a conversation under a name of its project. -/
def conversationParts (parsed : SplitResult) (name conversation : String) : SplitResult :=
  { parsed with path := pathOf ["g", name, "c", conversation], query := "", fragment := "" }

/-- What is known of the address of a conversation in a project. -/
structure Conversation (url id segment token : String) (parsed : SplitResult) : Prop where
  split : urlsplit (strip url) = some parsed
  chat : OnChat parsed
  segments : parsed.segments = ["g", token, "c", segment]
  known : projectToken token = some id
  good : conversationSegment segment = true

section Conversations
variable {url id segment token name : String} {parsed : SplitResult}

private theorem conversation_path (name conversation : String) : (pathOf ["g", name, "c", conversation]).toList =
    "/g/".toList ++ (name.toList ++ ("/c/".toList ++ conversation.toList)) := by
  rw [pathOf, String.toList_ofList]
  simp

theorem conversation_of (found : webConversationProjectId url = some id) :
    ∃ segment token parsed, Conversation url id segment token parsed := by
  obtain ⟨parsed, segment, split, chat, token, segments, known, good⟩ := webConversationProjectId_iff.mp found
  exact ⟨segment, token, parsed, split, chat, segments, known, good⟩

theorem conversation_of_identity {identity : String} (found : conversationIdentity url = some (id, identity)) :
    ∃ segment token parsed, Conversation url id segment token parsed ∧ (parsed.query = "" ∧ parsed.fragment = "") ∧
      identity = lower segment := by
  obtain ⟨parsed, segment, split, chat, bare, ⟨token, segments, known, good⟩, rfl⟩ := conversationIdentity_iff.mp found
  exact ⟨segment, token, parsed, ⟨split, chat, segments, known, good⟩, bare, rfl⟩

private theorem segment_dashes (good : conversationSegment segment = true) :
    8 ≤ segment.toList.length ∧ segment.toList.all isHexDash = true := by
  unfold conversationSegment at good
  rw [Bool.and_eq_true] at good
  exact ⟨of_decide_eq_true good.1, good.2⟩

theorem conversationSegment_lower (good : conversationSegment segment = true) :
    conversationSegment (lower segment) = true := by
  obtain ⟨long, hex⟩ := segment_dashes good
  unfold conversationSegment
  rw [Bool.and_eq_true, decide_eq_true_eq]
  refine ⟨?_, lower_dashes hex⟩
  rwa [lower, String.toList_ofList, List.length_map]

theorem lower_segment (good : conversationSegment segment = true) : lower (lower segment) = lower segment :=
  lower_lower (segment_dashes good).2

namespace Conversation
variable (conversation : Conversation url id segment token parsed)
include conversation

theorem project : webConversationProjectId url = some id :=
  webConversationProjectId_iff.mpr
    ⟨parsed, segment, conversation.split, conversation.chat, token, conversation.segments, conversation.known, conversation.good⟩

theorem identity (bare : parsed.query = "" ∧ parsed.fragment = "") :
    conversationIdentity url = some (id, lower segment) :=
  conversationIdentity_iff.mpr ⟨parsed, segment, conversation.split, conversation.chat, bare,
    ⟨token, conversation.segments, conversation.known, conversation.good⟩, rfl⟩

theorem bare_of_identity (found : conversationIdentity url ≠ none) : parsed.query = "" ∧ parsed.fragment = "" := by
  obtain ⟨⟨id', identity⟩, same⟩ := Option.ne_none_iff_exists'.mp found
  obtain ⟨_, _, split, _, bare, _, _⟩ := conversationIdentity_iff.mp same
  cases conversation.split.symm.trans split
  exact bare

theorem inside : token ∈ parsed.segments := by
  rw [conversation.segments]
  simp

private theorem last_plain : ∀ c ∈ (lower segment).toList, (c.isAlphanum ∨ c = '/' ∨ c = '-') ∧ c ≠ '/' ∧ isSpace c = false :=
  fun c member => dash_letter (List.all_eq_true.mp (lower_dashes (segment_dashes conversation.good).2) c member)

private theorem last_filled : lower segment ≠ "" := by
  intro none
  have long := (segment_dashes (conversationSegment_lower conversation.good)).1
  rw [none] at long
  simp at long

theorem built (known : name = token ∨ name = "g-p-" ++ id) : Built (conversationParts parsed name (lower segment)) := by
  refine built_of_split conversation.split conversation.chat ?_ ?_
  · rw [pathOf, String.toList_ofList]
    rfl
  · have fixed : "/g/c/".toList.all (fun c => decide (c.isAlphanum ∨ c = '/' ∨ c = '-')) = true := by decide
    intro c member
    rw [conversation_path] at member
    simp only [List.mem_append] at member
    rcases member with front | own | middle | last
    · exact Or.inr (of_decide_eq_true (List.all_eq_true.mp fixed c (List.mem_append_left ['c', '/'] front)))
    · exact name_letters conversation.inside conversation.known known c own
    · exact Or.inr (of_decide_eq_true (List.all_eq_true.mp fixed c (List.mem_append_right ['/', 'g'] middle)))
    · exact Or.inr (conversation.last_plain c last).1

/-- A spelling is the address of the same conversation. -/
theorem respelled (known : name = token ∨ name = "g-p-" ++ id) :
    Conversation (urlunsplit (conversationParts parsed name (lower segment))) id (lower segment) name
      (conversationParts parsed name (lower segment)) := by
  have built := conversation.built known
  have stripped : strip (urlunsplit (conversationParts parsed name (lower segment))) =
      urlunsplit (conversationParts parsed name (lower segment)) := by
    refine built.stripped (fun c last => (conversation.last_plain c ?_).2.2)
    have fragment : fragmentText (conversationParts parsed name (lower segment)).fragment = [] := rfl
    have path : (conversationParts parsed name (lower segment)).path = pathOf ["g", name, "c", lower segment] := rfl
    rw [fragment, List.append_nil, path, conversation_path, List.getLast?_append, List.getLast?_append,
      List.getLast?_append] at last
    cases found : (lower segment).toList.getLast? with
    | none => exact absurd (String.toList_inj.mp (List.getLast?_eq_none_iff.mp found)) conversation.last_filled
    | some c' =>
      rw [found] at last
      cases last
      exact List.mem_of_getLast? found
  have free : ∀ name' ∈ ["g", name, "c", lower segment], name' ≠ "" ∧ '/' ∉ name'.toList := by
    simp only [List.forall_mem_cons]
    refine ⟨by decide, name_free conversation.inside conversation.known known, by decide, ⟨conversation.last_filled, ?_⟩, ?_⟩
    · exact fun slash => (conversation.last_plain '/' slash).2.1 rfl
    · exact fun _ none => nomatch none
  refine ⟨?_, built.chat, segments_pathOf { parsed with query := "", fragment := "" } free, ?_,
    conversationSegment_lower conversation.good⟩
  · rw [stripped]
    exact built.split (fun _ none => nomatch none)
  · rcases known with rfl | rfl
    · exact conversation.known
    · exact (projectToken_canonical conversation.known).1

theorem mem_candidates (bare : parsed.query = "" ∧ parsed.fragment = "") {candidate : String} :
    candidate ∈ conversationUrlCandidates url ↔
      ∃ name, (name = token ∨ name = "g-p-" ++ id) ∧ candidate = urlunsplit (conversationParts parsed name (lower segment)) := by
  have path (name : String) : "/g/" ++ name ++ "/c/" ++ lower segment = pathOf ["g", name, "c", lower segment] := by
    rw [← String.toList_inj, conversation_path]
    simp
  have second : parsed.segments.getD 1 "" = token := by rw [conversation.segments]; rfl
  unfold conversationUrlCandidates
  rw [conversation.identity bare, conversation.split]
  dsimp only
  rw [List.mem_eraseDups, second, path, path]
  simp only [List.mem_cons, List.not_mem_nil, or_false, conversationParts]
  constructor
  · rintro (same | same)
    · exact ⟨token, Or.inl rfl, same⟩
    · exact ⟨_, Or.inr rfl, same⟩
  · rintro ⟨name, rfl | rfl, same⟩
    · exact Or.inl same
    · exact Or.inr same

end Conversation

end Conversations

/-- The address is recognised as the conversation of its project, in each of its spellings. -/
def Recognized (url id : String) : Prop :=
  conversationUrlMatches url url = true ∧ ∀ candidate ∈ conversationUrlCandidates url,
    webConversationProjectId candidate = some id ∧ conversationUrlMatches url candidate = true

/-- There is nothing after the path of the address. -/
def PathOnly (url : String) : Prop :=
  ∃ parsed, urlsplit (strip url) = some parsed ∧ parsed.query = "" ∧ parsed.fragment = ""

/-- An address that completes a spawn is recognised later exactly when it has neither
a query nor a fragment. -/
theorem completed_conversation_recognized {url id : String} (completes : webConversationProjectId url = some id) :
    Recognized url id ↔ PathOnly url := by
  obtain ⟨segment, token, parsed, conversation⟩ := conversation_of completes
  constructor
  · rintro ⟨itself, _⟩
    unfold conversationUrlMatches at itself
    rw [Bool.and_eq_true, Option.isSome_iff_ne_none] at itself
    exact ⟨parsed, conversation.split, conversation.bare_of_identity itself.1⟩
  · rintro ⟨_, split, bare⟩
    cases conversation.split.symm.trans split
    have own := conversation.identity bare
    refine ⟨by simp [conversationUrlMatches, own], fun candidate member => ?_⟩
    obtain ⟨name, known, rfl⟩ := (conversation.mem_candidates bare).mp member
    have again := conversation.respelled known
    have same := again.identity ⟨rfl, rfl⟩
    rw [lower_segment conversation.good] at same
    exact ⟨again.project, by simp [conversationUrlMatches, own, same]⟩

theorem completed_conversation_recognized_slug :
    Recognized "https://chatgpt.com/g/g-p-0123456789ABCDEF0123456789abcdef-docs/c/0123ABCD-0123abcd/ "
      "0123456789abcdef0123456789abcdef" :=
  (completed_conversation_recognized (by decide +kernel)).mpr ⟨⟨"https", "chatgpt.com",
    "/g/g-p-0123456789ABCDEF0123456789abcdef-docs/c/0123ABCD-0123abcd/", "", ""⟩, by decide +kernel, rfl, rfl⟩

/-- A model parameter is part of the address: the spawn is completed, and the
conversation does not even match itself. -/
theorem completed_conversation_not_recognized :
    let url := "https://chatgpt.com/g/g-p-0123456789abcdef0123456789abcdef/c/0123abcd-0123abcd?model=auto"
    webConversationProjectId url = some "0123456789abcdef0123456789abcdef" ∧
      ¬ Recognized url "0123456789abcdef0123456789abcdef" := by
  refine ⟨by decide +kernel, fun recognized => ?_⟩
  have lost : conversationUrlMatches
      "https://chatgpt.com/g/g-p-0123456789abcdef0123456789abcdef/c/0123abcd-0123abcd?model=auto"
      "https://chatgpt.com/g/g-p-0123456789abcdef0123456789abcdef/c/0123abcd-0123abcd?model=auto" = false := by
    decide +kernel
  rw [recognized.1] at lost
  cases lost

end WebSupervisor.ChildSpawn.Proofs
