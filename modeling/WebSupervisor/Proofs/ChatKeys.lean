import WebSupervisor.Library.Preserves
import WebSupervisor.ChatEngine

/-! Keys and conversations. Two keys hold no two addresses of one conversation, as
long as every address that comes in spells its conversation in one way. -/

namespace WebSupervisor.ChatDispatch.Proofs
open Library Library.Program

/-- The conversation that an address names, without regard to case. -/
def conversationNamed (url : String) : Option String := (conversationIdFromUrl url).map lower

/-- No two keys hold addresses of one conversation. -/
def OneKey (store : ChatStore) : Prop :=
  ∀ first ∈ store.conversations, ∀ second ∈ store.conversations, ∀ firstUrl secondUrl id,
    first.conversationUrl = some firstUrl → second.conversationUrl = some secondUrl →
    conversationNamed firstUrl = some id → conversationNamed secondUrl = some id →
    first.conversationKey = second.conversationKey

section Spelling
variable (spelling : String → String)

/-- The address is the one spelling of its conversation. -/
def Spelled (url : String) : Prop := ∀ id, conversationNamed url = some id → url = spelling id

def SpelledAnswer : (request : Request) → Answer request → Prop
  | .sendExisting .., .ok result => ∀ url, result.conversationUrl = some url → Spelled spelling url
  | .sendNew .., .ok result => ∀ url, result.conversationUrl = some url → Spelled spelling url
  | .currentUrl _, .ok (some url) => Spelled spelling url
  | _, _ => True

/-- Every address that the move brings in is spelled so. -/
def SpelledMove : Move Answer ChatCall → Prop
  | .start (.enqueue request) => ∀ url, stripped request.conversationUrl = some url → Spelled spelling url
  | .answer _ reply => ∀ request, SpelledAnswer spelling request (reply request)
  | _ => True

def SpelledStore (store : ChatStore) : Prop :=
  ∀ row ∈ store.conversations, ∀ url, row.conversationUrl = some url → Spelled spelling url

variable {spelling}

theorem SpelledStore.oneKey {store : ChatStore} (spelled : SpelledStore spelling store) : OneKey store := by
  intro first firstMember second secondMember firstUrl secondUrl id firstBound secondBound firstNamed secondNamed
  have one := spelled first firstMember firstUrl firstBound id firstNamed
  have two := spelled second secondMember secondUrl secondBound id secondNamed
  refine congrArg ChatConversation.conversationKey (IndexedTable.eq_of_index firstMember secondMember ?_ ?_)
  · rw [firstBound]
    simp
  · rw [firstBound, secondBound, one, two]

section Statements
variable {store after : ChatStore}

theorem SpelledStore.conversations (spelled : SpelledStore spelling store)
    (same : after.conversations = store.conversations) : SpelledStore spelling after := by
  intro row member
  rw [same] at member
  exact spelled row member

theorem SpelledStore.upsertConversation (spelled : SpelledStore spelling store) {row : ChatConversation}
    (known : ∀ url, row.conversationUrl = some url → Spelled spelling url)
    (done : upsertConversation store row = .ok after) : SpelledStore spelling after := by
  unfold ChatDispatch.upsertConversation at done
  split at done
  next =>
    split at done
    next => cases done
    next conversations inserted =>
      cases done
      intro other member
      rcases (Table.mem_insert? (IndexedTable.insert_ok inserted)).mp member with old | rfl
      · exact spelled other old
      · exact known
  next old found =>
    dsimp only at done
    split at done
    next => cases done
    next conversations replaced =>
      cases done
      intro other member
      have present : other ∈ conversations.toTable := member
      rw [IndexedTable.replace?_some replaced, Table.mem_replace] at present
      rcases present with ⟨rfl, _⟩ | ⟨kept, _⟩
      · intro url merged
        rcases Option.or_eq_some_iff.mp merged with before | ⟨_, new⟩
        · exact spelled old (Table.find?_some.mp found).1 url before
        · exact known url new
      · exact spelled other kept

theorem SpelledStore.bindConversation (spelled : SpelledStore spelling store) {conversationKey conversationUrl : String}
    {now : Time} (known : Spelled spelling conversationUrl)
    (bound : bindConversation conversationKey conversationUrl now store = .ok ((), after)) :
    SpelledStore spelling after := by
  unfold ChatDispatch.bindConversation at bound
  split at bound
  next => cases bound
  next =>
    dsimp only at bound
    split at bound
    next =>
      cases bound
      exact spelled.conversations rfl
    next =>
      split at bound
      next => cases bound
      next conversations replaced =>
        cases bound
        intro other member
        have present : other ∈ conversations.toTable := member
        rw [IndexedTable.replace?_some replaced, Table.mem_replace] at present
        rcases present with ⟨rfl, _⟩ | ⟨kept, _⟩
        · rintro url ⟨⟩
          exact known
        · exact spelled other kept

private theorem resolveUrl_spelled {request : Enqueue} {url : Option String} (spelled : SpelledStore spelling store)
    (given : ∀ url, stripped request.conversationUrl = some url → Spelled spelling url)
    (resolved : request.resolveUrl (store.conversations.find? request.key) = .ok url) :
    ∀ value, url = some value → Spelled spelling value := by
  unfold Enqueue.resolveUrl at resolved
  dsimp only at resolved
  split at resolved
  next =>
    rw [bind_eq_ok] at resolved
    obtain ⟨_, _, same⟩ := resolved
    cases same
    intro value bound
    obtain ⟨row, found, stored⟩ := Option.bind_eq_some_iff.mp bound
    exact spelled row (Table.find?_some.mp found).1 value stored
  next =>
    cases resolved
    exact given

theorem SpelledStore.enqueueTransaction (spelled : SpelledStore spelling store) {request : Enqueue} {result : Enqueued}
    (given : ∀ url, stripped request.conversationUrl = some url → Spelled spelling url)
    (done : enqueueTransaction request store = .ok (result, after)) : SpelledStore spelling after := by
  simp only [ChatDispatch.enqueueTransaction, bind_eq_ok] at done
  obtain ⟨_, _, done⟩ := done
  split at done
  next =>
    rw [bind_eq_ok] at done
    obtain ⟨_, _, same⟩ := done
    cases same
    exact spelled
  next =>
    simp only [enqueueNew, bind_eq_ok] at done
    obtain ⟨⟨job, added⟩, ⟨url, resolved, _, _, upserted, conversation, last, inserted, pair⟩, same⟩ := done
    cases pair
    cases same
    refine SpelledStore.conversations
      (spelled.upsertConversation (resolveUrl_spelled spelled given resolved) conversation) ?_
    unfold insertJob at inserted
    split at inserted
    next => cases inserted
    next => cases inserted
    next =>
      cases inserted
      rfl

end Statements

section Engine
variable (spelling)

/-- The part writes no address that is not spelled so. -/
abbrev KeepsSpelling {β : Type} (program : Engine β) : Prop :=
  Preserves (SpelledStore spelling) (SpelledAnswer spelling) program.run

variable {spelling} {β : Type}

theorem spelling_write {change : ChatStore → ChatStore}
    (same : ∀ store, (change store).conversations = store.conversations) : KeepsSpelling spelling (write change) := by
  refine Preserves.transaction (fun store value after spelled done => ?_)
  cases done
  exact spelled.conversations (same store)

theorem spelling_clock : KeepsSpelling spelling clock := Preserves.ask

theorem spelling_query (view : ChatStore → β) : KeepsSpelling spelling (query view) := Preserves.check

theorem spelling_updateJob (dispatchId : String) (change : JobChange) :
    KeepsSpelling spelling (updateJob dispatchId change) :=
  spelling_clock.andThen (fun _ => Preserves.andThen (spelling_write (fun _ => rfl)) (fun _ => Preserves.check))

theorem spelling_setPageClosed (pageId : String) (ambiguous : Bool) (error : Option String) :
    KeepsSpelling spelling (setPageClosed pageId ambiguous error) :=
  Preserves.andThen (spelling_write (fun _ => rfl)) (fun _ => Preserves.check.andThen (fun _ => Preserves.done))

theorem spelling_setPageUrl (pageId conversationUrl : String) : KeepsSpelling spelling (setPageUrl pageId conversationUrl) :=
  spelling_clock.andThen (fun _ => Preserves.andThen (spelling_write (fun _ => rfl)) (fun _ => Preserves.check))

theorem spelling_setPageOpen (pageId : String) : KeepsSpelling spelling (setPageOpen pageId) :=
  spelling_clock.andThen (fun _ => Preserves.andThen (spelling_write (fun _ => rfl)) (fun _ => Preserves.check))

theorem spelling_setPageIdle (pageId : String) (idleCloseS now : Time) :
    KeepsSpelling spelling (setPageIdle pageId idleCloseS now) :=
  Preserves.check.andThen (fun _ => Preserves.andThen (spelling_write (fun _ => rfl))
    (fun _ => Preserves.check.andThen (fun _ => Preserves.done)))

theorem spelling_recordPage (conversationKey : String) (identity : PageIdentity) :
    KeepsSpelling spelling (recordPage conversationKey identity) :=
  spelling_clock.andThen (fun _ => Preserves.andThen (spelling_write (fun _ => rfl)) (fun _ => Preserves.check))

theorem spelling_bindKey (conversationKey : String) {conversationUrl : String} (known : Spelled spelling conversationUrl) :
    KeepsSpelling spelling (bindKey conversationKey conversationUrl) :=
  spelling_clock.andThen (fun _ => Preserves.transaction (fun _ _ _ spelled bound => spelled.bindConversation known bound))

theorem spelling_pageShows (job : ChatDispatchJob) (page : ChatPage) (current : String) :
    KeepsSpelling spelling (pageShows job page current) := by
  unfold pageShows
  dsimp only
  split
  · split
    · exact Preserves.mapOk (spelling_setPageUrl page.pageId current)
    · exact Preserves.done
  · split
    · exact Preserves.done
    · exact (spelling_setPageClosed _ _ _).andThen (fun _ => Preserves.done)

theorem spelling_pageOf (job : ChatDispatchJob) : KeepsSpelling spelling (pageOf job) := by
  refine (spelling_query _).andThen (fun found => ?_)
  cases found with
  | none => exact Preserves.done
  | some page =>
    refine Preserves.ask.andThen (fun shown => ?_)
    cases shown with
    | none => exact (spelling_setPageClosed _ _ _).andThen (fun _ => Preserves.done)
    | some current => exact spelling_pageShows job page current

theorem spelling_openOutcome (job : ChatDispatchJob) (failure : String) (outcome : Except Raised PageIdentity) :
    KeepsSpelling spelling (openOutcome job failure outcome) := by
  cases outcome with
  | ok identity => exact Preserves.done
  | error exception => exact (spelling_updateJob _ _).andThen (fun _ => Preserves.done)

theorem spelling_acquire (engine : ChatDispatchEngine) (job : ChatDispatchJob) :
    KeepsSpelling spelling (acquire engine job) := by
  unfold acquire
  split
  · refine Preserves.andThen ?_ (fun found => ?_)
    · unfold recoverOpening
      split
      · exact Preserves.ask.andThen (fun _ => Preserves.done)
      · split
        · exact Preserves.andThen Preserves.ensure (fun _ => Preserves.ask)
        · exact Preserves.done
    · cases found with
      | some identity => exact Preserves.done
      | none => exact (spelling_updateJob _ _).andThen (fun _ => Preserves.done)
  · split
    · refine Preserves.ask.andThen (fun found => ?_)
      cases found with
      | some page => exact Preserves.done
      | none =>
        refine (spelling_query _).andThen (fun count => ?_)
        split
        · exact Preserves.done
        · exact (spelling_updateJob _ _).andThen (fun _ => Preserves.ask.andThen (fun _ => spelling_openOutcome _ _ _))
    · refine Preserves.andThen Preserves.ensure (fun _ => Preserves.andThen (spelling_query _) (fun count => ?_))
      split
      · exact Preserves.done
      · refine (spelling_updateJob _ _).andThen (fun _ => ?_)
        split
        · exact spelling_openOutcome _ _ _
        · exact Preserves.ask.andThen (fun _ => spelling_openOutcome _ _ _)

theorem spelling_ensurePage (engine : ChatDispatchEngine) (job : ChatDispatchJob) :
    KeepsSpelling spelling (ensurePage engine job) := by
  refine (spelling_pageOf job).andThen (fun found => ?_)
  cases found with
  | some page => exact (spelling_setPageOpen _).mapOk
  | none =>
    refine (spelling_acquire engine job).andThen (fun acquired => ?_)
    cases acquired with
    | none => exact Preserves.done
    | some identity =>
      refine Preserves.mapOk ?_
      exact (spelling_recordPage _ _).andThen (fun page => (spelling_updateJob _ _).andThen (fun _ => Preserves.done))

/-- The address that a send reports is an admitted one. -/
theorem spelling_sendOutcome (engine : ChatDispatchEngine) (job : ChatDispatchJob) (page : ChatPage) (current : Time)
    {outcome : Except Raised BrowserSendResult}
    (known : ∀ result url, outcome = .ok result → result.conversationUrl = some url → Spelled spelling url) :
    KeepsSpelling spelling (sendOutcome engine job page current outcome) := by
  cases outcome with
  | error exception => exact (spelling_updateJob _ _).andThen (fun _ => Preserves.done)
  | ok result =>
    refine Preserves.andThen ?_ (fun _ => (spelling_updateJob _ _).andThen (fun _ => Preserves.done))
    unfold recordSentUrl
    split
    next set =>
      have spelled : Spelled spelling (result.conversationUrl.getD "") := by
        cases url : result.conversationUrl with
        | none => simp [isSet, url] at set
        | some url => exact known result _ rfl (by assumption)
      exact (spelling_bindKey _ spelled).andThen (fun _ => (spelling_setPageUrl _ _).andThen (fun _ => Preserves.done))
    next => exact Preserves.done

theorem spelling_submit (engine : ChatDispatchEngine) (job : ChatDispatchJob) (page : ChatPage) :
    KeepsSpelling spelling (submit engine job page) := by
  refine spelling_clock.andThen (fun current => (spelling_updateJob _ _).andThen (fun written => ?_))
  unfold send
  split
  · refine Preserves.askThen (fun answer outcome admitted received => ?_)
    cases received
    exact spelling_sendOutcome engine written page current (fun result url same => by subst same; exact admitted url)
  · refine Preserves.askThen (fun answer outcome admitted received => ?_)
    cases received
    exact spelling_sendOutcome engine written page current (fun result url same => by subst same; exact admitted url)

theorem spelling_observe (job : ChatDispatchJob) (page : ChatPage) : KeepsSpelling spelling (observe job page) := by
  refine Preserves.ask.andThen (fun ack => ?_)
  unfold settleAck
  split
  · exact Preserves.done
  · split
    · exact (spelling_updateJob _ _).andThen (fun _ => spelling_setPageClosed _ _ _)
    · split
      · refine spelling_clock.andThen (fun now => (spelling_updateJob _ _).andThen (fun _ => ?_))
        refine (spelling_query _).andThen (fun pending => ?_)
        split
        · exact Preserves.done
        · exact spelling_setPageIdle _ _ _
      · exact Preserves.done

theorem spelling_discover (job : ChatDispatchJob) (page : ChatPage) : KeepsSpelling spelling (discover job page) := by
  refine Preserves.askThen (fun answer found admitted received => ?_)
  dsimp only
  split
  next set =>
    have spelled : Spelled spelling (found.getD "") := by
      cases found with
      | none => simp [isSet] at set
      | some url =>
        subst received
        exact admitted
    refine (spelling_bindKey _ spelled).andThen (fun _ => (spelling_setPageUrl _ _).andThen (fun _ => ?_))
    refine Preserves.andThen ?_ (fun _ => (spelling_updateJob _ _).andThen (fun written =>
      Preserves.check.andThen (fun page => spelling_observe written page)))
    unfold submittedTime
    split
    · exact Preserves.done
    · exact spelling_clock
  next => exact Preserves.done

theorem spelling_reconcile (job : ChatDispatchJob) : KeepsSpelling spelling (reconcile job) := by
  refine (spelling_pageOf job).andThen (fun found => ?_)
  cases found with
  | none => exact Preserves.done
  | some page =>
    dsimp only
    split
    · exact spelling_observe job page
    · exact spelling_discover job page

theorem spelling_advance (engine : ChatDispatchEngine) (job : ChatDispatchJob) :
    KeepsSpelling spelling (advance engine job) := by
  refine (spelling_ensurePage engine job).attempt.andThen (fun outcome => ?_)
  rcases outcome with exception | found
  · exact (spelling_updateJob _ _).andThen (fun _ => Preserves.done)
  · cases found with
    | none => exact Preserves.done
    | some page =>
      exact Preserves.check.andThen (fun read => (spelling_submit engine read page).andThen (fun _ => Preserves.done))

theorem spelling_handleJob (engine : ChatDispatchEngine) (job : ChatDispatchJob) :
    KeepsSpelling spelling (handleJob engine job) := by
  unfold handleJob
  split
  · exact Preserves.done
  · refine (spelling_query _).andThen (fun older => ?_)
    split
    · exact Preserves.done
    · split
      · exact (spelling_updateJob _ _).andThen (fun _ => Preserves.check.andThen
          (fun row => (spelling_reconcile row).andThen (fun _ => Preserves.done)))
      · split
        · exact (spelling_reconcile job).andThen (fun _ => Preserves.check.andThen (fun _ => Preserves.done))
        · split
          · refine spelling_clock.andThen (fun now => ?_)
            split
            · exact Preserves.done
            · exact spelling_advance engine job
          · exact spelling_advance engine job

theorem spelling_runJobs (engine : ChatDispatchEngine) (jobs : List ChatDispatchJob) :
    KeepsSpelling spelling (runJobs engine jobs) := by
  induction jobs with
  | nil => exact Preserves.done
  | cons job jobs ih => exact (spelling_handleJob engine job).andThen (fun _ => ih.andThen (fun _ => Preserves.done))

theorem spelling_closePages (engine : ChatDispatchEngine) (now : Time) (pages : List ChatPage) :
    KeepsSpelling spelling (closePages engine now pages) := by
  induction pages with
  | nil => exact Preserves.done
  | cons page pages ih =>
    refine Preserves.andThen ?_ (fun _ => ih)
    unfold closeIdlePage
    split
    · exact Preserves.done
    · refine (spelling_query _).andThen (fun pending => ?_)
      split
      · exact Preserves.done
      · split
        · exact spelling_setPageIdle _ _ _
        · split
          · exact Preserves.done
          · refine Preserves.ask.andThen (fun result => ?_)
            split
            · exact spelling_setPageClosed _ _ _
            · exact spelling_setPageClosed _ _ _

theorem spelling_runOnce (engine : ChatDispatchEngine) : KeepsSpelling spelling (runOnce engine) := by
  refine spelling_clock.andThen (fun now => (spelling_query _).andThen (fun jobs => ?_))
  refine (spelling_runJobs engine jobs).andThen (fun progressed => ?_)
  have closing : KeepsSpelling spelling (closeIdlePages engine) :=
    spelling_clock.andThen (fun now => (spelling_query _).andThen (fun pages => spelling_closePages engine now pages))
  exact closing.andThen (fun _ => (spelling_query _).andThen (fun _ => (spelling_query _).andThen (fun _ => Preserves.done)))

theorem spelling_enqueue {request : Enqueue}
    (given : ∀ url, stripped request.conversationUrl = some url → Spelled spelling url) :
    KeepsSpelling spelling (ChatDispatch.enqueue request) := by
  refine Preserves.andThen
    (Preserves.transaction (fun _ _ _ spelled done => spelled.enqueueTransaction given done)) (fun enqueued => ?_)
  cases enqueued with
  | existing job => exact Preserves.done
  | added dispatchId => exact Preserves.check

theorem spelling_cancel (dispatchId : String) : KeepsSpelling spelling (ChatDispatch.cancel dispatchId) := by
  refine Preserves.check.andThen (fun found => ?_)
  cases found with
  | some job => exact Preserves.done
  | none => exact spelling_updateJob _ _

theorem SpelledMove.allowed {move : Move Answer ChatCall} (spelled : SpelledMove spelling move) :
    Allowed (SpelledStore spelling) (SpelledAnswer spelling) chatMachine move := by
  cases move with
  | start call =>
    cases call with
    | enqueue request => exact (spelling_enqueue spelled).map
    | cancel dispatchId => exact (spelling_cancel dispatchId).map
    | runOnce engine => exact (spelling_runOnce engine).map
  | answer pid reply => exact spelled
  | step pid => trivial
  | crash pid => trivial

end Engine

/-- In every run in which all addresses that come in spell a conversation in one
way, no two keys hold addresses of one conversation. -/
theorem one_key_per_conversation (start : ChatStore) (moves : List (Move Answer ChatCall))
    (initial : SpelledStore spelling start) (spelled : ∀ move ∈ moves, SpelledMove spelling move) :
    OneKey (run chatMachine.move { store := start, log := [] } moves).store :=
  (run_preserves initial (fun move member => (spelled move member).allowed)).oneKey

end Spelling

section Runs

/-- A prompt under a key of its own for a conversation that is given by its address. -/
def keyedPrompt (key url : String) : Enqueue :=
  { prompt := "hello", conversationKey := some key, conversationUrl := some url, now := 0, keySuffix := "k"
    dispatchSuffix := key, nonce := "n" }

def twoKeys (firstUrl secondUrl : String) : List (Move Answer ChatCall) :=
  [.start (.enqueue (keyedPrompt "a" firstUrl)), .step 0, .step 0, .step 0,
   .start (.enqueue (keyedPrompt "b" secondUrl)), .step 1, .step 1, .step 1]

def plainAddress (id : String) : String := "https://chatgpt.com/c/" ++ id

/-- Two conversations under two keys. -/
theorem one_key_per_conversation_two :
    let world := run chatMachine.move { store := {}, log := [] }
      (twoKeys (plainAddress "0123456789abcdef") (plainAddress "fedcba9876543210"))
    world.store.conversations.rows.length = 2 ∧ OneKey world.store := by
  have spelled {request : Enqueue} (id : String) (given : stripped request.conversationUrl = some (plainAddress id))
      (named : conversationNamed (plainAddress id) = some id) :
      SpelledMove plainAddress (.start (.enqueue request)) := by
    intro url same other found
    rw [given, Option.some.injEq] at same
    subst same
    rw [named, Option.some.injEq] at found
    rw [found]
  refine ⟨by decide +kernel, @one_key_per_conversation plainAddress {} _ (by rintro row ⟨⟩) ?_⟩
  simp only [twoKeys, List.forall_mem_cons]
  refine ⟨spelled "0123456789abcdef" (by decide +kernel) (by decide +kernel), trivial, trivial, trivial,
    spelled "fedcba9876543210" (by decide +kernel) (by decide +kernel), trivial, trivial, trivial, by simp⟩

/-- The address with a slash at its end is taken for another conversation. -/
theorem one_key_per_conversation_fails :
    ¬ OneKey (run chatMachine.move { store := {}, log := [] }
      (twoKeys (plainAddress "0123456789abcdef") (plainAddress "0123456789abcdef/"))).store := by
  intro one
  have rows : (run chatMachine.move { store := {}, log := [] }
      (twoKeys (plainAddress "0123456789abcdef") (plainAddress "0123456789abcdef/"))).store.conversations.rows.map
      (fun row => (row.conversationKey, row.conversationUrl)) =
      [("a", some (plainAddress "0123456789abcdef")), ("b", some (plainAddress "0123456789abcdef/"))] := by
    decide +kernel
  obtain ⟨first, tail, split, firstRow, tailRows⟩ := List.map_eq_cons_iff.mp rows
  obtain ⟨second, none, rfl, secondRow, _⟩ := List.map_eq_cons_iff.mp tailRows
  simp only [Prod.mk.injEq] at firstRow secondRow
  have firstMember : first ∈ (run chatMachine.move { store := {}, log := [] }
      (twoKeys (plainAddress "0123456789abcdef") (plainAddress "0123456789abcdef/"))).store.conversations.rows := by
    rw [split]
    simp
  have secondMember : second ∈ (run chatMachine.move { store := {}, log := [] }
      (twoKeys (plainAddress "0123456789abcdef") (plainAddress "0123456789abcdef/"))).store.conversations.rows := by
    rw [split]
    simp
  have same := one first firstMember second secondMember _ _ "0123456789abcdef" firstRow.2 secondRow.2
    (by decide +kernel) (by decide +kernel)
  rw [firstRow.1, secondRow.1] at same
  exact absurd same (by decide)

end Runs

end WebSupervisor.ChatDispatch.Proofs
