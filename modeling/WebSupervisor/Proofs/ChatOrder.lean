import WebSupervisor.Library.Certificate
import WebSupervisor.Library.Delimited
import WebSupervisor.Library.History
import WebSupervisor.Proofs.ChatQueue

/-! The order of sends in the log of a chat queue. The invariant relates the
stored states to the sends so far; calls that overlap on one job leave evidence
of it in the log. -/

namespace WebSupervisor.ChatDispatch.Proofs
open Library

abbrev ChatEvent := Event ChatStore Answer ChatResult

abbrev ChatShared := Shared ChatStore Answer ChatResult

/-- The states from which a job may still be sent. -/
def Presend (state : ChatDispatchState) : Prop :=
  state ∈ [.queued, .claimed, .opening, .windowBound, .retryWait]

instance (state : ChatDispatchState) : Decidable (Presend state) := inferInstanceAs (Decidable (_ ∈ _))

def sentJob : Request → Option String
  | .sendExisting job _ | .sendNew job _ => some job.dispatchId
  | _ => none

/-- The event is a call of `send_existing` or `send_new` for the job. -/
def sends (dispatchId : String) : ChatEvent → Bool
  | .issued _ request _ => sentJob request = some dispatchId
  | _ => false

/-- The result says that nothing was sent and that a rate limit was met. -/
def BrowserSendResult.Deferred (result : BrowserSendResult) : Prop :=
  result.submitted = false ∧ result.sideEffectPossible = false ∧ result.rateLimited = true

def Deferred : (request : Request) → Answer request → Prop
  | .sendExisting .., .ok result => BrowserSendResult.Deferred result
  | .sendNew .., .ok result => BrowserSendResult.Deferred result
  | _, _ => False

def Sent (dispatchId : String) (log : List ChatEvent) : Prop := ∃ event ∈ log, sends dispatchId event = true

/-- Every send of the job was answered as deferred. -/
def Excused (dispatchId : String) (log : List ChatEvent) : Prop :=
  ∀ newer pid request found older, log = newer ++ .issued pid request found :: older →
    sentJob request = some dispatchId → ∃ answer, .answered pid request answer ∈ newer ∧ Deferred request answer

/-- The commit moves the job from one state to another. -/
def MovesJob (dispatchId : String) (before after : ChatStore) : Prop :=
  ∃ old new, stateOf before dispatchId = some old ∧ stateOf after dispatchId = some new ∧ old ≠ new

def Touches (dispatchId : String) : ChatEvent → Prop
  | .committed _ before after => MovesJob dispatchId before after
  | .issued _ request _ => sentJob request = some dispatchId
  | _ => False

/-- The process has made its first statement. -/
def Begun (pid : Nat) (log : List ChatEvent) : Prop := ∃ before after, .committed pid before after ∈ log

/-- Another process has moved the job since the first statement of this one. -/
def ChangedSince (pid : Nat) (dispatchId : String) (log : List ChatEvent) : Prop :=
  ∃ newer other before after older, log = newer ++ .committed other before after :: older ∧ other ≠ pid ∧
    MovesJob dispatchId before after ∧ Begun pid older

/-- A call has moved or sent a job that another call had moved since the first
call made its first statement. -/
def Overtaken (log : List ChatEvent) : Prop :=
  ∃ newer event older dispatchId, log = newer ++ event :: older ∧ Touches dispatchId event ∧
    ChangedSince event.pid dispatchId older

def PageIdentity.window (identity : PageIdentity) : Int × Int := (identity.windowHandle, identity.browserPid)

def ChatPage.window (page : ChatPage) : Int × Int := (page.windowHandle, page.browserPid)

/-- The window that the dispatcher opened by itself in this event. -/
def opens : ChatEvent → Option (Int × Int)
  | .answered _ (.openExisting _) (.ok identity) =>
    if identity.owned then some (PageIdentity.window identity) else none
  | .answered _ (.openNew ..) (.ok identity) => some (PageIdentity.window identity)
  | .answered _ (.recoverNew ..) (.ok (some identity)) => some (PageIdentity.window identity)
  | _ => none

def Opened (window : Int × Int) (log : List ChatEvent) : Prop := ∃ event ∈ log, opens event = some window

/-- Pages are named by their window, and the owned ones were opened. -/
def Paged (store : ChatStore) (log : List ChatEvent) : Prop :=
  ∀ page ∈ store.pages, (∀ identity, PageIdentity.window identity = ChatPage.window page → pageIdOf identity = page.pageId) ∧
    (page.owned = true → Opened (ChatPage.window page) log)

/-- The job was stored in this state at some moment. -/
def Seen (dispatchId : String) (state : ChatDispatchState) (log : List ChatEvent) : Prop :=
  ∃ pid before after, .committed pid before after ∈ log ∧ stateOf after dispatchId = some state

/-- No job that has been sent stands behind this one. -/
def Unpassed (dispatchId : String) (store : ChatStore) (log : List ChatEvent) : Prop :=
  ∀ second, Sent second log → (stateOf store second).isSome ∧ ¬ Precedes store dispatchId second

/-- All jobs before this one are finished. -/
def Clear (dispatchId : String) (store : ChatStore) : Prop :=
  ∀ first state, Precedes store first dispatchId → stateOf store first = some state → state.Terminal

structure SendReason (dispatchId : String) (event : ChatEvent) (found : ChatStore) (older : List ChatEvent) : Prop where
  excused : Excused dispatchId older
  counted : ∀ attempts, attemptsOf found dispatchId = some attempts → older.countP (sends dispatchId) < attempts
  clear : Clear dispatchId found
  unpassed : Unpassed dispatchId found older
  unsettled : ∃ state, stateOf found dispatchId = some state ∧ ¬ Presend state ∧
    (state = .cancelled → Overtaken (event :: older))

/-- Why an event may stand after the older ones. `fresh` says that the run began
without pages. -/
def Reason (fresh : Prop) : ChatEvent → List ChatEvent → Prop
  | .committed pid before after, older => QueueChange before after ∧
    (∀ dispatchId state, stateOf before dispatchId = some state → state.Terminal →
      stateOf after dispatchId = some state ∨ Overtaken (.committed pid before after :: older)) ∧
    ∀ dispatchId, stateOf after dispatchId = some .cancelled →
      Excused dispatchId older ∨ Overtaken (.committed pid before after :: older)
  | .issued pid request found, older =>
    (∀ dispatchId, sentJob request = some dispatchId →
      SendReason dispatchId (.issued pid request found) found older) ∧
    ∀ page, request = .closePage page → fresh → Opened (ChatPage.window page) older
  | .returned _ (.job (.ok job)), older => job.state = .cancelled → Seen job.dispatchId .cancelled older
  | _, _ => True

structure Orderly (start : ChatStore) (shared : ChatShared) : Prop where
  linked : Linked start shared.log shared.store
  justified : Justified (Reason (start.pages.rows = [])) shared.log
  stored : ∀ dispatchId, Sent dispatchId shared.log → (stateOf shared.store dispatchId).isSome
  excused : ∀ dispatchId state, stateOf shared.store dispatchId = some state → Presend state →
    Excused dispatchId shared.log
  counted : ∀ dispatchId attempts, attemptsOf shared.store dispatchId = some attempts →
    shared.log.countP (sends dispatchId) ≤ attempts
  fifo : ∀ first second state, Precedes shared.store first second → Sent second shared.log →
    stateOf shared.store first = some state → state.Terminal
  cancelled : ∀ dispatchId, stateOf shared.store dispatchId = some .cancelled →
    Excused dispatchId shared.log ∨ Overtaken shared.log
  paged : start.pages.rows = [] → Paged shared.store shared.log

section Logs
variable {dispatchId : String} {pid : Nat} {log : List ChatEvent} {event : ChatEvent}

theorem sent_cons : Sent dispatchId (event :: log) ↔ sends dispatchId event = true ∨ Sent dispatchId log := by
  simp [Sent]

theorem unsent_count (unsent : ¬ Sent dispatchId log) : log.countP (sends dispatchId) = 0 := by
  rw [List.countP_eq_zero]
  exact fun event member sent => unsent ⟨event, member, sent⟩

theorem Excused.cons (excused : Excused dispatchId log) (quiet : sends dispatchId event = false) :
    Excused dispatchId (event :: log) := by
  intro newer sender request found older split named
  cases newer with
  | nil =>
    cases split
    simp [sends, named] at quiet
  | cons head newer =>
    cases split
    obtain ⟨answer, member, deferred⟩ := excused newer sender request found older rfl named
    exact ⟨answer, List.mem_cons_of_mem _ member, deferred⟩

theorem excused_of_unsent (unsent : ¬ Sent dispatchId log) : Excused dispatchId log := by
  intro newer sender request found older split named
  refine absurd ⟨.issued sender request found, ?_, by simp [sends, named]⟩ unsent
  rw [split]
  simp

/-- A deferred answer excuses the send it belongs to. -/
theorem Excused.answered {newer : List ChatEvent} {request : Request} {found : ChatStore} {answer : Answer request}
    (excused : Excused dispatchId log) (quiet : ∀ event ∈ newer, sends dispatchId event = false)
    (deferred : Deferred request answer) :
    Excused dispatchId (.answered pid request answer :: (newer ++ .issued pid request found :: log)) := by
  intro front sender other store older split named
  cases front with
  | nil => cases split
  | cons head front =>
    rw [List.cons_append, List.cons.injEq] at split
    obtain ⟨rfl, split⟩ := split
    rcases List.append_eq_append_iff.mp split with ⟨middle, rfl, rest⟩ | ⟨middle, rfl, rest⟩
    · cases middle with
      | nil =>
        cases rest
        exact ⟨answer, List.mem_cons_self .., deferred⟩
      | cons head middle =>
        cases rest
        obtain ⟨reply, member, harmless⟩ := excused middle sender other store older rfl named
        exact ⟨reply, by simp [member], harmless⟩
    · cases middle with
      | nil =>
        cases rest
        exact ⟨answer, List.mem_cons_self .., deferred⟩
      | cons head middle =>
        cases rest
        have silent := quiet (.issued sender other store) (by simp)
        simp [sends, named] at silent

theorem Overtaken.cons (overtaken : Overtaken log) : Overtaken (event :: log) := by
  obtain ⟨newer, found, older, id, split, touches, changed⟩ := overtaken
  exact ⟨event :: newer, found, older, id, by rw [split]; rfl, touches, changed⟩

theorem Opened.cons {window : Int × Int} (opened : Opened window log) : Opened window (event :: log) := by
  obtain ⟨old, member, same⟩ := opened
  exact ⟨old, List.mem_cons_of_mem _ member, same⟩

theorem Paged.cons {store : ChatStore} (paged : Paged store log) : Paged store (event :: log) :=
  fun page member => ⟨(paged page member).1, fun owned => ((paged page member).2 owned).cons⟩

theorem Begun.cons (begun : Begun pid log) : Begun pid (event :: log) := by
  obtain ⟨before, after, member⟩ := begun
  exact ⟨before, after, List.mem_cons_of_mem _ member⟩

theorem ChangedSince.cons (changed : ChangedSince pid dispatchId log) : ChangedSince pid dispatchId (event :: log) := by
  obtain ⟨newer, other, before, after, older, rfl, rest⟩ := changed
  exact ⟨event :: newer, other, before, after, older, rfl, rest⟩

theorem ChangedSince.overtaken (changed : ChangedSince pid dispatchId log) (own : event.pid = pid)
    (touches : Touches dispatchId event) : Overtaken (event :: log) :=
  ⟨[], event, log, dispatchId, rfl, touches, own.symm ▸ changed⟩

theorem Unpassed.cons {store : ChatStore} (unpassed : Unpassed dispatchId store log)
    (quiet : ∀ id, sends id event = false) : Unpassed dispatchId store (event :: log) := by
  intro second sent
  rw [sent_cons, quiet second] at sent
  exact unpassed second (sent.resolve_left (by simp))

end Logs

section Steps
variable {start : ChatStore} {now : ChatShared} {pid : Nat} {after : ChatStore}

/-- A commit may move a job from one state to another. -/
structure Permits (pid : Nat) (now : ChatShared) (after : ChatStore) (dispatchId : String)
    (old new : ChatDispatchState) : Prop where
  unfinished : old.Terminal → Overtaken (.committed pid now.store after :: now.log)
  excused : Presend new → Excused dispatchId now.log
  unpassed : ¬ new.Terminal → Unpassed dispatchId now.store now.log
  cancelled : new = .cancelled →
    Excused dispatchId now.log ∨ Overtaken (.committed pid now.store after :: now.log)

theorem Orderly.commit (orderly : Orderly start now) (change : QueueChange now.store after)
    (permits : ∀ id old new, stateOf now.store id = some old → stateOf after id = some new → old ≠ new →
      Permits pid now after id old new)
    (attempts : ∀ id old new, attemptsOf now.store id = some old → attemptsOf after id = some new →
      now.log.countP (sends id) ≤ new)
    (paged : start.pages.rows = [] → Paged now.store now.log → Paged after now.log) :
    Orderly start (now.became pid after) := by
  have known {id : String} (sent : Sent id (now.became pid after).log) : Sent id now.log := by
    rw [Shared.became_log, sent_cons] at sent
    exact sent.resolve_left (by simp [sends])
  have stored (id : String) (sent : Sent id now.log) : stateOf now.store id ≠ none := by
    have := orderly.stored id sent
    exact fun missing => by simp [missing] at this
  -- A job without a row has not been sent.
  have fresh {id : String} (missing : stateOf now.store id = none) : Excused id now.log :=
    excused_of_unsent (fun sent => stored id sent missing)
  have cancelled (id : String) (found : stateOf after id = some .cancelled) :
      Excused id now.log ∨ Overtaken (.committed pid now.store after :: now.log) := by
    cases old : stateOf now.store id with
    | none => exact nomatch change.fresh old found
    | some before =>
      by_cases same : before = .cancelled
      · exact (orderly.cancelled id (same ▸ old)).imp_right Overtaken.cons
      · exact (permits id before _ old found same).cancelled rfl
  refine ⟨orderly.linked.became pid after, orderly.justified.cons ⟨change, ?_, cancelled⟩, ?_, ?_, ?_, ?_, ?_, ?_⟩
  · intro id state found terminal
    by_cases same : stateOf after id = some state
    · exact Or.inl same
    · obtain ⟨new, moved⟩ := Option.isSome_iff_exists.mp (change.isSome (by rw [found]; rfl))
      refine Or.inr ((permits id state new found moved ?_).unfinished terminal)
      rintro rfl
      exact same moved
  · intro id sent
    exact change.isSome (orderly.stored id (known sent))
  · intro id state found presend
    refine Excused.cons ?_ rfl
    cases old : stateOf now.store id with
    | none => exact fresh old
    | some before =>
      by_cases same : before = state
      · exact orderly.excused id state (same ▸ old) presend
      · exact (permits id before state old found same).excused presend
  · intro id number found
    have uncounted : (now.became pid after).log.countP (sends id) = now.log.countP (sends id) := by
      rw [Shared.became_log, List.countP_cons_of_neg (by simp [sends])]
    rw [uncounted]
    cases old : attemptsOf now.store id with
    | none =>
      have missing : stateOf now.store id = none := by
        rw [attemptsOf, Option.map_eq_none_iff] at old
        rw [stateOf, old]
        rfl
      rw [unsent_count (fun sent => stored id sent missing)]
      exact Nat.zero_le _
    | some before => exact attempts id before number old found
  · intro first second state ordered sent found
    have old : Precedes now.store first second :=
      (change.precedes_back ordered).resolve_right (stored second (known sent))
    obtain ⟨before, held⟩ := old.stored
    by_cases same : before = state
    · exact orderly.fifo first second state old (known sent) (same ▸ held)
    · by_contra unfinished
      exact ((permits first before state held found same).unpassed unfinished second (known sent)).2 old
  · intro id found
    exact (cancelled id found).imp (fun excused => excused.cons rfl) (fun overtaken => overtaken)
  · intro empty
    exact (paged empty (orderly.paged empty)).cons

/-- A statement that leaves the queue alone. -/
theorem Orderly.keep (orderly : Orderly start now) (change : QueueChange now.store after)
    (states : ∀ id, stateOf after id = stateOf now.store id)
    (attempts : ∀ id, attemptsOf after id = attemptsOf now.store id)
    (paged : start.pages.rows = [] → Paged now.store now.log → Paged after now.log) :
    Orderly start (now.became pid after) := by
  refine orderly.commit change (fun id old new before found moved => ?_) (fun id old new before found => ?_) paged
  · rw [states, before, Option.some.injEq] at found
    exact absurd found moved
  · rw [attempts, before, Option.some.injEq] at found
    exact found ▸ orderly.counted id old before

theorem Orderly.read (orderly : Orderly start now) : Orderly start (now.became pid now.store) :=
  orderly.keep (.same rfl) (fun _ => rfl) (fun _ => rfl) (fun _ paged => paged)

/-- An event that neither commits nor sends. -/
theorem Orderly.record (orderly : Orderly start now) {event : ChatEvent}
    (linked : Linked start (event :: now.log) now.store)
    (reason : Reason (start.pages.rows = []) event now.log) (quiet : ∀ id, sends id event = false) :
    Orderly start (now.record event) := by
  have known {id : String} (sent : Sent id (now.record event).log) : Sent id now.log := by
    rw [Shared.record_log, sent_cons, quiet id] at sent
    exact sent.resolve_left (by simp)
  refine ⟨linked, orderly.justified.cons reason, ?_, ?_, ?_, ?_, ?_, ?_⟩
  · exact fun id sent => orderly.stored id (known sent)
  · exact fun id state found presend => (orderly.excused id state found presend).cons (quiet id)
  · intro id attempts found
    rw [Shared.record_log, List.countP_cons_of_neg (by simp [quiet id])]
    exact orderly.counted id attempts found
  · exact fun first second state ordered sent found => orderly.fifo first second state ordered (known sent) found
  · intro id found
    rcases orderly.cancelled id found with excused | overtaken
    · exact Or.inl (excused.cons (quiet id))
    · exact Or.inr overtaken.cons
  · exact fun empty => (orderly.paged empty).cons

theorem Orderly.issue (orderly : Orderly start now) {request : Request} (unsent : sentJob request = none)
    (close : ∀ page, request = .closePage page → start.pages.rows = [] → Opened (ChatPage.window page) now.log) :
    Orderly start (now.issue pid request) := by
  refine orderly.record (orderly.linked.issue pid request) ⟨?_, close⟩ ?_
  · intro id named
    rw [unsent] at named
    cases named
  · intro id
    simp [sends, unsent]

theorem Orderly.answer (orderly : Orderly start now) (request : Request) (answer : Answer request) :
    Orderly start (now.record (.answered pid request answer)) :=
  orderly.record orderly.linked trivial (fun _ => rfl)

theorem Orderly.send (orderly : Orderly start now) {request : Request} {dispatchId : String}
    (sent : sentJob request = some dispatchId)
    (reason : SendReason dispatchId (.issued pid request now.store) now.store now.log) :
    Orderly start (now.issue pid request) := by
  have other {id : String} (different : id ≠ dispatchId) :
      sends id (.issued pid request now.store : ChatEvent) = false := by
    simp [sends, sent, Ne.symm different]
  obtain ⟨current, stored, past, cancelled⟩ := reason.unsettled
  refine ⟨orderly.linked.issue pid request, orderly.justified.cons ⟨?_, ?_⟩, ?_, ?_, ?_, ?_, ?_, ?_⟩
  · intro id named
    rw [sent, Option.some.injEq] at named
    exact named ▸ reason
  · rintro page rfl
    cases sent
  · intro id issued
    by_cases same : id = dispatchId
    · rw [Shared.issue_store, same, stored]
      rfl
    · rw [Shared.issue_log, sent_cons, other same] at issued
      exact orderly.stored id (issued.resolve_left (by simp))
  · intro id state found presend
    by_cases same : id = dispatchId
    · subst same
      rw [Shared.issue_store, stored, Option.some.injEq] at found
      exact absurd (found ▸ presend) past
    · exact (orderly.excused id state found presend).cons (other same)
  · intro id attempts found
    by_cases same : id = dispatchId
    · subst same
      rw [Shared.issue_log, List.countP_cons_of_pos (by simp [sends, sent])]
      exact reason.counted attempts found
    · rw [Shared.issue_log, List.countP_cons_of_neg (by simp [other same])]
      exact orderly.counted id attempts found
  · intro first second state ordered issued found
    by_cases same : second = dispatchId
    · exact reason.clear first state (same ▸ ordered) found
    · rw [Shared.issue_log, sent_cons, other same] at issued
      exact orderly.fifo first second state ordered (issued.resolve_left (by simp)) found
  · intro id found
    by_cases same : id = dispatchId
    · subst same
      rw [Shared.issue_store, stored, Option.some.injEq] at found
      exact Or.inr (cancelled found)
    · rcases orderly.cancelled id found with excused | overtaken
      · exact Or.inl (excused.cons (other same))
      · exact Or.inr overtaken.cons
  · exact fun empty => (orderly.paged empty).cons

end Steps

end WebSupervisor.ChatDispatch.Proofs
