import WebSupervisor.Proofs.ChatRound

/-! What the parts of a turn ask of the browser and what they return. Statements of
the store never raise, except the binding of a conversation whose address is
stored for another one. -/

namespace WebSupervisor.ChatDispatch.Proofs
open Library Library.Program

variable {store before after : ChatStore} {engine : ChatDispatchEngine} {job : ChatDispatchJob}
  {trace : List ChatHappening} {β γ : Type}

/-- A question to the browser with its answer. -/
abbrev Exchange := Σ request : Request, Answer request

def Exchange.of : ChatHappening → Option Exchange
  | .asked _ .time _ => none
  | .asked _ request answer => some ⟨request, answer⟩
  | .changed .. => none

/-- What was asked of the browser, in order. -/
def exchanges (trace : List ChatHappening) : List Exchange := trace.filterMap Exchange.of

@[simp]
theorem exchanges_append (first second : List ChatHappening) :
    exchanges (first ++ second) = exchanges first ++ exchanges second := List.filterMap_append

@[simp]
theorem exchanges_nil : exchanges [] = [] := rfl

@[simp]
theorem exchanges_changed (before after : ChatStore) (trace : List ChatHappening) :
    exchanges (.changed before after :: trace) = exchanges trace := rfl

@[simp]
theorem exchanges_time (store : ChatStore) (now : Time) (trace : List ChatHappening) :
    exchanges (.asked store .time now :: trace) = exchanges trace := rfl

@[simp]
theorem exchanges_asked {request : Request} (browser : request ≠ .time) (store : ChatStore) (answer : Answer request)
    (trace : List ChatHappening) : exchanges (.asked store request answer :: trace) = ⟨request, answer⟩ :: exchanges trace := by
  cases request with
  | time => exact absurd rfl browser
  | _ => rfl

/-- The exception that the browser raised. -/
def Exchange.failure : Exchange → Option Raised
  | ⟨.findExisting _, .error error⟩ | ⟨.openExisting _, .error error⟩ | ⟨.openNew .., .error error⟩
  | ⟨.recoverNew .., .error error⟩ | ⟨.sendExisting .., .error error⟩ | ⟨.sendNew .., .error error⟩
  | ⟨.observeAck .., .error error⟩ | ⟨.currentUrl _, .error error⟩ | ⟨.closePage _, .error error⟩ => some error
  | _ => none

/-- The outcome of a send. -/
def Exchange.sent : Exchange → Option (Except Raised BrowserSendResult)
  | ⟨.sendExisting .., answer⟩ => some answer
  | ⟨.sendNew .., answer⟩ => some answer
  | _ => none

/-- A search for a window. -/
def Exchange.Searches : Exchange → Prop
  | ⟨.findExisting _, _⟩ | ⟨.openExisting _, _⟩ | ⟨.openNew .., _⟩ | ⟨.recoverNew .., _⟩ => True
  | _ => False

/-- The address that the browser reports is stored for another conversation. -/
def Taken (conversationKey : String) (address : Option String) (store : ChatStore) : Prop :=
  isSet address ∧ ∃ row ∈ store.conversations, row.conversationUrl = some (address.getD "") ∧
    row.conversationKey ≠ conversationKey

/-- The exception is noted on the job. -/
def Recorded (job : ChatDispatchJob) (error : Raised) (store : ChatStore) : Prop :=
  ∃ row ∈ store.jobs, row.dispatchId = job.dispatchId ∧ ∃ context, row.lastError = some (context ++ error.text)

section Statements

theorem Keyed.stored (keyed : Keyed job store) : ∃ row, store.jobs.find? job.dispatchId = some row ∧
    row.conversationKey = job.conversationKey := by
  obtain ⟨row, member, sameId, sameKey⟩ := keyed
  exact ⟨row, mem_find.mpr ⟨member, sameId⟩, sameKey⟩

theorem solo_getJob {result : Except Raised ChatDispatchJob} (keyed : Keyed job store)
    (run : Solo (check (getJob job.dispatchId) : Engine ChatDispatchJob).run store trace result after) :
    exchanges trace = [] ∧ after = store ∧ ∃ row, result = .ok row ∧ row.dispatchId = job.dispatchId ∧
      row.conversationKey = job.conversationKey := by
  obtain ⟨rfl, rfl, rfl⟩ := solo_check.mp run
  obtain ⟨row, found, sameKey⟩ := keyed.stored
  exact ⟨rfl, rfl, row, by simp [getJob, found], (mem_find.mp found).2, sameKey⟩

theorem solo_updateJob {change : JobChange} {result : Except Raised ChatDispatchJob} (keyed : Keyed job store)
    (run : Solo (updateJob job.dispatchId change).run store trace result after) :
    exchanges trace = [] ∧ (∃ now, after = updateJobRow job.dispatchId change now store) ∧ Keyed job after ∧
      ∃ row, result = .ok row ∧ row.dispatchId = job.dispatchId ∧ row.conversationKey = job.conversationKey := by
  rcases solo_andThen.mp run with ⟨_, _, now, _, rfl, read, writing⟩ | ⟨error, rfl, raised⟩
  · obtain ⟨time, rfl, same, rfl⟩ := solo_clock.mp read
    cases same
    rcases solo_andThen.mp writing with ⟨_, _, _, _, rfl, wrote, reading⟩ | ⟨error, rfl, raised⟩
    · obtain ⟨rfl, _, rfl⟩ := solo_write.mp wrote
      have kept : Keyed job (updateJobRow job.dispatchId change now _) := Around.wrote.keyed keyed
      obtain ⟨silent, rfl, row, rfl, named⟩ := solo_getJob kept reading
      exact ⟨by simpa using silent, ⟨now, rfl⟩, kept, row, rfl, named⟩
    · obtain ⟨_, impossible, _⟩ := solo_write.mp raised
      cases impossible
  · obtain ⟨_, _, impossible, _⟩ := solo_clock.mp raised
    cases impossible

theorem recorded_wrote {change : JobChange} {error : Raised} {context : String} {now : Time} (keyed : Keyed job store)
    (noted : change.lastError = some (context ++ error.text)) :
    Recorded job error (updateJobRow job.dispatchId change now store) := by
  obtain ⟨row, found, _⟩ := keyed.stored
  have written := @find_wrote store job.dispatchId change now job.dispatchId
  rw [found] at written
  obtain ⟨member, named⟩ := mem_find.mp written
  refine ⟨_, member, named, context, ?_⟩
  simp [(mem_find.mp found).2, JobChange.apply, noted]

theorem solo_getPage {pageId : String} {result : Except Raised ChatPage} (held : (store.pages.find? pageId).isSome)
    (run : Solo (check (getPage pageId) : Engine ChatPage).run store trace result after) :
    exchanges trace = [] ∧ after = store ∧ ∃ page, result = .ok page ∧ page.pageId = pageId := by
  obtain ⟨rfl, rfl, rfl⟩ := solo_check.mp run
  obtain ⟨page, found⟩ := Option.isSome_iff_exists.mp held
  exact ⟨rfl, rfl, page, by simp [getPage, found], (Table.find?_some.mp found).2⟩

/-- A page is written and read again. -/
theorem solo_pageWrite {change : Time → ChatStore → ChatStore} {pageId : String} {result : Except Raised ChatPage}
    (held : ∀ now, ((change now store).pages.find? pageId).isSome)
    (run : Solo (do
      let now ← clock
      write (change now)
      check (getPage pageId) : Engine ChatPage).run store trace result after) :
    exchanges trace = [] ∧ ∃ page, result = .ok page ∧ (after.pages.find? page.pageId).isSome := by
  rcases solo_andThen.mp run with ⟨_, _, now, _, rfl, read, writing⟩ | ⟨error, rfl, raised⟩
  · obtain ⟨time, rfl, same, rfl⟩ := solo_clock.mp read
    cases same
    rcases solo_andThen.mp writing with ⟨_, _, _, _, rfl, wrote, reading⟩ | ⟨error, rfl, raised⟩
    · obtain ⟨rfl, _, rfl⟩ := solo_write.mp wrote
      obtain ⟨silent, rfl, page, rfl, named⟩ := solo_getPage (held now) reading
      exact ⟨by simpa using silent, page, rfl, named ▸ held now⟩
    · obtain ⟨_, impossible, _⟩ := solo_write.mp raised
      cases impossible
  · obtain ⟨_, _, impossible, _⟩ := solo_clock.mp raised
    cases impossible

theorem updatePage_held {pageId id : String} {change : ChatPage → ChatPage}
    {kept : ∀ page, (change page).pageId = page.pageId} (held : (store.pages.find? id).isSome) :
    ((updatePage pageId change kept store).pages.find? id).isSome := (@Around.updatePage store "" _ _ _).pages id held

theorem solo_setPageClosed {pageId : String} {ambiguous : Bool} {error : Option String} {result : Except Raised Unit}
    (held : (store.pages.find? pageId).isSome)
    (run : Solo (setPageClosed pageId ambiguous error).run store trace result after) :
    exchanges trace = [] ∧ result = .ok () ∧ after = markPageClosed pageId ambiguous error store := by
  rcases solo_andThen.mp run with ⟨_, _, _, _, rfl, wrote, reading⟩ | ⟨error, rfl, raised⟩
  · obtain ⟨rfl, _, rfl⟩ := solo_write.mp wrote
    rcases solo_andThen.mp reading with ⟨_, _, _, _, rfl, read, returned⟩ | ⟨error, rfl, raised⟩
    · obtain ⟨silent, rfl, _⟩ := solo_getPage (updatePage_held held) read
      obtain ⟨rfl, rfl, rfl⟩ := solo_done.mp returned
      exact ⟨by simpa using silent, rfl, rfl⟩
    · obtain ⟨_, _, _, impossible, _⟩ := solo_getPage (updatePage_held held) raised
      cases impossible
  · obtain ⟨_, impossible, _⟩ := solo_write.mp raised
    cases impossible

theorem solo_setPageIdle {pageId : String} {idleCloseS now : Time} {result : Except Raised Unit}
    (held : (store.pages.find? pageId).isSome)
    (run : Solo (setPageIdle pageId idleCloseS now).run store trace result after) :
    exchanges trace = [] ∧ result = .ok () := by
  rcases solo_andThen.mp run with ⟨_, _, page, _, rfl, found, writing⟩ | ⟨error, rfl, raised⟩
  · obtain ⟨silent, rfl, _⟩ := solo_getPage held found
    rcases solo_andThen.mp writing with ⟨_, _, _, _, rfl, wrote, reading⟩ | ⟨error, rfl, raised⟩
    · obtain ⟨rfl, _, rfl⟩ := solo_write.mp wrote
      rcases solo_andThen.mp reading with ⟨_, _, _, _, rfl, read, returned⟩ | ⟨error, rfl, raised⟩
      · obtain ⟨again, rfl, _⟩ := solo_getPage (updatePage_held held) read
        obtain ⟨rfl, rfl, rfl⟩ := solo_done.mp returned
        exact ⟨by simp [silent, again], rfl⟩
      · obtain ⟨_, _, _, impossible, _⟩ := solo_getPage (updatePage_held held) raised
        cases impossible
    · obtain ⟨_, impossible, _⟩ := solo_write.mp raised
      cases impossible
  · obtain ⟨_, _, _, impossible, _⟩ := solo_getPage held raised
    cases impossible

private theorem bindConversation_error {conversationKey address : String} {now : Time} (set : isSet (some address) = true) :
    (∃ error, bindConversation conversationKey address now store = .error error) ↔
      Taken conversationKey (some address) store := by
  have conflict : (store.conversations.rows.find? (fun row =>
      row.conversationUrl = some address ∧ row.conversationKey ≠ conversationKey)).isSome ↔
      Taken conversationKey (some address) store := by
    rw [List.find?_isSome]
    simp only [Taken, set, true_and, Option.getD_some, decide_eq_true_eq]
    rfl
  constructor
  · rintro ⟨error, raised⟩
    by_contra free
    rw [← conflict, Option.not_isSome_iff_eq_none] at free
    unfold bindConversation at raised
    rw [free] at raised
    dsimp only at raised
    split at raised
    next => cases raised
    next old found =>
      split at raised
      next clash =>
        unfold IndexedTable.replace? at clash
        split at clash
        next other =>
          obtain ⟨_, row, member, different, same⟩ := other
          rw [List.find?_eq_none] at free
          have named : old.conversationKey = conversationKey := (Table.find?_some.mp found).2
          exact free row member (by simpa using ⟨same, named ▸ different⟩)
        next => cases clash
      next => cases raised
  · intro taken
    obtain ⟨row, found⟩ := Option.isSome_iff_exists.mp (conflict.mpr taken)
    exact ⟨_, by unfold bindConversation; rw [found]⟩

/-- A conversation is bound unless another one has the address. -/
theorem solo_bindKey {conversationKey address : String} {result : Except Raised Unit} (set : isSet (some address) = true)
    (run : Solo (bindKey conversationKey address).run store trace result after) :
    exchanges trace = [] ∧ ((∃ error, result = .error error) ↔ Taken conversationKey (some address) store) := by
  rcases solo_andThen.mp run with ⟨_, _, now, _, rfl, read, binding⟩ | ⟨error, rfl, raised⟩
  · obtain ⟨time, rfl, same, rfl⟩ := solo_clock.mp read
    cases same
    rw [← @bindConversation_error _ conversationKey address now set]
    obtain ⟨rfl, ⟨_, done, rfl⟩ | ⟨error, raised, rfl, rfl⟩⟩ := solo_transaction.mp binding
    · refine ⟨rfl, ?_⟩
      rw [done]
      simp
    · exact ⟨rfl, fun _ => ⟨error, raised⟩, fun _ => ⟨error, rfl⟩⟩
  · obtain ⟨_, _, impossible, _⟩ := solo_clock.mp raised
    cases impossible

end Statements

section Pages

theorem pageForConversation_mem {conversationKey : String} {page : ChatPage}
    (found : pageForConversation conversationKey store = some page) :
    page ∈ store.pages ∧ page.conversationKey = conversationKey ∧ (page.state = .isOpen ∨ page.state = .idle) := by
  have member := List.mem_of_mem_head? found
  rw [byLastUse, List.mem_insertionSort, List.mem_filter, decide_eq_true_eq] at member
  exact member

theorem find_isSome {page : ChatPage} (member : page ∈ store.pages) : (store.pages.find? page.pageId).isSome := by
  rw [Table.find?_some.mpr ⟨member, rfl⟩]
  rfl

/-- What `_page` asks and returns. -/
inductive Looked (job : ChatDispatchJob) (store : ChatStore) (calls : List Exchange) (after : ChatStore) :
    Except Raised (Option ChatPage) → Prop where
  | absent (silent : calls = []) (missing : pageForConversation job.conversationKey store = none)
      (unchanged : after = store) : Looked job store calls after (.ok none)
  | unread {page : ChatPage} {error : Raised} (asked : calls = [⟨.currentUrl page, .error error⟩])
      (unchanged : after = store) : Looked job store calls after (.error error)
  | read {page : ChatPage} {found : Option String} {shown : Option ChatPage}
      (asked : calls = [⟨.currentUrl page, .ok found⟩])
      (present : pageForConversation job.conversationKey store = some page)
      (held : ∀ usable, shown = some usable → (after.pages.find? usable.pageId).isSome)
      (gone : shown = none → ∃ ambiguous error, after = markPageClosed page.pageId ambiguous error store) :
      Looked job store calls after (.ok shown)

private theorem solo_pageShows {page : ChatPage} {current : String} {result : Except Raised (Option ChatPage)}
    (held : (store.pages.find? page.pageId).isSome)
    (run : Solo (pageShows job page current).run store trace result after) :
    exchanges trace = [] ∧ ∃ shown, result = .ok shown ∧
      (∀ usable, shown = some usable → (after.pages.find? usable.pageId).isSome) ∧
      (shown = none → ∃ ambiguous error, after = markPageClosed page.pageId ambiguous error store) := by
  have kept : ∀ usable, some page = some usable → (store.pages.find? usable.pageId).isSome := by
    rintro usable ⟨⟩
    exact held
  dsimp only [pageShows] at run
  split at run
  · split at run
    · obtain ⟨outcome, wrote, rfl⟩ := solo_mapOk.mp run
      obtain ⟨silent, shown, rfl, present⟩ := solo_pageWrite (fun _ => updatePage_held held) wrote
      refine ⟨silent, some shown, rfl, ?_, fun none => nomatch none⟩
      rintro usable ⟨⟩
      exact present
    · obtain ⟨rfl, rfl, rfl⟩ := solo_done.mp run
      exact ⟨rfl, some page, rfl, kept, fun none => nomatch none⟩
  · split at run
    · obtain ⟨rfl, rfl, rfl⟩ := solo_done.mp run
      exact ⟨rfl, some page, rfl, kept, fun none => nomatch none⟩
    · rcases solo_andThen.mp run with ⟨_, _, _, _, rfl, closed, returned⟩ | ⟨error, rfl, raised⟩
      · obtain ⟨silent, _, rfl⟩ := solo_setPageClosed held closed
        obtain ⟨rfl, rfl, rfl⟩ := solo_done.mp returned
        exact ⟨by simpa using silent, none, rfl, fun _ impossible => (nomatch impossible), fun _ => ⟨_, _, rfl⟩⟩
      · obtain ⟨_, impossible, _⟩ := solo_setPageClosed held raised
        cases impossible

theorem solo_pageOf {result : Except Raised (Option ChatPage)} (run : Solo (pageOf job).run store trace result after) :
    Looked job store (exchanges trace) after result := by
  rcases solo_andThen.mp run with ⟨_, _, found, _, rfl, looked, checking⟩ | ⟨error, rfl, raised⟩
  · obtain ⟨rfl, same, rfl⟩ := solo_query.mp looked
    cases same
    split at checking
    next =>
      obtain ⟨rfl, rfl, rfl⟩ := solo_done.mp checking
      exact .absent rfl ‹_› rfl
    next page present =>
      have held := find_isSome (pageForConversation_mem present).1
      rcases solo_andThen.mp checking with ⟨_, _, answer, _, rfl, asked, showing⟩ | ⟨error, rfl, raised⟩
      · obtain ⟨reply, rfl, same, rfl⟩ := solo_ask.mp asked
        obtain rfl : reply = .ok answer := same.symm
        cases answer with
        | none =>
          rcases solo_andThen.mp showing with ⟨_, _, _, _, rfl, closed, returned⟩ | ⟨error, rfl, raised⟩
          · obtain ⟨silent, _, rfl⟩ := solo_setPageClosed held closed
            obtain ⟨rfl, rfl, rfl⟩ := solo_done.mp returned
            refine @Looked.read _ _ _ _ page none none ?_ present (fun _ impossible => (nomatch impossible))
              (fun _ => ⟨_, _, rfl⟩)
            simp [silent]
          · obtain ⟨_, impossible, _⟩ := solo_setPageClosed held raised
            cases impossible
        | some current =>
          obtain ⟨silent, shown, rfl, usable, gone⟩ := solo_pageShows held showing
          refine @Looked.read _ _ _ _ page (some current) shown ?_ present usable gone
          simp [silent]
      · obtain ⟨reply, rfl, same, rfl⟩ := solo_ask.mp raised
        obtain rfl : reply = .error error := same.symm
        exact .unread rfl rfl
  · obtain ⟨_, impossible, _⟩ := solo_query.mp raised
    cases impossible

end Pages

section Windows

/-- What the search for a window asks and returns. A job that stays without one
waits for the pool or has been marked. -/
structure Searched (engine : ChatDispatchEngine) (job : ChatDispatchJob) (store : ChatStore) (calls : List Exchange)
    (after : ChatStore) (result : Except Raised (Option PageIdentity)) : Prop where
  searches : ∀ call ∈ calls, call.Searches
  noted : ∀ call ∈ calls, ∀ error, call.failure = some error →
    result = .error error ∨ result = .ok none ∧ Recorded job error after
  moved : job.state ≠ .opening → result = .ok none →
    stateOf after job.dispatchId = some .reconcileRequired ∨ after = store ∧ engine.maxWindows ≤ ownedOpenCount store

private theorem Searched.cons {calls : List Exchange} {call : Exchange} {result : Except Raised (Option PageIdentity)}
    (searched : Searched engine job store calls after result) (searches : call.Searches) (answered : call.failure = none) :
    Searched engine job store (call :: calls) after result := by
  refine ⟨List.forall_mem_cons.mpr ⟨searches, searched.searches⟩, ?_, searched.moved⟩
  rw [List.forall_mem_cons]
  exact ⟨fun error failed => (nomatch answered.symm.trans failed), searched.noted⟩

private theorem Searched.full {result : Except Raised (Option PageIdentity)} (full : engine.maxWindows ≤ ownedOpenCount store) :
    Searched engine job store [] store result :=
  ⟨by simp, by simp, fun _ _ => Or.inr ⟨rfl, full⟩⟩

theorem stateOf_moved {change : JobChange} {new : ChatDispatchState} {now : Time} (keyed : Keyed job store)
    (state : change.state = some new) : stateOf (updateJobRow job.dispatchId change now store) job.dispatchId = some new := by
  obtain ⟨row, found, _⟩ := keyed.stored
  rw [stateOf_wrote_self, stateOf, found, state]
  rfl

private theorem solo_openOutcome {failure : String} {outcome : Except Raised PageIdentity}
    {result : Except Raised (Option PageIdentity)} (keyed : Keyed job store)
    (run : Solo (openOutcome job failure outcome).run store trace result after) :
    exchanges trace = [] ∧ ((∃ identity, outcome = .ok identity ∧ result = .ok (some identity)) ∨
      ∃ error, outcome = .error error ∧ result = .ok none ∧ Recorded job error after ∧
        stateOf after job.dispatchId = some .reconcileRequired) := by
  cases outcome with
  | ok identity =>
    obtain ⟨rfl, rfl, rfl⟩ := solo_done.mp run
    exact ⟨rfl, Or.inl ⟨identity, rfl, rfl⟩⟩
  | error exception =>
    rcases solo_andThen.mp run with ⟨_, _, _, _, rfl, wrote, returned⟩ | ⟨error, rfl, raised⟩
    · obtain ⟨silent, ⟨now, rfl⟩, _⟩ := solo_updateJob keyed wrote
      obtain ⟨rfl, rfl, rfl⟩ := solo_done.mp returned
      exact ⟨by simpa using silent, Or.inr ⟨exception, rfl, rfl, recorded_wrote keyed rfl, stateOf_moved keyed rfl⟩⟩
    · obtain ⟨_, _, _, _, impossible, _⟩ := solo_updateJob keyed raised
      cases impossible

private theorem solo_recoverOpening {result : Except Raised (Option PageIdentity)}
    (run : Solo (recoverOpening job).run store trace result after) :
    after = store ∧ (∀ call ∈ exchanges trace, call.Searches) ∧
      ∀ call ∈ exchanges trace, ∀ error, call.failure = some error → result = .error error := by
  unfold recoverOpening at run
  split at run
  · rcases solo_andThen.mp run with ⟨_, _, found, _, rfl, asked, returned⟩ | ⟨error, rfl, raised⟩
    · obtain ⟨reply, rfl, same, rfl⟩ := solo_ask.mp asked
      obtain ⟨rfl, rfl, rfl⟩ := solo_done.mp returned
      obtain rfl : reply = .ok found := same.symm
      simp [Exchange.Searches, Exchange.failure]
    · obtain ⟨reply, rfl, same, rfl⟩ := solo_ask.mp raised
      obtain rfl : reply = .error error := same.symm
      simp [Exchange.Searches, Exchange.failure]
  · split at run
    · rcases solo_andThen.mp run with ⟨_, _, digest, _, rfl, rendered, asked⟩ | ⟨error, rfl, raised⟩
      · obtain ⟨rfl, _, rfl⟩ := solo_ensure.mp rendered
        obtain ⟨reply, rfl, rfl, rfl⟩ := solo_ask.mp asked
        cases result <;> simp [Exchange.Searches, Exchange.failure]
      · obtain ⟨rfl, _, rfl⟩ := solo_ensure.mp raised
        simp
    · obtain ⟨rfl, rfl, rfl⟩ := solo_done.mp run
      simp

private theorem solo_reconcileOpening {result : Except Raised (Option PageIdentity)} (keyed : Keyed job store)
    (opening : job.state = .opening) (run : Solo (reconcileOpening job).run store trace result after) :
    Searched engine job store (exchanges trace) after result := by
  rcases solo_andThen.mp run with ⟨_, _, found, _, rfl, recovered, settling⟩ | ⟨error, rfl, raised⟩
  · obtain ⟨rfl, searches, noted⟩ := solo_recoverOpening recovered
    have quiet : ∀ call ∈ exchanges _, ∀ error, Exchange.failure call = some error → False :=
      fun call member error failed => nomatch noted call member error failed
    cases found with
    | some identity =>
      obtain ⟨rfl, rfl, rfl⟩ := solo_done.mp settling
      rw [List.append_nil]
      exact ⟨searches, fun call member error failed => (quiet call member error failed).elim,
        fun other => absurd opening other⟩
    | none =>
      rcases solo_andThen.mp settling with ⟨_, _, _, _, rfl, wrote, returned⟩ | ⟨error, rfl, raised⟩
      · obtain ⟨silent, ⟨now, rfl⟩, _⟩ := solo_updateJob keyed wrote
        obtain ⟨rfl, rfl, rfl⟩ := solo_done.mp returned
        rw [List.append_nil, exchanges_append, silent, List.append_nil]
        exact ⟨searches, fun call member error failed => (quiet call member error failed).elim,
          fun other => absurd opening other⟩
      · obtain ⟨_, _, _, _, impossible, _⟩ := solo_updateJob keyed raised
        cases impossible
  · obtain ⟨rfl, searches, noted⟩ := solo_recoverOpening raised
    exact ⟨searches, fun call member error failed => Or.inl (noted call member error failed),
      fun other => absurd opening other⟩

private theorem solo_opens {request : Request} {receive : Answer request → Except Raised PageIdentity} {failure : String}
    {result : Except Raised (Option PageIdentity)} (keyed : Keyed job store)
    (run : Solo (do
      let outcome ← ask request (fun answer => .ok (receive answer))
      openOutcome job failure outcome : Engine (Option PageIdentity)).run store trace result after)
    (browser : request ≠ .time) (searches : ∀ answer, Exchange.Searches ⟨request, answer⟩)
    (fails : ∀ answer error, Exchange.failure ⟨request, answer⟩ = some error → receive answer = .error error) :
    Searched engine job before (exchanges trace) after result := by
  rcases solo_andThen.mp run with ⟨_, _, outcome, _, rfl, asked, settling⟩ | ⟨error, rfl, raised⟩
  · obtain ⟨reply, rfl, same, rfl⟩ := solo_ask.mp asked
    obtain rfl : outcome = receive reply := by simpa using same
    obtain ⟨silent, settled⟩ := solo_openOutcome keyed settling
    rw [exchanges_append, silent, exchanges_asked browser, exchanges_nil, List.append_nil]
    refine ⟨by simpa using searches reply, fun call member error failed => ?_, fun _ none => ?_⟩
    · obtain rfl := List.mem_singleton.mp member
      rcases settled with ⟨identity, good, _⟩ | ⟨other, bad, rfl, recorded, _⟩
      · rw [fails reply error failed] at good
        cases good
      · rw [fails reply error failed, Except.error.injEq] at bad
        exact Or.inr ⟨rfl, bad ▸ recorded⟩
    · rcases settled with ⟨identity, _, rfl⟩ | ⟨_, _, _, _, moved⟩
      · cases none
      · exact Or.inl moved
  · obtain ⟨_, _, impossible, _⟩ := solo_ask.mp raised
    cases impossible

private theorem solo_openExistingWindow {result : Except Raised (Option PageIdentity)} (keyed : Keyed job store)
    (run : Solo (openExistingWindow engine job).run store trace result after) :
    Searched engine job store (exchanges trace) after result := by
  rcases solo_andThen.mp run with ⟨_, _, found, store, rfl, asked, going⟩ | ⟨error, rfl, raised⟩
  · obtain ⟨reply, rfl, same, rfl⟩ := solo_ask.mp asked
    obtain rfl : reply = .ok found := same.symm
    rw [exchanges_append, exchanges_asked (by simp)]
    refine Searched.cons ?_ trivial rfl
    cases found with
    | some page =>
      obtain ⟨rfl, rfl, rfl⟩ := solo_done.mp going
      exact ⟨by simp, by simp, fun _ none => nomatch none⟩
    | none =>
      rcases solo_andThen.mp going with ⟨_, _, count, store, rfl, counted, opening⟩ | ⟨error, rfl, raised⟩
      · obtain ⟨rfl, same, rfl⟩ := solo_query.mp counted
        cases same
        split at opening
        next full =>
          obtain ⟨rfl, rfl, rfl⟩ := solo_done.mp opening
          exact .full full
        next =>
          rcases solo_andThen.mp opening with ⟨_, _, _, middle, rfl, wrote, asking⟩ | ⟨error, rfl, raised⟩
          · obtain ⟨silent, _, kept, _⟩ := solo_updateJob keyed wrote
            simp only [exchanges_nil, List.nil_append, List.singleton_append, exchanges_changed, exchanges_append, silent]
            refine solo_opens kept asking (by simp) (fun _ => trivial) (fun answer error failed => ?_)
            cases answer with
            | ok identity => cases failed
            | error raised =>
              cases failed
              rfl
          · obtain ⟨_, _, _, _, impossible, _⟩ := solo_updateJob keyed raised
            cases impossible
      · obtain ⟨_, impossible, _⟩ := solo_query.mp raised
        cases impossible
  · obtain ⟨reply, rfl, same, rfl⟩ := solo_ask.mp raised
    obtain rfl : reply = .error error := same.symm
    exact ⟨by simp [Exchange.Searches], by simp [Exchange.failure], fun _ none => nomatch none⟩

private theorem solo_openNewWindow {result : Except Raised (Option PageIdentity)} (keyed : Keyed job store)
    (run : Solo (openNewWindow engine job).run store trace result after) :
    Searched engine job store (exchanges trace) after result := by
  rcases solo_andThen.mp run with ⟨_, _, _, store, rfl, checked, going⟩ | ⟨error, rfl, raised⟩
  · obtain ⟨rfl, _, rfl⟩ := solo_ensure.mp checked
    rcases solo_andThen.mp going with ⟨_, _, count, store, rfl, counted, opening⟩ | ⟨error, rfl, raised⟩
    · obtain ⟨rfl, same, rfl⟩ := solo_query.mp counted
      cases same
      split at opening
      next full =>
        obtain ⟨rfl, rfl, rfl⟩ := solo_done.mp opening
        exact .full full
      next =>
        rcases solo_andThen.mp opening with ⟨_, _, _, middle, rfl, wrote, asking⟩ | ⟨error, rfl, raised⟩
        · obtain ⟨silent, _, kept, _⟩ := solo_updateJob keyed wrote
          simp only [List.nil_append, List.singleton_append, exchanges_changed, exchanges_append, silent]
          split at asking
          next exception =>
            obtain ⟨quiet, settled⟩ := solo_openOutcome kept asking
            rw [quiet]
            refine ⟨by simp, by simp, fun _ none => ?_⟩
            rcases settled with ⟨identity, _, rfl⟩ | ⟨_, _, _, _, moved⟩
            · cases none
            · exact Or.inl moved
          next digest =>
            refine solo_opens kept asking (by simp) (fun _ => trivial) (fun answer error failed => ?_)
            cases answer with
            | ok identity => cases failed
            | error raised =>
              cases failed
              rfl
        · obtain ⟨_, _, _, _, impossible, _⟩ := solo_updateJob keyed raised
          cases impossible
    · obtain ⟨_, impossible, _⟩ := solo_query.mp raised
      cases impossible
  · obtain ⟨rfl, _, rfl⟩ := solo_ensure.mp raised
    exact ⟨by simp, by simp, fun _ none => nomatch none⟩

theorem solo_acquire {result : Except Raised (Option PageIdentity)} (keyed : Keyed job store)
    (run : Solo (acquire engine job).run store trace result after) :
    Searched engine job store (exchanges trace) after result := by
  unfold acquire at run
  split at run
  next opening => exact solo_reconcileOpening keyed opening run
  next =>
    split at run
    · exact solo_openExistingWindow keyed run
    · exact solo_openNewWindow keyed run

private theorem solo_bindWindow {identity : PageIdentity} {result : Except Raised ChatPage} (keyed : Keyed job store)
    (run : Solo (bindWindow job identity).run store trace result after) :
    exchanges trace = [] ∧ ∃ page, result = .ok page ∧ (after.pages.find? page.pageId).isSome := by
  have recorded (now : Time) :
      ((upsertPage job.conversationKey identity now store).pages.find? (pageIdOf identity)).isSome := by
    rw [upsertPage]
    dsimp only
    split
    · rw [Table.find?_upsert, if_pos rfl]
      rfl
    · rw [Table.find?_upsert, if_pos rfl]
      rfl
  rcases solo_andThen.mp run with ⟨_, _, page, middle, rfl, recording, writing⟩ | ⟨error, rfl, raised⟩
  · obtain ⟨silent, same, found, held⟩ := solo_pageWrite recorded recording
    cases found
    have stayed : Local "" store middle := local_recordPage.solo .refl (fun _ _ _ => .trans) recording
    have kept : Keyed job middle := stayed.keyed keyed
    rcases solo_andThen.mp writing with ⟨_, _, _, _, rfl, wrote, returned⟩ | ⟨error, rfl, raised⟩
    · obtain ⟨quiet, ⟨now, rfl⟩, _⟩ := solo_updateJob kept wrote
      obtain ⟨rfl, rfl, rfl⟩ := solo_done.mp returned
      exact ⟨by simp [silent, quiet], page, rfl, held⟩
    · obtain ⟨_, _, _, _, impossible, _⟩ := solo_updateJob kept raised
      cases impossible
  · obtain ⟨_, _, impossible, _⟩ := solo_pageWrite recorded raised
    cases impossible

/-- No page of the conversation was found, or the one that was found is given up,
and the pool is full. -/
structure Crowded (engine : ChatDispatchEngine) (job : ChatDispatchJob) (store after : ChatStore) : Prop where
  pageless : ∀ page, pageForConversation job.conversationKey store = some page →
    ∀ row ∈ after.pages, row.pageId = page.pageId → row.state ≠ .isOpen ∧ row.state ≠ .idle
  full : engine.maxWindows ≤ ownedOpenCount after

/-- What `_ensure_page` asks and returns. -/
structure Provided (engine : ChatDispatchEngine) (job : ChatDispatchJob) (store : ChatStore) (calls : List Exchange)
    (after : ChatStore) (result : Except Raised (Option ChatPage)) : Prop where
  order : ∃ readings searches, calls = readings ++ searches ∧ readings.length ≤ 1 ∧
    (∀ call ∈ readings, ∃ page answer, call = ⟨.currentUrl page, answer⟩) ∧ ∀ call ∈ searches, Exchange.Searches call
  noted : ∀ call ∈ calls, ∀ error, Exchange.failure call = some error →
    result = .error error ∨ result = .ok none ∧ Recorded job error after
  held : ∀ page, result = .ok (some page) → (after.pages.find? page.pageId).isSome
  moved : job.state ≠ .opening → result = .ok none →
    stateOf after job.dispatchId = some .reconcileRequired ∨ Crowded engine job store after

private theorem markPageClosed_state {pageId : String} {ambiguous : Bool} {error : Option String} {row : ChatPage}
    (member : row ∈ (markPageClosed pageId ambiguous error store).pages) (named : row.pageId = pageId) :
    row.state ≠ .isOpen ∧ row.state ≠ .idle := by
  obtain ⟨old, _, rfl⟩ := (@Table.mem_update _ _ ChatPage.pageId store.pages (fun page => page.pageId = pageId)
    (fun page => { page with state := if ambiguous then .ambiguous else .closed, lastError := error, closeAfterAt := none })
    (fun _ => rfl) row).mp member
  have own : old.pageId = pageId := by
    split at named
    · exact named
    · exact named
  simp only [own, decide_true, if_true]
  cases ambiguous <;> decide

private theorem provided_search {middle : ChatStore} {readings : List Exchange} {result : Except Raised (Option ChatPage)}
    (keyed : Keyed job middle) (few : readings.length ≤ 1)
    (reads : ∀ call ∈ readings, ∃ page found, call = ⟨.currentUrl page, .ok found⟩)
    (pageless : ∀ page, pageForConversation job.conversationKey store = some page →
      ∀ row ∈ middle.pages, row.pageId = page.pageId → row.state ≠ .isOpen ∧ row.state ≠ .idle)
    (run : Solo (do
      match ← acquire engine job with
      | none => pure none
      | some identity => some <$> bindWindow job identity : Engine (Option ChatPage)).run middle trace result after) :
    Provided engine job store (readings ++ exchanges trace) after result := by
  have read : ∀ call ∈ readings, ∃ page answer, call = ⟨.currentUrl page, answer⟩ := by
    intro call member
    obtain ⟨page, found, same⟩ := reads call member
    exact ⟨page, _, same⟩
  have fine : ∀ call ∈ readings, ∀ error, Exchange.failure call = some error → False := by
    intro call member error failed
    obtain ⟨page, found, rfl⟩ := reads call member
    cases failed
  rcases solo_andThen.mp run with ⟨first, rest, found, last, rfl, searching, binding⟩ | ⟨error, rfl, raised⟩
  · obtain ⟨searches, noted, moved⟩ := solo_acquire keyed searching
    cases found with
    | none =>
      obtain ⟨rfl, rfl, rfl⟩ := solo_done.mp binding
      rw [List.append_nil]
      refine ⟨⟨readings, _, rfl, few, read, searches⟩, fun call member error failed => ?_, fun _ none => (nomatch none), ?_⟩
      · rcases List.mem_append.mp member with old | new
        · exact (fine call old error failed).elim
        · rcases noted call new error failed with impossible | ⟨_, recorded⟩
          · cases impossible
          · exact Or.inr ⟨rfl, recorded⟩
      · intro unopened _
        rcases moved unopened rfl with marked | ⟨rfl, full⟩
        · exact Or.inl marked
        · exact Or.inr ⟨pageless, full⟩
    | some identity =>
      obtain ⟨outcome, bound, rfl⟩ := solo_mapOk.mp binding
      have stayed : Local job.dispatchId middle last := local_acquire.solo .refl (fun _ _ _ => .trans) searching
      obtain ⟨silent, page, rfl, held⟩ := solo_bindWindow (stayed.keyed keyed) bound
      rw [exchanges_append, silent, List.append_nil]
      refine ⟨⟨readings, _, rfl, few, read, searches⟩, fun call member error failed => ?_, ?_, fun _ none => (nomatch none)⟩
      · rcases List.mem_append.mp member with old | new
        · exact (fine call old error failed).elim
        · rcases noted call new error failed with impossible | ⟨impossible, _⟩
          · cases impossible
          · cases impossible
      · rintro shown ⟨⟩
        exact held
  · obtain ⟨searches, noted, _⟩ := solo_acquire keyed raised
    refine ⟨⟨readings, _, rfl, few, read, searches⟩, fun call member error failed => ?_, fun _ none => (nomatch none),
      fun _ none => (nomatch none)⟩
    rcases List.mem_append.mp member with old | new
    · exact (fine call old error failed).elim
    · rcases noted call new error failed with same | ⟨impossible, _⟩
      · rw [Except.error.injEq] at same
        exact Or.inl (by rw [same])
      · cases impossible

theorem solo_ensurePage {result : Except Raised (Option ChatPage)} (keyed : Keyed job store)
    (run : Solo (ensurePage engine job).run store trace result after) :
    Provided engine job store (exchanges trace) after result := by
  rcases solo_andThen.mp run with ⟨first, rest, shown, middle, rfl, looking, going⟩ | ⟨error, rfl, raised⟩
  · have stayed : Local job.dispatchId store middle := local_pageOf.solo .refl (fun _ _ _ => .trans) looking
    have kept := stayed.keyed keyed
    rw [exchanges_append]
    generalize looked : Except.ok shown = outcome at looking
    cases solo_pageOf looking with
    | absent silent missing unchanged =>
      cases looked
      rw [silent]
      exact provided_search kept (by simp) (by simp) (fun page present => nomatch missing.symm.trans present) going
    | unread => cases looked
    | @read page found _ asked present held gone =>
      cases looked
      rw [asked]
      cases shown with
      | none =>
        obtain ⟨ambiguous, error, rfl⟩ := gone rfl
        refine provided_search kept (by simp) (by simp) (fun other same row member named => ?_) going
        rw [present, Option.some.injEq] at same
        subst same
        exact markPageClosed_state member named
      | some usable =>
        obtain ⟨outcome, wrote, rfl⟩ := solo_mapOk.mp going
        obtain ⟨silent, page, rfl, still⟩ := solo_pageWrite (fun _ => updatePage_held (held usable rfl)) wrote
        rw [silent]
        refine ⟨⟨_, [], rfl, by simp, by simp, by simp⟩, by simp [Exchange.failure], ?_, fun _ none => (nomatch none)⟩
        rintro other ⟨⟩
        exact still
  · cases solo_pageOf raised with
    | unread asked unchanged =>
      rw [asked]
      exact ⟨⟨_, [], (List.append_nil _).symm, by simp, by simp, by simp⟩, by simp [Exchange.failure],
        fun _ none => (nomatch none), fun _ none => (nomatch none)⟩

end Windows

end WebSupervisor.ChatDispatch.Proofs
