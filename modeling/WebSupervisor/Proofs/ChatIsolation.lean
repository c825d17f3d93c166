import WebSupervisor.Proofs.ChatTraces

/-! Which exceptions of the browser reach the caller of `run_once`. Looking for a
window and sending are guarded; reading the page of a job that was sent, its
acknowledgement and the binding of a conversation are not. -/

namespace WebSupervisor.ChatDispatch.Proofs
open Library Library.Program

variable {store before after : ChatStore} {engine : ChatDispatchEngine} {job : ChatDispatchJob}
  {trace : List ChatHappening} {β γ : Type}

/-- The send of the job may have happened. -/
def Settling (job : ChatDispatchJob) : Prop :=
  job.state = .submitting ∨ job.state = .submitted ∨ job.state = .reconcileRequired

/-- An answer that the engine does not expect in the turn of the job. -/
def Exchange.Fatal (job : ChatDispatchJob) (before : ChatStore) : Exchange → Prop
  | ⟨.currentUrl _, .error _⟩ => Settling job
  | ⟨.observeAck .., .error _⟩ => True
  | ⟨.sendExisting .., .ok result⟩ => Taken job.conversationKey result.conversationUrl before
  | ⟨.sendNew .., .ok result⟩ => Taken job.conversationKey result.conversationUrl before
  | _ => False

/-- The second reading of the page finds a new conversation under an address that
is stored for another one. -/
def Misread (job : ChatDispatchJob) (before : ChatStore) (calls : List Exchange) : Prop :=
  ∃ page found, calls[1]? = some ⟨.currentUrl page, .ok found⟩ ∧ conversationIdFromUrl (found.getD "") ≠ none ∧
    Taken job.conversationKey found before

/-- The turn of the job meets an exception that it does not guard against. -/
def Fatal (job : ChatDispatchJob) (before : ChatStore) (calls : List Exchange) : Prop :=
  (∃ call ∈ calls, call.Fatal job before) ∨ Misread job before calls

/-- The turn raises exactly when it meets a fatal exception, and otherwise every
exception of the browser is noted on its job. -/
structure Handles (job : ChatDispatchJob) (before : ChatStore) (calls : List Exchange) (after : ChatStore)
    (result : Except Raised β) : Prop where
  raises : (∃ error, result = .error error) ↔ Fatal job before calls
  noted : ∀ value, result = .ok value → ∀ call ∈ calls, ∀ error, Exchange.failure call = some error →
    Recorded job error after

section Sending

theorem Taken.congr {conversationKey : String} {address : Option String}
    (same : after.conversations = before.conversations) :
    Taken conversationKey address after ↔ Taken conversationKey address before := by
  unfold Taken
  rw [same]

private theorem solo_send {page : ChatPage} {result : Except Raised (Except Raised BrowserSendResult)}
    (run : Solo (send job page).run store trace result after) :
    after = store ∧ ∃ call outcome, exchanges trace = [call] ∧ call.sent = some outcome ∧ result = .ok outcome := by
  unfold send at run
  split at run
  · obtain ⟨answer, rfl, rfl, rfl⟩ := solo_ask.mp run
    exact ⟨rfl, ⟨.sendExisting job page, answer⟩, answer, by simp, rfl, rfl⟩
  · obtain ⟨answer, rfl, rfl, rfl⟩ := solo_ask.mp run
    exact ⟨rfl, ⟨.sendNew job page, answer⟩, answer, by simp, rfl, rfl⟩

private theorem solo_recordSentUrl {page : ChatPage} {sent : BrowserSendResult} {result : Except Raised Unit}
    (held : (store.pages.find? page.pageId).isSome) (run : Solo (recordSentUrl job page sent).run store trace result after) :
    exchanges trace = [] ∧ ((∃ error, result = .error error) ↔ Taken job.conversationKey sent.conversationUrl store) := by
  unfold recordSentUrl at run
  split at run
  next set =>
    obtain ⟨address, given⟩ : ∃ address, sent.conversationUrl = some address := by
      cases same : sent.conversationUrl with
      | none => simp [same, isSet] at set
      | some address => exact ⟨address, rfl⟩
    rw [given] at run set ⊢
    rcases solo_andThen.mp run with ⟨_, _, _, middle, rfl, bound, writing⟩ | ⟨error, rfl, raised⟩
    · obtain ⟨silent, taken⟩ := solo_bindKey set bound
      have free := taken.not.mp (by simp)
      have stayed : Around "" store middle := stays_bindKey.solo .refl (fun _ _ _ => .trans) bound
      rcases solo_andThen.mp writing with ⟨_, _, _, _, rfl, wrote, returned⟩ | ⟨error, rfl, raised⟩
      · obtain ⟨quiet, _⟩ := solo_pageWrite (fun _ => updatePage_held (stayed.pages _ held)) wrote
        obtain ⟨rfl, rfl, rfl⟩ := solo_done.mp returned
        exact ⟨by simp [silent, quiet], by simpa using free⟩
      · obtain ⟨_, _, impossible, _⟩ := solo_pageWrite (fun _ => updatePage_held (stayed.pages _ held)) raised
        cases impossible
    · exact solo_bindKey set raised
  next unset =>
    obtain ⟨rfl, rfl, rfl⟩ := solo_done.mp run
    refine ⟨rfl, ?_⟩
    simp [Taken, unset]

private theorem solo_settleSend {sent : BrowserSendResult} {current : Time} {result : Except Raised Unit}
    (keyed : Keyed job store) (run : Solo (settleSend engine job sent current).run store trace result after) :
    exchanges trace = [] ∧ result = .ok () ∧ stateOf after job.dispatchId ≠ some .queued := by
  rcases solo_andThen.mp run with ⟨_, _, _, _, rfl, wrote, returned⟩ | ⟨error, rfl, raised⟩
  · obtain ⟨silent, ⟨now, rfl⟩, _⟩ := solo_updateJob keyed wrote
    obtain ⟨rfl, rfl, rfl⟩ := solo_done.mp returned
    refine ⟨by simpa using silent, rfl, ?_⟩
    split
    · rw [stateOf_moved keyed rfl]
      decide
    · split
      · rw [stateOf_moved keyed rfl]
        decide
      · split
        · rw [stateOf_moved keyed rfl]
          decide
        · rw [stateOf_moved keyed rfl]
          decide
  · obtain ⟨_, _, _, _, impossible, _⟩ := solo_updateJob keyed raised
    cases impossible

private theorem solo_sendOutcome {page : ChatPage} {current : Time} {outcome : Except Raised BrowserSendResult}
    {result : Except Raised Unit} (keyed : Keyed job store) (held : (store.pages.find? page.pageId).isSome)
    (submitting : stateOf store job.dispatchId = some .submitting)
    (run : Solo (sendOutcome engine job page current outcome).run store trace result after) :
    exchanges trace = [] ∧
      ((∃ error, result = .error error) ↔ ∃ sent, outcome = .ok sent ∧ Taken job.conversationKey sent.conversationUrl store) ∧
      (∀ error, outcome = .error error → Recorded job error after) ∧ stateOf after job.dispatchId ≠ some .queued := by
  cases outcome with
  | error exception =>
    rcases solo_andThen.mp run with ⟨_, _, _, _, rfl, wrote, returned⟩ | ⟨error, rfl, raised⟩
    · obtain ⟨silent, ⟨now, rfl⟩, _⟩ := solo_updateJob keyed wrote
      obtain ⟨rfl, rfl, rfl⟩ := solo_done.mp returned
      refine ⟨by simpa using silent, by simp, ?_, ?_⟩
      · rintro error ⟨⟩
        exact recorded_wrote keyed rfl
      · rw [stateOf_moved keyed rfl]
        decide
    · obtain ⟨_, _, _, _, impossible, _⟩ := solo_updateJob keyed raised
      cases impossible
  | ok sent =>
    have wanted : (∃ other, (Except.ok sent : Except Raised BrowserSendResult) = .ok other ∧
        Taken job.conversationKey other.conversationUrl store) ↔ Taken job.conversationKey sent.conversationUrl store := by
      simp
    rw [wanted]
    rcases solo_andThen.mp run with ⟨_, _, _, middle, rfl, recorded, settling⟩ | ⟨error, rfl, raised⟩
    · obtain ⟨silent, taken⟩ := solo_recordSentUrl held recorded
      have stayed : Around job.dispatchId store middle := stays_recordSentUrl.solo .refl (fun _ _ _ => .trans) recorded
      obtain ⟨quiet, rfl, moved⟩ := solo_settleSend (stayed.keyed keyed) settling
      exact ⟨by simp [silent, quiet], by simpa using taken, fun _ impossible => (nomatch impossible), moved⟩
    · obtain ⟨silent, taken⟩ := solo_recordSentUrl held raised
      refine ⟨silent, taken, fun _ impossible => (nomatch impossible), ?_⟩
      have stayed : Around (job.dispatchId ++ "'") store after :=
        stays_recordSentUrl.solo .refl (fun _ _ _ => .trans) raised
      have other : job.dispatchId ≠ job.dispatchId ++ "'" := by
        intro same
        have lengths := congrArg String.length same
        simp at lengths
      rw [stayed.states _ other, submitting]
      decide

/-- A send asks once and raises only when the address that it reports is taken. -/
theorem solo_submit {page : ChatPage} {result : Except Raised Unit} (keyed : Keyed job store)
    (held : (store.pages.find? page.pageId).isSome) (run : Solo (submit engine job page).run store trace result after) :
    ∃ call outcome, exchanges trace = [call] ∧ call.sent = some outcome ∧
      ((∃ error, result = .error error) ↔ ∃ sent, outcome = .ok sent ∧ Taken job.conversationKey sent.conversationUrl store) ∧
      (∀ error, outcome = .error error → Recorded job error after) ∧ stateOf after job.dispatchId ≠ some .queued := by
  rcases solo_andThen.mp run with ⟨_, _, current, store, rfl, read, writing⟩ | ⟨error, rfl, raised⟩
  · obtain ⟨time, rfl, _, rfl⟩ := solo_clock.mp read
    rcases solo_andThen.mp writing with ⟨_, _, row, middle, rfl, wrote, sending⟩ | ⟨error, rfl, raised⟩
    · obtain ⟨silent, ⟨now, written⟩, kept, _, same, named, keyedAs⟩ := solo_updateJob keyed wrote
      cases same
      have moved : stateOf middle job.dispatchId = some .submitting := written ▸ stateOf_moved keyed rfl
      have conversations : middle.conversations = store.conversations := by rw [written]; rfl
      have present : (middle.pages.find? page.pageId).isSome := by rw [written]; exact held
      rcases solo_andThen.mp sending with ⟨_, _, outcome, middle, rfl, sent, settling⟩ | ⟨error, rfl, raised⟩
      · obtain ⟨rfl, call, answer, asked, reported, same⟩ := solo_send sent
        cases same
        have keptRow : Keyed row middle := by
          obtain ⟨stored, member, sameId, sameKey⟩ := kept
          exact ⟨stored, member, sameId.trans named.symm, sameKey.trans keyedAs.symm⟩
        obtain ⟨quiet, raises, recorded, left⟩ := solo_sendOutcome keptRow present (named ▸ moved) settling
        refine ⟨call, outcome, by simp [silent, asked, quiet], reported, ?_, ?_, named ▸ left⟩
        · rw [raises, keyedAs]
          simp only [Taken.congr conversations]
        · intro error failed
          obtain ⟨noted, member, sameId, context⟩ := recorded error failed
          exact ⟨noted, member, sameId.trans named, context⟩
      · obtain ⟨_, _, _, _, _, impossible⟩ := solo_send raised
        cases impossible
    · obtain ⟨_, _, _, _, impossible, _⟩ := solo_updateJob keyed raised
      cases impossible
  · obtain ⟨_, _, impossible, _⟩ := solo_clock.mp raised
    cases impossible

end Sending

section Reconciling

private theorem solo_settleAck {page : ChatPage} {ack : BrowserAckResult} {result : Except Raised Unit}
    (keyed : Keyed job store) (held : (store.pages.find? page.pageId).isSome)
    (run : Solo (settleAck job page ack).run store trace result after) : exchanges trace = [] ∧ result = .ok () := by
  unfold settleAck at run
  split at run
  · obtain ⟨rfl, rfl, rfl⟩ := solo_done.mp run
    exact ⟨rfl, rfl⟩
  · split at run
    · rcases solo_andThen.mp run with ⟨_, _, _, middle, rfl, wrote, closing⟩ | ⟨error, rfl, raised⟩
      · obtain ⟨silent, ⟨now, written⟩, _⟩ := solo_updateJob keyed wrote
        have still : (middle.pages.find? page.pageId).isSome := by rw [written]; exact held
        obtain ⟨quiet, rfl, _⟩ := solo_setPageClosed still closing
        exact ⟨by simp [silent, quiet], rfl⟩
      · obtain ⟨_, _, _, _, impossible, _⟩ := solo_updateJob keyed raised
        cases impossible
    · split at run
      · rcases solo_andThen.mp run with ⟨_, _, now, _, rfl, read, writing⟩ | ⟨error, rfl, raised⟩
        · obtain ⟨time, rfl, _, rfl⟩ := solo_clock.mp read
          rcases solo_andThen.mp writing with ⟨_, _, _, middle, rfl, wrote, asking⟩ | ⟨error, rfl, raised⟩
          · obtain ⟨silent, ⟨now, written⟩, _⟩ := solo_updateJob keyed wrote
            have still : (middle.pages.find? page.pageId).isSome := by rw [written]; exact held
            rcases solo_andThen.mp asking with ⟨_, _, pending, _, rfl, counted, idling⟩ | ⟨error, rfl, raised⟩
            · obtain ⟨rfl, _, rfl⟩ := solo_query.mp counted
              split at idling
              · obtain ⟨rfl, rfl, rfl⟩ := solo_done.mp idling
                exact ⟨by simp [silent], rfl⟩
              · obtain ⟨quiet, rfl⟩ := solo_setPageIdle still idling
                exact ⟨by simp [silent, quiet], rfl⟩
            · obtain ⟨_, impossible, _⟩ := solo_query.mp raised
              cases impossible
          · obtain ⟨_, _, _, _, impossible, _⟩ := solo_updateJob keyed raised
            cases impossible
        · obtain ⟨_, _, impossible, _⟩ := solo_clock.mp raised
          cases impossible
      · obtain ⟨rfl, rfl, rfl⟩ := solo_done.mp run
        exact ⟨rfl, rfl⟩

private theorem solo_observe {page : ChatPage} {result : Except Raised Unit} (keyed : Keyed job store)
    (held : (store.pages.find? page.pageId).isSome) (run : Solo (observe job page).run store trace result after) :
    ∃ answer, exchanges trace = [⟨.observeAck job page, answer⟩] ∧
      ((∃ error, result = .error error) ↔ ∃ error, answer = .error error) := by
  rcases solo_andThen.mp run with ⟨_, _, ack, _, rfl, asked, settling⟩ | ⟨error, rfl, raised⟩
  · obtain ⟨reply, rfl, same, rfl⟩ := solo_ask.mp asked
    obtain rfl : reply = .ok ack := same.symm
    obtain ⟨silent, rfl⟩ := solo_settleAck keyed held settling
    exact ⟨.ok ack, by simp [silent], by simp⟩
  · obtain ⟨reply, rfl, same, rfl⟩ := solo_ask.mp raised
    obtain rfl : reply = .error error := same.symm
    exact ⟨.error error, by simp, by simp⟩

private theorem solo_submittedTime {result : Except Raised Time}
    (run : Solo (submittedTime job).run store trace result after) :
    exchanges trace = [] ∧ after = store ∧ ∃ time, result = .ok time := by
  unfold submittedTime at run
  split at run
  · obtain ⟨rfl, rfl, rfl⟩ := solo_done.mp run
    exact ⟨rfl, rfl, _, rfl⟩
  · obtain ⟨time, rfl, rfl, rfl⟩ := solo_clock.mp run
    exact ⟨rfl, rfl, _, rfl⟩

private theorem solo_discovered {page : ChatPage} {current : String} {result : Except Raised Unit} (keyed : Keyed job store)
    (held : (store.pages.find? page.pageId).isSome)
    (run : Solo (do
      let _ ← setPageUrl page.pageId current
      let submittedAt ← submittedTime job
      let job ← updateJob job.dispatchId
        { state := some .submitted, conversationUrl := some current, submittedAt := some submittedAt }
      let page ← check (getPage page.pageId)
      observe job page : Engine Unit).run store trace result after) :
    ∃ other shown answer, exchanges trace = [⟨.observeAck other shown, answer⟩] ∧
      ((∃ error, result = .error error) ↔ ∃ error, answer = .error error) := by
  rcases solo_andThen.mp run with ⟨_, _, _, middle, rfl, wrote, timing⟩ | ⟨error, rfl, raised⟩
  · obtain ⟨silent, _⟩ := solo_pageWrite (fun _ => updatePage_held held) wrote
    have stayed : Local "" store middle := local_setPageUrl.solo .refl (fun _ _ _ => .trans) wrote
    have kept := stayed.keyed keyed
    have still := stayed.pages _ held
    rcases solo_andThen.mp timing with ⟨_, _, _, middle, rfl, timed, writing⟩ | ⟨error, rfl, raised⟩
    · obtain ⟨timeless, rfl, _⟩ := solo_submittedTime timed
      rcases solo_andThen.mp writing with ⟨_, _, row, last, rfl, updated, reading⟩ | ⟨error, rfl, raised⟩
      · obtain ⟨quiet, ⟨now, written⟩, again, _, same, named, keyedAs⟩ := solo_updateJob kept updated
        cases same
        have present : (last.pages.find? page.pageId).isSome := by rw [written]; exact still
        rcases solo_andThen.mp reading with ⟨_, _, shown, last, rfl, read, observing⟩ | ⟨error, rfl, raised⟩
        · obtain ⟨noiseless, rfl, _, same, samePage⟩ := solo_getPage present read
          cases same
          have keptRow : Keyed row last := by
            obtain ⟨stored, member, sameId, sameKey⟩ := again
            exact ⟨stored, member, sameId.trans named.symm, sameKey.trans keyedAs.symm⟩
          obtain ⟨answer, asks, raises⟩ := solo_observe keptRow (samePage ▸ present) observing
          exact ⟨row, shown, answer, by simp [silent, timeless, quiet, noiseless, asks], raises⟩
        · obtain ⟨_, _, _, impossible, _⟩ := solo_getPage present raised
          cases impossible
      · obtain ⟨_, _, _, _, impossible, _⟩ := solo_updateJob kept raised
        cases impossible
    · obtain ⟨_, _, _, impossible⟩ := solo_submittedTime raised
      cases impossible
  · obtain ⟨_, _, impossible, _⟩ := solo_pageWrite (fun _ => updatePage_held held) raised
    cases impossible

private theorem solo_discover {page : ChatPage} {result : Except Raised Unit} (keyed : Keyed job store)
    (held : (store.pages.find? page.pageId).isSome) (run : Solo (discover job page).run store trace result after) :
    ∃ answer rest, exchanges trace = ⟨.currentUrl page, answer⟩ :: rest ∧
      (∀ call ∈ rest, ∃ other shown reply, call = ⟨.observeAck other shown, reply⟩) ∧
      ((∃ error, result = .error error) ↔ (∃ error, answer = .error error) ∨
        (∃ found, answer = .ok found ∧ conversationIdFromUrl (found.getD "") ≠ none ∧
          Taken job.conversationKey found store) ∨
        ∃ other shown error, ⟨.observeAck other shown, .error error⟩ ∈ rest) := by
  rcases solo_andThen.mp run with ⟨_, _, found, store, rfl, asked, going⟩ | ⟨error, rfl, raised⟩
  · obtain ⟨reply, rfl, same, rfl⟩ := solo_ask.mp asked
    obtain rfl : reply = .ok found := same.symm
    dsimp only at going
    split at going
    next named =>
      obtain ⟨address, rfl⟩ : ∃ address, found = some address := by
        cases found with
        | none => simp [isSet] at named
        | some address => exact ⟨address, rfl⟩
      rcases solo_andThen.mp going with ⟨_, _, _, middle, rfl, bound, showing⟩ | ⟨error, rfl, raised⟩
      · obtain ⟨silent, taken⟩ := solo_bindKey named.1 bound
        have free := taken.not.mp (by simp)
        have stayed : Around "" store middle := stays_bindKey.solo .refl (fun _ _ _ => .trans) bound
        obtain ⟨other, shown, answer, asks, raises⟩ :=
          solo_discovered (stayed.keyed keyed) (stayed.pages _ held) showing
        refine ⟨.ok (some address), [⟨.observeAck other shown, answer⟩], by simp [silent, asks], by simp, ?_⟩
        rw [raises]
        simp only [reduceCtorEq, exists_false, Except.ok.injEq, exists_eq_left', free, and_false, false_or,
          List.mem_singleton]
        constructor
        · rintro ⟨error, rfl⟩
          exact ⟨other, shown, error, rfl⟩
        · rintro ⟨_, _, error, same⟩
          cases same
          exact ⟨error, rfl⟩
      · obtain ⟨silent, taken⟩ := solo_bindKey named.1 raised
        have clash := taken.mp ⟨error, rfl⟩
        refine ⟨.ok (some address), [], by simp [silent], by simp, ?_⟩
        simpa [clash] using named.2
    next unnamed =>
      obtain ⟨rfl, rfl, rfl⟩ := solo_done.mp going
      refine ⟨.ok found, [], by simp, by simp, ?_⟩
      simp only [reduceCtorEq, exists_false, Except.ok.injEq, false_or, List.not_mem_nil, or_false, exists_eq_left', false_iff,
        not_and]
      exact fun named taken => unnamed ⟨taken.1, named⟩
  · obtain ⟨reply, rfl, same, rfl⟩ := solo_ask.mp raised
    obtain rfl : reply = .error error := same.symm
    exact ⟨.error error, [], by simp, by simp, by simp⟩

/-- A look at a page or at an acknowledgement. -/
def Exchange.Watches : Exchange → Prop
  | ⟨.currentUrl _, _⟩ | ⟨.observeAck .., _⟩ => True
  | _ => False

/-- A reconciliation only watches. It raises when an answer is an exception, or
when the address of a new conversation is taken. -/
theorem solo_reconcile {result : Except Raised Unit} (keyed : Keyed job store)
    (run : Solo (reconcile job).run store trace result after) :
    (∀ call ∈ exchanges trace, call.Watches) ∧
      ((∃ error, result = .error error) ↔
        (∃ call ∈ exchanges trace, ∃ error, Exchange.failure call = some error) ∨ Misread job store (exchanges trace)) := by
  rcases solo_andThen.mp run with ⟨_, _, shown, middle, rfl, looking, going⟩ | ⟨error, rfl, raised⟩
  · have stayed : Local job.dispatchId store middle := local_pageOf.solo .refl (fun _ _ _ => .trans) looking
    have kept := stayed.keyed keyed
    rw [exchanges_append]
    generalize looked : Except.ok shown = outcome at looking
    cases solo_pageOf looking with
    | absent silent missing unchanged =>
      cases looked
      obtain ⟨rfl, rfl, rfl⟩ := solo_done.mp going
      simp [silent, Misread]
    | unread => cases looked
    | @read page found _ asked present held gone =>
      cases looked
      rw [asked]
      cases shown with
      | none =>
        obtain ⟨rfl, rfl, rfl⟩ := solo_done.mp going
        simp [Misread, Exchange.Watches, Exchange.failure]
      | some usable =>
        dsimp only at going
        split at going
        · obtain ⟨answer, asks, raises⟩ := solo_observe kept (held usable rfl) going
          rw [asks, raises]
          cases answer <;> simp [Misread, Exchange.Watches, Exchange.failure]
        · obtain ⟨answer, rest, asks, acks, raises⟩ := solo_discover kept (held usable rfl) going
          rw [asks, raises, List.singleton_append]
          refine ⟨?_, ?_⟩
          · rw [List.forall_mem_cons, List.forall_mem_cons]
            refine ⟨trivial, trivial, fun call member => ?_⟩
            obtain ⟨other, page, reply, rfl⟩ := acks call member
            trivial
          · have misread : Misread job store (⟨.currentUrl page, .ok found⟩ :: ⟨.currentUrl usable, answer⟩ :: rest) ↔
                ∃ address, answer = .ok address ∧ conversationIdFromUrl (address.getD "") ≠ none ∧
                  Taken job.conversationKey address middle := by
              simp only [Misread, List.getElem?_cons_succ, List.getElem?_cons_zero, Option.some.injEq,
                Taken.congr stayed.conversations]
              constructor
              · rintro ⟨shown, address, same, rest⟩
                cases same
                exact ⟨address, rfl, rest⟩
              · rintro ⟨address, rfl, rest⟩
                exact ⟨usable, address, rfl, rest⟩
            rw [misread]
            constructor
            · rintro (⟨error, rfl⟩ | taken | ⟨other, page, error, member⟩)
              · exact Or.inl ⟨⟨.currentUrl usable, .error error⟩, by simp, error, rfl⟩
              · exact Or.inr taken
              · exact Or.inl ⟨_, List.mem_cons_of_mem _ (List.mem_cons_of_mem _ member), error, rfl⟩
            · rintro (⟨call, member, error, failed⟩ | taken)
              · rcases List.mem_cons.mp member with rfl | later
                · cases failed
                · rcases List.mem_cons.mp later with rfl | last
                  · cases answer with
                    | ok address => cases failed
                    | error raised => exact Or.inl ⟨raised, rfl⟩
                  · obtain ⟨other, page, reply, rfl⟩ := acks call last
                    cases reply with
                    | ok ack => cases failed
                    | error raised => exact Or.inr (Or.inr ⟨other, page, raised, last⟩)
              · exact Or.inr (Or.inl taken)
  · cases solo_pageOf raised with
    | unread asked unchanged =>
      rw [asked]
      simp [Exchange.Watches, Exchange.failure]

end Reconciling

section Verdict

private theorem not_misread {readings others : List Exchange} (few : readings.length ≤ 1)
    (unread : ∀ call ∈ others, ∀ page answer, call ≠ ⟨.currentUrl page, answer⟩) :
    ¬ Misread job before (readings ++ others) := by
  rintro ⟨page, found, second, _⟩
  rw [List.getElem?_append_right few] at second
  exact unread _ (List.mem_of_getElem? second) page _ rfl

private theorem Exchange.Searches.unread {call : Exchange} (searches : call.Searches) (page : ChatPage)
    (answer : Answer (.currentUrl page)) : call ≠ ⟨.currentUrl page, answer⟩ := by
  rintro rfl
  exact searches

private theorem Exchange.Searches.fine {call : Exchange} (searches : call.Searches) : ¬ call.Fatal job before := by
  obtain ⟨request, answer⟩ := call
  cases request with
  | findExisting => cases answer <;> exact id
  | openExisting => cases answer <;> exact id
  | openNew => cases answer <;> exact id
  | recoverNew => cases answer <;> exact id
  | _ => exact searches.elim

private theorem sent_unread {call : Exchange} {outcome : Except Raised BrowserSendResult} (sent : call.sent = some outcome)
    (page : ChatPage) (answer : Answer (.currentUrl page)) : call ≠ ⟨.currentUrl page, answer⟩ := by
  rintro rfl
  cases sent

private theorem sent_fatal {call : Exchange} {outcome : Except Raised BrowserSendResult} (sent : call.sent = some outcome) :
    (call.Fatal job before ↔ ∃ result, outcome = .ok result ∧ Taken job.conversationKey result.conversationUrl before) ∧
      ∀ error, call.failure = some error → outcome = .error error := by
  obtain ⟨request, answer⟩ := call
  cases request with
  | sendExisting =>
    cases sent
    cases outcome <;> simp [Exchange.Fatal, Exchange.failure]
  | sendNew =>
    cases sent
    cases outcome <;> simp [Exchange.Fatal, Exchange.failure]
  | _ => cases sent

private theorem provided_fine {calls : List Exchange} {shown : Except Raised (Option ChatPage)} (unsent : ¬ Settling job)
    (provided : Provided engine job store calls after shown) : ∀ call ∈ calls, ¬ call.Fatal job before := by
  obtain ⟨readings, searches, rfl, _, reads, searching⟩ := provided.order
  intro call member
  rcases List.mem_append.mp member with first | second
  · obtain ⟨page, answer, rfl⟩ := reads call first
    cases answer with
    | ok found => exact id
    | error error => exact unsent
  · exact (searching call second).fine

private theorem provided_safe {calls : List Exchange} {shown : Except Raised (Option ChatPage)} (unsent : ¬ Settling job)
    (provided : Provided engine job store calls after shown) : ¬ Fatal job before calls := by
  rintro (⟨call, member, fatal⟩ | misread)
  · exact provided_fine unsent provided call member fatal
  · obtain ⟨readings, searches, rfl, few, _, searching⟩ := provided.order
    exact not_misread few (fun call member => (searching call member).unread) misread

private theorem sends_handled {calls : List Exchange} {page : ChatPage} {middle last : ChatStore} {row : ChatDispatchJob}
    {call : Exchange} {outcome : Except Raised BrowserSendResult} {result : Except Raised Bool} (unsent : ¬ Settling job)
    (stayed : Local job.dispatchId store middle) (provided : Provided engine job store calls middle (.ok (some page)))
    (named : row.dispatchId = job.dispatchId) (keyedAs : row.conversationKey = job.conversationKey)
    (sent : call.sent = some outcome)
    (raises : (∃ error, result = .error error) ↔
      ∃ answer, outcome = .ok answer ∧ Taken row.conversationKey answer.conversationUrl middle)
    (recorded : ∀ error, outcome = .error error → Recorded row error last) :
    Handles job store (calls ++ [call]) last result := by
  obtain ⟨fatal, failed⟩ := @sent_fatal store job call outcome sent
  constructor
  · rw [raises, keyedAs]
    simp only [Taken.congr stayed.conversations]
    rw [← fatal]
    constructor
    · exact fun bad => Or.inl ⟨call, by simp, bad⟩
    · rintro (⟨other, member, bad⟩ | misread)
      · rcases List.mem_append.mp member with old | new
        · exact absurd bad (provided_fine unsent provided other old)
        · rwa [List.mem_singleton.mp new] at bad
      · obtain ⟨readings, searches, rfl, few, _, searching⟩ := provided.order
        rw [List.append_assoc] at misread
        refine absurd misread (not_misread few (fun other member => ?_))
        rcases List.mem_append.mp member with old | new
        · exact (searching other old).unread
        · rw [List.mem_singleton.mp new]
          exact sent_unread sent
  · intro value _ other member error broke
    rcases List.mem_append.mp member with old | new
    · rcases provided.noted other old error broke with impossible | ⟨impossible, _⟩
      · cases impossible
      · cases impossible
    · rw [List.mem_singleton.mp new] at broke
      obtain ⟨noted, present, sameId, context⟩ := recorded error (failed error broke)
      exact ⟨noted, present, sameId.trans named, context⟩

theorem solo_advance {result : Except Raised Bool} (keyed : Keyed job store) (unsent : ¬ Settling job)
    (run : Solo (advance engine job).run store trace result after) :
    Handles job store (exchanges trace) after result := by
  rcases solo_andThen.mp run with ⟨first, _, outcome, middle, rfl, tried, going⟩ | ⟨error, rfl, raised⟩
  · obtain ⟨shown, looking, same⟩ := solo_attempt.mp tried
    cases same
    have stayed : Local job.dispatchId store middle := local_ensurePage.solo .refl (fun _ _ _ => .trans) looking
    have kept := stayed.keyed keyed
    have provided := solo_ensurePage keyed looking
    rcases outcome with exception | (_ | page)
    · rcases solo_andThen.mp going with ⟨_, _, _, _, rfl, wrote, returned⟩ | ⟨error, rfl, raised⟩
      · obtain ⟨silent, ⟨now, rfl⟩, _⟩ := solo_updateJob kept wrote
        obtain ⟨rfl, rfl, rfl⟩ := solo_done.mp returned
        rw [List.append_nil, exchanges_append, silent, List.append_nil]
        refine ⟨by simpa using provided_safe unsent provided, fun _ _ call member error failed => ?_⟩
        rcases provided.noted call member error failed with same | ⟨impossible, _⟩
        · cases same
          exact recorded_wrote kept rfl
        · cases impossible
      · obtain ⟨_, _, _, _, impossible, _⟩ := solo_updateJob kept raised
        cases impossible
    · obtain ⟨rfl, rfl, rfl⟩ := solo_done.mp going
      rw [List.append_nil]
      refine ⟨by simpa using provided_safe unsent provided, fun _ _ call member error failed => ?_⟩
      rcases provided.noted call member error failed with impossible | ⟨_, recorded⟩
      · cases impossible
      · exact recorded
    · rcases solo_andThen.mp going with ⟨_, _, row, middle, rfl, read, sending⟩ | ⟨error, rfl, raised⟩
      · obtain ⟨silent, rfl, _, same, named, keyedAs⟩ := solo_getJob kept read
        cases same
        have keptRow : Keyed row middle := by
          obtain ⟨stored, member, sameId, sameKey⟩ := kept
          exact ⟨stored, member, sameId.trans named.symm, sameKey.trans keyedAs.symm⟩
        rcases solo_andThen.mp sending with ⟨_, _, _, _, rfl, submitted, returned⟩ | ⟨error, rfl, raised⟩
        · obtain ⟨call, answer, asks, reported, raises, recorded, _⟩ := solo_submit keptRow (provided.held page rfl) submitted
          obtain ⟨rfl, rfl, rfl⟩ := solo_done.mp returned
          simp only [exchanges_append, silent, asks, List.append_nil, List.nil_append]
          refine sends_handled unsent stayed provided named keyedAs reported ?_ recorded
          rw [← raises]
          simp
        · obtain ⟨call, answer, asks, reported, raises, recorded, _⟩ := solo_submit keptRow (provided.held page rfl) raised
          simp only [exchanges_append, silent, asks, List.nil_append]
          refine sends_handled unsent stayed provided named keyedAs reported ?_ recorded
          rw [← raises]
          simp
      · obtain ⟨_, _, _, impossible, _⟩ := solo_getJob kept raised
        cases impossible
  · obtain ⟨_, _, impossible⟩ := solo_attempt.mp raised
    cases impossible

private theorem Exchange.Watches.fatal {call : Exchange} (watches : call.Watches) (settling : Settling job) :
    call.Fatal job before ↔ ∃ error, call.failure = some error := by
  obtain ⟨request, answer⟩ := call
  cases request with
  | currentUrl => cases answer <;> simp [Exchange.Fatal, Exchange.failure, settling]
  | observeAck => cases answer <;> simp [Exchange.Fatal, Exchange.failure]
  | _ => exact watches.elim

private theorem watches_handled {calls : List Exchange} {row : ChatDispatchJob} {middle last : ChatStore}
    {result : Except Raised Bool} (settling : Settling job) (keyedAs : row.conversationKey = job.conversationKey)
    (conversations : middle.conversations = store.conversations) (watches : ∀ call ∈ calls, Exchange.Watches call)
    (raises : (∃ error, result = .error error) ↔
      (∃ call ∈ calls, ∃ error, Exchange.failure call = some error) ∨ Misread row middle calls) :
    Handles job store calls last result := by
  have fatal : (∃ call ∈ calls, Exchange.Fatal job store call) ↔
      ∃ call ∈ calls, ∃ error, Exchange.failure call = some error := by
    constructor
    · rintro ⟨call, member, bad⟩
      exact ⟨call, member, ((watches call member).fatal settling).mp bad⟩
    · rintro ⟨call, member, failed⟩
      exact ⟨call, member, ((watches call member).fatal settling).mpr failed⟩
  have misread : Misread row middle calls ↔ Misread job store calls := by
    simp only [Misread, keyedAs, Taken.congr conversations]
  rw [misread, ← fatal] at raises
  refine ⟨raises, fun value returned call member error failed => ?_⟩
  obtain ⟨_, raised⟩ := raises.mpr (Or.inl (fatal.mpr ⟨call, member, error, failed⟩))
  cases returned.symm.trans raised

private theorem solo_resume {result : Except Raised Bool} (keyed : Keyed job store) (settling : Settling job)
    (run : Solo (resume job).run store trace result after) : Handles job store (exchanges trace) after result := by
  rcases solo_andThen.mp run with ⟨_, _, _, middle, rfl, wrote, reading⟩ | ⟨error, rfl, raised⟩
  · obtain ⟨silent, ⟨now, written⟩, kept, _⟩ := solo_updateJob keyed wrote
    have conversations : middle.conversations = store.conversations := by rw [written]; rfl
    rcases solo_andThen.mp reading with ⟨_, _, row, middle, rfl, read, reconciling⟩ | ⟨error, rfl, raised⟩
    · obtain ⟨quiet, rfl, _, same, named, keyedAs⟩ := solo_getJob kept read
      cases same
      have keptRow : Keyed row middle := by
        obtain ⟨stored, member, sameId, sameKey⟩ := kept
        exact ⟨stored, member, sameId.trans named.symm, sameKey.trans keyedAs.symm⟩
      simp only [exchanges_append, silent, quiet, List.nil_append]
      rcases solo_andThen.mp reconciling with ⟨_, _, _, _, rfl, reconciled, returned⟩ | ⟨error, rfl, raised⟩
      · obtain ⟨watches, raises⟩ := solo_reconcile keptRow reconciled
        obtain ⟨rfl, rfl, rfl⟩ := solo_done.mp returned
        rw [List.append_nil]
        refine watches_handled settling keyedAs conversations watches ?_
        rw [← raises]
        simp
      · obtain ⟨watches, raises⟩ := solo_reconcile keptRow raised
        refine watches_handled settling keyedAs conversations watches ?_
        rw [← raises]
        simp
    · obtain ⟨_, _, _, impossible, _⟩ := solo_getJob kept raised
      cases impossible
  · obtain ⟨_, _, _, _, impossible, _⟩ := solo_updateJob keyed raised
    cases impossible

private theorem solo_follow {result : Except Raised Bool} (keyed : Keyed job store) (settling : Settling job)
    (run : Solo (follow job).run store trace result after) : Handles job store (exchanges trace) after result := by
  rcases solo_andThen.mp run with ⟨_, _, _, middle, rfl, reconciled, reading⟩ | ⟨error, rfl, raised⟩
  · obtain ⟨watches, raises⟩ := solo_reconcile keyed reconciled
    have stayed : Around job.dispatchId store middle := stays_reconcile.solo .refl (fun _ _ _ => .trans) reconciled
    rcases solo_andThen.mp reading with ⟨_, _, row, _, rfl, read, returned⟩ | ⟨error, rfl, raised⟩
    · obtain ⟨quiet, rfl, _⟩ := solo_getJob (stayed.keyed keyed) read
      obtain ⟨rfl, rfl, rfl⟩ := solo_done.mp returned
      simp only [exchanges_append, quiet, List.append_nil]
      refine watches_handled settling rfl rfl watches ?_
      rw [← raises]
      simp
    · obtain ⟨_, _, _, impossible, _⟩ := solo_getJob (stayed.keyed keyed) raised
      cases impossible
  · obtain ⟨watches, raises⟩ := solo_reconcile keyed raised
    refine watches_handled settling rfl rfl watches ?_
    rw [← raises]
    simp

theorem solo_process {result : Except Raised Bool} (keyed : Keyed job store)
    (run : Solo (process engine job).run store trace result after) :
    Handles job store (exchanges trace) after result := by
  unfold process at run
  split at run
  next submitting => exact solo_resume keyed (Or.inl submitting) run
  next unsent =>
    split at run
    next sent => exact solo_follow keyed (Or.inr sent) run
    next unsettled =>
      have free : ¬ Settling job := fun settling => settling.elim unsent unsettled
      split at run
      · rcases solo_andThen.mp run with ⟨_, _, now, store, rfl, read, going⟩ | ⟨error, rfl, raised⟩
        · obtain ⟨time, rfl, _, rfl⟩ := solo_clock.mp read
          split at going
          · obtain ⟨rfl, rfl, rfl⟩ := solo_done.mp going
            exact ⟨by simp [Fatal, Misread], by simp⟩
          · rw [exchanges_append, exchanges_time, exchanges_nil, List.nil_append]
            exact solo_advance keyed free going
        · obtain ⟨_, _, impossible, _⟩ := solo_clock.mp raised
          cases impossible
      · exact solo_advance keyed free run

/-- A turn is the handling of its job behind one read. -/
theorem solo_handleJob {result : Except Raised Bool} (unfinished : ¬ job.state.Terminal)
    (run : Solo (handleJob engine job).run store trace result after) :
    ∃ rest, trace = .changed store store :: rest ∧
      (hasOlderUnfinished job store = true ∧ rest = [] ∧ result = .ok false ∧ after = store ∨
        hasOlderUnfinished job store = false ∧ Solo (process engine job).run store rest result after) := by
  unfold handleJob at run
  rw [if_neg unfinished] at run
  rcases solo_andThen.mp run with ⟨_, rest, older, middle, rfl, asked, going⟩ | ⟨error, rfl, raised⟩
  · obtain ⟨rfl, same, rfl⟩ := solo_query.mp asked
    cases same
    refine ⟨rest, rfl, ?_⟩
    split at going
    next blocked =>
      obtain ⟨rfl, rfl, rfl⟩ := solo_done.mp going
      exact Or.inl ⟨blocked, rfl, rfl, rfl⟩
    next first => exact Or.inr ⟨by simpa using first, going⟩
  · obtain ⟨_, impossible, _⟩ := solo_query.mp raised
    cases impossible

theorem handles_handleJob {result : Except Raised Bool} (keyed : Keyed job store) (unfinished : ¬ job.state.Terminal)
    (run : Solo (handleJob engine job).run store trace result after) :
    Handles job store (exchanges trace) after result := by
  obtain ⟨rest, rfl, ⟨_, rfl, rfl, rfl⟩ | ⟨_, handled⟩⟩ := solo_handleJob unfinished run
  · exact ⟨by simp [Fatal, Misread], by simp⟩
  · rw [exchanges_changed]
    exact solo_process keyed handled

end Verdict

section Closing

private theorem solo_closePage {page : ChatPage} {result : Except Raised Unit} (held : (store.pages.find? page.pageId).isSome)
    (run : Solo (closePage page).run store trace result after) :
    ∃ answer, exchanges trace = [⟨.closePage page, answer⟩] ∧
      ((∃ error, result = .error error) ↔ ∃ error, answer = .error error) := by
  rcases solo_andThen.mp run with ⟨_, _, closed, _, rfl, asked, marking⟩ | ⟨error, rfl, raised⟩
  · obtain ⟨reply, rfl, same, rfl⟩ := solo_ask.mp asked
    obtain rfl : reply = .ok closed := same.symm
    refine ⟨.ok closed, ?_⟩
    split at marking
    · obtain ⟨silent, rfl, _⟩ := solo_setPageClosed held marking
      exact ⟨by simp [silent], by simp⟩
    · obtain ⟨silent, rfl, _⟩ := solo_setPageClosed held marking
      exact ⟨by simp [silent], by simp⟩
  · obtain ⟨reply, rfl, same, rfl⟩ := solo_ask.mp raised
    obtain rfl : reply = .error error := same.symm
    exact ⟨.error error, by simp, by simp⟩

/-- The browser raises when it is asked to close a window. -/
def Unclosed (calls : List Exchange) : Prop := ∃ page error, (⟨.closePage page, .error error⟩ : Exchange) ∈ calls

private theorem solo_closeIdlePage {now : Time} {page : ChatPage} {result : Except Raised Unit}
    (held : (store.pages.find? page.pageId).isSome)
    (run : Solo (closeIdlePage engine now page).run store trace result after) :
    (∃ error, result = .error error) ↔ Unclosed (exchanges trace) := by
  unfold closeIdlePage at run
  split at run
  · obtain ⟨rfl, rfl, rfl⟩ := solo_done.mp run
    simp [Unclosed]
  · rcases solo_andThen.mp run with ⟨_, _, pending, _, rfl, asked, going⟩ | ⟨error, rfl, raised⟩
    · obtain ⟨rfl, _, rfl⟩ := solo_query.mp asked
      split at going
      · obtain ⟨rfl, rfl, rfl⟩ := solo_done.mp going
        simp [Unclosed]
      · split at going
        · obtain ⟨silent, rfl⟩ := solo_setPageIdle held going
          simp [Unclosed, silent]
        · split at going
          · obtain ⟨rfl, rfl, rfl⟩ := solo_done.mp going
            simp [Unclosed]
          · obtain ⟨answer, asks, raises⟩ := solo_closePage held going
            rw [raises]
            cases answer <;> simp [Unclosed, asks]
    · obtain ⟨_, impossible, _⟩ := solo_query.mp raised
      cases impossible

private theorem stays_closeIdlePage {turn : String} {now : Time} {page : ChatPage} :
    Stays turn (closeIdlePage engine now page) := by
  unfold closeIdlePage
  split
  · exact .done
  · refine .andThen (Local.stays local_query) (fun pending => ?_)
    split
    · exact .done
    · split
      · exact Local.stays local_setPageIdle
      · split
        · exact .done
        · refine .andThen .ask (fun closed => ?_)
          split
          · exact Local.stays local_setPageClosed
          · exact Local.stays local_setPageClosed

private theorem solo_closePages {now : Time} {pages : List ChatPage} {result : Except Raised Unit}
    (held : ∀ page ∈ pages, (store.pages.find? page.pageId).isSome)
    (run : Solo (closePages engine now pages).run store trace result after) :
    (∃ error, result = .error error) ↔ Unclosed (exchanges trace) := by
  induction pages generalizing store trace result after with
  | nil =>
    obtain ⟨rfl, rfl, rfl⟩ := solo_done.mp run
    simp [Unclosed]
  | cons page pages ih =>
    rw [List.forall_mem_cons] at held
    rcases solo_andThen.mp run with ⟨_, _, _, middle, rfl, first, rest⟩ | ⟨error, rfl, raised⟩
    · have stayed : Around "" store middle := stays_closeIdlePage.solo .refl (fun _ _ _ => .trans) first
      have one := solo_closeIdlePage held.1 first
      have two := ih (fun other member => stayed.pages _ (held.2 other member)) rest
      rw [two]
      simp only [reduceCtorEq, exists_false, false_iff] at one
      simp only [Unclosed, exchanges_append, List.mem_append] at one ⊢
      constructor
      · rintro ⟨shown, error, member⟩
        exact ⟨shown, error, Or.inr member⟩
      · rintro ⟨shown, error, old | member⟩
        · exact absurd ⟨shown, error, old⟩ one
        · exact ⟨shown, error, member⟩
    · exact solo_closeIdlePage held.1 raised

private theorem solo_closeIdlePages {result : Except Raised Unit}
    (run : Solo (closeIdlePages engine).run store trace result after) :
    (∃ error, result = .error error) ↔ Unclosed (exchanges trace) := by
  rcases solo_andThen.mp run with ⟨_, _, now, store, rfl, read, listing⟩ | ⟨error, rfl, raised⟩
  · obtain ⟨time, rfl, _, rfl⟩ := solo_clock.mp read
    rcases solo_andThen.mp listing with ⟨_, _, pages, store, rfl, listed, closing⟩ | ⟨error, rfl, raised⟩
    · obtain ⟨rfl, same, rfl⟩ := solo_query.mp listed
      cases same
      simp only [exchanges_append, exchanges_time, exchanges_changed, exchanges_nil, List.nil_append]
      refine solo_closePages (fun page member => find_isSome ?_) closing
      rw [listPages, byLastUse, List.mem_insertionSort, List.mem_filter] at member
      exact member.1
    · obtain ⟨_, impossible, _⟩ := solo_query.mp raised
      cases impossible
  · obtain ⟨_, _, impossible, _⟩ := solo_clock.mp raised
    cases impossible

/-- The rest of a round raises only when a window cannot be closed. -/
theorem solo_closeRound {progressed : Bool} {result : Except Raised RunSummary}
    (run : Solo (closeRound engine progressed).run store trace result after) :
    (∃ error, result = .error error) ↔ Unclosed (exchanges trace) := by
  rcases solo_andThen.mp run with ⟨_, _, _, _, rfl, closed, counting⟩ | ⟨error, rfl, raised⟩
  · have closes := solo_closeIdlePages closed
    rcases solo_andThen.mp counting with ⟨_, _, _, _, rfl, counted, owning⟩ | ⟨error, rfl, raised⟩
    · obtain ⟨rfl, _, rfl⟩ := solo_query.mp counted
      rcases solo_andThen.mp owning with ⟨_, _, _, _, rfl, owned, returned⟩ | ⟨error, rfl, raised⟩
      · obtain ⟨rfl, _, rfl⟩ := solo_query.mp owned
        obtain ⟨rfl, rfl, rfl⟩ := solo_done.mp returned
        simpa using closes
      · obtain ⟨_, impossible, _⟩ := solo_query.mp raised
        cases impossible
    · obtain ⟨_, impossible, _⟩ := solo_query.mp raised
      cases impossible
  · simpa using solo_closeIdlePages raised

end Closing

/-- One bad job does not stop the others: the call returns, every job of the list
has its turn and is handled there when no older job of its conversation is
unfinished, and every exception of the browser is noted on the job. -/
structure Isolated (engine : ChatDispatchEngine) (listed : List ChatDispatchJob) (visits : List Visit)
    (result : Except Raised RunSummary) : Prop where
  returned : ∃ summary, result = .ok summary
  reached : ∀ job ∈ listed, ∃ visit ∈ visits, visit.job = job ∧
    (hasOlderUnfinished job visit.before = false →
      ∃ outcome, Solo (process engine job).run visit.before visit.trace.tail outcome visit.after)
  noted : ∀ visit ∈ visits, ∀ call ∈ exchanges visit.trace, ∀ error, Exchange.failure call = some error →
    Recorded visit.job error visit.after

/-- The browser raises nowhere outside of the guarded calls, and reports no
address that is stored for another conversation. -/
structure Tame (visits : List Visit) (closing : List ChatHappening) : Prop where
  visits : ∀ visit ∈ visits, ¬ Fatal visit.job visit.before (exchanges visit.trace)
  closing : ¬ Unclosed (exchanges closing)

theorem eligibleJobs_mem {now : Time} {limit : Nat} (member : job ∈ eligibleJobs now limit store) :
    job ∈ store.jobs ∧ job.state.Eligible ∧ job.nextAttemptAt ≤ now := by
  have listed := List.mem_of_mem_take member
  rw [List.mem_filter, decide_eq_true_eq] at listed
  exact listed

theorem Keyed.of_mem (member : job ∈ store.jobs) : Keyed job store := ⟨job, member, rfl, rfl⟩

theorem eligible_unfinished (eligible : job.state.Eligible) : ¬ job.state.Terminal := by
  intro terminal
  rcases terminal with same | same | same
  all_goals
    rw [same] at eligible
    exact absurd eligible (by decide)

/-- A turn in a round is handled. -/
theorem Visits.handles {now : Time} {visits : List Visit} {outcome : Except Raised Bool}
    (visited : Visits engine (eligibleJobs now 200 store) store visits outcome after) {visit : Visit}
    (member : visit ∈ visits) {result : Except Raised Bool}
    (run : Solo (handleJob engine visit.job).run visit.before visit.trace result visit.after) :
    Handles visit.job visit.before (exchanges visit.trace) visit.after result := by
  refine handles_handleJob (visited.keyed (fun job listed => .of_mem (eligibleJobs_mem listed).1) member) ?_ run
  exact eligible_unfinished (eligibleJobs_mem (visited.listed member)).2.1

/-- A call of `run_once` isolates its jobs exactly when the browser is tame. -/
theorem run_once_isolates (engine : ChatDispatchEngine) (store after : ChatStore) (trace : List ChatHappening)
    (result : Except Raised RunSummary) (run : Solo (runOnce engine).run store trace result after) :
    ∃ now visits closing, trace = roundTrace store now visits closing ∧
      Round engine store now visits closing result after ∧
      (Isolated engine (eligibleJobs now 200 store) visits result ↔ Tame visits closing) := by
  obtain ⟨now, visits, closing, same, round⟩ := solo_runOnce run
  refine ⟨now, visits, closing, same, round, ?_⟩
  obtain ⟨outcome, middle, visited, ended⟩ := round.looped
  rcases visited.finishes with ⟨⟨progressed, rfl⟩, listed, returned⟩ | ⟨⟨error, rfl⟩, stopped, member, error, raised⟩
  · have closed : (∃ error, result = .error error) ↔ Unclosed (exchanges closing) := by
      rcases ended with ⟨error, impossible, _⟩ | ⟨_, _, closing⟩
      · cases impossible
      · exact solo_closeRound closing
    have safe : ∀ visit ∈ visits, ¬ Fatal visit.job visit.before (exchanges visit.trace) := by
      intro visit present fatal
      obtain ⟨moved, turn⟩ := returned visit present
      obtain ⟨_, impossible⟩ := (visited.handles present turn).raises.mpr fatal
      cases impossible
    constructor
    · intro isolated
      refine ⟨safe, fun unclosed => ?_⟩
      obtain ⟨error, rfl⟩ := closed.mpr unclosed
      obtain ⟨_, impossible⟩ := isolated.returned
      cases impossible
    · intro tame
      refine ⟨?_, ?_, ?_⟩
      · cases result with
        | ok summary => exact ⟨summary, rfl⟩
        | error error => exact absurd (closed.mp ⟨error, rfl⟩) tame.closing
      · intro job member
        rw [← listed] at member
        obtain ⟨visit, present, rfl⟩ := List.mem_map.mp member
        refine ⟨visit, present, rfl, fun first => ?_⟩
        obtain ⟨moved, turn⟩ := returned visit present
        have unfinished := eligible_unfinished (eligibleJobs_mem (visited.listed present)).2.1
        obtain ⟨rest, split, ⟨older, _⟩ | ⟨_, handled⟩⟩ := solo_handleJob unfinished turn
        · rw [first] at older
          cases older
        · rw [split]
          exact ⟨_, handled⟩
      · intro visit present
        obtain ⟨moved, turn⟩ := returned visit present
        exact (visited.handles present turn).noted moved rfl
  · have fatal := (visited.handles member raised).raises.mp ⟨error, rfl⟩
    constructor
    · intro isolated
      rcases ended with ⟨_, _, rfl, _⟩ | ⟨_, impossible, _⟩
      · obtain ⟨_, impossible⟩ := isolated.returned
        cases impossible
      · cases impossible
    · exact fun tame => absurd fatal (tame.visits stopped member)

/-- A browser that shows no window and cannot open one. -/
def closedDesktop : ∀ request, Answer request
  | .time => (100 : Rat)
  | .findExisting _ => .ok none
  | .openExisting _ => .error ⟨"UiaProbeUnavailable", "no desktop"⟩
  | .openNew .. => .error ⟨"UiaProbeUnavailable", "no desktop"⟩
  | .recoverNew .. => .ok none
  | .sendExisting .. => .ok { submitted := false, sideEffectPossible := false, detail := "" }
  | .sendNew .. => .ok { submitted := false, sideEffectPossible := false, detail := "" }
  | .observeAck .. => .ok { observed := false, nonceOccurrences := 0, generating := none }
  | .currentUrl _ => .ok none
  | .closePage _ => .ok { closed := true, absent := false, detail := "" }

def waitingJob (dispatchId conversationKey : String) (state : ChatDispatchState) : ChatDispatchJob :=
  { dispatchId := dispatchId, dispatchKey := none, conversationKey := conversationKey, conversationUrl := some "https://chatgpt.com/c/a",
    projectUrl := none, promptText := "a", promptSha256 := "", nonce := "n", state := state, createdAt := 0, updatedAt := 0,
    nextAttemptAt := 0, attempts := 0, idleCloseS := 90, maxWindows := 4 }

def sentPage : ChatPage :=
  { pageId := "hwnd:1:pid:1", conversationKey := "a", conversationUrl := "https://chatgpt.com/c/a", windowHandle := 1,
    browserPid := 1, chromeExecutable := "chrome", owned := true, state := .isOpen, openedAt := 0, lastUsedAt := 0 }

/-- A job that was sent and one of another conversation behind it. -/
def sentPair : ChatStore :=
  { jobs := ⟨⟨[waitingJob "chat_a" "a" .submitted, waitingJob "chat_b" "b" .queued], by decide⟩, by decide⟩
    pages := ⟨[sentPage], by decide⟩ }

private theorem exchanges_mem {call : Exchange} (member : call ∈ exchanges trace) :
    ∃ found, .asked found call.1 call.2 ∈ trace := by
  obtain ⟨happening, present, same⟩ := List.mem_filterMap.mp member
  cases happening with
  | changed before after => cases same
  | asked found request answer =>
    cases request with
    | time => cases same
    | _ =>
      cases same
      exact ⟨found, present⟩

/-- A closed desktop never raises where the engine does not expect it. -/
theorem closedDesktop_tame {now : Time} {visits : List Visit} {closing : List ChatHappening}
    (same : ((runOnce engine).run.play closedDesktop store).1 = roundTrace store now visits closing) :
    now = 100 ∧ Tame visits closing := by
  have replies := play_replies closedDesktop (runOnce engine).run store
  rw [same] at replies
  have answered {part : List ChatHappening} (inside : ∀ happening ∈ part, happening ∈ roundTrace store now visits closing)
      {call : Exchange} (member : call ∈ exchanges part) : call.2 = closedDesktop call.1 := by
    obtain ⟨found, present⟩ := exchanges_mem member
    exact replies found call.1 call.2 (inside _ present)
  refine ⟨replies store .time now (List.mem_cons_self ..), fun visit member => ?_, ?_⟩
  · have inside : ∀ happening ∈ visit.trace, happening ∈ roundTrace store now visits closing := by
      intro happening present
      refine List.mem_cons_of_mem _ (List.mem_cons_of_mem _ (List.mem_append_left _ ?_))
      exact List.mem_flatMap.mpr ⟨visit, member, present⟩
    rintro (⟨⟨request, answer⟩, present, fatal⟩ | ⟨page, found, second, named, _⟩)
    · obtain rfl : answer = closedDesktop request := answered inside present
      cases request with
      | sendExisting => exact absurd fatal.1 (by decide)
      | sendNew => exact absurd fatal.1 (by decide)
      | _ => exact fatal
    · have reply := answered inside (List.mem_of_getElem? second)
      cases reply
      exact named (by decide)
  · rintro ⟨page, error, present⟩
    have inside : ∀ happening ∈ closing, happening ∈ roundTrace store now visits closing :=
      fun happening held => List.mem_cons_of_mem _ (List.mem_cons_of_mem _ (List.mem_append_right _ held))
    cases answered inside present

/-- The failure to open a window is noted and the call returns. -/
theorem run_once_isolates_closed_desktop : ∃ trace result after now visits closing,
    Solo (runOnce (.make 4 90 120)).run sentPair trace result after ∧
      Round (.make 4 90 120) sentPair now visits closing result after ∧
      Isolated (.make 4 90 120) (eligibleJobs now 200 sentPair) visits result := by
  have run := solo_play closedDesktop (runOnce (.make 4 90 120)).run sentPair
  obtain ⟨now, visits, closing, same, round, isolated⟩ := run_once_isolates _ _ _ _ _ run
  exact ⟨_, _, _, now, visits, closing, run, round, isolated.mpr (closedDesktop_tame same).2⟩

/-- A browser whose windows cannot be read. -/
private def blindDesktop : ∀ request, Answer request
  | .currentUrl _ => .error ⟨"UiaProbeUnavailable", "no desktop"⟩
  | request => closedDesktop request

/-- The page of the job that was sent cannot be read. The call raises, and the job
behind it has no turn. -/
theorem run_once_isolates_blind : ¬ ∀ (engine : ChatDispatchEngine) (store after : ChatStore) (trace : List ChatHappening)
    (result : Except Raised RunSummary), Solo (runOnce engine).run store trace result after →
    ∃ now visits closing, trace = roundTrace store now visits closing ∧
      Round engine store now visits closing result after ∧
      Isolated engine (eligibleJobs now 200 store) visits result := by
  intro isolates
  obtain ⟨now, visits, closing, _, _, isolated⟩ :=
    isolates _ _ _ _ _ (solo_play blindDesktop (runOnce (.make 4 90 120)).run sentPair)
  obtain ⟨summary, returned⟩ := isolated.returned
  have raised : ((runOnce (.make 4 90 120)).run.play blindDesktop sentPair).2.1.toBool = false := by decide +kernel
  rw [returned] at raised
  cases raised

end WebSupervisor.ChatDispatch.Proofs
