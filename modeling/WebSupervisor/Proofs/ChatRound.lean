import WebSupervisor.Proofs.ChatExit

/-! One call of `run_once`, turn by turn. Every job of the list gets its turn until
one of them raises. A turn writes the row of its own job only. -/

namespace WebSupervisor.ChatDispatch.Proofs
open Library Library.Program

variable {store before after : ChatStore} {engine : ChatDispatchEngine} {job : ChatDispatchJob} {turn : String}
  {trace : List ChatHappening} {β γ : Type}

/-- What a step in the turn of a job leaves as it was. -/
structure Around (turn : String) (before after : ChatStore) : Prop where
  queue : after.jobs.rows.map (fun job => (job.dispatchId, job.conversationKey)) =
    before.jobs.rows.map (fun job => (job.dispatchId, job.conversationKey))
  states : ∀ id ≠ turn, stateOf after id = stateOf before id
  pages : ∀ id, (before.pages.find? id).isSome → (after.pages.find? id).isSome

namespace Around

theorem refl (store : ChatStore) : Around turn store store := ⟨rfl, fun _ _ => rfl, fun _ held => held⟩

theorem trans {first second third : ChatStore} (one : Around turn first second) (two : Around turn second third) :
    Around turn first third :=
  ⟨two.queue.trans one.queue, fun id other => (two.states id other).trans (one.states id other),
    fun id held => two.pages id (one.pages id held)⟩

theorem of_pages (jobs : after.jobs = before.jobs)
    (pages : ∀ id, (before.pages.find? id).isSome → (after.pages.find? id).isSome) : Around turn before after :=
  ⟨by rw [jobs], fun _ _ => stateOf_jobs jobs, pages⟩

theorem updatePage {pageId : String} {change : ChatPage → ChatPage} {kept : ∀ page, (change page).pageId = page.pageId} :
    Around turn store (ChatDispatch.updatePage pageId change kept store) := by
  refine of_pages rfl (fun id held => ?_)
  simp only [ChatDispatch.updatePage, Table.find?_update, Option.isSome_map]
  exact held

theorem upsertPage {conversationKey : String} {identity : PageIdentity} {now : Time} :
    Around turn store (ChatDispatch.upsertPage conversationKey identity now store) := by
  refine of_pages rfl (fun id held => ?_)
  rw [ChatDispatch.upsertPage, Table.find?_upsert]
  generalize ChatPage.pageId _ = pageId
  split
  · rfl
  · exact held

theorem wrote {change : JobChange} {now : Time} : Around turn store (updateJobRow turn change now store) := by
  refine ⟨?_, fun id other => stateOf_wrote_other other, fun _ held => held⟩
  simp only [updateJobRow, IndexedTable.update, Table.update, List.map_map]
  refine List.map_congr_left (fun row _ => ?_)
  simp only [Function.comp_apply]
  split <;> rfl

theorem bindConversation {conversationKey conversationUrl : String} {now : Time}
    (done : ChatDispatch.bindConversation conversationKey conversationUrl now before = .ok ((), after)) :
    Around turn before after := by
  have kept (jobs : after.jobs = before.jobs.update
      (fun job => job.conversationKey = conversationKey ∧ job.conversationUrl = none)
      (fun job => { job with conversationUrl := some conversationUrl, updatedAt := now }) (fun _ => rfl) (fun _ => rfl))
      (pages : after.pages = before.pages) : Around turn before after := by
    refine ⟨?_, fun id _ => ?_, fun id held => by rw [pages]; exact held⟩
    · simp only [jobs, IndexedTable.update, Table.update, List.map_map]
      refine List.map_congr_left (fun row _ => ?_)
      simp only [Function.comp_apply]
      split <;> rfl
    · refine @stateOf_kept before after id (fun job =>
        if job.conversationKey = conversationKey ∧ job.conversationUrl = none then
          { job with conversationUrl := some conversationUrl, updatedAt := now } else job) ?_ ?_ ?_
      · intro job
        split <;> rfl
      · intro job
        split <;> rfl
      · simp only [jobs, IndexedTable.update, Table.update]
        simp
  unfold ChatDispatch.bindConversation at done
  split at done
  next => cases done
  next =>
    split at done
    next =>
      cases done
      exact kept rfl rfl
    next old found =>
      split at done
      next => cases done
      next =>
        cases done
        exact kept rfl rfl

/-- A job keeps its place and its conversation. -/
theorem keyed (around : Around turn before after) (keyed : Keyed job before) : Keyed job after := by
  obtain ⟨row, member, sameId, sameKey⟩ := keyed
  have listed : (row.dispatchId, row.conversationKey) ∈
      after.jobs.rows.map (fun job => (job.dispatchId, job.conversationKey)) := by
    rw [around.queue]
    exact List.mem_map.mpr ⟨row, member, rfl⟩
  obtain ⟨kept, present, same⟩ := List.mem_map.mp listed
  rw [Prod.mk.injEq] at same
  exact ⟨kept, present, same.1.trans sameId, same.2.trans sameKey⟩

end Around

/-- A step in the turn of a job that binds no conversation. -/
structure Local (turn : String) (before after : ChatStore) : Prop extends Around turn before after where
  conversations : after.conversations = before.conversations

namespace Local

theorem refl (store : ChatStore) : Local turn store store := ⟨.refl store, rfl⟩

theorem trans {first second third : ChatStore} (one : Local turn first second) (two : Local turn second third) :
    Local turn first third := ⟨one.toAround.trans two.toAround, two.conversations.trans one.conversations⟩

end Local

/-- The part leaves everything around a turn as it was. -/
abbrev Stays (turn : String) (program : Engine β) : Prop := program.run.Effects (Around turn)

/-- The part also binds no conversation. -/
abbrev StaysLocal (turn : String) (program : Engine β) : Prop := program.run.Effects (Local turn)

section Parts
open Effects

theorem Local.stays {program : Engine β} (effects : StaysLocal turn program) : Stays turn program :=
  effects.weaken (fun _ _ related => related.toAround)

theorem local_check {view : ChatStore → Except Raised β} : StaysLocal turn (check view) := Effects.check .refl

theorem local_query {view : ChatStore → β} : StaysLocal turn (query view) := Effects.check .refl

theorem local_clock : StaysLocal turn clock := Effects.ask

theorem local_write {change : ChatStore → ChatStore} (step : ∀ store, Local turn store (change store)) :
    StaysLocal turn (write change) := by
  refine Effects.transaction .refl (fun store value after done => ?_)
  cases done
  exact step store

theorem local_updateJob {change : JobChange} : StaysLocal turn (updateJob turn change) :=
  andThen local_clock (fun _ => andThen (local_write (fun _ => ⟨.wrote, rfl⟩)) (fun _ => local_check))

theorem local_setPageClosed {pageId : String} {ambiguous : Bool} {error : Option String} :
    StaysLocal turn (setPageClosed pageId ambiguous error) :=
  andThen (local_write (fun _ => ⟨.updatePage, rfl⟩)) (fun _ => andThen local_check (fun _ => done))

theorem local_setPageUrl {pageId conversationUrl : String} : StaysLocal turn (setPageUrl pageId conversationUrl) :=
  andThen local_clock (fun _ => andThen (local_write (fun _ => ⟨.updatePage, rfl⟩)) (fun _ => local_check))

theorem local_setPageOpen {pageId : String} : StaysLocal turn (setPageOpen pageId) :=
  andThen local_clock (fun _ => andThen (local_write (fun _ => ⟨.updatePage, rfl⟩)) (fun _ => local_check))

theorem local_setPageIdle {pageId : String} {idleCloseS now : Time} : StaysLocal turn (setPageIdle pageId idleCloseS now) :=
  andThen local_check (fun _ => andThen (local_write (fun _ => ⟨.updatePage, rfl⟩)) (fun _ => andThen local_check (fun _ => done)))

theorem local_recordPage {conversationKey : String} {identity : PageIdentity} :
    StaysLocal turn (recordPage conversationKey identity) :=
  andThen local_clock (fun _ => andThen (local_write (fun _ => ⟨.upsertPage, rfl⟩)) (fun _ => local_check))

theorem stays_bindKey {conversationKey conversationUrl : String} : Stays turn (bindKey conversationKey conversationUrl) :=
  andThen Effects.ask (fun _ => Effects.transaction .refl (fun _ _ _ bound => .bindConversation bound))

theorem local_pageOf : StaysLocal turn (pageOf job) := by
  refine andThen local_query (fun found => ?_)
  cases found with
  | none => exact done
  | some page =>
    refine andThen ask (fun answer => ?_)
    cases answer with
    | none => exact andThen local_setPageClosed (fun _ => done)
    | some current =>
      dsimp only [pageShows]
      split
      · split
        · exact mapOk local_setPageUrl
        · exact done
      · split
        · exact done
        · exact andThen local_setPageClosed (fun _ => done)

private theorem local_openOutcome {failure : String} {outcome : Except Raised PageIdentity} :
    StaysLocal job.dispatchId (openOutcome job failure outcome) := by
  cases outcome with
  | ok identity => exact done
  | error exception => exact andThen local_updateJob (fun _ => done)

theorem local_acquire : StaysLocal job.dispatchId (acquire engine job) := by
  unfold acquire
  split
  · refine andThen ?_ (fun found => ?_)
    · unfold recoverOpening
      split
      · exact andThen ask (fun _ => done)
      · split
        · exact andThen ensure (fun _ => ask)
        · exact done
    · cases found with
      | none => exact andThen local_updateJob (fun _ => done)
      | some identity => exact done
  · split
    · refine andThen ask (fun found => ?_)
      cases found with
      | some page => exact done
      | none =>
        refine andThen local_query (fun count => ?_)
        split
        · exact done
        · exact andThen local_updateJob (fun _ => andThen ask (fun _ => local_openOutcome))
    · refine andThen ensure (fun _ => andThen local_query (fun count => ?_))
      split
      · exact done
      · refine andThen local_updateJob (fun _ => ?_)
        split
        · exact local_openOutcome
        · exact andThen ask (fun _ => local_openOutcome)

theorem local_ensurePage : StaysLocal job.dispatchId (ensurePage engine job) := by
  refine andThen local_pageOf (fun found => ?_)
  cases found with
  | some page => exact mapOk local_setPageOpen
  | none =>
    refine andThen local_acquire (fun found => ?_)
    cases found with
    | none => exact done
    | some identity =>
      exact mapOk (andThen local_recordPage (fun _ => andThen local_updateJob (fun _ => done)))

theorem stays_recordSentUrl {page : ChatPage} {result : BrowserSendResult} :
    Stays turn (recordSentUrl job page result) := by
  unfold recordSentUrl
  split
  · exact andThen stays_bindKey (fun _ => andThen (Local.stays local_setPageUrl) (fun _ => done))
  · exact done

private theorem stays_sendOutcome {page : ChatPage} {current : Time} {outcome : Except Raised BrowserSendResult} :
    Stays job.dispatchId (sendOutcome engine job page current outcome) := by
  cases outcome with
  | error exception => exact andThen (Local.stays local_updateJob) (fun _ => done)
  | ok result =>
    exact andThen stays_recordSentUrl (fun _ => andThen (Local.stays local_updateJob) (fun _ => done))

theorem getJob_named {dispatchId : String} {row : ChatDispatchJob} (found : getJob dispatchId store = .ok row) :
    store.jobs.find? dispatchId = some row := by
  unfold getJob at found
  split at found
  next => cases found
  next present =>
    cases found
    exact present

private theorem updateJob_named {change : JobChange} :
    Returns (fun result => ∀ row, result = .ok row → row.dispatchId = turn) (updateJob turn change).run :=
  .andThen (fun _ => .andThen (fun _ => .check (fun _ _ found => (mem_find.mp (getJob_named found)).2)))

private theorem getJob_returns :
    Returns (fun result => ∀ row, result = .ok row → row.dispatchId = turn)
      (check (getJob turn) : Engine ChatDispatchJob).run :=
  .check (fun _ _ found => (mem_find.mp (getJob_named found)).2)

private theorem stays_send {page : ChatPage} : Stays turn (send job page) := by
  unfold send
  split
  · exact ask
  · exact ask

theorem stays_submit {page : ChatPage} : Stays job.dispatchId (submit engine job page) := by
  refine andThen (Local.stays local_clock) (fun current => andThenGiven (Local.stays local_updateJob) updateJob_named ?_)
  rintro row named
  exact andThen stays_send (fun outcome => named ▸ stays_sendOutcome)

theorem stays_observe {page : ChatPage} : Stays job.dispatchId (observe job page) := by
  refine andThen ask (fun ack => ?_)
  unfold settleAck
  split
  · exact done
  · split
    · exact andThen (Local.stays local_updateJob) (fun _ => (Local.stays local_setPageClosed))
    · split
      · refine andThen (Local.stays local_clock) (fun now => andThen (Local.stays local_updateJob) (fun _ => andThen (Local.stays local_query) (fun pending => ?_)))
        split
        · exact done
        · exact (Local.stays local_setPageIdle)
      · exact done

theorem stays_discover {page : ChatPage} : Stays job.dispatchId (discover job page) := by
  refine andThen ask (fun found => ?_)
  dsimp only
  split
  · refine andThen stays_bindKey (fun _ => andThen (Local.stays local_setPageUrl) (fun _ => andThen ?_ (fun submittedAt => ?_)))
    · unfold submittedTime
      split
      · exact done
      · exact (Local.stays local_clock)
    · refine andThenGiven (Local.stays local_updateJob) updateJob_named ?_
      rintro row named
      exact andThen (Local.stays local_check) (fun _ => named ▸ stays_observe)
  · exact done

theorem stays_reconcile : Stays job.dispatchId (reconcile job) := by
  refine andThen (Local.stays local_pageOf) (fun found => ?_)
  cases found with
  | none => exact done
  | some page =>
    dsimp only
    split
    · exact stays_observe
    · exact stays_discover

theorem stays_advance : Stays job.dispatchId (advance engine job) := by
  refine andThen (attempt (Local.stays local_ensurePage)) (fun outcome => ?_)
  rcases outcome with exception | (_ | page)
  · exact andThen (Local.stays local_updateJob) (fun _ => done)
  · exact done
  · refine andThenGiven (Local.stays local_check) getJob_returns ?_
    rintro row named
    exact andThen (named ▸ stays_submit) (fun _ => done)

/-- The handling of a job that has no older unfinished one before it. -/
def process (engine : ChatDispatchEngine) (job : ChatDispatchJob) : Engine Bool :=
  if job.state = .submitting then resume job
  else if job.state = .submitted ∨ job.state = .reconcileRequired then follow job
  else if job.state = .retryWait then retry engine job
  else advance engine job

theorem stays_process : Stays job.dispatchId (process engine job) := by
  unfold process
  split
  · refine andThen (Local.stays local_updateJob) (fun _ => andThenGiven (Local.stays local_check) getJob_returns ?_)
    rintro row named
    exact andThen (named ▸ stays_reconcile) (fun _ => done)
  · split
    · exact andThen stays_reconcile (fun _ => andThen (Local.stays local_check) (fun _ => done))
    · split
      · refine andThen (Local.stays local_clock) (fun now => ?_)
        split
        · exact done
        · exact stays_advance
      · exact stays_advance

theorem stays_handleJob : Stays job.dispatchId (handleJob engine job) := by
  unfold handleJob
  split
  · exact done
  · refine andThen (Local.stays local_query) (fun older => ?_)
    split
    · exact done
    · exact stays_process

end Parts

/-- What happened while the loop was at a job. -/
structure Visit where
  job : ChatDispatchJob
  before : ChatStore
  trace : List ChatHappening
  after : ChatStore

/-- The turn has returned. -/
def Visit.Returned (engine : ChatDispatchEngine) (turn : Visit) : Prop :=
  ∃ moved, Solo (handleJob engine turn.job).run turn.before turn.trace (.ok moved) turn.after

def Visit.Stopped (engine : ChatDispatchEngine) (turn : Visit) : Prop :=
  ∃ error, Solo (handleJob engine turn.job).run turn.before turn.trace (.error error) turn.after

/-- The turns of a list of jobs, up to the first one that raises. -/
inductive Visits (engine : ChatDispatchEngine) :
    List ChatDispatchJob → ChatStore → List Visit → Except Raised Bool → ChatStore → Prop where
  | nil {store : ChatStore} : Visits engine [] store [] (.ok false) store
  | next {job : ChatDispatchJob} {jobs : List ChatDispatchJob} {store middle after : ChatStore}
      {trace : List ChatHappening} {first : Bool} {turns : List Visit} {outcome : Except Raised Bool}
      (turn : Solo (handleJob engine job).run store trace (.ok first) middle)
      (others : Visits engine jobs middle turns outcome after) :
      Visits engine (job :: jobs) store (⟨job, store, trace, middle⟩ :: turns) (outcome.map (first || ·)) after
  | stop {job : ChatDispatchJob} {jobs : List ChatDispatchJob} {store after : ChatStore} {trace : List ChatHappening}
      {error : Raised} (raised : Solo (handleJob engine job).run store trace (.error error) after) :
      Visits engine (job :: jobs) store [⟨job, store, trace, after⟩] (.error error) after

theorem solo_runJobs {jobs : List ChatDispatchJob} {outcome : Except Raised Bool}
    (run : Solo (runJobs engine jobs).run store trace outcome after) :
    ∃ turns, trace = turns.flatMap (·.trace) ∧ Visits engine jobs store turns outcome after := by
  induction jobs generalizing store trace outcome after with
  | nil =>
    obtain ⟨rfl, rfl, rfl⟩ := solo_done.mp run
    exact ⟨[], rfl, .nil⟩
  | cons job jobs ih =>
    rcases solo_andThen.mp run with ⟨own, rest, first, middle, rfl, turn, others⟩ | ⟨error, rfl, raised⟩
    · rcases solo_andThen.mp others with ⟨left, none, second, last, rfl, loop, returned⟩ | ⟨error, rfl, raised⟩
      · obtain ⟨turns, rfl, turned⟩ := ih loop
        obtain ⟨rfl, rfl, rfl⟩ := solo_done.mp returned
        exact ⟨⟨job, store, own, middle⟩ :: turns, by simp, .next turn turned⟩
      · obtain ⟨turns, rfl, turned⟩ := ih raised
        exact ⟨⟨job, store, own, middle⟩ :: turns, by simp, .next turn turned⟩
    · exact ⟨[⟨job, store, trace, after⟩], by simp, .stop raised⟩

namespace Visits
variable {jobs : List ChatDispatchJob} {turns : List Visit} {outcome : Except Raised Bool}

/-- The jobs are where they were when a turn begins. -/
theorem keyed (turned : Visits engine jobs store turns outcome after) (stored : ∀ job ∈ jobs, Keyed job store)
    {turn : Visit} (member : turn ∈ turns) : Keyed turn.job turn.before := by
  induction turned with
  | nil => simp at member
  | next taken others ih =>
    rw [List.forall_mem_cons] at stored
    rcases List.mem_cons.mp member with rfl | later
    · exact stored.1
    · refine ih (fun job held => ?_) later
      have around := stays_handleJob.solo .refl (fun _ _ _ => .trans) taken
      exact around.keyed (stored.2 job held)
  | stop raised =>
    obtain rfl := List.mem_singleton.mp member
    exact stored _ (List.mem_cons_self ..)

/-- Every turn is a run of its job. -/
theorem taken (turned : Visits engine jobs store turns outcome after) {turn : Visit} (member : turn ∈ turns) :
    ∃ result, Solo (handleJob engine turn.job).run turn.before turn.trace result turn.after := by
  induction turned with
  | nil => simp at member
  | next taken others ih =>
    rcases List.mem_cons.mp member with rfl | later
    · exact ⟨_, taken⟩
    · exact ih later
  | stop raised =>
    obtain rfl := List.mem_singleton.mp member
    exact ⟨_, raised⟩

/-- The turns are turns of jobs of the list. -/
theorem listed (turned : Visits engine jobs store turns outcome after) {turn : Visit} (member : turn ∈ turns) :
    turn.job ∈ jobs := by
  induction turned with
  | nil => simp at member
  | next taken others ih =>
    rcases List.mem_cons.mp member with rfl | later
    · exact List.mem_cons_self ..
    · exact List.mem_cons_of_mem _ (ih later)
  | stop raised =>
    obtain rfl := List.mem_singleton.mp member
    exact List.mem_cons_self ..

/-- The loop comes to a job, unless the turn of one before it raises. -/
theorem reaches {front back : List ChatDispatchJob} (turned : Visits engine (front ++ job :: back) store turns outcome after) :
    (∃ earlier turn later, turns = earlier ++ turn :: later ∧ turn.job = job ∧ earlier.map (·.job) = front ∧
      (∀ passed ∈ earlier, passed.Returned engine) ∧ ∀ last ∈ later, last.job ∈ back) ∨
    (∀ turn ∈ turns, turn.job ∈ front) ∧ ∃ stopped ∈ turns, stopped.Stopped engine := by
  induction front generalizing store turns outcome with
  | nil =>
    cases turned with
    | next turn others => exact Or.inl ⟨[], _, _, rfl, rfl, rfl, by simp, fun last member => others.listed member⟩
    | stop raised => exact Or.inl ⟨[], _, [], rfl, rfl, rfl, by simp, by simp⟩
  | cons head front ih =>
    cases turned with
    | next turn others =>
      rcases ih others with ⟨earlier, own, later, rfl, same, listed, passed, behind⟩ | ⟨before, stopped, member, raised⟩
      · refine Or.inl ⟨_ :: earlier, own, later, rfl, same, by rw [List.map_cons, listed], ?_, behind⟩
        rw [List.forall_mem_cons]
        exact ⟨⟨_, turn⟩, passed⟩
      · refine Or.inr ⟨?_, stopped, List.mem_cons_of_mem _ member, raised⟩
        rw [List.forall_mem_cons]
        exact ⟨List.mem_cons_self .., fun turn inside => List.mem_cons_of_mem _ (before turn inside)⟩
    | stop raised =>
      refine Or.inr ⟨?_, _, List.mem_singleton_self _, _, raised⟩
      rw [List.forall_mem_singleton]
      exact List.mem_cons_self ..

/-- Until its turn a job keeps its state and all jobs keep their places. -/
theorem untouched (turned : Visits engine jobs store turns outcome after) {earlier later : List Visit} {turn : Visit}
    (split : turns = earlier ++ turn :: later) :
    turn.before.jobs.rows.map (fun job => (job.dispatchId, job.conversationKey)) =
        store.jobs.rows.map (fun job => (job.dispatchId, job.conversationKey)) ∧
      ∀ id, (∀ passed ∈ earlier, passed.job.dispatchId ≠ id) → stateOf turn.before id = stateOf store id := by
  induction turned generalizing earlier with
  | nil => simp at split
  | next taken others ih =>
    cases earlier with
    | nil =>
      cases split
      exact ⟨rfl, fun _ _ => rfl⟩
    | cons head earlier =>
      obtain ⟨rfl, rest⟩ := List.cons_eq_cons.mp split
      obtain ⟨places, states⟩ := ih rest
      have around := stays_handleJob.solo .refl (fun _ _ _ => .trans) taken
      refine ⟨places.trans around.queue, fun id absent => ?_⟩
      rw [List.forall_mem_cons] at absent
      rw [states id absent.2, around.states id (Ne.symm absent.1)]
  | stop raised =>
    cases earlier with
    | nil =>
      cases split
      exact ⟨rfl, fun _ _ => rfl⟩
    | cons head earlier => simp at split

/-- The loop returns when every job had its turn and none of them has raised. -/
theorem finishes (turned : Visits engine jobs store turns outcome after) :
    (∃ progressed, outcome = .ok progressed) ∧ turns.map (·.job) = jobs ∧ (∀ turn ∈ turns, turn.Returned engine) ∨
    (∃ error, outcome = .error error) ∧ ∃ stopped ∈ turns, stopped.Stopped engine := by
  induction turned with
  | nil => exact Or.inl ⟨⟨false, rfl⟩, rfl, by simp⟩
  | next turn others ih =>
    rcases ih with ⟨⟨progressed, rfl⟩, listed, returned⟩ | ⟨⟨error, rfl⟩, stopped, member, raised⟩
    · refine Or.inl ⟨⟨_, rfl⟩, by rw [List.map_cons, listed], ?_⟩
      rw [List.forall_mem_cons]
      exact ⟨⟨_, turn⟩, returned⟩
    · exact Or.inr ⟨⟨error, rfl⟩, stopped, List.mem_cons_of_mem _ member, raised⟩
  | stop raised => exact Or.inr ⟨⟨_, rfl⟩, _, List.mem_singleton_self _, _, raised⟩

end Visits

/-- The part of `run_once` behind its loop. -/
def closeRound (engine : ChatDispatchEngine) (progressed : Bool) : Engine RunSummary := do
  closeIdlePages engine
  let pending ← query pendingCount
  let ownedOpen ← query ownedOpenCount
  pure { progressed, pending, ownedOpen }

/-- A run of `run_once`: the turns of the jobs that it lists at `now`, and what
happens behind them when none has raised. -/
structure Round (engine : ChatDispatchEngine) (store : ChatStore) (now : Time) (turns : List Visit)
    (closing : List ChatHappening) (result : Except Raised RunSummary) (after : ChatStore) : Prop where
  looped : ∃ outcome middle, Visits engine (eligibleJobs now 200 store) store turns outcome middle ∧
    ((∃ error, outcome = .error error ∧ result = .error error ∧ closing = [] ∧ after = middle) ∨
      ∃ progressed, outcome = .ok progressed ∧ Solo (closeRound engine progressed).run middle closing result after)

/-- The trace of a round. -/
def roundTrace (store : ChatStore) (now : Time) (turns : List Visit) (closing : List ChatHappening) : List ChatHappening :=
  .asked store .time now :: .changed store store :: (turns.flatMap (·.trace) ++ closing)

theorem solo_runOnce {result : Except Raised RunSummary} (run : Solo (runOnce engine).run store trace result after) :
    ∃ now turns closing, trace = roundTrace store now turns closing ∧ Round engine store now turns closing result after := by
  rcases solo_andThen.mp run with ⟨_, rest, now, middle, rfl, read, listing⟩ | ⟨error, rfl, raised⟩
  · obtain ⟨time, rfl, same, rfl⟩ := solo_clock.mp read
    cases same
    rcases solo_andThen.mp listing with ⟨_, rest, jobs, middle, rfl, listed, looping⟩ | ⟨error, rfl, raised⟩
    · obtain ⟨rfl, same, rfl⟩ := solo_query.mp listed
      cases same
      rcases solo_andThen.mp looping with ⟨looped, closing, progressed, middle, rfl, loop, closed⟩ | ⟨error, rfl, raised⟩
      · obtain ⟨turns, rfl, turned⟩ := solo_runJobs loop
        exact ⟨now, turns, closing, rfl, ⟨_, _, turned, Or.inr ⟨progressed, rfl, closed⟩⟩⟩
      · obtain ⟨turns, rfl, turned⟩ := solo_runJobs raised
        exact ⟨now, turns, [], by simp [roundTrace], ⟨_, _, turned, Or.inl ⟨error, rfl, rfl, rfl, rfl⟩⟩⟩
    · obtain ⟨_, impossible, _⟩ := solo_query.mp raised
      cases impossible
  · obtain ⟨_, _, impossible, _⟩ := solo_clock.mp raised
    cases impossible

end WebSupervisor.ChatDispatch.Proofs
