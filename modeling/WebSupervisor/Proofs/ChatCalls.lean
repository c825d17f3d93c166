import WebSupervisor.Proofs.ChatEngineLoop

/-! The calls that other processes make beside an engine, and the certificate of
all calls of the chat queue. -/

namespace WebSupervisor.ChatDispatch.Proofs
open Library Library.Program

variable {start : ChatStore} {pid : Nat} {call : ChatCall} {now : ChatShared} {dispatchId : String}

/-- The call is not a run of the engine. -/
def Outside (call : ChatCall) : Prop := ∀ engine, call ≠ .runOnce engine

private theorem keeps_outside (outside : Outside call) {after : ChatShared} {event : ChatEvent}
    (added : after.log = event :: now.log) (orderly : Orderly start after)
    (beside : ∀ other ≠ pid, Beside other event) :
    Keeps (dispatching start).valid ((dispatching start).guarantee pid call) now after := by
  have near : ∀ other ≠ pid, Nearby other now after :=
    fun other different => ⟨[event], added, by simpa using beside other different⟩
  cases call with
  | runOnce engine => exact absurd rfl (outside engine)
  | enqueue request => exact ⟨orderly, near⟩
  | cancel dispatchId => exact ⟨orderly, near⟩

private theorem keeps_read (outside : Outside call) (orderly : Orderly start now) :
    Keeps (dispatching start).valid ((dispatching start).guarantee pid call) now (now.became pid now.store) :=
  keeps_outside outside rfl orderly.read (fun other _ => (SameQueue.of_jobs rfl).beside other pid)

private theorem keeps_answer (outside : Outside call) (orderly : Orderly start now) (request : Request)
    (answer : Answer request) :
    Keeps (dispatching start).valid ((dispatching start).guarantee pid call) now
      (now.record (.answered pid request answer)) :=
  keeps_outside outside rfl (orderly.answer request answer) (fun _ _ => beside_answer)

private theorem keeps_time (outside : Outside call) (orderly : Orderly start now) :
    Keeps (dispatching start).valid ((dispatching start).guarantee pid call) now (now.issue pid .time) :=
  keeps_outside outside rfl (orderly.issue rfl (fun _ impossible => nomatch impossible))
    (fun _ _ _ => ⟨rfl, trivial, trivial⟩)

/-- A job that is returned as cancelled was stored so. -/
def Confirmed (result : Except Raised ChatDispatchJob) (log : List ChatEvent) : Prop :=
  ∀ job, result = .ok job → job.state = .cancelled → Seen job.dispatchId .cancelled log

theorem Seen.grow {state : ChatDispatchState} {log later : List ChatEvent} (seen : Seen dispatchId state log)
    (grown : log <:+ later) : Seen dispatchId state later := by
  obtain ⟨writer, before, after, member, stored⟩ := seen
  exact ⟨writer, before, after, grown.subset member, stored⟩

private theorem confirmed_stable (result : Except Raised ChatDispatchJob) :
    (dispatching start).Stable pid call (fun now => Confirmed result now.log) :=
  fun _ _ _ _ found confirmed job same cancelled => (confirmed job same cancelled).grow found.1.log

private theorem confirmed_error {error : Raised} {log : List ChatEvent} : Confirmed (.error error) log :=
  fun _ impossible => nomatch impossible

private theorem read_seen {job : ChatDispatchJob} (member : job ∈ now.store.jobs) :
    Seen job.dispatchId job.state (now.became pid now.store).log :=
  ⟨pid, now.store, now.store, List.mem_cons_self .., stateOf_job member⟩

private theorem confirms_getJob (outside : Outside call) (dispatchId : String) :
    (dispatching start).Triple pid call (fun _ => True) (check (getJob dispatchId))
      (fun result now => Confirmed result now.log) := by
  refine Contract.Triple.check Contract.stable_const confirmed_stable (fun now orderly _ => ?_)
  refine ⟨keeps_read outside orderly, fun job found cancelled => ?_⟩
  exact cancelled ▸ read_seen (getJob_ok found).1

section Cancel

/-- The process has read the job in a state that it may cancel and has written
nothing since. -/
def Viewed (pid : Nat) (dispatchId : String) (log : List ChatEvent) : Prop :=
  ∃ newer store older, log = newer ++ .committed pid store store :: older ∧
    (∃ state, stateOf store dispatchId = some state ∧ Presend state) ∧
    ∀ other before after, .committed other before after ∈ newer → other ≠ pid

private theorem viewed_stable : (dispatching start).Stable pid call (fun now => Viewed pid dispatchId now.log) := by
  intro seen now _ _ found viewed
  obtain ⟨newer, store, older, split, read, others⟩ := viewed
  obtain ⟨front, grown, foreign⟩ := found.1.newer
  refine ⟨front ++ newer, store, older, by rw [grown, split, List.append_assoc], read, ?_⟩
  intro other before after member
  rcases List.mem_append.mp member with new | old
  · exact foreign _ new
  · exact others other before after old

private theorem Viewed.cons {log : List ChatEvent} {event : ChatEvent} (viewed : Viewed pid dispatchId log)
    (quiet : ∀ other before after, event ≠ .committed other before after) : Viewed pid dispatchId (event :: log) := by
  obtain ⟨newer, store, older, rfl, read, others⟩ := viewed
  refine ⟨event :: newer, store, older, rfl, read, fun other before after member => ?_⟩
  rcases List.mem_cons.mp member with same | old
  · exact absurd same.symm (quiet other before after)
  · exact others other before after old

theorem Orderly.change (orderly : Orderly start now) {before after : ChatStore}
    (member : .committed pid before after ∈ now.log) : QueueChange before after := by
  obtain ⟨_, _, _, change, _⟩ := orderly.justified.of_mem member
  exact change

private theorem Orderly.changed (orderly : Orderly start now) (viewed : Viewed pid dispatchId now.log)
    {state : ChatDispatchState} (stored : stateOf now.store dispatchId = some state) (past : ¬ Presend state) :
    ChangedSince pid dispatchId now.log := by
  obtain ⟨newer, store, older, split, ⟨read, found, presend⟩, others⟩ := viewed
  have linked := orderly.linked
  rw [split] at linked
  have gone : stateOf now.store dispatchId ≠ some read := by
    rw [stored]
    rintro ⟨⟩
    exact past presend
  obtain ⟨writer, before, after, member, held, left⟩ :=
    @Linked.crossing _ _ _ _ _ _ _ (fun store => stateOf store dispatchId = some read) linked.since found gone
  obtain ⟨front, back, rfl⟩ := List.append_of_mem member
  have change : QueueChange before after := orderly.change (split ▸ List.mem_append_left _ member)
  obtain ⟨new, moved⟩ := Option.isSome_iff_exists.mp (change.isSome (by rw [held]; rfl))
  refine ⟨front, writer, before, after, back ++ .committed pid store store :: older, ?_, others _ _ _ member,
    ⟨read, new, held, moved, ?_⟩, store, store, by simp⟩
  · rw [split, List.append_assoc, List.cons_append]
  · rintro rfl
    exact left moved

private theorem Orderly.cancel (orderly : Orderly start now) (viewed : Viewed pid dispatchId now.log) (time : Time) :
    Orderly start (now.became pid (updateJobRow dispatchId { state := some .cancelled } time now.store)) := by
  refine orderly.commit (.wrote dispatchId _ time rfl) ?_ ?_ (fun _ paged => paged)
  · intro id old new before after different
    by_cases same : id = dispatchId
    · subst same
      obtain rfl : ChatDispatchState.cancelled = new := by
        have written := after
        rw [stateOf_wrote_self, before] at written
        exact Option.some.inj written
      have overtaken (past : ¬ Presend old) : Overtaken (.committed pid now.store _ :: now.log) :=
        (orderly.changed viewed before past).overtaken rfl ⟨old, _, before, after, different⟩
      refine ⟨fun terminal => overtaken ?_, fun presend => absurd presend (by decide),
        fun unfinished => absurd (by decide) unfinished, fun _ => ?_⟩
      · revert terminal
        cases old <;> decide
      · by_cases presend : Presend old
        · exact Or.inl (orderly.excused id old before presend)
        · exact Or.inr (overtaken presend)
    · rw [stateOf_wrote_other same, before, Option.some.injEq] at after
      exact absurd after different
  · intro id old new before after
    by_cases same : id = dispatchId
    · subst same
      rw [attemptsOf_wrote_self, before] at after
      cases after
      exact orderly.counted id old before
    · rw [attemptsOf_wrote_other same, before, Option.some.injEq] at after
      exact after ▸ orderly.counted id old before

private theorem cancelled_beside {other : Nat} (different : other ≠ pid) (store : ChatStore) (time : Time) :
    Beside other (.committed pid store (updateJobRow dispatchId { state := some .cancelled } time store)) := by
  have spares (id : String) :
      Spares other id (.committed pid store (updateJobRow dispatchId { state := some .cancelled } time store)) := by
    intro state stored
    by_cases same : id = dispatchId
    · subst same
      refine Or.inr ⟨?_, Ne.symm different⟩
      rw [stateOf_wrote_self, stored]
      rfl
    · exact Or.inl ((stateOf_wrote_other same).trans stored)
  refine fun turn => ⟨⟨.wrote dispatchId _ time rfl, fun id _ => spares id⟩, spares turn, fun old stored => ⟨old, ?_, Nat.le_refl _⟩⟩
  by_cases same : turn = dispatchId
  · subst same
    rw [attemptsOf_wrote_self, stored]
    rfl
  · exact (attemptsOf_wrote_other same).trans stored

private theorem cancelCheck_some {store : ChatStore} {job : ChatDispatchJob}
    (found : cancelCheck dispatchId store = .ok (some job)) : job ∈ store.jobs ∧ job.state.Terminal := by
  simp only [cancelCheck, bind_eq_ok] at found
  obtain ⟨row, present, result⟩ := found
  split at result
  next terminal =>
    cases result
    exact ⟨(getJob_ok present).1, terminal⟩
  next =>
    rw [bind_eq_ok] at result
    obtain ⟨_, _, impossible⟩ := result
    cases impossible

private theorem cancelCheck_none {store : ChatStore} (passed : cancelCheck dispatchId store = .ok none) :
    ∃ state, stateOf store dispatchId = some state ∧ Presend state := by
  simp only [cancelCheck, bind_eq_ok] at passed
  obtain ⟨row, present, result⟩ := passed
  obtain ⟨member, rfl⟩ := getJob_ok present
  split at result
  next => cases result
  next unfinished =>
    rw [bind_eq_ok] at result
    obtain ⟨_, allowed, _⟩ := result
    rw [refuse_eq_ok] at allowed
    refine ⟨row.state, stateOf_job member, ?_⟩
    revert unfinished allowed
    cases row.state <;> decide

private theorem confirms_cancelWrite (outside : Outside call) :
    (dispatching start).Triple pid call (fun now => Viewed pid dispatchId now.log)
      (updateJob dispatchId { state := some .cancelled }) (fun result now => Confirmed result now.log) := by
  have refl := (dispatching_isolated start).refl pid call
  have clocked : (dispatching start).Triple pid call (fun now => Viewed pid dispatchId now.log) clock
      (fun _ now => Viewed pid dispatchId now.log) := by
    have waiting : (dispatching start).Stable pid call (fun now => Viewed pid dispatchId now.log) := viewed_stable
    refine Contract.Triple.ask waiting waiting (fun _ => waiting) ?_ ?_
    · exact fun now orderly viewed => ⟨keeps_time outside orderly, viewed.cons (by simp)⟩
    · exact fun now answer orderly viewed => ⟨keeps_answer outside orderly _ answer, viewed.cons (by simp)⟩
  refine Contract.Triple.bind refl clocked (fun time => ?_) (fun _ => confirmed_stable _)
    (fun _ _ _ _ => confirmed_error)
  have wrote : (dispatching start).Triple pid call (fun now => Viewed pid dispatchId now.log)
      (write (updateJobRow dispatchId { state := some .cancelled } time)) (fun _ _ => True) := by
    refine Contract.Triple.transaction viewed_stable (fun _ => Contract.stable_const) ?_ ?_
    · intro now value next orderly viewed done
      cases done
      exact ⟨keeps_outside outside rfl (orderly.cancel viewed time)
        (fun other different => cancelled_beside different _ time), trivial⟩
    · intro now error _ _ refused
      cases refused
  exact Contract.Triple.bind refl wrote (fun _ => confirms_getJob outside dispatchId) (fun _ => confirmed_stable _)
    (fun _ _ _ _ => confirmed_error)

theorem confirms_cancel (outside : Outside call) (dispatchId : String) :
    (dispatching start).Triple pid call (fun _ => True) (ChatDispatch.cancel dispatchId)
      (fun result now => Confirmed result now.log) := by
  let decided : Except Raised (Option ChatDispatchJob) → ChatShared → Prop := fun result now =>
    (∀ job, result = .ok (some job) → Confirmed (.ok job) now.log) ∧
    (result = .ok none → Viewed pid dispatchId now.log)
  have decidedStable (result) : (dispatching start).Stable pid call (decided result) :=
    (Contract.Stable.forall (fun job => (confirmed_stable (.ok job)).imp)).and viewed_stable.imp
  have checked : (dispatching start).Triple pid call (fun _ => True) (check (cancelCheck dispatchId)) decided := by
    refine Contract.Triple.check Contract.stable_const decidedStable (fun now orderly _ => ?_)
    refine ⟨keeps_read outside orderly, ?_, ?_⟩
    · intro job found row same cancelled
      cases same
      obtain ⟨member, _⟩ := cancelCheck_some found
      exact cancelled ▸ read_seen member
    · intro none
      obtain ⟨state, stored, presend⟩ := cancelCheck_none none
      exact ⟨[], now.store, now.log, rfl, ⟨state, stored, presend⟩, by simp⟩
  refine Contract.Triple.bind ((dispatching_isolated start).refl pid call) checked (fun found => ?_)
    (fun _ => confirmed_stable _) (fun _ _ _ _ => confirmed_error)
  cases found with
  | some job => exact Contract.Triple.pure (confirmed_stable _) (fun _ _ held => held.1 job rfl)
  | none =>
    exact (confirms_cancelWrite outside).weaken (fun _ _ held => held.2 rfl) (fun _ _ _ held => held)

end Cancel

section Enqueue

theorem upsertConversation_jobs {store after : ChatStore} {row : ChatConversation}
    (done : upsertConversation store row = .ok after) : after.jobs = store.jobs ∧ after.pages = store.pages := by
  unfold upsertConversation at done
  split at done
  next =>
    split at done
    next => cases done
    next =>
      cases done
      exact ⟨rfl, rfl⟩
  next =>
    dsimp only at done
    split at done
    next => cases done
    next =>
      cases done
      exact ⟨rfl, rfl⟩

theorem insertJob_ok {store after : ChatStore} {job : ChatDispatchJob} (done : insertJob store job = .ok after) :
    store.jobs.toTable.insert? job = some after.jobs.toTable ∧ after.pages = store.pages := by
  unfold insertJob at done
  split at done
  next => cases done
  next => cases done
  next jobs inserted =>
    cases done
    exact ⟨IndexedTable.insert_ok inserted, rfl⟩

/-- What an enqueue does to the queue. -/
theorem enqueueTransaction_ok {request : Enqueue} {store after : ChatStore} {result : Enqueued}
    (done : enqueueTransaction request store = .ok (result, after)) :
    (∃ job ∈ store.jobs, result = .existing job ∧ after = store) ∨
    ∃ job, result = .added job.dispatchId ∧ job.state = .queued ∧
      store.jobs.toTable.insert? job = some after.jobs.toTable ∧ after.pages = store.pages := by
  simp only [enqueueTransaction, bind_eq_ok] at done
  obtain ⟨_, _, done⟩ := done
  split at done
  next job existing =>
    rw [bind_eq_ok] at done
    obtain ⟨_, _, same⟩ := done
    cases same
    refine Or.inl ⟨job, ?_, rfl, rfl⟩
    unfold Enqueue.existing at existing
    dsimp only at existing
    split at existing
    · exact List.mem_of_find?_eq_some existing
    · cases existing
  next =>
    simp only [enqueueNew, bind_eq_ok] at done
    obtain ⟨⟨job, added⟩, ⟨url, _, _, _, upserted, conversation, last, inserted, pair⟩, same⟩ := done
    cases pair
    cases same
    obtain ⟨jobs, pages⟩ := upsertConversation_jobs conversation
    obtain ⟨insertion, kept⟩ := insertJob_ok inserted
    rw [jobs] at insertion
    exact Or.inr ⟨_, rfl, rfl, insertion, kept.trans pages⟩

private theorem added_same {store after : ChatStore} {job : ChatDispatchJob}
    (inserted : store.jobs.toTable.insert? job = some after.jobs.toTable) {id : String} {state : ChatDispatchState}
    (stored : stateOf store id = some state) : stateOf after id = some state := by
  rw [stateOf_added inserted, stored]
  rfl

private theorem Orderly.enqueue (orderly : Orderly start now) {after : ChatStore} {job : ChatDispatchJob}
    (queued : job.state = .queued) (inserted : now.store.jobs.toTable.insert? job = some after.jobs.toTable)
    (pages : after.pages = now.store.pages) : Orderly start (now.became pid after) := by
  refine orderly.commit (.added job queued inserted) ?_ ?_ ?_
  · intro id old new before found different
    rw [added_same inserted before, Option.some.injEq] at found
    exact absurd found different
  · intro id old new before found
    rw [attemptsOf_added inserted, before, Option.some_or, Option.some.injEq] at found
    exact found ▸ orderly.counted id old before
  · intro _ paged page member
    rw [pages] at member
    exact paged page member

private theorem added_beside {other : Nat} {store after : ChatStore} {job : ChatDispatchJob} (queued : job.state = .queued)
    (inserted : store.jobs.toTable.insert? job = some after.jobs.toTable) :
    Beside other (.committed pid store after) := by
  have spares (id : String) : Spares other id (.committed pid store after) :=
    fun state stored => Or.inl (added_same inserted stored)
  refine fun turn => ⟨⟨.added job queued inserted, fun id _ => spares id⟩, spares turn, fun old stored => ⟨old, ?_, Nat.le_refl _⟩⟩
  rw [attemptsOf_added inserted, stored]
  rfl

theorem confirms_enqueue (outside : Outside call) (request : Enqueue) :
    (dispatching start).Triple pid call (fun _ => True) (ChatDispatch.enqueue request)
      (fun result now => Confirmed result now.log) := by
  let told : Except Raised Enqueued → ChatShared → Prop := fun result now =>
    ∀ job, result = .ok (.existing job) → Confirmed (.ok job) now.log
  have toldStable (result) : (dispatching start).Stable pid call (told result) :=
    Contract.Stable.forall (fun job => (confirmed_stable (.ok job)).imp)
  have committed : (dispatching start).Triple pid call (fun _ => True) (transaction (enqueueTransaction request)) told := by
    refine Contract.Triple.transaction Contract.stable_const toldStable ?_ ?_
    · intro now value next orderly _ done
      rcases enqueueTransaction_ok done with ⟨job, member, rfl, rfl⟩ | ⟨job, rfl, queued, inserted, pages⟩
      · refine ⟨keeps_read outside orderly, ?_⟩
        rintro row ⟨⟩ found ⟨⟩ cancelled
        exact cancelled ▸ read_seen member
      · refine ⟨keeps_outside outside rfl (orderly.enqueue queued inserted pages)
          (fun other _ => added_beside queued inserted), ?_⟩
        rintro row ⟨⟩
    · intro now error orderly _ _
      refine ⟨keeps_read outside orderly, ?_⟩
      rintro row ⟨⟩
  refine Contract.Triple.bind ((dispatching_isolated start).refl pid call) committed (fun enqueued => ?_)
    (fun _ => confirmed_stable _) (fun _ _ _ _ => confirmed_error)
  cases enqueued with
  | existing job => exact Contract.Triple.pure (confirmed_stable _) (fun _ _ held => held job rfl)
  | added dispatchId =>
    exact (confirms_getJob outside dispatchId).weaken (fun _ _ _ => trivial) (fun _ _ _ held => held)

end Enqueue

private theorem returns_job (outside : Outside call) {result : Except Raised ChatDispatchJob} (orderly : Orderly start now)
    (confirmed : Confirmed result now.log) : (dispatching start).Returns pid call (.job result) now := by
  refine keeps_outside outside rfl (orderly.record orderly.linked ?_ (fun _ => rfl)) (fun _ _ _ => ⟨trivial, trivial, trivial⟩)
  cases result with
  | error error => trivial
  | ok job => exact confirmed job rfl

theorem dispatching_certifies (start : ChatStore) : (dispatching start).Certifies chatMachine := by
  intro pid call seen orderly _
  cases call with
  | enqueue request =>
    have outside : Outside (.enqueue request) := by simp [Outside]
    exact Certified.map ((confirms_enqueue outside request seen orderly trivial).weaken
      (fun _ _ later confirmed => returns_job outside later confirmed))
  | cancel dispatchId =>
    have outside : Outside (.cancel dispatchId) := by simp [Outside]
    exact Certified.map ((confirms_cancel outside dispatchId seen orderly trivial).weaken
      (fun _ _ later confirmed => returns_job outside later confirmed))
  | runOnce engine =>
    exact Certified.map ((does_runOnce seen orderly trivial).weaken
      (fun _ _ later _ => ⟨later.record later.linked trivial (fun _ => rfl), trivial⟩))

end WebSupervisor.ChatDispatch.Proofs
