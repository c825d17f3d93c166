import WebSupervisor.Library.Solo
import WebSupervisor.Library.Delimited
import WebSupervisor.Proofs.ChatQueue

/-! When the worker of the chat queue leaves. It counts all pending jobs, but it
looks for those that must hold it among the newest 500 only. -/

namespace WebSupervisor.ChatDispatch.Proofs
open Library Library.Program

abbrev ChatHappening := Happening ChatStore Answer

section Statements
variable {store after : ChatStore} {trace : List ChatHappening} {β : Type}

theorem solo_query {view : ChatStore → β} {result : Except Raised β} :
    Solo (query view).run store trace result after ↔
      trace = [.changed store store] ∧ result = .ok (view store) ∧ after = store := solo_check

theorem solo_clock {result : Except Raised Time} :
    Solo clock.run store trace result after ↔
      ∃ now, trace = [.asked store .time now] ∧ result = .ok now ∧ after = store := solo_ask

theorem solo_write {change : ChatStore → ChatStore} {result : Except Raised Unit} :
    Solo (write change).run store trace result after ↔
      trace = [.changed store (change store)] ∧ result = .ok () ∧ after = change store := by
  refine solo_transaction.trans ⟨?_, ?_⟩
  · rintro ⟨rfl, ⟨value, done, rfl⟩ | ⟨error, raised, _⟩⟩
    · cases done
      exact ⟨rfl, rfl, rfl⟩
    · cases raised
  · rintro ⟨rfl, rfl, rfl⟩
    exact ⟨rfl, Or.inl ⟨(), rfl, rfl⟩⟩

end Statements

/-- The clock shows one time throughout. -/
def Shows (now : Time) (trace : List ChatHappening) : Prop :=
  ∀ store time, .asked store .time time ∈ trace → time = now

/-- Nothing is left that the worker has to wait for. -/
structure Drained (now : Time) (store : ChatStore) : Prop where
  settled : ∀ job ∈ store.jobs, ¬ job.state.Terminal →
    job.state = .reconcileRequired ∧ defaultReconcileHoldS ≤ now - job.updatedAt
  closed : (∀ job ∈ store.jobs, job.state.Terminal) →
    ∀ page ∈ store.pages, ¬ (page.owned = true ∧ (page.state = .isOpen ∨ page.state = .idle))

variable {store : ChatStore} {now : Time}

theorem pendingCount_pos : 0 < pendingCount store ↔ ∃ job ∈ store.jobs, ¬ job.state.Terminal := by
  simp only [pendingCount, List.countP_pos_iff, decide_eq_true_eq]
  rfl

theorem ownedOpenCount_zero : ownedOpenCount store = 0 ↔
    ∀ page ∈ store.pages, ¬ (page.owned = true ∧ (page.state = .isOpen ∨ page.state = .idle)) := by
  simp only [ownedOpenCount, List.countP_eq_zero, decide_eq_true_eq]
  rfl

private theorem not_holding {job : ChatDispatchJob} : ¬ job.Holding now ↔
    (¬ job.state.Terminal → job.state = .reconcileRequired ∧ defaultReconcileHoldS ≤ now - job.updatedAt) := by
  unfold ChatDispatchJob.Holding
  by_cases waiting : job.state = .reconcileRequired
  · simp [waiting, ChatDispatchState.Terminal]
  · simp [waiting]

private theorem leaves_pending (pending : 0 < pendingCount store)
    (free : ∀ job ∈ listJobs 500 store, ¬ job.Holding now) :
    ∃ trace, Solo shouldExit.run store trace (.ok true) store ∧ Shows now trace := by
  have silent : (!(listJobs 500 store).any (fun job => decide (job.Holding now))) = true := by
    simpa using free
  refine ⟨[.changed store store] ++ ([.changed store store] ++ ([.asked store .time now] ++ [])), ?_, ?_⟩
  · refine solo_andThen_ok.mpr ⟨_, _, _, store, rfl, solo_query.mpr ⟨rfl, rfl, rfl⟩, ?_⟩
    refine solo_andThen_ok.mpr ⟨_, _, _, store, rfl, solo_query.mpr ⟨rfl, rfl, rfl⟩, ?_⟩
    rw [if_pos pending]
    refine solo_andThen_ok.mpr ⟨_, _, _, store, rfl, solo_clock.mpr ⟨now, rfl, rfl, rfl⟩, ?_⟩
    exact solo_done.mpr ⟨rfl, by rw [silent], rfl⟩
  · intro found time member
    simp only [List.cons_append, List.nil_append, List.mem_cons, reduceCtorEq, Happening.asked.injEq, heq_eq_eq,
      List.not_mem_nil, or_false, false_or] at member
    exact member.2.2

private theorem leaves_only {trace : List ChatHappening} {after : ChatStore}
    (left : Solo shouldExit.run store trace (.ok true) after) (shows : Shows now trace) :
    0 < pendingCount store ∧ (∀ job ∈ listJobs 500 store, ¬ job.Holding now) ∨
      pendingCount store = 0 ∧ ownedOpenCount store = 0 := by
  obtain ⟨_, _, jobs, _, rfl, listed, counting⟩ := solo_andThen_ok.mp left
  obtain ⟨rfl, same, rfl⟩ := solo_query.mp listed
  cases same
  obtain ⟨_, _, pending, _, rfl, counted, deciding⟩ := solo_andThen_ok.mp counting
  obtain ⟨rfl, same, rfl⟩ := solo_query.mp counted
  cases same
  split at deciding
  next some =>
    obtain ⟨_, _, time, _, rfl, read, last⟩ := solo_andThen_ok.mp deciding
    obtain ⟨shown, rfl, same, rfl⟩ := solo_clock.mp read
    cases same
    obtain ⟨rfl, verdict, rfl⟩ := solo_done.mp last
    have right : time = now := shows after time (by simp)
    rw [Except.ok.injEq, eq_comm, Bool.not_eq_true', List.any_eq_false] at verdict
    exact Or.inl ⟨some, fun job member holding => verdict job member (by simpa [right] using holding)⟩
  next none =>
    obtain ⟨_, _, count, _, rfl, read, last⟩ := solo_andThen_ok.mp deciding
    obtain ⟨rfl, same, rfl⟩ := solo_query.mp read
    cases same
    obtain ⟨rfl, verdict, rfl⟩ := solo_done.mp last
    rw [Except.ok.injEq, eq_comm, decide_eq_true_eq] at verdict
    exact Or.inr ⟨Nat.eq_zero_of_not_pos none, verdict⟩

/-- A worker that leaves has drained the queue, exactly when a job that must hold
it stands among the newest 500 whenever there is one. -/
theorem leaving_worker_drained (store : ChatStore) (now : Time) :
    (∀ trace after, Solo shouldExit.run store trace (.ok true) after → Shows now trace → Drained now store) ↔
      ((∃ job ∈ store.jobs, job.Holding now) → ∃ job ∈ listJobs 500 store, job.Holding now) := by
  constructor
  · rintro drained ⟨job, member, holding⟩
    by_contra free
    push Not at free
    have pending : ¬ job.state.Terminal := by
      rcases holding with ⟨waiting, _⟩ | ⟨unfinished, _⟩
      · rw [waiting]
        decide
      · exact unfinished
    obtain ⟨trace, left, shows⟩ := leaves_pending (pendingCount_pos.mpr ⟨job, member, pending⟩) free
    exact not_holding.mpr ((drained trace store left shows).settled job member) holding
  · intro seen trace after left shows
    rcases leaves_only left shows with ⟨pending, free⟩ | ⟨none, closed⟩
    · have settled : ∀ job ∈ store.jobs, ¬ job.Holding now := by
        intro job member holding
        obtain ⟨newer, listed, again⟩ := seen ⟨job, member, holding⟩
        exact free newer listed again
      obtain ⟨job, member, unfinished⟩ := pendingCount_pos.mp pending
      exact ⟨fun job member => not_holding.mp (settled job member),
        fun terminal => absurd (terminal job member) unfinished⟩
    · have finished : ∀ job ∈ store.jobs, job.state.Terminal := by
        intro job member
        by_contra unfinished
        exact absurd (pendingCount_pos.mpr ⟨job, member, unfinished⟩) (by rw [none]; exact Nat.lt_irrefl 0)
      exact ⟨fun job member unfinished => absurd (finished job member) unfinished,
        fun _ => ownedOpenCount_zero.mp closed⟩

def numbered (state : ChatDispatchState) (number : Nat) : ChatDispatchJob :=
  { dispatchId := "chat_" ++ toString number, dispatchKey := none, conversationKey := "key_" ++ toString number,
    conversationUrl := some ("https://chatgpt.com/c/" ++ toString number), projectUrl := none, promptText := "a",
    promptSha256 := sha256 "a", nonce := "n", state := state, createdAt := 0, updatedAt := 0, nextAttemptAt := 0,
    attempts := 0, idleCloseS := 90, maxWindows := 4 }

/-- Jobs of different numbers have different names. -/
theorem numbered_inj {one two : ChatDispatchState} {first second : Nat}
    (same : (numbered one first).dispatchId = (numbered two second).dispatchId) : first = second := by
  have lists := congrArg String.toList same
  simp only [numbered, String.toList_append] at lists
  exact nat_toString_injective (String.toList_inj.mp (List.append_cancel_left lists))

/-- A queued job and behind it 500 that have failed. -/
private def crowdedJobs : List ChatDispatchJob := numbered .queued 0 :: (List.range' 1 500).map (numbered .failed)

private theorem crowded_distinct : (crowdedJobs.map (·.dispatchId)).Nodup := by
  simp only [crowdedJobs, List.map_cons, List.map_map, List.nodup_cons, List.mem_map, List.mem_range'_1,
    Function.comp_apply, not_exists, not_and]
  refine ⟨fun number range same => ?_, ?_⟩
  · exact absurd (numbered_inj same) (by omega)
  · exact List.Nodup.map (fun first second same => numbered_inj same) List.nodup_range'

private def crowdedStore : ChatStore :=
  { jobs := ⟨⟨crowdedJobs, crowded_distinct⟩, by
      intro first member second _ indexed
      refine absurd ?_ indexed
      rcases List.mem_cons.mp member with rfl | old
      · rfl
      · obtain ⟨number, _, rfl⟩ := List.mem_map.mp old
        rfl⟩ }

/-- The worker leaves although a job is queued. -/
theorem leaving_worker_drained_queued : ¬ ∀ (store : ChatStore) (now : Time) (trace : List ChatHappening)
    (after : ChatStore), Solo shouldExit.run store trace (.ok true) after → Shows now trace → Drained now store := by
  intro drained
  have waiting : numbered .queued 0 ∈ crowdedStore.jobs := List.mem_cons_self ..
  have pending : 0 < pendingCount crowdedStore := pendingCount_pos.mpr ⟨_, waiting, by decide⟩
  have free : ∀ job ∈ listJobs 500 crowdedStore, ¬ job.Holding 0 := by
    intro job member
    have failed : job ∈ (List.range' 1 500).map (numbered .failed) := by
      have taken : listJobs 500 crowdedStore = ((List.range' 1 500).map (numbered .failed)).reverse := by
        simp only [listJobs, crowdedStore, crowdedJobs, List.reverse_cons]
        exact List.take_left' (by simp)
      rw [taken, List.mem_reverse] at member
      exact member
    obtain ⟨number, _, rfl⟩ := List.mem_map.mp failed
    rintro (⟨other, _⟩ | ⟨unfinished, _⟩)
    · cases other
    · exact unfinished (Or.inr (Or.inl rfl))
  obtain ⟨trace, left, shows⟩ := leaves_pending pending free
  have settled := ((drained crowdedStore 0 trace crowdedStore left shows).settled _ waiting (by decide)).1
  cases settled

end WebSupervisor.ChatDispatch.Proofs
