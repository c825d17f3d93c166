import WebSupervisor.Proofs.ChatIsolation

/-! Which queued jobs a call of `run_once` serves. It lists the first 200 eligible
jobs; the ones that wait for a reconciliation are among them and stay there. -/

namespace WebSupervisor.ChatDispatch.Proofs
open Library Library.Program

variable {store before after : ChatStore} {engine : ChatDispatchEngine} {job : ChatDispatchJob}
  {trace : List ChatHappening} {now : Time}

/-- The eligible and due jobs before this one, of whatever conversation. -/
def ahead (now : Time) (job : ChatDispatchJob) (store : ChatStore) : List ChatDispatchJob :=
  (store.jobs.rows.takeWhile (fun row => row.dispatchId ≠ job.dispatchId)).filter
    (fun row => row.state.Eligible ∧ row.nextAttemptAt ≤ now)

/-- The job has its turn and is no longer queued behind it, unless there is no page
for it and the pool is full. -/
def Served (engine : ChatDispatchEngine) (job : ChatDispatchJob) (visits : List Visit) : Prop :=
  ∃ visit ∈ visits, visit.job = job ∧
    (stateOf visit.after job.dispatchId ≠ some .queued ∨ Crowded engine job visit.before visit.after)

section Turn

/-- A queued job that has its turn leaves the queue or finds no room. -/
theorem advance_moves {result : Except Raised Bool} (keyed : Keyed job store) (unopened : job.state ≠ .opening)
    (run : Solo (advance engine job).run store trace result after) :
    stateOf after job.dispatchId ≠ some .queued ∨ Crowded engine job store after := by
  rcases solo_andThen.mp run with ⟨_, _, outcome, middle, rfl, tried, going⟩ | ⟨error, rfl, raised⟩
  · obtain ⟨shown, looking, same⟩ := solo_attempt.mp tried
    cases same
    have stayed : Local job.dispatchId store middle := local_ensurePage.solo .refl (fun _ _ _ => .trans) looking
    have kept := stayed.keyed keyed
    have provided := solo_ensurePage keyed looking
    rcases outcome with exception | (_ | page)
    · rcases solo_andThen.mp going with ⟨_, _, _, _, rfl, wrote, returned⟩ | ⟨error, rfl, raised⟩
      · obtain ⟨_, ⟨now, rfl⟩, _⟩ := solo_updateJob kept wrote
        obtain ⟨rfl, rfl, rfl⟩ := solo_done.mp returned
        rw [stateOf_moved kept rfl]
        exact Or.inl (by decide)
      · obtain ⟨_, _, _, _, impossible, _⟩ := solo_updateJob kept raised
        cases impossible
    · obtain ⟨rfl, rfl, rfl⟩ := solo_done.mp going
      rcases provided.moved unopened rfl with marked | crowded
      · rw [marked]
        exact Or.inl (by decide)
      · exact Or.inr crowded
    · rcases solo_andThen.mp going with ⟨_, _, row, middle, rfl, read, sending⟩ | ⟨error, rfl, raised⟩
      · obtain ⟨_, rfl, _, same, named, keyedAs⟩ := solo_getJob kept read
        cases same
        have keptRow : Keyed row middle := by
          obtain ⟨stored, member, sameId, sameKey⟩ := kept
          exact ⟨stored, member, sameId.trans named.symm, sameKey.trans keyedAs.symm⟩
        rcases solo_andThen.mp sending with ⟨_, _, _, _, rfl, submitted, returned⟩ | ⟨error, rfl, raised⟩
        · obtain ⟨_, _, _, _, _, _, moved⟩ := solo_submit keptRow (provided.held page rfl) submitted
          obtain ⟨rfl, rfl, rfl⟩ := solo_done.mp returned
          exact Or.inl (named ▸ moved)
        · obtain ⟨_, _, _, _, _, _, moved⟩ := solo_submit keptRow (provided.held page rfl) raised
          exact Or.inl (named ▸ moved)
      · obtain ⟨_, _, _, impossible, _⟩ := solo_getJob kept raised
        cases impossible
  · obtain ⟨_, _, impossible⟩ := solo_attempt.mp raised
    cases impossible

end Turn

section Order

private theorem any_older {first second : List ChatDispatchJob} {job : ChatDispatchJob}
    (places : second.map (fun row => (row.dispatchId, row.conversationKey)) =
      first.map (fun row => (row.dispatchId, row.conversationKey)))
    (finished : ∀ old ∈ first, ∀ new ∈ second, new.dispatchId = old.dispatchId → old.state.Terminal → new.state.Terminal)
    (none : (first.takeWhile (fun row => row.dispatchId ≠ job.dispatchId)).any (fun older =>
      older.conversationKey = job.conversationKey ∧ ¬ older.state.Terminal) = false) :
    (second.takeWhile (fun row => row.dispatchId ≠ job.dispatchId)).any (fun older =>
      older.conversationKey = job.conversationKey ∧ ¬ older.state.Terminal) = false := by
  induction first generalizing second with
  | nil =>
    rw [List.map_nil, List.map_eq_nil_iff] at places
    rw [places]
    rfl
  | cons old first ih =>
    obtain ⟨new, rest, rfl, same, tail⟩ := List.map_eq_cons_iff.mp places
    rw [Prod.mk.injEq] at same
    simp only [List.takeWhile_cons] at none ⊢
    by_cases own : old.dispatchId = job.dispatchId
    · simp [same.1, own]
    · simp only [same.1, own, ne_eq, not_false_eq_true, decide_true, if_true, List.any_cons, Bool.or_eq_false_iff,
        decide_eq_false_iff_not, same.2] at none ⊢
      refine ⟨fun older => none.1 ⟨older.1, fun terminal => older.2 ?_⟩, ?_⟩
      · exact finished old (List.mem_cons_self ..) new (List.mem_cons_self ..) same.1 terminal
      · refine ih tail (fun one member two present => ?_) none.2
        exact finished one (List.mem_cons_of_mem _ member) two (List.mem_cons_of_mem _ present)

private theorem older_kept (member : job ∈ store.jobs)
    (places : before.jobs.rows.map (fun row => (row.dispatchId, row.conversationKey)) =
      store.jobs.rows.map (fun row => (row.dispatchId, row.conversationKey)))
    (finished : ∀ row ∈ store.jobs, row.state.Terminal → stateOf before row.dispatchId = some row.state)
    (none : hasOlderUnfinished job store = false) : hasOlderUnfinished job before = false := by
  have stored : store.jobs.rows.any (·.dispatchId = job.dispatchId) = true :=
    List.any_eq_true.mpr ⟨job, member, by simp⟩
  simp only [hasOlderUnfinished, stored, Bool.true_and] at none
  rw [hasOlderUnfinished, Bool.and_eq_false_iff]
  refine Or.inr (any_older places (fun old held new present same terminal => ?_) none)
  have kept := finished old held terminal
  rw [← same, stateOf_job present, Option.some.injEq] at kept
  rw [kept]
  exact terminal

end Order

section Listed

private theorem rows_split (member : job ∈ store.jobs) :
    ∃ back, store.jobs.rows = store.jobs.rows.takeWhile (fun row => row.dispatchId ≠ job.dispatchId) ++ job :: back := by
  have split : ∀ rows : List ChatDispatchJob, (rows.map (·.dispatchId)).Nodup → job ∈ rows →
      ∃ back, rows = rows.takeWhile (fun row => row.dispatchId ≠ job.dispatchId) ++ job :: back := by
    intro rows distinct present
    induction rows with
    | nil => simp at present
    | cons head rows ih =>
      rw [List.map_cons, List.nodup_cons] at distinct
      rcases List.mem_cons.mp present with rfl | later
      · exact ⟨rows, by simp⟩
      · have other : head.dispatchId ≠ job.dispatchId :=
          fun same => distinct.1 (List.mem_map.mpr ⟨job, later, same.symm⟩)
        obtain ⟨back, same⟩ := ih distinct.2 later
        refine ⟨back, ?_⟩
        rw [List.takeWhile_cons_of_pos (by simpa using other), List.cons_append, ← same]
  exact split _ store.jobs.distinct member

private theorem eligible_split (member : job ∈ store.jobs) (queued : job.state = .queued) (due : job.nextAttemptAt ≤ now) :
    ∃ back, (ahead now job store ++ job :: back).Nodup ∧
      eligibleJobs now 200 store = (ahead now job store ++ job :: back).take 200 := by
  obtain ⟨back, rows⟩ := rows_split member
  refine ⟨back.filter (fun row => row.state.Eligible ∧ row.nextAttemptAt ≤ now), ?_, ?_⟩
  all_goals
    have listed : store.jobs.rows.filter (fun row => row.state.Eligible ∧ row.nextAttemptAt ≤ now) =
        ahead now job store ++ job :: back.filter (fun row => row.state.Eligible ∧ row.nextAttemptAt ≤ now) := by
      have eligible : job.state.Eligible := by
        rw [queued]
        decide
      conv_lhs => rw [rows]
      rw [List.filter_append, List.filter_cons_of_pos (by simp [eligible, due])]
      rfl
  · rw [← listed]
    exact store.jobs.distinct.of_map.filter _
  · rw [← listed]
    rfl

private theorem ahead_other {row : ChatDispatchJob} (member : row ∈ ahead now job store) :
    row.dispatchId ≠ job.dispatchId := by
  rw [ahead, List.mem_filter] at member
  simpa using List.mem_takeWhile_imp member.1

private theorem unlisted (member : job ∈ store.jobs) (queued : job.state = .queued) (due : job.nextAttemptAt ≤ now)
    (many : 200 ≤ (ahead now job store).length) : job ∉ eligibleJobs now 200 store := by
  obtain ⟨back, distinct, listed⟩ := eligible_split member queued due
  rw [listed, List.take_append_of_le_length many]
  intro inside
  exact ahead_other (List.mem_of_mem_take inside) rfl

private theorem listed_behind (member : job ∈ store.jobs) (queued : job.state = .queued) (due : job.nextAttemptAt ≤ now)
    (few : (ahead now job store).length < 200) :
    ∃ back, (∀ row ∈ ahead now job store, row ∉ back) ∧ eligibleJobs now 200 store = ahead now job store ++ job :: back := by
  obtain ⟨back, distinct, listed⟩ := eligible_split member queued due
  refine ⟨back.take (199 - (ahead now job store).length), fun row front taken => ?_, ?_⟩
  · exact (List.disjoint_of_nodup_append distinct) front (List.mem_cons_of_mem _ (List.mem_of_mem_take taken))
  · have rest : 200 - (ahead now job store).length = (199 - (ahead now job store).length) + 1 := by omega
    rw [listed, List.take_append, List.take_of_length_le (Nat.le_of_lt few), rest, List.take_succ_cons]

private theorem turn_first {visits earlier later : List Visit} {visit : Visit} {outcome : Except Raised Bool}
    (visited : Visits engine (eligibleJobs now 200 store) store visits outcome after)
    (split : visits = earlier ++ visit :: later) (member : job ∈ store.jobs)
    (first : hasOlderUnfinished job store = false) : hasOlderUnfinished job visit.before = false := by
  obtain ⟨places, states⟩ := visited.untouched split
  refine older_kept member places (fun row held terminal => ?_) first
  rw [states row.dispatchId, stateOf_job held]
  intro passed inside same
  -- A finished job is not listed, so that it had no turn.
  obtain ⟨listed, eligible, _⟩ := eligibleJobs_mem (visited.listed (by rw [split]; exact List.mem_append_left _ inside))
  obtain rfl := Table.eq_of_key listed held same
  exact eligible_unfinished eligible terminal

end Listed

/-- A queued, due job without an older unfinished one of its conversation is served
exactly when fewer than 200 eligible and due jobs are ahead of it and the browser
raises in no turn of theirs. -/
theorem queued_job_served (engine : ChatDispatchEngine) (store after : ChatStore) (trace : List ChatHappening)
    (result : Except Raised RunSummary) (run : Solo (runOnce engine).run store trace result after) :
    ∃ now visits closing, trace = roundTrace store now visits closing ∧
      Round engine store now visits closing result after ∧
      ∀ job ∈ store.jobs, job.state = .queued → job.nextAttemptAt ≤ now → hasOlderUnfinished job store = false →
        (Served engine job visits ↔ (ahead now job store).length < 200 ∧
          ∀ visit ∈ visits, visit.job ∈ ahead now job store →
            ¬ Fatal visit.job visit.before (exchanges visit.trace)) := by
  obtain ⟨now, visits, closing, same, round⟩ := solo_runOnce run
  refine ⟨now, visits, closing, same, round, fun job member queued due first => ?_⟩
  obtain ⟨outcome, middle, visited, _⟩ := round.looped
  by_cases few : (ahead now job store).length < 200
  · obtain ⟨back, apart, listed⟩ := listed_behind member queued due few
    have visitedAs := visited
    rw [listed] at visitedAs
    rcases visitedAs.reaches with ⟨earlier, visit, later, split, own, before, passed, behind⟩ |
      ⟨before, stopped, inside, error, raised⟩
    · -- The turn comes. The turns before it have returned.
      have calm : ∀ turn ∈ visits, turn.job ∈ ahead now job store →
          ¬ Fatal turn.job turn.before (exchanges turn.trace) := by
        intro turn inside front fatal
        have early : turn ∈ earlier := by
          rw [split] at inside
          rcases List.mem_append.mp inside with early | late
          · exact early
          · rcases List.mem_cons.mp late with rfl | last
            · exact absurd (congrArg ChatDispatchJob.dispatchId own) (ahead_other front)
            · exact absurd (behind turn last) (apart turn.job front)
        obtain ⟨moved, returned⟩ := passed turn early
        obtain ⟨_, impossible⟩ := (visited.handles inside returned).raises.mpr fatal
        cases impossible
      refine iff_of_true ?_ ⟨few, calm⟩
      have inside : visit ∈ visits := by
        rw [split]
        exact List.mem_append_right _ (List.mem_cons_self ..)
      obtain ⟨result, turn⟩ := visited.taken inside
      have keyed := visited.keyed (fun row held => .of_mem (eligibleJobs_mem held).1) inside
      refine ⟨visit, inside, own, ?_⟩
      rw [own] at turn keyed
      have unfinished : ¬ job.state.Terminal := by
        rw [queued]
        decide
      obtain ⟨rest, _, ⟨older, _⟩ | ⟨_, handled⟩⟩ := solo_handleJob unfinished turn
      · rw [turn_first visited split member first] at older
        cases older
      · simp only [process, queued, reduceCtorEq, if_false, or_self] at handled
        exact advance_moves keyed (by rw [queued]; decide) handled
    · -- A turn before it raises.
      refine iff_of_false ?_ ?_
      · rintro ⟨visit, present, own, _⟩
        exact ahead_other (before visit present) (congrArg ChatDispatchJob.dispatchId own)
      · rintro ⟨_, calm⟩
        exact calm stopped inside (before stopped inside) ((visited.handles inside raised).raises.mp ⟨error, rfl⟩)
  · rw [not_lt] at few
    refine ⟨fun ⟨visit, present, same, _⟩ => ?_, fun ⟨few, _⟩ => by omega⟩
    exact absurd (same ▸ visited.listed present) (unlisted member queued due few)

/-- The queued job behind one that was sent has its turn. -/
theorem queued_job_served_second : ∃ trace result after now visits closing,
    Solo (runOnce (.make 4 90 120)).run sentPair trace result after ∧
      Round (.make 4 90 120) sentPair now visits closing result after ∧
      Served (.make 4 90 120) (waitingJob "chat_b" "b" .queued) visits := by
  have run := solo_play closedDesktop (runOnce (.make 4 90 120)).run sentPair
  obtain ⟨now, visits, closing, same, round, serves⟩ := queued_job_served _ _ _ _ _ run
  obtain ⟨rfl, tame⟩ := closedDesktop_tame same
  refine ⟨_, _, _, 100, visits, closing, run, round, ?_⟩
  have member : waitingJob "chat_b" "b" .queued ∈ sentPair.jobs := List.mem_cons_of_mem _ (List.mem_singleton_self _)
  exact (serves _ member rfl (by decide) (by decide)).mpr ⟨by decide, fun visit inside _ => tame.visits visit inside⟩

/-- 200 jobs that were sent, and a queued one behind them. -/
private def stuckJobs : List ChatDispatchJob := (List.range 200).map (numbered .submitted) ++ [numbered .queued 200]

private theorem stuck_distinct : (stuckJobs.map (·.dispatchId)).Nodup := by
  simp only [stuckJobs, List.map_append, List.map_map, List.map_cons, List.map_nil]
  rw [List.nodup_append]
  refine ⟨List.Nodup.map (fun first second same => numbered_inj same) List.nodup_range, by simp, ?_⟩
  intro first member second last same
  obtain ⟨number, range, rfl⟩ := List.mem_map.mp member
  rw [List.mem_singleton.mp last] at same
  rw [List.mem_range] at range
  exact absurd (numbered_inj same) (by omega)

private def stuckStore : ChatStore :=
  { jobs := ⟨⟨stuckJobs, stuck_distinct⟩, by
      intro first member second _ indexed
      refine absurd ?_ indexed
      rcases List.mem_append.mp member with old | last
      · obtain ⟨number, _, rfl⟩ := List.mem_map.mp old
        rfl
      · rw [List.mem_singleton.mp last]
        rfl⟩ }

private theorem stuck_first : hasOlderUnfinished (numbered .queued 200) stuckStore = false := by
  rw [hasOlderUnfinished, Bool.and_eq_false_iff]
  right
  rw [List.any_eq_false]
  intro older member
  have inside := (List.takeWhile_subset _) member
  rcases List.mem_append.mp inside with old | last
  · obtain ⟨number, range, rfl⟩ := List.mem_map.mp old
    rw [List.mem_range] at range
    simp only [decide_eq_true_eq, not_and]
    intro same
    have lists := congrArg String.toList same
    simp only [numbered, String.toList_append] at lists
    have equal := nat_toString_injective (String.toList_inj.mp (List.append_cancel_left lists))
    omega
  · have other := List.mem_takeWhile_imp member
    rw [List.mem_singleton.mp last] at other
    simp at other

private theorem stuck_ahead : ahead 100 (numbered .queued 200) stuckStore = (List.range 200).map (numbered .submitted) := by
  have other : ∀ row ∈ (List.range 200).map (numbered .submitted),
      decide (row.dispatchId ≠ (numbered .queued 200).dispatchId) = true := by
    intro row member
    obtain ⟨number, range, rfl⟩ := List.mem_map.mp member
    rw [List.mem_range] at range
    exact decide_eq_true (fun same => absurd (numbered_inj same) (by omega))
  have rows : stuckStore.jobs.rows = (List.range 200).map (numbered .submitted) ++ [numbered .queued 200] := rfl
  rw [ahead, rows, List.takeWhile_append_of_pos other, List.takeWhile_cons_of_neg (by simp), List.append_nil,
    List.filter_eq_self]
  intro row member
  obtain ⟨number, _, rfl⟩ := List.mem_map.mp member
  have due : (0 : Time) ≤ 100 := by decide
  exact decide_eq_true ⟨List.mem_cons_of_mem _ (by simp [numbered]), due⟩

/-- The queued job has no turn, whatever the browser does. -/
theorem queued_job_served_stuck : ¬ ∀ (engine : ChatDispatchEngine) (store after : ChatStore) (trace : List ChatHappening)
    (result : Except Raised RunSummary), Solo (runOnce engine).run store trace result after →
    ∃ now visits closing, trace = roundTrace store now visits closing ∧
      Round engine store now visits closing result after ∧
      ∀ job ∈ store.jobs, job.state = .queued → job.nextAttemptAt ≤ now → hasOlderUnfinished job store = false →
        Served engine job visits := by
  intro serves
  obtain ⟨now, visits, closing, same, round, served⟩ :=
    serves _ _ _ _ _ (solo_play closedDesktop (runOnce (.make 4 90 120)).run stuckStore)
  obtain ⟨rfl, _⟩ := closedDesktop_tame same
  have member : numbered .queued 200 ∈ stuckStore.jobs := List.mem_append_right _ (List.mem_singleton_self _)
  have due : (numbered .queued 200).nextAttemptAt ≤ 100 := by decide
  obtain ⟨visit, present, own, _⟩ := served _ member rfl due stuck_first
  obtain ⟨outcome, middle, visited, _⟩ := round.looped
  have many : 200 ≤ (ahead 100 (numbered .queued 200) stuckStore).length := by
    rw [stuck_ahead, List.length_map, List.length_range]
  exact absurd (own ▸ visited.listed present) (unlisted member rfl due many)

end WebSupervisor.ChatDispatch.Proofs
