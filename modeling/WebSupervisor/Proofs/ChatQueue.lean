import WebSupervisor.ChatEngine

/-! What the statements of the chat store do to the queue: every one of them
keeps the rows in their order and under their conversation, and either leaves
the states alone, writes one job, or adds a queued job at the end. -/

namespace WebSupervisor.ChatDispatch.Proofs
open Library

def stateOf (store : ChatStore) (dispatchId : String) : Option ChatDispatchState :=
  (store.jobs.find? dispatchId).map (·.state)

def attemptsOf (store : ChatStore) (dispatchId : String) : Option Nat :=
  (store.jobs.find? dispatchId).map (·.attempts)

/-- The first job stands before the second in the queue of one conversation. -/
def Precedes (store : ChatStore) (first second : String) : Prop :=
  ∃ one two, [one, two].Sublist store.jobs.rows ∧ one.dispatchId = first ∧ two.dispatchId = second ∧
    one.conversationKey = two.conversationKey

inductive QueueChange (before after : ChatStore) : Prop where
  | kept (revise : ChatDispatchJob → ChatDispatchJob) (sameId : ∀ job, (revise job).dispatchId = job.dispatchId)
      (sameKey : ∀ job, (revise job).conversationKey = job.conversationKey)
      (sameState : ∀ job, (revise job).state = job.state) (sameAttempts : ∀ job, (revise job).attempts = job.attempts)
      (rows : after.jobs.rows = before.jobs.rows.map revise)
  | wrote (dispatchId : String) (change : JobChange) (now : Time)
      (jobs : after.jobs = (updateJobRow dispatchId change now before).jobs)
  | added (job : ChatDispatchJob) (queued : job.state = .queued)
      (inserted : before.jobs.toTable.insert? job = some after.jobs.toTable)

variable {store before after : ChatStore} {first second dispatchId : String}

theorem mem_find {job : ChatDispatchJob} : store.jobs.find? dispatchId = some job ↔
    job ∈ store.jobs ∧ job.dispatchId = dispatchId := Table.find?_some

theorem stateOf_some {state : ChatDispatchState} : stateOf store dispatchId = some state ↔
    ∃ job ∈ store.jobs, job.dispatchId = dispatchId ∧ job.state = state := by
  simp only [stateOf, Option.map_eq_some_iff, mem_find, and_assoc]

theorem stateOf_job {job : ChatDispatchJob} (member : job ∈ store.jobs) :
    stateOf store job.dispatchId = some job.state := stateOf_some.mpr ⟨job, member, rfl, rfl⟩

theorem Precedes.stored (ordered : Precedes store first second) : ∃ state, stateOf store first = some state := by
  obtain ⟨one, two, sub, rfl, _⟩ := ordered
  exact ⟨one.state, stateOf_job (sub.subset (List.mem_cons_self ..))⟩

section Kept
variable {revise : ChatDispatchJob → ChatDispatchJob}

private theorem find_map (sameId : ∀ job, (revise job).dispatchId = job.dispatchId)
    (rows : after.jobs.rows = before.jobs.rows.map revise) :
    after.jobs.find? dispatchId = (before.jobs.find? dispatchId).map revise := by
  simp only [Table.find?, rows, List.find?_map]
  congr 2
  funext job
  simp only [Function.comp_apply, sameId]

private theorem precedes_map (sameId : ∀ job, (revise job).dispatchId = job.dispatchId)
    (sameKey : ∀ job, (revise job).conversationKey = job.conversationKey)
    (rows : after.jobs.rows = before.jobs.rows.map revise) : Precedes after first second ↔ Precedes before first second := by
  constructor
  · rintro ⟨one, two, ordered, rfl, rfl, same⟩
    rw [rows, List.sublist_map_iff] at ordered
    obtain ⟨pair, ordered, equal⟩ := ordered
    obtain ⟨a, tail, rfl, rfl, tailEqual⟩ := List.map_eq_cons_iff.mp equal.symm
    obtain ⟨b, none, rfl, rfl, noneEqual⟩ := List.map_eq_cons_iff.mp tailEqual
    obtain rfl := List.map_eq_nil_iff.mp noneEqual
    exact ⟨a, b, ordered, (sameId a).symm, (sameId b).symm, by rw [← sameKey a, ← sameKey b, same]⟩
  · rintro ⟨one, two, ordered, rfl, rfl, same⟩
    refine ⟨revise one, revise two, ?_, sameId one, sameId two, by rw [sameKey, sameKey, same]⟩
    rw [rows]
    exact ordered.map revise

end Kept

section Wrote
variable {change : JobChange} {now : Time}

theorem find_wrote (other : String) : (updateJobRow dispatchId change now store).jobs.find? other =
    (store.jobs.find? other).map (fun job => if job.dispatchId = dispatchId then change.apply now job else job) := by
  have updated := @Table.find?_update _ _ ChatDispatchJob.dispatchId _ store.jobs.toTable
    (fun job => job.dispatchId = dispatchId) (change.apply now) (fun _ => rfl) other
  simp only [decide_eq_true_eq] at updated
  exact updated

theorem stateOf_wrote_self : stateOf (updateJobRow dispatchId change now store) dispatchId =
    (stateOf store dispatchId).map (fun state => change.state.getD state) := by
  simp only [stateOf, find_wrote]
  cases found : store.jobs.find? dispatchId with
  | none => rfl
  | some job => simp [(mem_find.mp found).2, JobChange.apply]

theorem stateOf_wrote_other (other : first ≠ dispatchId) :
    stateOf (updateJobRow dispatchId change now store) first = stateOf store first := by
  simp only [stateOf, find_wrote]
  cases found : store.jobs.find? first with
  | none => rfl
  | some job => simp [(mem_find.mp found).2, other]

theorem attemptsOf_wrote_self : attemptsOf (updateJobRow dispatchId change now store) dispatchId =
    (attemptsOf store dispatchId).map (fun attempts => change.attempts.getD attempts) := by
  simp only [attemptsOf, find_wrote]
  cases found : store.jobs.find? dispatchId with
  | none => rfl
  | some job => simp [(mem_find.mp found).2, JobChange.apply]

theorem attemptsOf_wrote_other (other : first ≠ dispatchId) :
    attemptsOf (updateJobRow dispatchId change now store) first = attemptsOf store first := by
  simp only [attemptsOf, find_wrote]
  cases found : store.jobs.find? first with
  | none => rfl
  | some job => simp [(mem_find.mp found).2, other]

theorem precedes_wrote : Precedes (updateJobRow dispatchId change now store) first second ↔
    Precedes store first second := by
  refine @precedes_map store _ first second (fun job => if job.dispatchId = dispatchId then change.apply now job else job)
    ?_ ?_ ?_
  · intro job
    split <;> rfl
  · intro job
    split <;> rfl
  · simp [updateJobRow, IndexedTable.update, Table.update]

end Wrote

section Added
variable {job : ChatDispatchJob}

theorem stateOf_added (inserted : before.jobs.toTable.insert? job = some after.jobs.toTable) :
    stateOf after dispatchId =
      (stateOf before dispatchId).or (if job.dispatchId = dispatchId then some job.state else none) := by
  simp only [stateOf, Table.find?_insert? inserted]
  cases before.jobs.find? dispatchId with
  | none => simp only [Option.none_or, Option.map_none]; split <;> rfl
  | some old => rfl

theorem attemptsOf_added (inserted : before.jobs.toTable.insert? job = some after.jobs.toTable) :
    attemptsOf after dispatchId =
      (attemptsOf before dispatchId).or (if job.dispatchId = dispatchId then some job.attempts else none) := by
  simp only [attemptsOf, Table.find?_insert? inserted]
  cases before.jobs.find? dispatchId with
  | none => simp only [Option.none_or, Option.map_none]; split <;> rfl
  | some old => rfl

theorem added_fresh (inserted : before.jobs.toTable.insert? job = some after.jobs.toTable) :
    stateOf before job.dispatchId = none := by
  rw [stateOf, Option.map_eq_none_iff]
  exact Table.find?_none.mpr (Table.insert?_some.mp inserted).1

end Added

theorem QueueChange.precedes (change : QueueChange before after) (ordered : Precedes before first second) :
    Precedes after first second := by
  cases change with
  | kept revise sameId sameKey _ _ rows => exact (precedes_map sameId sameKey rows).mpr ordered
  | wrote dispatchId change now jobs =>
    obtain ⟨one, two, sub, named⟩ := precedes_wrote.mpr ordered
    exact ⟨one, two, jobs ▸ sub, named⟩
  | added job _ inserted =>
    obtain ⟨one, two, sub, named⟩ := ordered
    exact ⟨one, two, (Table.insert?_some.mp inserted).2 ▸ sub.trans (List.sublist_append_left ..), named⟩

/-- A job that a change puts behind another is a new one. -/
theorem QueueChange.precedes_back (change : QueueChange before after) (ordered : Precedes after first second) :
    Precedes before first second ∨ stateOf before second = none := by
  cases change with
  | kept revise sameId sameKey _ _ rows => exact Or.inl ((precedes_map sameId sameKey rows).mp ordered)
  | wrote dispatchId change now jobs =>
    obtain ⟨one, two, sub, named⟩ := ordered
    exact Or.inl (precedes_wrote.mp ⟨one, two, jobs ▸ sub, named⟩)
  | added job _ inserted =>
    obtain ⟨one, two, sub, rfl, rfl, same⟩ := ordered
    rw [(Table.insert?_some.mp inserted).2, List.sublist_append_iff] at sub
    obtain ⟨left, right, split, leftSub, rightSub⟩ := sub
    rcases List.sublist_singleton.mp rightSub with rfl | rfl
    · rw [List.append_nil] at split
      exact Or.inl ⟨one, two, split ▸ leftSub, rfl, rfl, same⟩
    · have last : two = job := by
        have := congrArg List.getLast? split
        simpa using this
      exact Or.inr (last ▸ added_fresh inserted)

theorem stateOf_kept {revise : ChatDispatchJob → ChatDispatchJob}
    (sameId : ∀ job, (revise job).dispatchId = job.dispatchId) (sameState : ∀ job, (revise job).state = job.state)
    (rows : after.jobs.rows = before.jobs.rows.map revise) : stateOf after dispatchId = stateOf before dispatchId := by
  rw [stateOf, stateOf, find_map sameId rows, Option.map_map]
  congr 1
  funext job
  exact sameState job

theorem attemptsOf_kept {revise : ChatDispatchJob → ChatDispatchJob}
    (sameId : ∀ job, (revise job).dispatchId = job.dispatchId)
    (sameAttempts : ∀ job, (revise job).attempts = job.attempts)
    (rows : after.jobs.rows = before.jobs.rows.map revise) :
    attemptsOf after dispatchId = attemptsOf before dispatchId := by
  rw [attemptsOf, attemptsOf, find_map sameId rows, Option.map_map]
  congr 1
  funext job
  exact sameAttempts job

theorem stateOf_jobs (jobs : after.jobs = before.jobs) : stateOf after dispatchId = stateOf before dispatchId := by
  rw [stateOf, stateOf, jobs]

theorem attemptsOf_jobs (jobs : after.jobs = before.jobs) :
    attemptsOf after dispatchId = attemptsOf before dispatchId := by
  rw [attemptsOf, attemptsOf, jobs]

theorem QueueChange.same (jobs : after.jobs = before.jobs) : QueueChange before after :=
  .kept id (fun _ => rfl) (fun _ => rfl) (fun _ => rfl) (fun _ => rfl) (by rw [jobs, List.map_id])

/-- No job is lost. -/
theorem QueueChange.isSome (change : QueueChange before after) (stored : (stateOf before dispatchId).isSome) :
    (stateOf after dispatchId).isSome := by
  cases change with
  | kept revise sameId _ sameState _ rows => rw [stateOf_kept sameId sameState rows, stored]
  | wrote id change now jobs =>
    rw [stateOf_jobs jobs]
    by_cases own : dispatchId = id
    · subst own
      rw [stateOf_wrote_self, Option.isSome_map, stored]
    · rw [stateOf_wrote_other own, stored]
  | added job _ inserted => rw [stateOf_added inserted, Option.isSome_or, stored, Bool.true_or]

/-- A new job is queued. -/
theorem QueueChange.fresh (change : QueueChange before after) {state : ChatDispatchState}
    (missing : stateOf before dispatchId = none) (stored : stateOf after dispatchId = some state) : state = .queued := by
  cases change with
  | kept revise sameId _ sameState _ rows => rw [stateOf_kept sameId sameState rows, missing] at stored; cases stored
  | wrote id change now jobs =>
    rw [stateOf_jobs jobs] at stored
    by_cases own : dispatchId = id
    · subst own
      rw [stateOf_wrote_self, missing] at stored
      cases stored
    · rw [stateOf_wrote_other own, missing] at stored
      cases stored
  | added job queued inserted =>
    rw [stateOf_added inserted, missing, Option.none_or] at stored
    split at stored
    · cases stored
      exact queued
    · cases stored

/-- The rows stay where they are. -/
theorem QueueChange.ids (change : QueueChange before after) :
    before.jobs.rows.map (·.dispatchId) <+: after.jobs.rows.map (·.dispatchId) := by
  have revised {revise : ChatDispatchJob → ChatDispatchJob} (sameId : ∀ job, (revise job).dispatchId = job.dispatchId)
      (rows : after.jobs.rows = before.jobs.rows.map revise) :
      before.jobs.rows.map (·.dispatchId) <+: after.jobs.rows.map (·.dispatchId) := by
    rw [rows, List.map_map]
    simp only [Function.comp_def, sameId]
    exact List.prefix_rfl
  cases change with
  | kept revise sameId _ _ _ rows => exact revised sameId rows
  | wrote id change now jobs =>
    refine @revised (fun job => if job.dispatchId = id then change.apply now job else job) ?_ ?_
    · intro job
      split <;> rfl
    · simp [jobs, updateJobRow, IndexedTable.update, Table.update]
  | added job _ inserted =>
    rw [(Table.insert?_some.mp inserted).2, List.map_append]
    exact List.prefix_append ..

/-- The job is stored under the conversation it was read with. -/
def Keyed (job : ChatDispatchJob) (store : ChatStore) : Prop :=
  ∃ row ∈ store.jobs, row.dispatchId = job.dispatchId ∧ row.conversationKey = job.conversationKey

theorem QueueChange.keyed (change : QueueChange before after) {job : ChatDispatchJob} (keyed : Keyed job before) :
    Keyed job after := by
  obtain ⟨row, member, sameId, sameKey⟩ := keyed
  have revised {revise : ChatDispatchJob → ChatDispatchJob} (keepsId : ∀ job, (revise job).dispatchId = job.dispatchId)
      (keepsKey : ∀ job, (revise job).conversationKey = job.conversationKey)
      (rows : after.jobs.rows = before.jobs.rows.map revise) : Keyed job after := by
    refine ⟨revise row, ?_, (keepsId row).trans sameId, (keepsKey row).trans sameKey⟩
    change revise row ∈ after.jobs.rows
    rw [rows]
    exact List.mem_map.mpr ⟨row, member, rfl⟩
  cases change with
  | kept revise keepsId keepsKey _ _ rows => exact revised keepsId keepsKey rows
  | wrote id change now jobs =>
    refine @revised (fun job => if job.dispatchId = id then change.apply now job else job) ?_ ?_ ?_
    · intro job
      split <;> rfl
    · intro job
      split <;> rfl
    · simp [jobs, updateJobRow, IndexedTable.update, Table.update]
  | added new _ inserted =>
    refine ⟨row, ?_, sameId, sameKey⟩
    change row ∈ after.jobs.rows
    rw [(Table.insert?_some.mp inserted).2]
    exact List.mem_append_left _ member

private theorem not_both_orders {α : Type} {items : List α} (distinct : items.Nodup) {one two : α}
    (forward : [one, two].Sublist items) (backward : [two, one].Sublist items) : False := by
  induction items with
  | nil => simp at forward
  | cons head items ih =>
    obtain ⟨absent, distinct⟩ := List.nodup_cons.mp distinct
    cases forward with
    | cons _ forward =>
      cases backward with
      | cons _ backward => exact ih distinct forward backward
      | cons_cons _ backward => exact absent (forward.subset (by simp))
    | cons_cons _ forward =>
      cases backward with
      | cons _ backward => exact absent (backward.subset (by simp))
      | cons_cons _ backward => exact absent (List.singleton_sublist.mp forward)

/-- The queue has one order. -/
theorem precedes_asymm {one two : ChatDispatchJob} (ordered : [one, two].Sublist store.jobs.rows) :
    ¬ Precedes store two.dispatchId one.dispatchId := by
  rintro ⟨a, b, backward, sameA, sameB, _⟩
  have inside {job : ChatDispatchJob} {pair : List ChatDispatchJob} (sub : pair.Sublist store.jobs.rows)
      (member : job ∈ pair) : job ∈ store.jobs := sub.subset member
  obtain rfl := Table.eq_of_key (inside backward (by simp)) (inside ordered (by simp)) sameA
  obtain rfl := Table.eq_of_key (inside backward (by simp)) (inside ordered (by simp)) sameB
  exact not_both_orders store.jobs.distinct.of_map ordered backward

/-- Without an older unfinished job, all jobs before this one are finished. -/
theorem older_finished {job : ChatDispatchJob} (keyed : Keyed job store) (none : hasOlderUnfinished job store = false)
    (ordered : Precedes store first job.dispatchId) {state : ChatDispatchState}
    (stored : stateOf store first = some state) : state.Terminal := by
  obtain ⟨row, rowMember, rowId, rowKey⟩ := keyed
  obtain ⟨one, two, sub, rfl, sameTwo, sameKey⟩ := ordered
  have twoMember : two ∈ store.jobs := sub.subset (by simp)
  obtain rfl := Table.eq_of_key twoMember rowMember (sameTwo.trans rowId.symm)
  have oneMember : one ∈ store.jobs := sub.subset (by simp)
  rw [stateOf_job oneMember] at stored
  cases stored
  by_contra unfinished
  -- The rows up to the job itself contain the older one.
  have before : one ∈ store.jobs.rows.takeWhile (·.dispatchId ≠ job.dispatchId) := by
    have split : ∀ rows : List ChatDispatchJob, (rows.map (·.dispatchId)).Nodup → [one, two].Sublist rows →
        one ∈ rows.takeWhile (·.dispatchId ≠ job.dispatchId) := by
      intro rows distinct inside
      induction rows with
      | nil => simp at inside
      | cons head rows ih =>
        rw [List.map_cons, List.nodup_cons] at distinct
        have passes (later : two ∈ rows) : head.dispatchId ≠ job.dispatchId := by
          rintro same
          refine distinct.1 (List.mem_map.mpr ⟨two, later, ?_⟩)
          rw [sameTwo, ← same]
        cases inside with
        | cons _ rest =>
          rw [List.takeWhile_cons_of_pos (by simpa using passes (rest.subset (by simp)))]
          exact List.mem_cons_of_mem _ (ih distinct.2 rest)
        | cons_cons _ rest =>
          rw [List.takeWhile_cons_of_pos (by simpa using passes (List.singleton_sublist.mp rest))]
          exact List.mem_cons_self ..
    exact split _ store.jobs.distinct sub
  have found : store.jobs.rows.any (·.dispatchId = job.dispatchId) = true :=
    List.any_eq_true.mpr ⟨two, twoMember, by simp [sameTwo]⟩
  have clash : (store.jobs.rows.takeWhile (·.dispatchId ≠ job.dispatchId)).any (fun older =>
      older.conversationKey = job.conversationKey ∧ ¬ older.state.Terminal) = true :=
    List.any_eq_true.mpr ⟨one, before, by simp [sameKey, rowKey, unfinished]⟩
  simp only [hasOlderUnfinished, found, clash, Bool.and_self] at none
  cases none

end WebSupervisor.ChatDispatch.Proofs
