import WebSupervisor.Scheduler

/-! The queue of the tasks that ask for attention. It names each of them once, with its
most urgent item, and does not depend on the order in which the items were looked at. -/

namespace WebSupervisor.Scheduler.Proofs
open Library

abbrev BestByTask : Type := Table AttentionItem AttentionItem.taskId

/-- What is put in the queue if nothing more urgent of the same task comes along. -/
def candidates (items : List (TaskRecord × Assessment)) : List AttentionItem :=
  (items.filter (fun entry => eligible entry.2.state)).map candidate

variable {items others : List (TaskRecord × Assessment)} {entry : TaskRecord × Assessment} {best : BestByTask}
  {item other : AttentionItem}

/-- The item stands for the most urgent ones of its task. -/
def MostUrgent (items : List (TaskRecord × Assessment)) (item : AttentionItem) : Prop :=
  item ∈ candidates items ∧ ∀ other ∈ candidates items, other.taskId = item.taskId → item.urgency ≤ other.urgency

private theorem value_injective {first second : SupervisorState} (same : first.value = second.value) :
    first = second := by
  cases first <;> cases second <;> first | rfl | (simp only [SupervisorState.value] at same; contradiction)

/-- Two items of one task with the same key are one item. -/
theorem eq_of_urgency (task : item.taskId = other.taskId) (same : item.urgency = other.urgency) : item = other := by
  obtain ⟨level, rest⟩ := Prod.ext_iff.mp (toLex_inj.mp same)
  obtain ⟨state, reason⟩ := Prod.ext_iff.mp (toLex_inj.mp rest)
  have known := value_injective state
  cases item
  cases other
  simp_all

/-- What the loop has found after some of the items. -/
structure Found (items : List (TaskRecord × Assessment)) (best : BestByTask) : Prop where
  offered : ∀ item ∈ best, item ∈ candidates items
  covers : ∀ other ∈ candidates items, ∃ item ∈ best, item.taskId = other.taskId ∧ item.urgency ≤ other.urgency

theorem Found.mem_iff (found : Found items best) : item ∈ best ↔ MostUrgent items item := by
  constructor
  · refine fun member => ⟨found.offered item member, fun other offer task => ?_⟩
    obtain ⟨least, present, same, below⟩ := found.covers other offer
    rwa [Table.eq_of_key present member (same.trans task)] at below
  · rintro ⟨offer, least⟩
    obtain ⟨kept, present, task, below⟩ := found.covers item offer
    have above := least kept (found.offered kept present) task
    rwa [eq_of_urgency task (le_antisymm below above)] at present

private theorem candidates_append :
    candidates (items ++ [entry]) = candidates items ++ if eligible entry.2.state then [candidate entry] else [] := by
  rw [candidates, candidates, List.filter_append, List.map_append]
  congr 1
  rw [List.filter_singleton]
  split <;> simp_all

private theorem Found.replaced (found : Found items best)
    (more : candidates (items ++ [entry]) = candidates items ++ [candidate entry])
    (urgent : ∀ item ∈ best, item.taskId = entry.1.taskId → (candidate entry).urgency ≤ item.urgency) :
    Found (items ++ [entry]) (best.upsert (candidate entry)) where
  offered := by
    intro item member
    rw [more, List.mem_append, List.mem_singleton]
    rcases Table.mem_upsert.mp member with own | ⟨old, _⟩
    · exact .inr own
    · exact .inl (found.offered item old)
  covers := by
    intro other offer
    rw [more, List.mem_append, List.mem_singleton] at offer
    rcases offer with old | rfl
    · obtain ⟨item, present, task, below⟩ := found.covers other old
      by_cases own : item.taskId = entry.1.taskId
      · exact ⟨candidate entry, Table.mem_upsert.mpr (.inl rfl), own.symm.trans task,
          (urgent item present own).trans below⟩
      · exact ⟨item, Table.mem_upsert.mpr (.inr ⟨present, own⟩), task, below⟩
    · exact ⟨candidate entry, Table.mem_upsert.mpr (.inl rfl), rfl, le_refl _⟩

theorem Found.consider (found : Found items best) (entry : TaskRecord × Assessment) :
    Found (items ++ [entry]) (consider best entry) := by
  unfold Scheduler.consider
  split
  next asks =>
    have more : candidates (items ++ [entry]) = candidates items ++ [candidate entry] := by
      rw [candidates_append, if_pos asks]
    split
    next absent =>
      exact found.replaced more fun item member task => absurd task (Table.find?_none.mp absent item member)
    next current held =>
      obtain ⟨present, task⟩ := Table.find?_some.mp held
      have only : ∀ item ∈ best, item.taskId = entry.1.taskId → item = current :=
        fun item member own => Table.eq_of_key member present (own.trans task.symm)
      split
      next less => exact found.replaced more fun item member own => only item member own ▸ le_of_lt less
      next least =>
        refine ⟨fun item member => ?_, fun other offer => ?_⟩
        · rw [more]
          exact List.mem_append_left _ (found.offered item member)
        · rw [more, List.mem_append, List.mem_singleton] at offer
          rcases offer with old | rfl
          · exact found.covers other old
          · exact ⟨current, present, task, not_lt.mp least⟩
  next silent =>
    have same : candidates (items ++ [entry]) = candidates items := by
      rw [candidates_append, if_neg silent, List.append_nil]
    exact ⟨same ▸ found.offered, same ▸ found.covers⟩

theorem found_all (items : List (TaskRecord × Assessment)) : Found items (items.foldl consider .empty) := by
  induction items using List.reverseRecOn with
  | nil => exact ⟨fun _ member => absurd member List.not_mem_nil, fun _ offer => absurd offer List.not_mem_nil⟩
  | append_singleton items entry ih =>
    rw [List.foldl_append]
    exact ih.consider entry

theorem mem_attentionQueue : item ∈ attentionQueue items ↔ MostUrgent items item := by
  rw [attentionQueue, List.mem_insertionSort]
  exact (found_all items).mem_iff

theorem attentionQueue_tasks (items : List (TaskRecord × Assessment)) :
    ((attentionQueue items).map (·.taskId)).Nodup :=
  ((List.perm_insertionSort _ _).map _).nodup_iff.mpr (items.foldl consider .empty).distinct

theorem attentionQueue_sorted (items : List (TaskRecord × Assessment)) :
    (attentionQueue items).Pairwise (fun first second => first.place < second.place) := by
  have sorted : (attentionQueue items).Pairwise (fun first second => first.place ≤ second.place) :=
    List.pairwise_insertionSort _ _
  refine (sorted.and (List.pairwise_map.mp (attentionQueue_tasks items))).imp ?_
  intro first second ⟨before, different⟩
  exact lt_of_le_of_ne before fun same => different (Prod.ext_iff.mp (toLex_inj.mp same)).2

theorem attentionQueue_order (same : ∀ entry, entry ∈ others ↔ entry ∈ items) :
    attentionQueue others = attentionQueue items := by
  have offers (item : AttentionItem) : item ∈ candidates others ↔ item ∈ candidates items := by
    simp only [candidates, List.mem_map, List.mem_filter, same]
  refine List.Perm.eq_of_pairwise (fun first second _ _ before after => absurd before after.asymm)
    (attentionQueue_sorted others) (attentionQueue_sorted items)
    ((List.perm_ext_iff_of_nodup (attentionQueue_tasks others).of_map (attentionQueue_tasks items).of_map).mpr
      fun item => ?_)
  simp only [mem_attentionQueue, MostUrgent, offers]

/-- The queue holds the most urgent item of each task in the order of their places, and
any list with the same entries gives the same queue. -/
theorem attention_by_urgency (items : List (TaskRecord × Assessment)) :
    (∀ item, item ∈ attentionQueue items ↔ MostUrgent items item) ∧
    ((attentionQueue items).map (·.taskId)).Nodup ∧
    (attentionQueue items).Pairwise (fun first second => first.place < second.place) ∧
    ∀ others : List (TaskRecord × Assessment), (∀ entry, entry ∈ others ↔ entry ∈ items) →
      attentionQueue others = attentionQueue items :=
  ⟨fun _ => mem_attentionQueue, attentionQueue_tasks items, attentionQueue_sorted items,
    fun _ same => attentionQueue_order same⟩

end WebSupervisor.Scheduler.Proofs
