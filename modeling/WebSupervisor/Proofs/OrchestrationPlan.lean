import WebSupervisor.Orchestration

/-! What a plan says about its inputs. Each task is judged once, by its first input;
the slots go to contenders, and every decision of the plan is that of one task. -/

namespace WebSupervisor.Orchestration.Proofs
open Library

variable {text : CaseMapping} {items : List TaskOrchestrationInput} {item : TaskOrchestrationInput} {now : Time}
  {policy : OrchestrationPolicy}

/-- A decision on the task that gives no slot, defers nothing and allows no mutation. -/
structure Advisory (item : TaskOrchestrationInput) (decision : OrchestrationDecision) : Prop where
  task : decision.taskId = item.task.taskId
  unselected : decision.selected = false
  undeferred : decision.deferredKind = none
  advisory : decision.mutationAllowed = false

theorem advisory_decision {kind : OrchestrationDecisionKind} {reason : String} {checks : Checks} {blockers : List String}
    {retryAfterS : Option Time} : Advisory item (decision item kind reason checks blockers retryAfterS) :=
  ⟨rfl, rfl, rfl, rfl⟩

/-- A gate that stops a task says so in an advisory decision on it. -/
def Advises {α : Type} (item : TaskOrchestrationInput) (gate : Except OrchestrationDecision α) : Prop :=
  ∀ decision, gate = .error decision → Advisory item decision

namespace Advises
variable {α β : Type} {gate : Except OrchestrationDecision α}

theorem ok (value : α) : Advises item (.ok value) := nofun

theorem stop {kind : OrchestrationDecisionKind} {reason : String} {checks : Checks} {blockers : List String}
    {retryAfterS : Option Time} :
    Advises item (.error (decision item kind reason checks blockers retryAfterS) : Except _ α) := by
  rintro _ ⟨⟩
  exact advisory_decision

theorem refuse {bad : Prop} [Decidable bad] {kind : OrchestrationDecisionKind} {reason : String} {checks : Checks}
    {blockers : List String} {retryAfterS : Option Time} :
    Advises item (refuse bad (decision item kind reason checks blockers retryAfterS)) := by
  intro stopped raised
  rw [refuse_eq_error] at raised
  exact raised.2 ▸ advisory_decision

theorem stopAt {found : Option α} {kind : OrchestrationDecisionKind} {reason : String} {checks : Checks}
    {blockers : α → List String} {retryAfterS : Option Time} :
    Advises item (stopAt found (fun fact => decision item kind reason checks (blockers fact) retryAfterS)) := by
  cases found with
  | none => exact ok ()
  | some fact => exact stop

theorem need {found : Option α} {kind : OrchestrationDecisionKind} {reason : String} {checks : Checks}
    {blockers : List String} {retryAfterS : Option Time} :
    Advises item (need found (decision item kind reason checks blockers retryAfterS)) := by
  cases found with
  | none => exact stop
  | some fact => exact ok fact

theorem bind {next : α → Except OrchestrationDecision β} (one : Advises item gate) (two : ∀ value, Advises item (next value)) :
    Advises item (gate >>= next) := by
  intro stopped raised
  rw [bind_eq_error] at raised
  rcases raised with here | ⟨value, _, there⟩
  · exact one stopped here
  · exact two value stopped there

end Advises

private theorem stateGate_advises : Advises item (stateGate item policy) :=
  .bind .refuse (fun _ => .bind .refuse (fun _ => .bind .refuse (fun _ => .bind .refuse (fun _ => .refuse))))

private theorem fenceGate_advises : Advises item (fenceGate item policy) :=
  .bind .stopAt (fun _ => .bind .stopAt (fun _ => .bind .refuse (fun _ => .bind .refuse (fun _ =>
    .bind .refuse (fun _ => .ok _)))))

private theorem lsmGate_advises {checks : Checks} : Advises item (lsmGate item now policy checks) :=
  .bind .need (fun _ => .bind .refuse (fun _ => .bind .refuse (fun _ => .bind .refuse (fun _ =>
    .bind .refuse (fun _ => .bind .refuse (fun _ => .ok _))))))

private theorem workspaceGate_advises {checks : Checks} : Advises item (workspaceGate text item now policy checks) :=
  .bind .need (fun _ => .bind .refuse (fun _ => .bind .refuse (fun _ => .bind .refuse (fun _ =>
    .bind .refuse (fun _ => .bind .refuse (fun _ => .ok _))))))

private theorem workerGate_advises {checks : Checks} : Advises item (workerGate item now policy checks) :=
  .bind .need (fun _ => .bind .refuse (fun _ => .ok _))

private theorem cooldownGate_advises {checks : Checks} : Advises item (cooldownGate item now policy checks) := by
  unfold cooldownGate
  split
  next => exact .ok _
  next => exact .bind .refuse (fun _ => .bind .refuse (fun _ => .ok _))

private theorem reconciliationGate_advises {checks : Checks} : Advises item (reconciliationGate item now policy checks) :=
  .bind .need (fun _ => .bind .need (fun _ => .bind .refuse (fun _ => .ok _)))

private theorem bindingGate_advises {worker : WorkerRecord} {checks : Checks} :
    Advises item (bindingGate item now policy worker checks) := by
  unfold bindingGate
  split
  next => exact .ok _
  next => exact .bind .refuse (fun _ => .ok _)

private theorem pageGate_advises {checks : Checks} : Advises item (pageGate text item now checks) := by
  unfold pageGate
  split
  next => exact .ok _
  next => exact .bind .need (fun _ => .bind .need (fun _ => .bind .refuse (fun _ => .ok _)))

theorem evaluateTask_advisory : Advisory item (evaluateTask text item now policy) := by
  have advises : Advises item (gates text item now policy) :=
    .bind stateGate_advises (fun _ => .bind fenceGate_advises (fun _ => .bind lsmGate_advises (fun _ =>
      .bind workspaceGate_advises (fun _ => .bind workerGate_advises (fun _ => .bind cooldownGate_advises (fun _ =>
        .bind reconciliationGate_advises (fun _ => .bind bindingGate_advises (fun _ => pageGate_advises))))))))
  unfold evaluateTask
  split
  next stopped => exact advises _ stopped
  next => exact advisory_decision

section Inputs
variable {taskId : String}

private theorem uniqueItems_append : uniqueItems (items ++ [item]) =
    if item.task.taskId ∈ (uniqueItems items).map (·.task.taskId) then uniqueItems items
    else uniqueItems items ++ [item] := by
  simp [uniqueItems]

theorem mem_unique_ids : taskId ∈ (uniqueItems items).map (·.task.taskId) ↔ taskId ∈ items.map (·.task.taskId) := by
  induction items using List.reverseRecOn with
  | nil => rfl
  | append_singleton items item ih =>
    rw [uniqueItems_append]
    split
    next known =>
      rw [ih, List.map_append, List.mem_append]
      refine ⟨Or.inl, fun either => either.elim id (fun last => ?_)⟩
      rw [List.map_singleton, List.mem_singleton] at last
      subst last
      exact ih.mp known
    next => simp only [List.map_append, List.mem_append, ih]

theorem unique_ids_nodup : ((uniqueItems items).map (·.task.taskId)).Nodup := by
  induction items using List.reverseRecOn with
  | nil => exact List.nodup_nil
  | append_singleton items item ih =>
    rw [uniqueItems_append]
    split
    next => exact ih
    next unknown =>
      rw [List.map_append, List.map_singleton]
      exact List.nodup_append.mpr ⟨ih, by simp, by grind⟩

/-- The first input of each task is the one that is kept. -/
theorem mem_unique : item ∈ uniqueItems items ↔
    items.find? (fun other => other.task.taskId = item.task.taskId) = some item := by
  induction items using List.reverseRecOn with
  | nil => simp [uniqueItems]
  | append_singleton items last ih =>
    rw [uniqueItems_append, List.find?_append]
    by_cases same : item.task.taskId = last.task.taskId
    · have here : [last].find? (fun other => other.task.taskId = item.task.taskId) = some last := by simp [same]
      have absent : last.task.taskId ∉ (uniqueItems items).map (·.task.taskId) ↔
          items.find? (fun other => other.task.taskId = item.task.taskId) = none := by
        rw [mem_unique_ids, same]
        simp
      split
      next known =>
        cases found : items.find? (fun other => other.task.taskId = item.task.taskId) with
        | none => exact absurd known (absent.mpr found)
        | some first => rw [ih, found, Option.some_or]
      next unknown =>
        rw [List.mem_append, List.mem_singleton, ih, absent.mp unknown, Option.none_or, here, Option.some_inj]
        exact ⟨fun either => either.elim nofun Eq.symm, fun equal => Or.inr equal.symm⟩
    · have here : [last].find? (fun other => other.task.taskId = item.task.taskId) = none := by
        simp [Ne.symm same]
      rw [here, Option.or_none, ← ih]
      split
      next => rfl
      next =>
        rw [List.mem_append, List.mem_singleton]
        exact or_iff_left (fun equal => same (by rw [equal]))

theorem canonical_perm : (canonicalItems items).Perm (uniqueItems items) := List.perm_insertionSort _ _

theorem canonical_ids_nodup : ((canonicalItems items).map (·.task.taskId)).Nodup :=
  (canonical_perm.map _).nodup_iff.mpr unique_ids_nodup

theorem mem_canonical : item ∈ canonicalItems items ↔
    items.find? (fun other => other.task.taskId = item.task.taskId) = some item :=
  canonical_perm.mem_iff.trans mem_unique

theorem mem_of_canonical (member : item ∈ canonicalItems items) : item ∈ items :=
  List.mem_of_find?_eq_some (mem_canonical.mp member)

theorem mem_canonical_ids :
    taskId ∈ (canonicalItems items).map (·.task.taskId) ↔ ∃ item ∈ items, item.task.taskId = taskId := by
  rw [(canonical_perm.map _).mem_iff, mem_unique_ids, List.mem_map]

end Inputs

section Judged
variable {entry first second : Judged}

theorem judgeItem_advisory : Advisory item (judgeItem text items now policy item).decision := by
  unfold judgeItem
  dsimp only
  have evaluated : Advisory item (evaluateTask text item now policy) := evaluateTask_advisory
  split
  next => exact ⟨evaluated.task, rfl, evaluated.undeferred, rfl⟩
  next => exact evaluated

theorem judge_advisory (member : entry ∈ judge text items now policy) : Advisory entry.item entry.decision := by
  obtain ⟨item, _, rfl⟩ := List.mem_map.mp member
  exact judgeItem_advisory

theorem judge_items : (judge text items now policy).map (·.item) = canonicalItems items := by
  simp [judge, judgeItem, Function.comp_def]

theorem judge_ids : (judge text items now policy).map (·.item.task.taskId) =
    (canonicalItems items).map (·.task.taskId) := by
  rw [show canonicalItems items = (judge text items now policy).map (·.item) from judge_items.symm, List.map_map,
    Function.comp_def]

theorem judge_ids_nodup : ((judge text items now policy).map (·.item.task.taskId)).Nodup :=
  judge_ids ▸ canonical_ids_nodup

theorem judge_nodup : (judge text items now policy).Nodup := List.Nodup.of_map _ judge_ids_nodup

/-- An entry is known by its task. -/
theorem judge_unique (one : first ∈ judge text items now policy) (two : second ∈ judge text items now policy)
    (same : first.item.task.taskId = second.item.task.taskId) : first = second :=
  List.inj_on_of_nodup_map judge_ids_nodup one two same

end Judged

/-- The entries of a plan that get a slot. -/
def slots (judged : List Judged) (policy : OrchestrationPolicy) : List Judged :=
  oldest (fun entry => fairnessKey entry.item) (max 0 policy.maxSelectedTasks).toNat (actionable judged)

section Settled
variable {entry : Judged}

theorem mem_actionable {judged : List Judged} : entry ∈ actionable judged ↔
    entry ∈ judged ∧ entry.actionable = true ∧ entry.item.schedulingHistoryKnown = true := by
  simp only [actionable, Judged.unknownSchedule, List.mem_filter]
  cases entry.actionable <;> cases entry.item.schedulingHistoryKnown <;> simp

theorem mem_of_slots {judged : List Judged} (member : entry ∈ slots judged policy) : entry ∈ actionable judged :=
  mem_of_oldest member

theorem slots_le {judged : List Judged} {first second : Judged} (chosen : first ∈ slots judged policy)
    (waits : second ∈ actionable judged) (left : second ∉ slots judged policy) :
    fairnessKey first.item ≤ fairnessKey second.item := by
  unfold slots at chosen left
  have older := oldest_le chosen waits left
  exact older

private theorem mem_selectedIds (member : entry ∈ judge text items now policy) :
    entry.decision.taskId ∈ selectedIds (judge text items now policy) policy ↔
      entry ∈ slots (judge text items now policy) policy := by
  refine ⟨fun chosen => ?_, fun chosen => List.mem_map.mpr ⟨entry, chosen, rfl⟩⟩
  obtain ⟨other, slot, same⟩ := List.mem_map.mp chosen
  have present := (mem_actionable.mp (mem_of_slots slot)).1
  rw [(judge_advisory present).task, (judge_advisory member).task] at same
  exact judge_unique present member same ▸ slot

private theorem mem_decisions (member : entry ∈ judge text items now policy) :
    entry.decision ∈ (actionable (judge text items now policy)).map (·.decision) ↔
      entry ∈ actionable (judge text items now policy) := by
  refine ⟨fun deferred => ?_, fun deferred => List.mem_map.mpr ⟨entry, deferred, rfl⟩⟩
  obtain ⟨other, present, same⟩ := List.mem_map.mp deferred
  have known := (mem_actionable.mp present).1
  have task := congrArg OrchestrationDecision.taskId same
  rw [(judge_advisory known).task, (judge_advisory member).task] at task
  exact judge_unique known member task ▸ present

@[simp]
theorem settled_task {judged : List Judged} : (settled judged policy entry).taskId = entry.decision.taskId := by
  unfold settled
  dsimp only
  repeat' split
  all_goals rfl

theorem settled_advisory {judged : List Judged} (advisory : Advisory item entry.decision) :
    (settled judged policy entry).mutationAllowed = false := by
  have same : (settled judged policy entry).mutationAllowed = entry.decision.mutationAllowed := by
    unfold settled
    dsimp only
    repeat' split
    all_goals rfl
  exact same.trans advisory.advisory

/-- The decision on a task that asks for a slot without a scheduling history. -/
def withheld (policy : OrchestrationPolicy) (entry : Judged) : OrchestrationDecision :=
  { entry.decision with
    kind := .waitCooldown
    reason := "scheduler selection withheld because durable scheduling history is " ++
      "unavailable; supply it explicitly to the adapter"
    selected := false
    retryAfterS := some (max (1 / 10) policy.maxBackoffS)
    deferredKind := some entry.decision.kind
    blockers := entry.decision.blockers ++ ["durable scheduling history unavailable"] }

/-- The decision on a contender that gets no slot. -/
def putOff (policy : OrchestrationPolicy) (entry : Judged) : OrchestrationDecision :=
  { entry.decision with
    kind := .waitCooldown
    reason := "fairness slot deferred " ++ entry.decision.kind.value ++ "; another recovery task " ++
      "has older scheduler service"
    selected := false
    retryAfterS := some (boundedBackoff policy entry.item.consecutiveWaits)
    deferredKind := some entry.decision.kind }

/-- The plan on a task, with a slot or without one. -/
def placed (policy : OrchestrationPolicy) (slot : Prop) [Decidable slot] (entry : Judged) : OrchestrationDecision :=
  if entry.unknownSchedule then withheld policy entry
  else if slot then { entry.decision with selected := true }
  else if entry.actionable then putOff policy entry
  else entry.decision

theorem settled_placed (member : entry ∈ judge text items now policy) :
    settled (judge text items now policy) policy entry =
      placed policy (entry ∈ slots (judge text items now policy) policy) entry := by
  have deferred : entry.unknownSchedule ≠ true →
      (entry.decision ∈ (actionable (judge text items now policy)).map (·.decision) ↔ entry.actionable = true) := by
    intro known
    rw [mem_decisions member, actionable, List.mem_filter]
    simp [member, known]
  simp only [settled, placed, mem_selectedIds member]
  split
  next => rfl
  next known => simp only [deferred known]; rfl

theorem unknownSchedule_iff :
    entry.unknownSchedule = true ↔ entry.actionable = true ∧ entry.item.schedulingHistoryKnown = false := by
  rw [Judged.unknownSchedule, Bool.and_eq_true, Bool.not_eq_true']

/-- An entry with a slot asks for one, and its history is known. -/
theorem slots_known {judged : List Judged} (chosen : entry ∈ slots judged policy) :
    entry.actionable = true ∧ entry.item.schedulingHistoryKnown = true :=
  (mem_actionable.mp (mem_of_slots chosen)).2

theorem settled_cases (member : entry ∈ judge text items now policy) :
    (entry ∈ slots (judge text items now policy) policy ∧
      settled (judge text items now policy) policy entry = { entry.decision with selected := true }) ∨
    (entry ∉ slots (judge text items now policy) policy ∧ entry.actionable = true ∧
      (settled (judge text items now policy) policy entry).selected = false ∧
      (settled (judge text items now policy) policy entry).kind = .waitCooldown ∧
      (settled (judge text items now policy) policy entry).deferredKind = some entry.decision.kind) ∨
    (entry.actionable = false ∧ settled (judge text items now policy) policy entry = entry.decision) := by
  rw [settled_placed member, placed]
  split
  next unknown =>
    rw [unknownSchedule_iff] at unknown
    refine Or.inr (Or.inl ⟨fun chosen => ?_, unknown.1, rfl, rfl, rfl⟩)
    exact absurd (slots_known chosen).2 (by rw [unknown.2]; decide)
  next =>
    split
    next chosen => exact Or.inl ⟨chosen, rfl⟩
    next unchosen =>
      split
      next active => exact Or.inr (Or.inl ⟨unchosen, active, rfl, rfl, rfl⟩)
      next idle => exact Or.inr (Or.inr ⟨Bool.eq_false_iff.mpr idle, rfl⟩)

theorem settled_selected (member : entry ∈ judge text items now policy) :
    (settled (judge text items now policy) policy entry).selected = true ↔
      entry ∈ slots (judge text items now policy) policy := by
  rcases settled_cases member with ⟨chosen, same⟩ | ⟨unchosen, _, same, _⟩ | ⟨idle, same⟩
  · simp [chosen, same]
  · simp [unchosen, same]
  · rw [same, (judge_advisory member).unselected]
    refine ⟨nofun, fun chosen => ?_⟩
    exact absurd (slots_known chosen).1 (by rw [idle]; decide)

end Settled

section Plan

/-- What a plan does with the tasks that were judged. The key of a task is that of the
input by which it was judged. -/
structure Planned (judged : List Judged) (policy : OrchestrationPolicy) (plan : List OrchestrationDecision) : Prop where
  distinct : (plan.map (·.taskId)).Nodup
  advisory : ∀ decision ∈ plan, decision.mutationAllowed = false
  selected : plan.countP (·.selected) = min (max 0 policy.maxSelectedTasks).toNat (actionable judged).length
  contenders : ∀ decision ∈ plan, decision.selected = true →
    ∃ entry ∈ actionable judged, entry.item.task.taskId = decision.taskId
  fair : ∀ first ∈ actionable judged, ∀ second ∈ actionable judged, ∀ one ∈ plan, ∀ two ∈ plan,
    one.taskId = first.item.task.taskId → two.taskId = second.item.task.taskId →
      one.selected = true → two.selected = false → ¬ fairnessKey second.item < fairnessKey first.item
  accounted : ∀ entry ∈ judged, ∃ decision ∈ plan, decision.taskId = entry.item.task.taskId ∧
    (entry.actionable = false → decision = entry.decision) ∧
    (entry.actionable = true → decision = { entry.decision with selected := true } ∨
      decision.selected = false ∧ decision.kind = .waitCooldown ∧ decision.deferredKind = some entry.decision.kind)

private theorem plan_ids : (planOrchestration text items now policy).map (·.taskId) =
    (judge text items now policy).map (·.item.task.taskId) := by
  rw [planOrchestration, List.map_map]
  exact List.map_congr_left (fun entry member => settled_task.trans (judge_advisory member).task)

theorem mem_plan_ids {taskId : String} : taskId ∈ (planOrchestration text items now policy).map (·.taskId) ↔
    ∃ item ∈ items, item.task.taskId = taskId := by
  rw [plan_ids, judge_ids, mem_canonical_ids]

private theorem plan_selected : (planOrchestration text items now policy).countP (·.selected) =
    (slots (judge text items now policy) policy).length := by
  have count : (planOrchestration text items now policy).countP (·.selected) =
      ((judge text items now policy).filter (fun entry => entry ∈ slots (judge text items now policy) policy)).length := by
    rw [planOrchestration, List.countP_map, List.countP_eq_length_filter]
    refine congrArg List.length (List.filter_congr (fun entry member => ?_))
    rw [Function.comp_apply, Bool.eq_iff_iff, settled_selected member, decide_eq_true_iff]
  have distinct : (slots (judge text items now policy) policy).Nodup := oldest_nodup (judge_nodup.filter _)
  rw [count]
  refine ((List.perm_ext_iff_of_nodup (judge_nodup.filter _) distinct).mpr (fun entry => ?_)).length_eq
  rw [List.mem_filter, decide_eq_true_iff]
  exact and_iff_right_of_imp (fun chosen => (mem_actionable.mp (mem_of_slots chosen)).1)

/-- The decision of a plan on a task that was judged. -/
theorem plan_decision {entry : Judged} {decision : OrchestrationDecision}
    (member : entry ∈ judge text items now policy) (planned : decision ∈ planOrchestration text items now policy)
    (same : decision.taskId = entry.item.task.taskId) :
    decision = settled (judge text items now policy) policy entry := by
  obtain ⟨other, present, rfl⟩ := List.mem_map.mp planned
  rw [settled_task, (judge_advisory present).task] at same
  rw [judge_unique present member same]

theorem plan_planned : Planned (judge text items now policy) policy (planOrchestration text items now policy) where
  distinct := plan_ids ▸ judge_ids_nodup
  advisory := by
    intro decision planned
    obtain ⟨entry, member, rfl⟩ := List.mem_map.mp planned
    exact settled_advisory (judge_advisory member)
  selected := by rw [plan_selected, slots, length_oldest]
  contenders := by
    intro decision planned selected
    obtain ⟨entry, member, rfl⟩ := List.mem_map.mp planned
    exact ⟨entry, mem_of_slots ((settled_selected member).mp selected),
      (judge_advisory member).task.symm.trans settled_task.symm⟩
  fair := by
    intro first contends second waits one planned two left same other selected unselected
    have one_judged := (mem_actionable.mp contends).1
    have two_judged := (mem_actionable.mp waits).1
    rw [plan_decision one_judged planned same, settled_selected one_judged] at selected
    rw [plan_decision two_judged left other] at unselected
    refine not_lt.mpr (slots_le selected waits (fun chosen => ?_))
    rw [(settled_selected two_judged).mpr chosen] at unselected
    cases unselected
  accounted := by
    intro entry member
    refine ⟨_, List.mem_map_of_mem member, settled_task.trans (judge_advisory member).task, ?_⟩
    rcases settled_cases member with ⟨chosen, same⟩ | ⟨_, asks, deferred⟩ | ⟨idle, same⟩
    · have asks := (slots_known chosen).1
      exact ⟨fun idle => absurd (asks.symm.trans idle) (by decide), fun _ => Or.inl same⟩
    · exact ⟨fun idle => absurd (asks.symm.trans idle) (by decide), fun _ => Or.inr deferred⟩
    · exact ⟨fun _ => same, fun asks => absurd (asks.symm.trans idle) (by decide)⟩

end Plan

end WebSupervisor.Orchestration.Proofs
