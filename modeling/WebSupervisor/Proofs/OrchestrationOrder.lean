import WebSupervisor.Proofs.OrchestrationPlan

/-! Plans and the order of their inputs. The first of several inputs for a task decides
for it, so that a plan depends on the order exactly where they differ in what it reads. -/

namespace WebSupervisor.Orchestration.Proofs
open Library

variable {text : CaseMapping} {items other : List TaskOrchestrationInput} {item first second : TaskOrchestrationInput}
  {now : Time} {policy : OrchestrationPolicy}

section Conditions
variable (text : CaseMapping) (items : List TaskOrchestrationInput) (now : Time) (policy : OrchestrationPolicy)

/-- By this input, the task contends for a slot. -/
def asks (item : TaskOrchestrationInput) : Bool :=
  (judgeItem text items now policy item).actionable && item.schedulingHistoryKnown

def contenderIds : List String := ((items.filter (asks text items now policy)).map (·.task.taskId)).dedup

/-- Two inputs for a task differ in nothing that every decision on it shows. -/
structure Agrees (first second : TaskOrchestrationInput) : Prop where
  known : first.schedulingHistoryKnown = second.schedulingHistoryKnown
  checks : (evaluateTask text first now policy).checks = (evaluateTask text second now policy).checks
  blockers : (evaluateTask text first now policy).blockers = (evaluateTask text second now policy).blockers

/-- The tasks that are served whichever of their inputs counts, and what their inputs
agree in. -/
structure Cut (served : List String) : Prop where
  distinct : served.Nodup
  contenders : served ⊆ contenderIds text items now policy
  many : served.length = min (max 0 policy.maxSelectedTasks).toNat (contenderIds text items now policy).length
  older : ∀ first ∈ items, ∀ second ∈ items, asks text items now policy first = true →
    asks text items now policy second = true → first.task.taskId ∈ served → second.task.taskId ∉ served →
      fairnessKey first < fairnessKey second
  retry : ∀ first ∈ items, ∀ second ∈ items, asks text items now policy first = true →
    asks text items now policy second = true → first.task.taskId = second.task.taskId → first.task.taskId ∈ served →
      (evaluateTask text first now policy).retryAfterS = (evaluateTask text second now policy).retryAfterS
  backoff : ∀ first ∈ items, ∀ second ∈ items, asks text items now policy first = true →
    asks text items now policy second = true → first.task.taskId = second.task.taskId → first.task.taskId ∉ served →
      boundedBackoff policy first.consecutiveWaits = boundedBackoff policy second.consecutiveWaits

/-- It does not matter which of the inputs for a task comes first. -/
structure OrderFree : Prop where
  agree : ∀ first ∈ items, ∀ second ∈ items, first.task.taskId = second.task.taskId → Agrees text now policy first second
  cut : ∃ served, Cut text items now policy served

end Conditions

section Inputs

private theorem duplicated_perm (perm : items.Perm other) : duplicated items = duplicated other := by
  funext taskId
  unfold duplicated
  rw [(perm.map _).count_eq]

private theorem judgeItem_perm (perm : items.Perm other) :
    judgeItem text items now policy = judgeItem text other now policy := by
  funext item
  unfold judgeItem
  rw [duplicated_perm perm]

private theorem asks_perm (perm : items.Perm other) : asks text items now policy = asks text other now policy := by
  funext item
  unfold asks
  rw [judgeItem_perm perm]

private theorem contenderIds_perm (perm : items.Perm other) :
    (contenderIds text items now policy).Perm (contenderIds text other now policy) := by
  unfold contenderIds
  rw [asks_perm perm]
  exact ((perm.filter _).map _).dedup

private theorem canonical_ids_perm (perm : items.Perm other) :
    (canonicalItems items).map (·.task.taskId) = (canonicalItems other).map (·.task.taskId) := by
  have sorted (items : List TaskOrchestrationInput) : ((canonicalItems items).map (·.task.taskId)).Pairwise (· ≤ ·) :=
    List.pairwise_map.mpr (List.pairwise_insertionSort _ _)
  refine List.Perm.eq_of_pairwise' (sorted items) (sorted other)
    ((List.perm_ext_iff_of_nodup canonical_ids_nodup canonical_ids_nodup).mpr (fun taskId => ?_))
  simp only [mem_canonical_ids, perm.mem_iff]

private theorem same_of_single (single : duplicated items first.task.taskId = false) (one : first ∈ items)
    (two : second ∈ items) (same : first.task.taskId = second.task.taskId) : first = second := by
  by_contra differ
  have left : second ∈ items.erase first := (List.mem_erase_of_ne (Ne.symm differ)).mpr two
  have counted : first.task.taskId ∈ (items.erase first).map (·.task.taskId) := List.mem_map.mpr ⟨second, left, same.symm⟩
  have count : (items.map (·.task.taskId)).count first.task.taskId =
      ((items.erase first).map (·.task.taskId)).count first.task.taskId + 1 := by
    rw [((List.perm_cons_erase one).map _).count_eq, List.map_cons, List.count_cons_self]
  rw [duplicated, count, decide_eq_false_iff_not] at single
  exact single (by have := List.count_pos_iff.mpr counted; omega)

private theorem judgeItem_single (single : duplicated items item.task.taskId = false) :
    (judgeItem text items now policy item).decision = evaluateTask text item now policy := by
  simp [judgeItem, single]

private theorem judgeItem_duplicate (twice : duplicated items item.task.taskId = true) :
    (judgeItem text items now policy item).decision =
      { evaluateTask text item now policy with
        kind := .reconcile
        reason := "duplicate orchestration inputs exist for one durable task; reconcile caller state"
        selected := false
        blockers := (evaluateTask text item now policy).blockers ++ ["duplicate durable task input"]
        mutationAllowed := false } := by
  simp [judgeItem, twice]

private theorem duplicate_actionable (twice : duplicated items item.task.taskId = true) :
    (judgeItem text items now policy item).actionable = true := by
  simp [Judged.actionable, judgeItem_duplicate twice]

private theorem asks_congr (one : first ∈ items) (two : second ∈ items) (same : first.task.taskId = second.task.taskId)
    (known : first.schedulingHistoryKnown = second.schedulingHistoryKnown) :
    asks text items now policy first = asks text items now policy second := by
  cases twice : duplicated items first.task.taskId with
  | false => rw [same_of_single twice one two same]
  | true => rw [asks, asks, duplicate_actionable twice, duplicate_actionable (same ▸ twice), known]

private theorem judgeItem_retry : (judgeItem text items now policy item).decision.retryAfterS =
    (evaluateTask text item now policy).retryAfterS := by
  unfold judgeItem
  dsimp only
  split <;> rfl

theorem mem_judge {entry : Judged} : entry ∈ judge text items now policy ↔
    ∃ item, items.find? (fun other => other.task.taskId = item.task.taskId) = some item ∧
      judgeItem text items now policy item = entry := by
  simp only [judge, List.mem_map, mem_canonical]

private theorem actionable_ids_perm (agree : ∀ first ∈ items, ∀ second ∈ items, first.task.taskId = second.task.taskId →
      first.schedulingHistoryKnown = second.schedulingHistoryKnown) :
    ((actionable (judge text items now policy)).map (·.item.task.taskId)).Perm (contenderIds text items now policy) := by
  have distinct : ((actionable (judge text items now policy)).map (·.item.task.taskId)).Nodup :=
    judge_ids_nodup.sublist (List.filter_sublist.map _)
  refine (List.perm_ext_iff_of_nodup distinct (List.nodup_dedup _)).mpr (fun taskId => ?_)
  rw [List.mem_dedup, List.mem_map, List.mem_map]
  constructor
  · rintro ⟨entry, contends, rfl⟩
    obtain ⟨member, active, known⟩ := mem_actionable.mp contends
    obtain ⟨item, found, rfl⟩ := mem_judge.mp member
    exact ⟨item, List.mem_filter.mpr ⟨List.mem_of_find?_eq_some found, by rw [asks, active]; exact known⟩, rfl⟩
  · rintro ⟨item, contends, rfl⟩
    obtain ⟨member, asking⟩ := List.mem_filter.mp contends
    obtain ⟨first, kept, same⟩ := mem_canonical_ids.mpr ⟨item, member, rfl⟩ |> List.mem_map.mp
    have present := mem_of_canonical kept
    rw [← asks_congr present member same (agree first present item member same), asks, Bool.and_eq_true] at asking
    exact ⟨_, mem_actionable.mpr ⟨List.mem_map_of_mem kept, asking⟩, same⟩

end Inputs

section Enough

/-- Two inputs for a task give it the same place in a plan, and decisions that differ at
most in the time to try again. -/
structure Alike (one two : Judged) : Prop where
  decision : ∃ retryAfterS, two.decision = { one.decision with retryAfterS }
  known : one.item.schedulingHistoryKnown = two.item.schedulingHistoryKnown

private theorem alike_of_agree (one : first ∈ items) (two : second ∈ items) (same : first.task.taskId = second.task.taskId)
    (agrees : Agrees text now policy first second) :
    Alike (judgeItem text items now policy first) (judgeItem text items now policy second) := by
  refine ⟨⟨(evaluateTask text second now policy).retryAfterS, ?_⟩, agrees.known⟩
  cases twice : duplicated items first.task.taskId with
  | false =>
    cases same_of_single twice one two same
    rw [judgeItem_single twice]
  | true =>
    have left : Advisory first (evaluateTask text first now policy) := evaluateTask_advisory
    have right : Advisory second (evaluateTask text second now policy) := evaluateTask_advisory
    rw [judgeItem_duplicate twice, judgeItem_duplicate (same ▸ twice)]
    simp only [OrchestrationDecision.mk.injEq, and_true, true_and]
    exact ⟨right.task.trans (same.symm.trans left.task.symm), agrees.checks.symm, by rw [agrees.blockers],
      right.undeferred.trans left.undeferred.symm⟩

private theorem judge_input (perm : items.Perm other) {entry : Judged} (member : entry ∈ judge text other now policy) :
    entry.item ∈ items ∧ judgeItem text items now policy entry.item = entry := by
  obtain ⟨item, found, rfl⟩ := mem_judge.mp member
  exact ⟨perm.mem_iff.mpr (List.mem_of_find?_eq_some found), congrFun (judgeItem_perm perm) item⟩

private theorem actionable_input (perm : items.Perm other) {entry : Judged}
    (contends : entry ∈ actionable (judge text other now policy)) :
    entry.item ∈ items ∧ asks text items now policy entry.item = true := by
  obtain ⟨member, active, known⟩ := mem_actionable.mp contends
  obtain ⟨input, same⟩ := judge_input perm member
  exact ⟨input, by rw [asks, same, active, known]; rfl⟩

section Served
variable {served : List String} (perm : items.Perm other)
  (agree : ∀ first ∈ items, ∀ second ∈ items, first.task.taskId = second.task.taskId → Agrees text now policy first second)
include perm agree

private theorem contenders_perm : ((actionable (judge text other now policy)).map (·.item.task.taskId)).Perm
    (contenderIds text items now policy) :=
  (actionable_ids_perm (fun first one second two same =>
    (agree first (perm.mem_iff.mpr one) second (perm.mem_iff.mpr two) same).known)).trans (contenderIds_perm perm).symm

private theorem slots_cut (cut : Cut text items now policy served) {entry : Judged}
    (contends : entry ∈ actionable (judge text other now policy)) :
    entry ∈ slots (judge text other now policy) policy ↔ entry.item.task.taskId ∈ served := by
  have ids := contenders_perm perm agree
  have unique : (actionable (judge text other now policy)).Nodup := judge_nodup.filter _
  let chosen := (actionable (judge text other now policy)).filter (fun entry => entry.item.task.taskId ∈ served)
  have mem_chosen (entry : Judged) : entry ∈ chosen ↔
      entry ∈ actionable (judge text other now policy) ∧ entry.item.task.taskId ∈ served := by simp [chosen]
  have chosen_ids : (chosen.map (·.item.task.taskId)).Perm served := by
    have distinct : (chosen.map (·.item.task.taskId)).Nodup :=
      judge_ids_nodup.sublist ((List.filter_sublist.trans List.filter_sublist).map _)
    refine (List.perm_ext_iff_of_nodup distinct cut.distinct).mpr (fun taskId => ?_)
    constructor
    · intro inside
      obtain ⟨entry, member, rfl⟩ := List.mem_map.mp inside
      exact ((mem_chosen entry).mp member).2
    · intro inside
      obtain ⟨entry, member, rfl⟩ := List.mem_map.mp (ids.mem_iff.mpr (cut.contenders inside))
      exact List.mem_map_of_mem ((mem_chosen entry).mpr ⟨member, inside⟩)
  have many : chosen.length = min (max 0 policy.maxSelectedTasks).toNat (actionable (judge text other now policy)).length := by
    rw [← List.length_map (f := (·.item.task.taskId)), chosen_ids.length_eq, cut.many, ← ids.length_eq, List.length_map]
  have older : ∀ first ∈ chosen, ∀ second ∈ actionable (judge text other now policy), second ∉ chosen →
      fairnessKey first.item < fairnessKey second.item := by
    intro first one second two left
    obtain ⟨one, inside⟩ := (mem_chosen first).mp one
    obtain ⟨input, asking⟩ := actionable_input perm one
    obtain ⟨another, waiting⟩ := actionable_input perm two
    exact cut.older _ input _ another asking waiting inside (fun within => left ((mem_chosen second).mpr ⟨two, within⟩))
  have distinct : chosen.Nodup := unique.filter _
  have inside : chosen ⊆ actionable (judge text other now policy) := fun entry member => ((mem_chosen entry).mp member).1
  unfold slots
  rw [mem_oldest_of_cut unique distinct inside many older, mem_chosen]
  exact and_iff_right contends

private theorem settled_same (cut : Cut text items now policy served) {entry another : Judged}
    (one : entry ∈ judge text items now policy) (two : another ∈ judge text other now policy)
    (same : entry.item.task.taskId = another.item.task.taskId) :
    settled (judge text items now policy) policy entry = settled (judge text other now policy) policy another := by
  obtain ⟨input, first⟩ := judge_input (.refl items) one
  obtain ⟨moved, second⟩ := judge_input perm two
  have alike := alike_of_agree input moved same (agree _ input _ moved same)
  rw [first, second] at alike
  obtain ⟨⟨retryAfterS, differ⟩, known⟩ := alike
  have active : another.actionable = entry.actionable := by simp [Judged.actionable, differ]
  have unknown : another.unknownSchedule = entry.unknownSchedule := by rw [Judged.unknownSchedule, active, ← known]; rfl
  rw [settled_placed one, settled_placed two, placed, placed, unknown, active]
  split
  next => simp only [withheld, differ]
  next schedule =>
    -- Both contend, or neither does and the task has one input.
    cases contends : entry.actionable with
    | false =>
      have single : duplicated items entry.item.task.taskId = false := by
        cases twice : duplicated items entry.item.task.taskId with
        | false => rfl
        | true => rw [← first, duplicate_actionable twice] at contends; cases contends
      have equal : entry = another := by rw [← first, ← second, same_of_single single input moved same]
      subst equal
      rw [if_neg (fun chosen => absurd (slots_known chosen).1 (by rw [contends]; decide)),
        if_neg (fun chosen => absurd (slots_known chosen).1 (by rw [contends]; decide))]
    | true =>
      have history : entry.item.schedulingHistoryKnown = true := by
        rw [unknownSchedule_iff] at schedule
        simpa [contends] using schedule
      have one_contends := mem_actionable.mpr ⟨one, contends, history⟩
      have two_contends := mem_actionable.mpr ⟨two, active.trans contends, known ▸ history⟩
      have one_slot := slots_cut (.refl items) agree cut one_contends
      have two_slot := slots_cut perm agree cut two_contends
      rw [← same] at two_slot
      have asking := (actionable_input (.refl items) one_contends).2
      have waiting := (actionable_input perm two_contends).2
      by_cases chosen : entry.item.task.taskId ∈ served
      · have retry : retryAfterS = entry.decision.retryAfterS := by
          have retry_of (item : TaskOrchestrationInput) : (judgeItem text items now policy item).decision.retryAfterS =
            (evaluateTask text item now policy).retryAfterS := judgeItem_retry
          have moment := cut.retry _ input _ moved asking waiting same chosen
          rw [← retry_of entry.item, ← retry_of another.item, first, second, differ] at moment
          exact moment.symm
        rw [if_pos (one_slot.mpr chosen), if_pos (two_slot.mpr chosen), differ, retry]
      · have moment := cut.backoff _ input _ moved asking waiting same chosen
        rw [if_neg (fun slot => chosen (one_slot.mp slot)), if_neg (fun slot => chosen (two_slot.mp slot)), if_pos rfl,
          if_pos rfl]
        simp only [putOff, differ, moment]

end Served

private theorem map_eq_map {α β κ γ : Type} {f : α → γ} {g : β → γ} {one : α → κ} {two : β → κ} {left : List α} {right : List β}
    (keys : left.map one = right.map two) (same : ∀ a ∈ left, ∀ b ∈ right, one a = two b → f a = g b) :
    left.map f = right.map g := by
  induction left generalizing right with
  | nil =>
    rw [List.map_nil, eq_comm, List.map_eq_nil_iff] at keys
    rw [keys, List.map_nil, List.map_nil]
  | cons a left ih =>
    cases right with
    | nil => cases keys
    | cons b right =>
      rw [List.map_cons, List.map_cons, List.cons.injEq] at keys
      rw [List.map_cons, List.map_cons, same a (by simp) b (by simp) keys.1,
        ih keys.2 (fun a left b right => same a (by simp [left]) b (by simp [right]))]

private theorem plan_of_orderFree (free : OrderFree text items now policy) (perm : items.Perm other) :
    planOrchestration text other now policy = planOrchestration text items now policy := by
  obtain ⟨served, cut⟩ := free.cut
  have ids : (judge text items now policy).map (·.item.task.taskId) =
      (judge text other now policy).map (·.item.task.taskId) := by
    rw [judge_ids, judge_ids, canonical_ids_perm perm]
  exact (map_eq_map ids (fun entry one another two same => settled_same perm free.agree cut one two same)).symm

end Enough

section Placed
variable {entry : Judged} {slot : Prop} [Decidable slot]

private theorem placed_checks : (placed policy slot entry).checks = entry.decision.checks := by
  unfold placed
  repeat' split
  all_goals rfl

private theorem placed_blockers : (placed policy slot entry).blockers =
    entry.decision.blockers ++ if entry.unknownSchedule then ["durable scheduling history unavailable"] else [] := by
  unfold placed
  split
  next => rfl
  next =>
    rw [List.append_nil]
    repeat' split
    all_goals rfl

private theorem placed_reason (twice : duplicated items item.task.taskId = true) :
    (placed policy slot (judgeItem text items now policy item)).reason =
      "scheduler selection withheld because durable scheduling history is " ++
        "unavailable; supply it explicitly to the adapter" ↔ item.schedulingHistoryKnown = false := by
  have active : (judgeItem text items now policy item).actionable = true := duplicate_actionable twice
  have unknown : (judgeItem text items now policy item).unknownSchedule = !item.schedulingHistoryKnown := by
    rw [Judged.unknownSchedule, active]
    rfl
  unfold placed
  rw [unknown, active]
  cases item.schedulingHistoryKnown with
  | false => exact iff_of_true rfl rfl
  | true =>
    refine iff_of_false ?_ (by decide)
    rw [if_neg (by decide), if_pos rfl]
    split
    next =>
      rw [judgeItem_duplicate twice]
      dsimp only
      decide
    next =>
      rw [putOff, judgeItem_duplicate twice]
      dsimp only
      decide

private theorem settled_slot (chosen : entry ∈ slots (judge text items now policy) policy) :
    settled (judge text items now policy) policy entry = { entry.decision with selected := true } := by
  have known : ¬ entry.unknownSchedule = true := by
    rw [unknownSchedule_iff, (slots_known chosen).2]
    simp
  rw [settled_placed (mem_actionable.mp (mem_of_slots chosen)).1, placed, if_neg known, if_pos chosen]

private theorem settled_putOff (contends : entry ∈ actionable (judge text items now policy))
    (left : entry ∉ slots (judge text items now policy) policy) :
    settled (judge text items now policy) policy entry = putOff policy entry := by
  obtain ⟨member, active, history⟩ := mem_actionable.mp contends
  have known : ¬ entry.unknownSchedule = true := by
    rw [unknownSchedule_iff, history]
    simp
  rw [settled_placed member, placed, if_neg known, if_neg left, if_pos active]

end Placed

private theorem judge_front (rest : List TaskOrchestrationInput) :
    judgeItem text (item :: rest) now policy item ∈ judge text (item :: rest) now policy :=
  mem_judge.mpr ⟨item, by simp, rfl⟩

private theorem judge_second (rest : List TaskOrchestrationInput) (differ : first.task.taskId ≠ second.task.taskId) :
    judgeItem text (first :: second :: rest) now policy second ∈ judge text (first :: second :: rest) now policy :=
  mem_judge.mpr ⟨second, by simp [differ], rfl⟩

private theorem front_actionable (one : first ∈ items) (asking : asks text items now policy first = true) :
    judgeItem text items now policy first ∈ actionable (judge text (first :: items.erase first) now policy) := by
  rw [asks, Bool.and_eq_true] at asking
  have front : judgeItem text items now policy first ∈ judge text (first :: items.erase first) now policy := by
    rw [judgeItem_perm (List.perm_cons_erase one)]
    exact judge_front _
  exact mem_actionable.mpr ⟨front, asking⟩

private theorem key_ne (differ : first.task.taskId ≠ second.task.taskId) : fairnessKey first ≠ fairnessKey second := by
  intro equal
  exact differ (congrArg (fun key => (ofLex (ofLex key).2).2) equal)

section Needed
variable (same : ∀ other, items.Perm other → planOrchestration text other now policy = planOrchestration text items now policy)
include same

private theorem settled_of_same {one two : List TaskOrchestrationInput} (left : items.Perm one) (right : items.Perm two)
    {entry another : Judged} (member : entry ∈ judge text one now policy) (present : another ∈ judge text two now policy)
    (task : entry.item.task.taskId = another.item.task.taskId) :
    settled (judge text one now policy) policy entry = settled (judge text two now policy) policy another := by
  have plans : planOrchestration text one now policy = planOrchestration text two now policy :=
    (same one left).trans (same two right).symm
  have planned : settled (judge text one now policy) policy entry ∈ planOrchestration text two now policy :=
    plans ▸ List.mem_map_of_mem member
  exact plan_decision present planned (settled_task.trans ((judge_advisory member).task.trans task))

private theorem agrees_of_same (one : first ∈ items) (two : second ∈ items) (task : first.task.taskId = second.task.taskId) :
    Agrees text now policy first second := by
  have left := List.perm_cons_erase one
  have right := List.perm_cons_erase two
  have shown := settled_of_same same left right (judge_front _) (judge_front _) task
  rw [settled_placed (judge_front _), settled_placed (judge_front _), ← judgeItem_perm left, ← judgeItem_perm right] at shown
  cases twice : duplicated items first.task.taskId with
  | false => rw [same_of_single twice one two task]; exact ⟨rfl, rfl, rfl⟩
  | true =>
    have again : duplicated items second.task.taskId = true := task ▸ twice
    have known : first.schedulingHistoryKnown = second.schedulingHistoryKnown := by
      have reasons := congrArg OrchestrationDecision.reason shown
      have iff := (placed_reason twice).symm.trans ((Eq.congr_left reasons).trans (placed_reason again))
      cases one : first.schedulingHistoryKnown <;> cases two : second.schedulingHistoryKnown <;> simp_all
    have unknown : (judgeItem text items now policy first).unknownSchedule =
        (judgeItem text items now policy second).unknownSchedule := by
      rw [Judged.unknownSchedule, Judged.unknownSchedule, duplicate_actionable twice, duplicate_actionable again]
      exact congrArg (fun known => true && !known) known
    have checks := congrArg OrchestrationDecision.checks shown
    have blockers := congrArg OrchestrationDecision.blockers shown
    rw [placed_checks, placed_checks, judgeItem_duplicate twice, judgeItem_duplicate again] at checks
    rw [placed_blockers, placed_blockers, unknown, List.append_cancel_right_eq, judgeItem_duplicate twice,
      judgeItem_duplicate again] at blockers
    exact ⟨known, checks, List.append_cancel_right blockers⟩

private theorem slots_of_same (perm : items.Perm other) {entry another : Judged} (one : entry ∈ judge text items now policy)
    (two : another ∈ judge text other now policy) (task : entry.item.task.taskId = another.item.task.taskId) :
    another ∈ slots (judge text other now policy) policy ↔ entry ∈ slots (judge text items now policy) policy := by
  have shown := settled_of_same same (.refl items) perm one two task
  rw [← settled_selected one, ← settled_selected two, shown]

private theorem selected_of_same (perm : items.Perm other) {another : Judged} (two : another ∈ judge text other now policy) :
    another ∈ slots (judge text other now policy) policy ↔
      another.item.task.taskId ∈ (slots (judge text items now policy) policy).map (·.item.task.taskId) := by
  rw [List.mem_map]
  constructor
  · intro chosen
    obtain ⟨item, kept, task⟩ := List.mem_map.mp (mem_canonical_ids.mpr ⟨_, (judge_input perm two).1, rfl⟩)
    have one : judgeItem text items now policy item ∈ judge text items now policy := List.mem_map_of_mem kept
    exact ⟨_, (slots_of_same same perm one two task).mp chosen, task⟩
  · rintro ⟨entry, chosen, task⟩
    exact (slots_of_same same perm (mem_actionable.mp (mem_of_slots chosen)).1 two task).mpr chosen

private theorem older_of_same (one : first ∈ items) (two : second ∈ items) (waiting : asks text items now policy second = true)
    (chosen : first.task.taskId ∈ (slots (judge text items now policy) policy).map (·.item.task.taskId))
    (left : second.task.taskId ∉ (slots (judge text items now policy) policy).map (·.item.task.taskId)) :
    fairnessKey first < fairnessKey second := by
  have differ : first.task.taskId ≠ second.task.taskId := fun equal => left (equal ▸ chosen)
  have later : second ∈ items.erase first :=
    (List.mem_erase_of_ne (fun equal => differ (by rw [equal]))).mpr two
  have perm : items.Perm (first :: second :: (items.erase first).erase second) :=
    (List.perm_cons_erase one).trans ((List.perm_cons_erase later).cons first)
  have slot := (selected_of_same same perm (judge_front _)).mpr chosen
  have unselected := mt (selected_of_same same perm (judge_second _ differ)).mp left
  rw [← judgeItem_perm perm] at slot unselected
  rw [asks, Bool.and_eq_true] at waiting
  have contends : judgeItem text items now policy second ∈
      actionable (judge text (first :: second :: (items.erase first).erase second) now policy) :=
    mem_actionable.mpr ⟨judgeItem_perm perm ▸ judge_second _ differ, waiting⟩
  exact lt_of_le_of_ne (slots_le slot contends unselected) (key_ne differ)

private theorem retry_of_same (one : first ∈ items) (two : second ∈ items) (task : first.task.taskId = second.task.taskId)
    (chosen : first.task.taskId ∈ (slots (judge text items now policy) policy).map (·.item.task.taskId)) :
    (evaluateTask text first now policy).retryAfterS = (evaluateTask text second now policy).retryAfterS := by
  have left := List.perm_cons_erase one
  have right := List.perm_cons_erase two
  have shown := settled_of_same same left right (judge_front _) (judge_front _) task
  rw [settled_slot ((selected_of_same same left (judge_front _)).mpr chosen),
    settled_slot ((selected_of_same same right (judge_front _)).mpr (task ▸ chosen))] at shown
  have retries := congrArg OrchestrationDecision.retryAfterS shown
  dsimp only at retries
  rwa [judgeItem_retry, judgeItem_retry] at retries

private theorem backoff_of_same (one : first ∈ items) (two : second ∈ items)
    (asking : asks text items now policy first = true) (waiting : asks text items now policy second = true)
    (task : first.task.taskId = second.task.taskId)
    (unchosen : first.task.taskId ∉ (slots (judge text items now policy) policy).map (·.item.task.taskId)) :
    boundedBackoff policy first.consecutiveWaits = boundedBackoff policy second.consecutiveWaits := by
  have left := List.perm_cons_erase one
  have right := List.perm_cons_erase two
  have shown := settled_of_same same left right (judge_front _) (judge_front _) task
  have one_left := mt (selected_of_same same left (judge_front _)).mp unchosen
  have two_left := mt (selected_of_same same right (judge_front _)).mp (task ▸ unchosen)
  rw [← judgeItem_perm left, ← judgeItem_perm right] at shown
  rw [← judgeItem_perm left] at one_left
  rw [← judgeItem_perm right] at two_left
  rw [settled_putOff (front_actionable one asking) one_left, settled_putOff (front_actionable two waiting) two_left] at shown
  exact Option.some_inj.mp (congrArg OrchestrationDecision.retryAfterS shown)

private theorem cut_of_same :
    Cut text items now policy ((slots (judge text items now policy) policy).map (·.item.task.taskId)) := by
  have known (first : TaskOrchestrationInput) (one : first ∈ items) (second : TaskOrchestrationInput) (two : second ∈ items)
      (task : first.task.taskId = second.task.taskId) : first.schedulingHistoryKnown = second.schedulingHistoryKnown :=
    (agrees_of_same same one two task).known
  have ids : ((actionable (judge text items now policy)).map (·.item.task.taskId)).Perm (contenderIds text items now policy) :=
    actionable_ids_perm known
  refine ⟨?_, ?_, ?_, ?_, ?_, ?_⟩
  · refine List.Nodup.map_on (fun entry one another two task => ?_) (oldest_nodup (judge_nodup.filter _))
    exact judge_unique (mem_actionable.mp (mem_of_slots one)).1 (mem_actionable.mp (mem_of_slots two)).1 task
  · intro taskId inside
    obtain ⟨entry, chosen, rfl⟩ := List.mem_map.mp inside
    exact ids.mem_iff.mp (List.mem_map_of_mem (mem_of_slots chosen))
  · rw [List.length_map, slots, length_oldest, ← ids.length_eq, List.length_map]
  · exact fun first one second two _ waiting chosen left => older_of_same same one two waiting chosen left
  · exact fun first one second two _ _ task chosen => retry_of_same same one two task chosen
  · exact fun first one second two asking waiting task unchosen =>
      backoff_of_same same one two asking waiting task unchosen

end Needed

/-- A plan is the same for every order of its inputs exactly when the inputs of each task
agree in their scheduling histories, checks and blockers, and the slots go to tasks that
are older by each of their inputs, and whose inputs agree in the time to try again. -/
theorem plan_order_free (text : CaseMapping) (items : List TaskOrchestrationInput) (now : Time)
    (policy : OrchestrationPolicy) :
    (∀ other, items.Perm other → planOrchestration text other now policy = planOrchestration text items now policy) ↔
      OrderFree text items now policy :=
  ⟨fun same => ⟨fun _ one _ two task => agrees_of_same same one two task, _, cut_of_same same⟩,
    fun free _ perm => plan_of_orderFree free perm⟩

/-- One recovering task, whose scheduling history one of two inputs knows. -/
def knownTask (known : Bool) : TaskOrchestrationInput :=
  { task := { taskId := "task", state := .recovering }
    assessment := { state := .suspect, reason := "", confidence := "" }
    schedulingHistoryKnown := known }

/-- The first of two inputs decides whether their task is selected. -/
theorem plan_order_free_fails :
    ¬ ∀ (text : CaseMapping) (items other : List TaskOrchestrationInput) (now : Time) (policy : OrchestrationPolicy),
      items.Perm other → planOrchestration text other now policy = planOrchestration text items now policy := by
  intro always
  have plans := always ⟨id, id⟩ [knownTask true, knownTask false] [knownTask false, knownTask true] 10 {}
    (List.Perm.swap ..)
  exact absurd plans (by decide +kernel)

end WebSupervisor.Orchestration.Proofs
