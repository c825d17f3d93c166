import WebSupervisor.Proofs.OrchestrationPlan

/-! Planning cycle after cycle. The caller stamps the tasks that a plan selects with the
time of the cycle; the other stamps, and the times at which tasks were created, stay. -/

namespace WebSupervisor.Orchestration.Proofs
open Library

structure Cycle where
  now : Time
  policy : OrchestrationPolicy
  items : List TaskOrchestrationInput

section Cycles
variable (text : CaseMapping)

def Cycle.plan (cycle : Cycle) : List OrchestrationDecision := planOrchestration text cycle.items cycle.now cycle.policy

def Cycle.selects (cycle : Cycle) (taskId : String) : Prop :=
  ∃ decision ∈ cycle.plan text, decision.taskId = taskId ∧ decision.selected = true

instance (cycle : Cycle) (taskId : String) : Decidable (cycle.selects text taskId) :=
  inferInstanceAs (Decidable (∃ decision ∈ cycle.plan text, _ ∧ _))

/-- The task is actionable and its scheduling history is known. -/
def Cycle.contends (cycle : Cycle) (taskId : String) : Prop :=
  ∃ entry ∈ actionable (judge text cycle.items cycle.now cycle.policy), entry.item.task.taskId = taskId

/-- `last_scheduled_at` of every task. -/
abbrev Stamps := String → Option Time

def serve (stamps : Stamps) (cycle : Cycle) : Stamps := fun taskId =>
  if cycle.selects text taskId then some cycle.now else stamps taskId

/-- The inputs of every cycle carry the stamps that the cycles before have left. -/
def Stamped (created : String → Time) (stamps : Stamps) : List Cycle → Prop
  | [] => True
  | cycle :: rest =>
    (∀ item ∈ cycle.items, item.lastScheduledAt = stamps item.task.taskId ∧
      item.task.createdAt = created item.task.taskId) ∧
    Stamped created (serve text stamps cycle) rest

end Cycles

section Fairness
variable {text : CaseMapping} {cycle : Cycle} {cycles : List Cycle} {created : String → Time} {stamps : Stamps}
  {taskId : String}

private theorem selects_slot (selected : cycle.selects text taskId) :
    ∃ entry ∈ slots (judge text cycle.items cycle.now cycle.policy) cycle.policy, entry.item.task.taskId = taskId := by
  obtain ⟨decision, planned, rfl, chosen⟩ := selected
  obtain ⟨entry, member, rfl⟩ := List.mem_map.mp planned
  exact ⟨entry, (settled_selected member).mp chosen,
    (judge_advisory member).task.symm.trans settled_task.symm⟩

private theorem slot_selects {entry : Judged}
    (chosen : entry ∈ slots (judge text cycle.items cycle.now cycle.policy) cycle.policy) :
    cycle.selects text entry.item.task.taskId := by
  have member := (mem_actionable.mp (mem_of_slots chosen)).1
  exact ⟨_, List.mem_map_of_mem member, settled_task.trans (judge_advisory member).task, (settled_selected member).mpr chosen⟩

private theorem stamp_le_of_key {first second : TaskOrchestrationInput} (le : fairnessKey first ≤ fairnessKey second) :
    fairnessStamp first ≤ fairnessStamp second := by
  rcases Prod.Lex.toLex_le_toLex.mp le with older | ⟨same, _⟩
  · exact older.le
  · exact same.le

/-- What counts as the stamp of a task. -/
def effective (created : String → Time) (stamps : Stamps) (taskId : String) : Time := (stamps taskId).getD (created taskId)

def Cycle.round (text : CaseMapping) (cycle : Cycle) : Round String Time where
  now := cycle.now
  contends := cycle.contends text
  serves := cycle.selects text

private theorem judged_input {entry : Judged} (member : entry ∈ judge text cycle.items cycle.now cycle.policy) :
    entry.item ∈ cycle.items :=
  mem_of_canonical (judge_items ▸ List.mem_map_of_mem member)

private theorem effective_stamp {entry : Judged} (member : entry ∈ judge text cycle.items cycle.now cycle.policy)
    (stamped : ∀ item ∈ cycle.items, item.lastScheduledAt = stamps item.task.taskId ∧
      item.task.createdAt = created item.task.taskId) :
    fairnessStamp entry.item = effective created stamps entry.item.task.taskId := by
  have input := stamped entry.item (judged_input member)
  rw [fairnessStamp, effective, input.1, input.2]

private theorem cycle_fair (stamped : ∀ item ∈ cycle.items, item.lastScheduledAt = stamps item.task.taskId ∧
      item.task.createdAt = created item.task.taskId)
    (past : ∀ item ∈ cycle.items, effective created stamps item.task.taskId < cycle.now) :
    (cycle.round text).Fair (effective created stamps) where
  past := by
    rintro _ ⟨entry, contends, rfl⟩
    exact past entry.item (judged_input (mem_actionable.mp contends).1)
  oldest := by
    rintro first _ selected ⟨waits, contends, rfl⟩ unselected
    obtain ⟨entry, chosen, rfl⟩ := selects_slot selected
    rw [← effective_stamp (mem_actionable.mp (mem_of_slots chosen)).1 stamped,
      ← effective_stamp (mem_actionable.mp contends).1 stamped]
    exact stamp_le_of_key (slots_le chosen contends (fun slot => unselected (slot_selects slot)))

theorem cycles_fair (stamped : Stamped text created stamps cycles) (later : (cycles.map (·.now)).Pairwise (· < ·))
    (past : ∀ cycle ∈ cycles, ∀ item ∈ cycle.items, effective created stamps item.task.taskId < cycle.now) :
    FairRun (effective created stamps) (cycles.map (·.round text)) := by
  induction cycles generalizing stamps with
  | nil => trivial
  | cons cycle rest ih =>
    rw [List.map_cons, List.pairwise_cons] at later
    refine ⟨cycle_fair stamped.1 (past cycle (by simp)), effective created (serve text stamps cycle), fun taskId => ?_,
      ih stamped.2 later.2 (fun next member item input => ?_)⟩
    · exact ⟨fun selected => congrArg (Option.getD · (created taskId)) (if_pos selected),
        fun unselected => congrArg (Option.getD · (created taskId)) (if_neg unselected)⟩
    · by_cases selected : cycle.selects text item.task.taskId
      · rw [effective, serve, if_pos selected]
        exact later.1 next.now (List.mem_map_of_mem member)
      · rw [effective, serve, if_neg selected]
        exact past next (by simp [member]) item input

/-- Between two cycles that select one task, a task that contends in all of them is
selected as well. -/
theorem selected_between {before between after : List Cycle} {first last : Cycle} {served waiting : String}
    (stamped : Stamped text created stamps (before ++ (first :: between ++ last :: after)))
    (later : ((before ++ (first :: between ++ last :: after)).map (·.now)).Pairwise (· < ·))
    (past : ∀ cycle ∈ before ++ (first :: between ++ last :: after), ∀ item ∈ cycle.items,
      effective created stamps item.task.taskId < cycle.now)
    (one : first.selects text served) (two : last.selects text served)
    (contends : ∀ cycle ∈ first :: between ++ [last], cycle.contends text waiting) :
    ∃ cycle ∈ first :: between ++ [last], cycle.selects text waiting := by
  have fair := cycles_fair stamped later past
  rw [List.map_append] at fair
  obtain ⟨next, fair⟩ := fair.drop
  have ordered : ∀ round ∈ between.map (·.round text), (first.round text).now ≤ round.now := by
    intro round member
    obtain ⟨cycle, inside, rfl⟩ := List.mem_map.mp member
    rw [List.map_append, List.pairwise_append] at later
    exact ((List.pairwise_cons.mp later.2.1).1 cycle.now (List.mem_map_of_mem (by simp [inside]))).le
  simp only [List.cons_append, List.map_cons, List.map_append] at fair
  have waits : ∀ round ∈ first.round text :: between.map (·.round text) ++ [last.round text], round.contends waiting := by
    intro round member
    obtain ⟨cycle, inside, rfl⟩ : ∃ cycle ∈ first :: between ++ [last], cycle.round text = round := by
      simpa [eq_comm] using member
    exact contends cycle inside
  obtain ⟨round, member, serves⟩ := FairRun.served_between fair ordered one two waits
  obtain ⟨cycle, inside, rfl⟩ : ∃ cycle ∈ first :: between ++ [last], cycle.round text = round := by
    simpa [eq_comm] using member
  exact ⟨cycle, inside, serves⟩

/-- A plan holds one decision for each task, gives its slots to contenders with the
least keys and puts the others off. Over cycles at increasing times, no task is selected
twice while another one contends and is not selected. -/
theorem orchestration_fair (text : CaseMapping) :
    (∀ (items : List TaskOrchestrationInput) (now : Time) (policy : OrchestrationPolicy),
      (∀ taskId, taskId ∈ (planOrchestration text items now policy).map (·.taskId) ↔
        ∃ item ∈ items, item.task.taskId = taskId) ∧
      Planned (judge text items now policy) policy (planOrchestration text items now policy)) ∧
    ∀ (created : String → Time) (initial : Stamps) (before between after : List Cycle) (first last : Cycle),
      Stamped text created initial (before ++ (first :: between ++ last :: after)) →
      ((before ++ (first :: between ++ last :: after)).map (·.now)).Pairwise (· < ·) →
      (∀ cycle ∈ before ++ (first :: between ++ last :: after), ∀ item ∈ cycle.items,
        effective created initial item.task.taskId < cycle.now) →
      ∀ served waiting, first.selects text served → last.selects text served →
        (∀ cycle ∈ first :: between ++ [last], cycle.contends text waiting) →
        ∃ cycle ∈ first :: between ++ [last], cycle.selects text waiting :=
  ⟨fun _ _ _ => ⟨fun _ => mem_plan_ids, plan_planned⟩,
    fun _ _ _ _ _ _ _ stamped later past _ _ one two contends => selected_between stamped later past one two contends⟩

end Fairness

def plainText : CaseMapping := { lower := id, casefold := id }

/-- A recovering task without any evidence, which is to be reconciled. -/
def recoveringTask (taskId : String) (lastScheduledAt : Option Time) : TaskOrchestrationInput :=
  { task := { taskId, state := .recovering }
    assessment := { state := .suspect, reason := "", confidence := "" }
    lastScheduledAt }

def pairCycle (now : Time) (a b : Option Time) : Cycle :=
  { now, policy := {}, items := [recoveringTask "a" a, recoveringTask "b" b] }

/-- With one slot, two tasks take turns. -/
theorem orchestration_fair_turns :
    ∃ cycle ∈ [pairCycle 10 none none, pairCycle 20 (some 10) none, pairCycle 30 (some 10) (some 20)],
      cycle.selects plainText "b" :=
  (orchestration_fair plainText).2 (fun _ => 0) (fun _ => none) [] [pairCycle 20 (some 10) none] []
    (pairCycle 10 none none) (pairCycle 30 (some 10) (some 20))
    ⟨by decide +kernel, by decide +kernel, by decide +kernel, trivial⟩ (by decide +kernel) (by decide +kernel)
    "a" "b" (by decide +kernel) (by decide +kernel) (by unfold Cycle.contends; decide +kernel)

end WebSupervisor.Orchestration.Proofs
