import WebSupervisor.OverrunContinuation
import WebSupervisor.Proofs.ObservationHistory

/-! The start of the latest generating run, as the retained history shows it and
as it was. -/

namespace WebSupervisor.OverrunContinuation.Proofs
open Library Registry Registry.Proofs

abbrev Generating (sample : BrowserObservation) : Prop := sample.generating = some true

/-- The samples, oldest first, end in a run that `first` began, and in the idle
samples after it. -/
structure LatestRun (samples before : List BrowserObservation) (first : BrowserObservation)
    (run idle : List BrowserObservation) : Prop where
  split : samples = before ++ first :: (run ++ idle)
  generating : ∀ sample ∈ first :: run, Generating sample
  quiet : ∀ sample ∈ idle, ¬ Generating sample
  begins : ∀ sample ∈ before.getLast?, ¬ Generating sample

/-- The start of the most recent contiguous generating run of all samples. -/
def IsRunStart (samples : List BrowserObservation) : Option Time → Prop
  | none => ∀ sample ∈ samples, ¬ Generating sample
  | some start => ∃ before first run idle, LatestRun samples before first run idle ∧ start = first.observedAt

/-- The latest run began among the newest samples, if there is one. -/
def Retained (limit : Nat) (samples : List BrowserObservation) : Prop :=
  ∀ before first run idle, LatestRun samples before first run idle → (first :: (run ++ idle)).length ≤ limit

section Loop
variable {samples before run idle older rest : List BrowserObservation} {first : BrowserObservation} {value : Option Time}

private theorem generationStart_quiet (quiet : ∀ sample ∈ idle, ¬ Generating sample) :
    generationStart (idle ++ rest) = generationStart rest := by
  induction idle with
  | nil => rfl
  | cons sample idle ih =>
    obtain ⟨own, others⟩ := List.forall_mem_cons.mp quiet
    rw [List.cons_append, generationStart, if_neg own, ih others]

private theorem runStart_run {earliest : Time} (generating : ∀ sample ∈ run, Generating sample) (own : Generating first)
    (begins : ∀ sample ∈ rest.head?, ¬ Generating sample) :
    runStart earliest (run ++ first :: rest) = first.observedAt := by
  induction run generalizing earliest with
  | nil =>
    rw [List.nil_append, runStart, if_pos own]
    cases rest with
    | nil => rfl
    | cons sample rest => rw [runStart, if_neg (begins sample rfl)]
  | cons sample run ih =>
    obtain ⟨one, others⟩ := List.forall_mem_cons.mp generating
    rw [List.cons_append, runStart, if_pos one, ih others]

private theorem generationStart_run (generating : ∀ sample ∈ run, Generating sample) (own : Generating first)
    (begins : ∀ sample ∈ rest.head?, ¬ Generating sample) :
    generationStart (run ++ first :: rest) = some first.observedAt := by
  cases run with
  | nil =>
    rw [List.nil_append, generationStart, if_pos own]
    cases rest with
    | nil => rfl
    | cons sample rest => rw [runStart, if_neg (begins sample rfl)]
  | cons sample run =>
    obtain ⟨one, others⟩ := List.forall_mem_cons.mp generating
    rw [List.cons_append, generationStart, if_pos one, runStart_run others own begins]

private theorem LatestRun.found (latest : LatestRun samples before first run idle) (extra : Nat) :
    generationStart (idle.reverse ++ run.reverse ++ first :: before.reverse.take extra) = some first.observedAt := by
  obtain ⟨own, others⟩ := List.forall_mem_cons.mp latest.generating
  rw [List.append_assoc, generationStart_quiet (fun sample member => latest.quiet sample (List.mem_reverse.mp member))]
  refine generationStart_run (fun sample member => others sample (List.mem_reverse.mp member)) own ?_
  intro sample head
  rw [List.head?_take] at head
  split at head
  · cases head
  · rw [List.head?_reverse] at head
    exact latest.begins sample head

private theorem LatestRun.reversed (latest : LatestRun samples before first run idle) :
    samples.reverse = idle.reverse ++ run.reverse ++ first :: before.reverse := by
  rw [latest.split]
  simp

/-- The start that the loop finds is the one of the list. -/
theorem IsRunStart.generationStart (start : IsRunStart samples value) : generationStart samples.reverse = value := by
  cases value with
  | none =>
    have quiet := @generationStart_quiet samples.reverse [] (fun sample member => start sample (List.mem_reverse.mp member))
    rwa [List.append_nil] at quiet
  | some time =>
    obtain ⟨before, first, run, idle, latest, rfl⟩ := start
    have found := latest.found before.length
    rwa [← List.length_reverse, List.take_length, ← latest.reversed] at found

/-- An idle sample at the end changes nothing. -/
theorem IsRunStart.rests (start : IsRunStart samples value) (quiet : ∀ sample ∈ rest, ¬ Generating sample) :
    IsRunStart (samples ++ rest) value := by
  cases value with
  | none =>
    intro sample member
    rcases List.mem_append.mp member with old | new
    · exact start sample old
    · exact quiet sample new
  | some time =>
    obtain ⟨before, first, run, idle, ⟨split, generating, calm, begins⟩, same⟩ := start
    refine ⟨before, first, run, idle ++ rest, ⟨by rw [split]; simp, generating, ?_, begins⟩, same⟩
    intro sample member
    rcases List.mem_append.mp member with old | new
    · exact calm sample old
    · exact quiet sample new

/-- More generating samples continue a run that is going on. -/
theorem IsRunStart.continues (start : IsRunStart samples value)
    (going : ∃ newest ∈ samples.getLast?, Generating newest) (more : ∀ sample ∈ rest, Generating sample) :
    IsRunStart (samples ++ rest) value := by
  obtain ⟨newest, last, active⟩ := going
  cases value with
  | none => exact absurd active (start newest (List.mem_of_getLast? last))
  | some time =>
    obtain ⟨before, first, run, idle, ⟨split, generating, calm, begins⟩, same⟩ := start
    have none : idle = [] := by
      cases later : idle.getLast? with
      | none => exact List.getLast?_eq_none_iff.mp later
      | some final =>
        have same : some final = some newest := by
          rw [← last, split, ← List.cons_append, ← List.append_assoc, List.getLast?_append, later]
          rfl
        cases same
        exact absurd active (calm newest (List.mem_of_getLast? later))
    subst none
    refine ⟨before, first, run ++ rest, [], ⟨by rw [split]; simp, ?_, by simp, begins⟩, same⟩
    intro sample member
    rw [← List.cons_append] at member
    rcases List.mem_append.mp member with old | new
    · exact generating sample old
    · exact more sample new

private theorem IsRunStart.starts {sample : BrowserObservation} (active : Generating sample)
    (quiet : ∀ newest ∈ samples.getLast?, ¬ Generating newest) :
    IsRunStart (samples ++ [sample]) (some sample.observedAt) :=
  ⟨samples, sample, [], [], ⟨rfl, List.forall_mem_singleton.mpr active, by simp, quiet⟩, rfl⟩

/-- Every list of samples has its start, or no run. -/
theorem exists_isRunStart (samples : List BrowserObservation) : ∃ value, IsRunStart samples value := by
  induction samples using List.reverseRecOn with
  | nil => exact ⟨none, fun sample impossible => nomatch impossible⟩
  | append_singleton samples sample ih =>
    obtain ⟨value, start⟩ := ih
    by_cases active : Generating sample
    · by_cases going : ∃ newest ∈ samples.getLast?, Generating newest
      · exact ⟨value, start.continues going (List.forall_mem_singleton.mpr active)⟩
      · push Not at going
        exact ⟨_, IsRunStart.starts active going⟩
    · exact ⟨value, start.rests (List.forall_mem_singleton.mpr active)⟩

private theorem runStart_mem (earliest : Time) (samples : List BrowserObservation) :
    runStart earliest samples = earliest ∨ ∃ sample ∈ samples, sample.observedAt = runStart earliest samples := by
  induction samples generalizing earliest with
  | nil => exact .inl rfl
  | cons sample older ih =>
    rw [runStart]
    split
    · rcases ih sample.observedAt with same | ⟨found, member, same⟩
      · exact .inr ⟨sample, List.mem_cons_self, same.symm⟩
      · exact .inr ⟨found, List.mem_cons_of_mem _ member, same⟩
    · exact .inl rfl

private theorem generationStart_mem {time : Time} (start : generationStart samples = some time) :
    ∃ sample ∈ samples, sample.observedAt = time := by
  induction samples with
  | nil => cases start
  | cons sample older ih =>
    rw [generationStart] at start
    split at start
    · cases start
      rcases runStart_mem sample.observedAt older with same | ⟨found, member, same⟩
      · exact ⟨sample, List.mem_cons_self, same.symm⟩
      · exact ⟨found, List.mem_cons_of_mem _ member, same⟩
    · obtain ⟨found, member, same⟩ := ih start
      exact ⟨found, List.mem_cons_of_mem _ member, same⟩

/-- The newest samples show the start exactly when it is among them. -/
theorem isRunStart_newest {limit : Nat} (increasing : Increasing BrowserObservation.observedAt samples) :
    IsRunStart samples (generationStart (samples.reverse.take limit)) ↔ Retained limit samples := by
  constructor
  · intro start before first run idle latest
    by_contra beyond
    have whole := start.generationStart
    have all := @IsRunStart.generationStart samples (some first.observedAt)
      ⟨before, first, run, idle, latest, rfl⟩
    rw [whole] at all
    obtain ⟨sample, member, same⟩ := generationStart_mem all
    -- What was read is newer than the first sample of the run.
    have newer : ∀ later ∈ run ++ idle, first.observedAt < later.observedAt := by
      rw [latest.split] at increasing
      exact (List.pairwise_cons.mp (List.pairwise_append.mp increasing).2.1).1
    have inside : sample ∈ run ++ idle := by
      have short : limit ≤ (idle.reverse ++ run.reverse).length := by simp at beyond ⊢; omega
      rw [latest.reversed, List.take_append_of_le_length short] at member
      have read := List.mem_of_mem_take member
      simp only [List.mem_append, List.mem_reverse] at read ⊢
      exact read.symm
    exact absurd same (ne_of_gt (newer sample inside))
  · intro retained
    obtain ⟨value, start⟩ := exists_isRunStart samples
    cases value with
    | none =>
      have quiet : ∀ sample ∈ samples.reverse.take limit, ¬ Generating sample := fun sample member =>
        start sample (List.mem_reverse.mp (List.mem_of_mem_take member))
      have none := @generationStart_quiet (samples.reverse.take limit) [] quiet
      rw [List.append_nil] at none
      rw [none]
      exact start
    | some time =>
      obtain ⟨before, first, run, idle, latest, rfl⟩ := start
      have long := retained before first run idle latest
      have taken : samples.reverse.take limit =
          idle.reverse ++ run.reverse ++ first :: before.reverse.take (limit - (idle.length + run.length + 1)) := by
        obtain ⟨extra, rfl⟩ := Nat.exists_eq_add_of_le long
        have count : (idle.reverse ++ run.reverse).length = run.length + idle.length := by simp; omega
        have rest : (first :: (run ++ idle)).length + extra = run.length + idle.length + (extra + 1) := by simp; omega
        rw [latest.reversed, rest, List.take_append, count, List.take_of_length_le (by omega), Nat.add_sub_cancel_left,
          List.take_succ_cons]
        congr 3
        omega
      rw [taken, latest.found]
      exact ⟨before, first, run, idle, latest, rfl⟩

end Loop

section Clock
variable {db : Database} {taskId workerId : String} {calls before more : List BrowserObservation}

/-- An open task with an active worker whose generation nothing continued. -/
structure Working (db : Database) (taskId workerId : String) : Prop where
  task : ∃ task, db.tasks.find? taskId = some task ∧ task.currentWorkerId = some workerId ∧
    task.state ≠ .completed ∧ task.state ≠ .abandoned
  worker : ∃ worker, db.workers.find? workerId = some worker ∧ worker.status = .active
  continued : ∀ attempt ∈ db.actionAttempts, effectiveContinue workerId attempt = false

/-- The anchor of the clock, if there is one. -/
def anchorAt (db : Database) (taskId : String) (policy : OverrunContinuationPolicy) (now : Time) : Option Time :=
  match overrunClock db taskId policy now with
  | .ok (some clock) => some clock.anchorAt
  | _ => none

/-- What the clock owes to the history: the start of the latest run of all
samples, an anchor that stands while a run goes on, and one that idle samples
do not move back. -/
structure AnchorLaw (db : Database) (taskId workerId : String) (calls : List BrowserObservation) : Prop where
  exact : ∀ before, before <+: calls →
    IsRunStart (observed workerId before) (latestObservedGenerationStartedAt (observeAll db before) workerId)
  steady : ∀ before more, before ++ more <+: calls →
    (∃ newest ∈ (observed workerId before).getLast?, Generating newest) →
    (∀ sample ∈ observed workerId more, Generating sample) → ∀ policy now later, ∃ anchor,
      anchorAt (observeAll db before) taskId policy now = some anchor ∧
      anchorAt (observeAll db (before ++ more)) taskId policy later = some anchor
  forward : ∀ before more, before ++ more <+: calls → (∀ sample ∈ observed workerId more, ¬ Generating sample) →
    ∀ policy now later, ∃ anchor moved,
      anchorAt (observeAll db before) taskId policy now = some anchor ∧
      anchorAt (observeAll db (before ++ more)) taskId policy later = some moved ∧ anchor ≤ moved

theorem observed_append : observed workerId (before ++ more) = observed workerId before ++ observed workerId more :=
  List.filter_append ..

private theorem watched_upTo (watched : Watched db workerId calls) (front : before <+: calls) :
    Watched db workerId before :=
  ⟨watched.named, watched.fresh, watched.increasing.sublist (front.sublist.filter _)⟩

/-- The value that is read is exact as long as the latest run is retained. -/
theorem latestObserved_exact (watched : Watched db workerId calls) :
    IsRunStart (observed workerId calls) (latestObservedGenerationStartedAt (observeAll db calls) workerId) ↔
      Retained observationRetentionPerEntity (observed workerId calls) := by
  have read : latestObservedGenerationStartedAt (observeAll db calls) workerId =
      generationStart ((observed workerId calls).reverse.take observationRetentionPerEntity) := by
    rw [← history_observed watched]
    rfl
  rw [read]
  exact isRunStart_newest watched.increasing

private theorem recordBrowserObservation_worker {worker : WorkerRecord} {call : BrowserObservation}
    (found : db.workers.find? workerId = some worker) :
    ∃ seen, (recordBrowserObservation db call).workers.find? workerId = some { worker with lastSeenAt := seen } := by
  show ∃ seen, (updateWorker db call.workerId _).workers.find? workerId = _
  unfold updateWorker
  cases present : db.workers.find? call.workerId with
  | none => exact ⟨worker.lastSeenAt, found⟩
  | some other =>
    obtain ⟨member, named⟩ := Table.find?_some.mp present
    have replaced := @Table.find?_replace _ _ _ _ db.workers { other with lastSeenAt := some call.observedAt }
      ⟨other, member, rfl⟩ workerId
    by_cases own : workerId = call.workerId
    · rw [if_pos (own.trans named.symm)] at replaced
      rw [own, present, Option.some.injEq] at found
      exact ⟨some call.observedAt, by rw [← found]; exact replaced⟩
    · rw [if_neg (fun same => own (same.trans named)), found] at replaced
      exact ⟨worker.lastSeenAt, replaced⟩

private theorem observeAll_worker {worker : WorkerRecord} (found : db.workers.find? workerId = some worker) :
    ∃ seen, (observeAll db calls).workers.find? workerId = some { worker with lastSeenAt := seen } := by
  unfold observeAll
  induction calls generalizing db worker with
  | nil => exact ⟨worker.lastSeenAt, found⟩
  | cons call calls ih =>
    obtain ⟨seen, kept⟩ := @recordBrowserObservation_worker db workerId worker call found
    exact @ih _ { worker with lastSeenAt := seen } kept

private theorem anchorAt_observed (working : Working db taskId workerId) (named : workerId ≠ "") :
    ∃ started, ∀ calls policy now, anchorAt (observeAll db calls) taskId policy now =
      some (laterOf started (latestObservedGenerationStartedAt (observeAll db calls) workerId)) := by
  obtain ⟨⟨task, found, current, unfinished, kept⟩, ⟨worker, registered, active⟩, continued⟩ := working
  have own : worker.workerId = workerId := (Table.find?_some.mp registered).2
  refine ⟨worker.startedAt, fun calls policy now => ?_⟩
  obtain ⟨seen, present⟩ := @observeAll_worker db workerId calls worker registered
  have stored : getTask (observeAll db calls) taskId = .ok task := by
    unfold getTask
    rw [observeAll_tables.1, found]
  have none : effectiveContinueAt (observeAll db calls) taskId workerId = .ok none := by
    unfold effectiveContinueAt actionAttempts
    rw [stored, observeAll_tables.2]
    have missing : ((List.insertionSort (fun first second : ActionAttempt => second.createdAt ≤ first.createdAt)
        (db.actionAttempts.rows.filter (·.taskId = taskId))).take (max 1 (min 200 200))).find?
          (effectiveContinue workerId) = none := by
      rw [List.find?_eq_none]
      intro attempt member
      have inside := (List.perm_insertionSort _ _).mem_iff.mp (List.mem_of_mem_take member)
      rw [continued attempt (List.mem_of_mem_filter inside)]
      decide
    simp only [bind, Except.bind, pure, Except.pure]
    rw [missing]
    rfl
  have unended : ¬ (task.state = .completed ∨ task.state = .abandoned ∨ workerId = "") := by
    simp [unfinished, kept, named]
  unfold anchorAt overrunClock getWorker
  simp only [stored, bind, Except.bind, current, Option.getD_some, if_neg unended, present, active, ne_eq, not_true,
    if_false, own, none]
  rfl

private theorem AnchorLaw.retained (law : AnchorLaw db taskId workerId calls) (watched : Watched db workerId calls)
    (front : before <+: calls) : Retained observationRetentionPerEntity (observed workerId before) :=
  (latestObserved_exact (watched_upTo watched front)).mp (law.exact before front)

/-- The whole law holds exactly when every latest run was retained. -/
theorem overrun_anchor_law (db : Database) (taskId workerId : String) (calls : List BrowserObservation)
    (working : Working db taskId workerId) (watched : Watched db workerId calls) :
    AnchorLaw db taskId workerId calls ↔
      ∀ before, before <+: calls → Retained observationRetentionPerEntity (observed workerId before) := by
  constructor
  · intro law before front
    exact law.retained watched front
  · intro retained
    have exact (before : List BrowserObservation) (front : before <+: calls) :=
      (latestObserved_exact (watched_upTo watched front)).mpr (retained before front)
    obtain ⟨started, anchored⟩ := anchorAt_observed working watched.named
    have same {before more : List BrowserObservation} (front : before ++ more <+: calls)
        (grown : ∀ value, IsRunStart (observed workerId before) value →
          IsRunStart (observed workerId (before ++ more)) value) :
        latestObservedGenerationStartedAt (observeAll db (before ++ more)) workerId =
          latestObservedGenerationStartedAt (observeAll db before) workerId := by
      have earlier := exact before ((List.prefix_append before more).trans front)
      exact (exact (before ++ more) front).generationStart.symm.trans (grown _ earlier).generationStart
    constructor
    · exact exact
    · intro before more front going generating policy now later
      have kept := same front (fun value start => by
        rw [observed_append]
        exact start.continues going generating)
      exact ⟨_, anchored before policy now, by rw [anchored, kept]⟩
    · intro before more front quiet policy now later
      have kept := same front (fun value start => by
        rw [observed_append]
        exact start.rests quiet)
      exact ⟨_, _, anchored before policy now, by rw [anchored, kept], le_refl _⟩

private theorem retained_short {limit : Nat} {samples : List BrowserObservation} (short : samples.length ≤ limit) :
    Retained limit samples := by
  intro before first run idle latest
  rw [latest.split, List.length_append] at short
  omega

end Clock

private def anchorWorker : WorkerRecord :=
  { workerId := "w", taskId := "t", conversationUrl := "https://chatgpt.com/c/1", status := .active, startedAt := 0 }

private def anchorDatabase : Database := { tasks := .single watchedTask, workers := .single anchorWorker }

private theorem anchorDatabase_working : Working anchorDatabase "t" "w" :=
  ⟨⟨watchedTask, rfl, rfl, by decide, by decide⟩, ⟨anchorWorker, rfl, rfl⟩, fun _ impossible => nomatch impossible⟩

private def turn (observedAt : Nat) (generating : Bool) : BrowserObservation :=
  { workerId := "w", observedAt, generating := some generating }

/-- A run of two samples and an idle one. -/
theorem overrun_anchor_law_turn : AnchorLaw anchorDatabase "t" "w" [turn 5 true, turn 6 true, turn 7 false] := by
  refine (overrun_anchor_law anchorDatabase "t" "w" _ anchorDatabase_working ⟨by decide, rfl, by decide +kernel⟩).mpr ?_
  intro before front
  exact retained_short (le_trans (List.length_filter_le _ _) (le_trans front.length_le (by decide)))

/-- One sample more than the table keeps, all of one run. -/
private def longRun : List BrowserObservation := (List.range (observationRetentionPerEntity + 1)).map (turn · true)

private theorem longRun_observed : observed "w" longRun = longRun := by
  refine List.filter_eq_self.mpr (fun sample member => ?_)
  obtain ⟨place, _, rfl⟩ := List.mem_map.mp member
  rfl

private theorem longRun_watched : Watched anchorDatabase "w" longRun := by
  refine ⟨by decide, rfl, ?_⟩
  rw [longRun_observed]
  refine List.pairwise_map.mpr (List.pairwise_lt_range.imp (fun earlier => ?_))
  exact Nat.cast_lt.mpr earlier

private theorem longRun_lost : ¬ Retained observationRetentionPerEntity longRun := by
  intro retained
  have first : longRun = [] ++ turn 0 true :: (longRun.tail ++ []) := by
    rw [longRun, List.range_succ_eq_map]
    simp
  have generating : ∀ sample ∈ longRun, Generating sample := by
    intro sample member
    obtain ⟨place, _, rfl⟩ := List.mem_map.mp member
    rfl
  have short := retained [] (turn 0 true) longRun.tail []
    ⟨first, fun sample member => generating sample (by rw [first]; simpa using member), by simp, by simp⟩
  have long : longRun.length = observationRetentionPerEntity + 1 := by simp [longRun]
  rw [first] at long
  simp only [List.nil_append] at long
  omega

/-- The table forgets the first sample of a long run, and the clock with it. -/
theorem overrun_anchor_moves : Working anchorDatabase "t" "w" ∧ Watched anchorDatabase "w" longRun ∧
    ¬ AnchorLaw anchorDatabase "t" "w" longRun := by
  refine ⟨anchorDatabase_working, longRun_watched, fun law => longRun_lost ?_⟩
  have kept := law.retained longRun_watched (List.prefix_refl longRun)
  rw [longRun_observed] at kept
  exact kept

end WebSupervisor.OverrunContinuation.Proofs
