import WebSupervisor.TimeoutRecovery

/-! What the retained history of a worker tells about all of its observations,
and the latch of stale error banners. -/

namespace WebSupervisor.Registry.Proofs
open Library

/-- The database after a sequence of `record_browser_observation` calls. -/
def observeAll (db : Database) (calls : List BrowserObservation) : Database :=
  calls.foldl recordBrowserObservation db

/-- The observations of one worker among the calls. -/
def observed (workerId : String) (calls : List BrowserObservation) : List BrowserObservation :=
  samples BrowserObservation.workerId workerId calls

/-- The calls are the whole history of the worker, which came in order of time.
There may be calls for other workers between them. -/
structure Watched (db : Database) (workerId : String) (calls : List BrowserObservation) : Prop where
  named : workerId ≠ ""
  fresh : observed workerId db.browserObservations = []
  increasing : Increasing BrowserObservation.observedAt (observed workerId calls)

section Recorded
variable {db : Database} {workerId : String} {calls : List BrowserObservation}

private theorem updateWorker_tables (change : WorkerRecord → WorkerRecord) :
    (updateWorker db workerId change).tasks = db.tasks ∧
      (updateWorker db workerId change).actionAttempts = db.actionAttempts := by
  unfold updateWorker
  split
  · exact ⟨rfl, rfl⟩
  · exact ⟨rfl, rfl⟩

theorem observeAll_tables : (observeAll db calls).tasks = db.tasks ∧
    (observeAll db calls).actionAttempts = db.actionAttempts := by
  unfold observeAll
  induction calls generalizing db with
  | nil => exact ⟨rfl, rfl⟩
  | cons call calls ih =>
    rw [List.foldl_cons]
    obtain ⟨tasks, attempts⟩ := @ih (recordBrowserObservation db call)
    obtain ⟨sameTasks, sameAttempts⟩ := @updateWorker_tables db call.workerId
      (fun worker => { worker with lastSeenAt := some call.observedAt })
    exact ⟨tasks.trans sameTasks, attempts.trans sameAttempts⟩

private theorem observeAll_rows : (observeAll db calls).browserObservations =
    calls.foldl (record BrowserObservation.workerId BrowserObservation.observedAt observationRetentionPerEntity)
      db.browserObservations := by
  unfold observeAll
  induction calls generalizing db with
  | nil => rfl
  | cons call calls ih =>
    rw [List.foldl_cons, List.foldl_cons, ih]
    rfl

/-- The history that is read is the newest part of the whole one. -/
theorem history_observed (watched : Watched db workerId calls) :
    browserObservationHistory (observeAll db calls) (some workerId) observationRetentionPerEntity =
      (observed workerId calls).reverse.take observationRetentionPerEntity := by
  obtain ⟨named, fresh, increasing⟩ := watched
  have kept := @samples_recorded _ _ _ _ _ BrowserObservation.workerId BrowserObservation.observedAt workerId
    observationRetentionPerEntity db.browserObservations calls fresh increasing
  rw [← observeAll_rows] at kept
  have sorted : Increasing BrowserObservation.observedAt
      (samples BrowserObservation.workerId workerId (observeAll db calls).browserObservations) := by
    rw [kept]
    exact increasing.sublist (List.drop_sublist _ _)
  have limit : (max 1 (min (observationRetentionPerEntity : Int) observationRetentionPerEntity)).toNat =
      observationRetentionPerEntity := by decide
  simp only [browserObservationHistory, Option.getD_some, named, if_false, limit]
  rw [newest_increasing sorted, kept, observed, List.rtake_eq_reverse_take_reverse, List.reverse_reverse, List.take_take, Nat.min_self]

end Recorded

/-- A running task with a worker. -/
def watchedTask : TaskRecord := { taskId := "t", state := .running, currentWorkerId := some "w" }

end WebSupervisor.Registry.Proofs

namespace WebSupervisor.TimeoutRecovery.Proofs
open Library Registry Registry.Proofs Dispatcher

variable {lowercase : String → String} {marker : String} {full : Bool}

/-- The observation shows the error. -/
def Shows (lowercase : String → String) (marker : String) (observed : BrowserObservation) : Prop :=
  normalizedVisibleError lowercase (some observed) = some marker

section Loop
variable {front rest : List BrowserObservation}

private theorem shadowedIn_shows {sample : BrowserObservation} (shows : Shows lowercase marker sample) :
    shadowedIn lowercase marker full (sample :: rest) =
      if sample.generating = some true then true else shadowedIn lowercase marker full rest := by
  unfold Shows at shows
  rw [shadowedIn, if_neg (by rw [shows]; simp)]

/-- Idle samples of the same error are passed. -/
theorem shadowedIn_pass (idle : ∀ sample ∈ front, Shows lowercase marker sample ∧ sample.generating ≠ some true) :
    shadowedIn lowercase marker full (front ++ rest) = shadowedIn lowercase marker full rest := by
  induction front with
  | nil => rfl
  | cons sample front ih =>
    obtain ⟨⟨shows, quiet⟩, others⟩ := List.forall_mem_cons.mp idle
    rw [List.cons_append, shadowedIn_shows shows, if_neg quiet, ih others]

/-- A generating sample behind samples of its own error closes the gate. -/
theorem shadowedIn_active {active : BrowserObservation} (same : ∀ sample ∈ front, Shows lowercase marker sample)
    (shows : Shows lowercase marker active) (generating : active.generating = some true) :
    shadowedIn lowercase marker full (front ++ active :: rest) = true := by
  induction front with
  | nil => rw [List.nil_append, shadowedIn_shows shows, if_pos generating]
  | cons sample front ih =>
    obtain ⟨own, others⟩ := List.forall_mem_cons.mp same
    rw [List.cons_append, shadowedIn_shows own]
    split
    · rfl
    · exact ih others

/-- A history that is one episode to its end gives the answer of its end, or
closes the gate before. -/
theorem shadowedIn_full (same : ∀ sample ∈ rest, Shows lowercase marker sample) :
    shadowedIn lowercase marker true rest = true := by
  induction rest with
  | nil => rfl
  | cons sample rest ih =>
    obtain ⟨own, others⟩ := List.forall_mem_cons.mp same
    rw [shadowedIn_shows own]
    split
    · rfl
    · exact ih others

end Loop

section Latch
variable {db : Database} {taskId workerId : String} {task : TaskRecord} {calls : List BrowserObservation}
  {newest : BrowserObservation}

private theorem errorShadowed_eq (found : db.tasks.find? taskId = some task) (current : task.currentWorkerId = some workerId)
    (watched : Watched db workerId calls) (last : newest ∈ observed workerId calls) (shows : Shows lowercase marker newest) :
    errorShadowedByActiveGeneration lowercase (observeAll db calls) taskId (some newest) =
      .ok (shadowedIn lowercase marker
        (observationRetentionPerEntity ≤ ((observed workerId calls).reverse.take observationRetentionPerEntity).length)
        ((observed workerId calls).reverse.take observationRetentionPerEntity)) := by
  have own : newest.workerId = workerId := by simpa using (List.mem_filter.mp last).2
  have stored : getTask (observeAll db calls) taskId = .ok task := by
    unfold getTask
    rw [observeAll_tables.1, found]
  unfold Shows at shows
  unfold errorShadowedByActiveGeneration
  rw [shows]
  simp only [stored, bind, Except.bind, current, Option.getD_some, own, watched.named, ne_eq, not_true, or_self, if_false,
    history_observed watched]
  rfl

private theorem shadowed_latched {older later : List BrowserObservation} {active : BrowserObservation}
    (shows : Shows lowercase marker active) (generating : active.generating = some true)
    (same : ∀ sample ∈ later, Shows lowercase marker sample) (limit : Nat) :
    shadowedIn lowercase marker (limit ≤ (((older ++ active :: later).reverse).take limit).length)
      ((older ++ active :: later).reverse.take limit) = true := by
  have reversed : (older ++ active :: later).reverse = later.reverse ++ active :: older.reverse := by simp
  have marked : ∀ sample ∈ later.reverse, Shows lowercase marker sample :=
    fun sample member => same sample (List.mem_reverse.mp member)
  rw [reversed]
  by_cases inside : later.length < limit
  · obtain ⟨extra, rfl⟩ := Nat.exists_eq_add_of_lt inside
    have taken : (later.reverse ++ active :: older.reverse).take (later.length + extra + 1) =
        later.reverse ++ active :: older.reverse.take extra := by
      rw [List.take_append, List.take_of_length_le (by simp; omega), List.length_reverse, Nat.add_assoc,
        Nat.add_sub_cancel_left, List.take_succ_cons]
    rw [taken]
    exact shadowedIn_active marked shows generating
  · -- The generating sample has been deleted, and what is left is all of one error.
    have taken : (later.reverse ++ active :: older.reverse).take limit = later.reverse.take limit := by
      rw [List.take_append_of_le_length (by simp; omega)]
    have long : decide (limit ≤ ((later.reverse ++ active :: older.reverse).take limit).length) = true := by
      simp
      omega
    rw [long, taken]
    exact shadowedIn_full (fun sample member => marked sample (List.mem_of_mem_take member))

private theorem shadowed_fresh {older episode : List BrowserObservation}
    (idle : ∀ sample ∈ episode, Shows lowercase marker sample ∧ sample.generating ≠ some true)
    (different : ∀ sample ∈ older.getLast?, ¬ Shows lowercase marker sample) {limit : Nat}
    (short : episode.length < limit) :
    shadowedIn lowercase marker (limit ≤ (((older ++ episode).reverse).take limit).length)
      ((older ++ episode).reverse.take limit) = false := by
  obtain ⟨extra, rfl⟩ := Nat.exists_eq_add_of_lt short
  have passed : ∀ sample ∈ episode.reverse, Shows lowercase marker sample ∧ sample.generating ≠ some true :=
    fun sample member => idle sample (List.mem_reverse.mp member)
  have taken : (older ++ episode).reverse.take (episode.length + extra + 1) =
      episode.reverse ++ older.reverse.take (extra + 1) := by
    rw [List.reverse_append, List.take_append, List.take_of_length_le (by simp; omega), List.length_reverse,
      Nat.add_assoc, Nat.add_sub_cancel_left]
  rw [taken, shadowedIn_pass passed]
  cases before : older.reverse with
  | nil => simp [shadowedIn]
  | cons sample rest =>
    have last : older.getLast? = some sample := by rw [← List.head?_reverse, before]; rfl
    have other : normalizedVisibleError lowercase (some sample) ≠ some marker := different sample last
    rw [List.take_succ_cons, shadowedIn, if_pos other]

private theorem actionAttempts_found (found : db.tasks.find? taskId = some task) (limit : Nat) :
    ∃ attempts, actionAttempts (observeAll db calls) taskId limit = .ok attempts := by
  unfold actionAttempts getTask
  rw [observeAll_tables.1, found]
  exact ⟨_, rfl⟩

private theorem gate_closed (found : db.tasks.find? taskId = some task) {plan : DispatchPlan} (named : plan.taskId = taskId)
    {browser : Option BrowserObservation}
    (shadowed : errorShadowedByActiveGeneration lowercase (observeAll db calls) taskId browser = .ok true)
    (policy : TimeoutRecoveryPolicy) (now : Time) :
    ∃ gated, gateTimeoutDispatchPlan lowercase (observeAll db calls) plan browser policy now = .ok gated ∧
      gated.candidateReady = false ∧ gated.wouldDispatch = false := by
  have unchanged : ∃ value, acknowledgedStateIsUnchanged (observeAll db calls) taskId browser = .ok value := by
    unfold acknowledgedStateIsUnchanged
    dsimp only
    split
    · exact ⟨_, rfl⟩
    · obtain ⟨attempts, read⟩ := @actionAttempts_found db taskId task calls found 20
      rw [read]
      dsimp only [bind, Except.bind]
      split
      · exact ⟨_, rfl⟩
      · exact ⟨_, rfl⟩
  obtain ⟨acknowledged, first⟩ := unchanged
  obtain ⟨recent, second⟩ := @actionAttempts_found db taskId task calls found 1
  have blocked (elapsed : Option Time) :
      blockersOf (timeoutChecks lowercase browser policy acknowledged true elapsed) ≠ [] := by
    rw [ne_eq, blockersOf_eq_nil]
    intro passed
    simp [timeoutChecks] at passed
  refine ⟨gatedPlan plan (timeoutChecks lowercase browser policy acknowledged true
    (recent.head?.map (fun attempt => now - attempt.createdAt))), ?_, ?_, ?_⟩
  · unfold gateTimeoutDispatchPlan
    rw [named, first, shadowed, second]
    rfl
  · simp [gatedPlan, blocked]
  · simp [gatedPlan, blocked]

/-- The latch of a stale error banner: it stays closed from the moment the error
was seen beside a generation, and is open for an error that never was. -/
theorem stale_error_latch (lowercase : String → String) (db : Database) (taskId workerId : String) (task : TaskRecord)
    (calls : List BrowserObservation) (newest : BrowserObservation) (marker : String)
    (found : db.tasks.find? taskId = some task) (current : task.currentWorkerId = some workerId)
    (watched : Watched db workerId calls) (last : (observed workerId calls).getLast? = some newest) :
    (∀ older active later, observed workerId calls = older ++ active :: later → Shows lowercase marker active →
      active.generating = some true → (∀ sample ∈ later, Shows lowercase marker sample) →
      errorShadowedByActiveGeneration lowercase (observeAll db calls) taskId (some newest) = .ok true ∧
      ∀ (plan : DispatchPlan) (policy : TimeoutRecoveryPolicy) (now : Time), plan.taskId = taskId →
        ∃ gated, gateTimeoutDispatchPlan lowercase (observeAll db calls) plan (some newest) policy now = .ok gated ∧
          gated.candidateReady = false ∧ gated.wouldDispatch = false) ∧
    (∀ older episode, observed workerId calls = older ++ episode → Shows lowercase marker newest →
      (∀ sample ∈ episode, Shows lowercase marker sample ∧ sample.generating ≠ some true) →
      (∀ sample ∈ older.getLast?, ¬ Shows lowercase marker sample) →
      episode.length < observationRetentionPerEntity →
      errorShadowedByActiveGeneration lowercase (observeAll db calls) taskId (some newest) = .ok false) := by
  have member : newest ∈ observed workerId calls := List.mem_of_getLast? last
  constructor
  · intro older active later split shows generating same
    have own : Shows lowercase marker newest := by
      rw [split, List.getLast?_append_cons] at last
      rcases List.mem_cons.mp (List.mem_of_getLast? last) with rfl | behind
      · exact shows
      · exact same newest behind
    have shadowed : errorShadowedByActiveGeneration lowercase (observeAll db calls) taskId (some newest) = .ok true := by
      rw [errorShadowed_eq found current watched member own, split, shadowed_latched shows generating same]
    exact ⟨shadowed, fun plan policy now named => gate_closed found named shadowed policy now⟩
  · intro older episode split own idle different short
    rw [errorShadowed_eq found current watched member own, split, shadowed_fresh idle different short]

end Latch

private def latchDatabase : Database := { tasks := .single watchedTask }

private def banner (observedAt : Time) (generating : Bool) : BrowserObservation :=
  { workerId := "w", observedAt, generating := some generating, visibleError := some " Message delivery  timed out" }

/-- A banner that stood beside a generation stays shadowed; one that came after
a clear page does not. -/
theorem stale_error_latch_banner :
    errorShadowedByActiveGeneration lower (observeAll latchDatabase [banner 1 true, banner 2 false]) "t"
      (some (banner 2 false)) = .ok true ∧
    errorShadowedByActiveGeneration lower
      (observeAll latchDatabase [{ workerId := "w", observedAt := 1, generating := some true }, banner 2 false]) "t"
      (some (banner 2 false)) = .ok false := by
  have shown (observedAt : Time) (generating : Bool) :
      Shows lower "message delivery timed out" (banner observedAt generating) := by
    show some (" ".intercalate (splitSpace (lower (strip " Message delivery  timed out")))) = _
    decide +kernel
  constructor
  · refine ((stale_error_latch lower latchDatabase "t" "w" watchedTask [banner 1 true, banner 2 false] (banner 2 false)
      "message delivery timed out" rfl rfl ⟨by decide, rfl, by decide +kernel⟩ rfl).1 [] (banner 1 true) [banner 2 false]
      rfl (shown 1 true) rfl ?_).1
    exact List.forall_mem_singleton.mpr (shown 2 false)
  · refine (stale_error_latch lower latchDatabase "t" "w" watchedTask
      [{ workerId := "w", observedAt := 1, generating := some true }, banner 2 false] (banner 2 false)
      "message delivery timed out" rfl rfl ⟨by decide, rfl, by decide +kernel⟩ rfl).2
      [{ workerId := "w", observedAt := 1, generating := some true }] [banner 2 false] rfl (shown 2 false) ?_ ?_ (by decide)
    · exact List.forall_mem_singleton.mpr ⟨shown 2 false, by decide⟩
    · rintro sample ⟨⟩
      show ¬ (none = some _)
      decide

end WebSupervisor.TimeoutRecovery.Proofs
