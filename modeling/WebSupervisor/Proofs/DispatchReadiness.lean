import WebSupervisor.Proofs.ReconcileFence
import WebSupervisor.TimeoutRecovery

/-! What a plan that would dispatch says about the two samples it was made from. -/

namespace WebSupervisor.Dispatcher.Proofs
open Library Registry TimeoutRecovery Reconcile.Proofs

variable {κ : Type} {lowercase : String → String} {encoding : JsonEncoding κ} {task : TaskRecord}
  {policy : DispatchPolicy} {now : Time}

/-- The session of the task is active, and nothing of it is under way. -/
structure SessionIdle (task : TaskRecord) (lsm : LsmFacts) : Prop where
  own : lsm.sessionId = task.lsmSessionId
  active : lsm.sessionStatus = some "active"
  calls : lsm.inFlightCalls = 0
  jobs : lsm.activeJobs = 0
  continuation : lsm.continuationPending ≠ some true

/-- The current worker is registered as active, with an address. -/
structure WorkerActive (task : TaskRecord) (facts : TaskFacts) (registered : String) : Prop where
  current : facts.currentWorkerId = task.currentWorkerId
  active : facts.registeredWorkerStatus = some .active
  url : facts.registeredWorkerUrl = some registered
  present : registered ≠ ""

/-- The page of the current worker shows the registered address, with a
composer, and rests. -/
structure PageIdle (lowercase : String → String) (task : TaskRecord) (policy : DispatchPolicy) (now : Time)
    (registered : String) (browser : BrowserFacts) : Prop where
  own : some browser.workerId = task.currentWorkerId
  shown : ∃ address, normalizeUrl lowercase (browser.url.getD "") = .ok address ∧
    normalizeUrl lowercase registered = .ok address
  resting : browser.generating ≠ some true
  composer : browser.composerPresent = some true ∨ browser.sendButtonReady = some true
  quiet : ∃ changed, browser.lastDomChangeAt = some changed ∧ max 0 policy.minDomQuietS ≤ now - changed

/-- The facts of a record show an idle world. -/
structure ShowsIdle (lowercase : String → String) (task : TaskRecord) (policy : DispatchPolicy) (now : Time)
    (shown : FenceMaterial) : Prop where
  session : ∃ lsm, shown.lsm = some lsm ∧ SessionIdle task lsm
  worker : ∃ facts registered browser, shown.task = some facts ∧ WorkerActive task facts registered ∧
    shown.browser = some browser ∧ PageIdle lowercase task policy now registered browser

section Plan
variable {previous current : ReconciliationRecord} {plan : DispatchPlan}

private theorem continuePlan_ready
    (planned : continuePlan lowercase task (some previous) (some current) policy now = .ok plan)
    (ready : plan.candidateReady = true) :
    ∃ observed, browserChecks lowercase task policy now current.snapshot = .ok observed ∧
      current.snapshot.browser ≠ none ∧
      ∀ check ∈ currentChecks task (some current) policy now ++ pairChecks (some previous) (some current) policy now ++
        lsmChecks task current.snapshot ++ workerChecks current.snapshot ++ observed ++
        networkChecks policy now current.snapshot, check.passed = true := by
  unfold continuePlan at planned
  simp only [Option.map_some, Option.getD_some] at planned
  rw [bind_eq_ok] at planned
  obtain ⟨observed, read, made⟩ := planned
  cases made
  simp only [Bool.and_eq_true, List.isEmpty_iff, blockersOf_eq_nil, decide_eq_true_eq] at ready
  refine ⟨observed, read, fun missing => ?_, ready.1⟩
  rw [if_pos missing] at ready
  exact absurd ready.2 (by decide)

private theorem continuePlan_passed {observed : List Check}
    (read : browserChecks lowercase task policy now current.snapshot = .ok observed)
    (present : current.snapshot.browser ≠ none)
    (passed : ∀ check ∈ currentChecks task (some current) policy now ++
      pairChecks (some previous) (some current) policy now ++ lsmChecks task current.snapshot ++
      workerChecks current.snapshot ++ observed ++ networkChecks policy now current.snapshot, check.passed = true) :
    ∃ plan, continuePlan lowercase task (some previous) (some current) policy now = .ok plan ∧
      plan.taskId = task.taskId ∧ plan.candidateReady = true ∧ plan.transportEnabled = policy.transportEnabled ∧
      plan.blockers = [] := by
  have none := blockersOf_eq_nil.mpr passed
  unfold continuePlan
  simp only [Option.map_some, Option.getD_some, read, bind, Except.bind, none, if_neg present]
  exact ⟨_, rfl, rfl, rfl, rfl, rfl⟩

private theorem lsmChecks_passed (passed : ∀ check ∈ lsmChecks task current.snapshot, check.passed = true) :
    ∃ lsm, (fenceMaterial current.snapshot).lsm = some lsm ∧ SessionIdle task lsm := by
  simp only [lsmChecks, List.forall_mem_cons, decide_eq_true_eq] at passed
  obtain ⟨present, active, calls, jobs, continuation, _⟩ := passed
  cases seen : current.snapshot.lsm with
  | none => simp [seen] at present
  | some lsm =>
    simp only [seen, Option.map_some, Option.any_some, Option.all_some, Option.bind_some, decide_eq_true_eq]
      at present active calls jobs continuation
    exact ⟨lsm.facts, by simp [fenceMaterial, seen], present, active, calls, jobs, continuation⟩

private theorem workerChecks_passed (passed : ∀ check ∈ workerChecks current.snapshot, check.passed = true)
    {facts : TaskFacts} (known : current.snapshot.task = some facts) (own : facts.currentWorkerId = task.currentWorkerId) :
    WorkerActive task facts (registeredUrl current.snapshot) := by
  simp only [workerChecks, List.forall_mem_cons, decide_eq_true_eq, known, Option.bind_some] at passed
  obtain ⟨active, present, _⟩ := passed
  refine ⟨own, active, ?_, present⟩
  simp only [registeredUrl, known, Option.bind_some] at present ⊢
  cases url : facts.registeredWorkerUrl with
  | none => simp [url] at present
  | some url => rfl

private theorem urlMatches_true {browser : BrowserFacts}
    (shown : urlMatches lowercase current.snapshot browser = .ok true) :
    ∃ address, normalizeUrl lowercase (browser.url.getD "") = .ok address ∧
      normalizeUrl lowercase (registeredUrl current.snapshot) = .ok address := by
  unfold urlMatches at shown
  split at shown
  · cases shown
  · rw [bind_eq_ok] at shown
    obtain ⟨address, read, rest⟩ := shown
    rw [bind_eq_ok] at rest
    obtain ⟨registered, normal, equal⟩ := rest
    have same : decide (address = registered) = true := Except.ok.inj equal
    rw [decide_eq_true_eq] at same
    exact ⟨address, read, same ▸ normal⟩

private theorem browserChecks_passed {observed : List Check}
    (read : browserChecks lowercase task policy now current.snapshot = .ok observed)
    (passed : ∀ check ∈ observed, check.passed = true) (present : current.snapshot.browser ≠ none) :
    ∃ browser, (fenceMaterial current.snapshot).browser = some browser ∧
      PageIdle lowercase task policy now (registeredUrl current.snapshot) browser := by
  cases seen : current.snapshot.browser with
  | none => exact absurd seen present
  | some sampled =>
    obtain ⟨observedAt, browser⟩ := sampled
    simp only [browserChecks, seen] at read
    rw [bind_eq_ok] at read
    obtain ⟨matching, shown, made⟩ := read
    cases made
    simp only [List.forall_mem_cons, decide_eq_true_eq] at passed
    obtain ⟨own, same, _, resting, composer, quiet, _⟩ := passed
    subst same
    refine ⟨browser, by simp [fenceMaterial, seen], own, urlMatches_true shown, resting, composer, ?_⟩
    simpa [Option.any_eq_true] using quiet

/-- What the records of a ready plan have in common, and what the current one
shows. -/
structure PairReady (task : TaskRecord) (policy : DispatchPolicy) (now : Time)
    (previous current : ReconciliationRecord) : Prop where
  budget : task.recoveryAttempts < task.maxRecoveryAttempts
  distinct : previous.reconcileId ≠ current.reconcileId
  previousAge : 0 ≤ now - previous.createdAt ∧ now - previous.createdAt ≤ max 1 policy.maxReconciliationAgeS
  currentAge : 0 ≤ now - current.createdAt ∧ now - current.createdAt ≤ max 1 policy.maxReconciliationAgeS
  separation : max 0 policy.minReconciliationSeparationS ≤ current.createdAt - previous.createdAt

private theorem currentChecks_passed
    (passed : ∀ check ∈ currentChecks task (some current) policy now, check.passed = true) :
    task.recoveryAttempts < task.maxRecoveryAttempts ∧ fresh now current.createdAt policy.maxReconciliationAgeS = true ∧
      current.currentWorkerId = task.currentWorkerId := by
  simp only [currentChecks, List.cons_append, List.nil_append, List.forall_mem_cons, decide_eq_true_eq] at passed
  obtain ⟨budget, _, young, own, _⟩ := passed
  exact ⟨budget, young, own⟩

private theorem pairChecks_passed :
    (∀ check ∈ pairChecks (some previous) (some current) policy now, check.passed = true) ↔
      previous.reconcileId ≠ current.reconcileId ∧ fresh now previous.createdAt policy.maxReconciliationAgeS = true ∧
      max 0 policy.minReconciliationSeparationS ≤ current.createdAt - previous.createdAt ∧
      fenceMatches previous current = true := by
  simp [pairChecks, both]

/-- A ready plan has two records behind one fence, and an idle world in the
current one. -/
theorem buildDispatchPlan_ready {recommendation : RecoveryRecommendation}
    (planned : buildDispatchPlan lowercase task (some previous) (some current) policy now recommendation = .ok plan)
    (ready : plan.candidateReady = true) {facts : TaskFacts} (known : current.snapshot.task = some facts)
    (own : facts.currentWorkerId = current.currentWorkerId) :
    PairReady task policy now previous current ∧ fenceMatches previous current = true ∧
      ShowsIdle lowercase task policy now (fenceMaterial current.snapshot) := by
  unfold buildDispatchPlan at planned
  dsimp only at planned
  split at planned
  next =>
    cases planned
    cases ready
  next =>
    obtain ⟨observed, read, present, passed⟩ := continuePlan_ready planned ready
    simp only [List.forall_mem_append] at passed
    obtain ⟨⟨⟨⟨⟨currents, pair⟩, session⟩, worker⟩, page⟩, _⟩ := passed
    obtain ⟨budget, young, same⟩ := currentChecks_passed currents
    obtain ⟨distinct, older, apart, fenced⟩ := pairChecks_passed.mp pair
    simp only [fresh, decide_eq_true_eq] at young older
    obtain ⟨browser, shown, idle⟩ := browserChecks_passed read page present
    exact ⟨⟨budget, distinct, older, young, apart⟩, fenced, lsmChecks_passed session, facts, registeredUrl current.snapshot,
      browser, known, workerChecks_passed worker known (own.trans same), shown, idle⟩

end Plan

section Gates
variable {plan gated : DispatchPlan} {attempt : Option ActionAttempt} {db : Database} {taskId : String}

/-- The first gate lets a plan through only when nothing is unresolved. -/
theorem applyUnresolvedActionGate_ready (ready : (applyUnresolvedActionGate plan attempt).candidateReady = true) :
    plan.candidateReady = true ∧ attempt.filter (fun attempt => attempt.state.Unresolved) = none := by
  unfold applyUnresolvedActionGate at ready
  split at ready
  next resolved =>
    refine ⟨?_, resolved⟩
    split at ready
    next => exact ready
    next => exact ready
  next => cases ready

theorem applyUnresolvedActionGate_dispatch (ready : (applyUnresolvedActionGate plan attempt).wouldDispatch = true) :
    plan.wouldDispatch = true := by
  unfold applyUnresolvedActionGate at ready
  split at ready
  next =>
    split at ready
    next => exact ready
    next => exact ready
  next => cases ready

/-- The second gate lets a plan through only when it was ready before. -/
theorem gateTimeoutDispatchPlan_ready {browser : Option BrowserObservation} {policy : TimeoutRecoveryPolicy} {now : Time}
    (passed : gateTimeoutDispatchPlan lowercase db plan browser policy now = .ok gated) :
    (gated.candidateReady = true → plan.candidateReady = true) ∧
      (gated.wouldDispatch = true → plan.candidateReady = true ∧ plan.transportEnabled = true) := by
  unfold gateTimeoutDispatchPlan at passed
  simp only [bind_eq_ok] at passed
  obtain ⟨acknowledged, _, shadowed, _, recent, _, made⟩ := passed
  cases made
  simp only [gatedPlan, Bool.and_eq_true]
  exact ⟨fun ready => ready.1, fun ready => ⟨ready.1.1, ready.2⟩⟩

private theorem unresolvedActionAttempt_none (read : unresolvedActionAttempt db taskId = .ok attempt)
    (resolved : attempt.filter (fun attempt => attempt.state.Unresolved) = none) :
    ∀ stored ∈ db.actionAttempts, stored.taskId = taskId → ¬ stored.state.Unresolved := by
  unfold unresolvedActionAttempt at read
  simp only [bind_eq_ok] at read
  obtain ⟨_, _, found⟩ := read
  cases found
  have none : findUnresolved db taskId = none := by
    cases found : findUnresolved db taskId with
    | none => rfl
    | some open' =>
      have matching := List.find?_some found
      simp only [decide_eq_true_eq] at matching
      rw [found, Option.filter_some, if_pos (decide_eq_true matching.2)] at resolved
      cases resolved
  intro stored member own unresolved
  have other := List.find?_eq_none.mp none stored member
  simp only [decide_eq_true_eq] at other
  exact other ⟨own, unresolved⟩

end Gates

/-- A plan that would dispatch after both gates has a stable and idle world in
both of its records, and no gate makes a plan ready. -/
theorem ready_plan_idle_twice (lowercase : String → String) (encoding : JsonEncoding κ) (task : TaskRecord)
    (recommendation : RecoveryRecommendation) (policy : DispatchPolicy) (now : Time) (first second : ObservedWorld κ)
    (firstStamp secondStamp : RecordStamp)
    (discerned : digestJson (encoding.material (fenceMaterial (first.snapshot encoding))) =
        digestJson (encoding.material (fenceMaterial (second.snapshot encoding))) →
      fenceMaterial (first.snapshot encoding) = fenceMaterial (second.snapshot encoding)) :
    let previous := buildReconciliationRecord encoding firstStamp first
    let current := buildReconciliationRecord encoding secondStamp second
    (∀ plan attempt gated db browser timeoutPolicy later,
      buildDispatchPlan lowercase task (some previous) (some current) policy now recommendation = .ok plan →
      unresolvedActionAttempt db task.taskId = .ok attempt →
      gateTimeoutDispatchPlan lowercase db (applyUnresolvedActionGate plan attempt) browser timeoutPolicy later = .ok gated →
      gated.wouldDispatch = true →
      PairReady task policy now previous current ∧
      ShowsIdle lowercase task policy now (fenceMaterial previous.snapshot) ∧
      ShowsIdle lowercase task policy now (fenceMaterial current.snapshot) ∧
      ∀ stored ∈ db.actionAttempts, stored.taskId = task.taskId → ¬ stored.state.Unresolved) ∧
    (∀ plan attempt, (applyUnresolvedActionGate plan attempt).candidateReady = true → plan.candidateReady = true) ∧
    (∀ plan attempt, (applyUnresolvedActionGate plan attempt).wouldDispatch = true → plan.wouldDispatch = true) ∧
    (∀ plan gated db browser timeoutPolicy later,
      gateTimeoutDispatchPlan lowercase db plan browser timeoutPolicy later = .ok gated →
      (gated.candidateReady = true → plan.candidateReady = true) ∧
      (gated.wouldDispatch = true → plan.candidateReady = true ∧ plan.transportEnabled = true)) := by
  intro previous current
  refine ⟨?_, fun plan attempt ready => (applyUnresolvedActionGate_ready ready).1,
    fun plan attempt ready => applyUnresolvedActionGate_dispatch ready,
    fun plan gated db browser timeoutPolicy later passed => gateTimeoutDispatchPlan_ready passed⟩
  intro plan attempt gated db browser timeoutPolicy later planned read passed dispatch
  obtain ⟨ready, resolved⟩ := applyUnresolvedActionGate_ready ((gateTimeoutDispatchPlan_ready passed).2 dispatch).1
  obtain ⟨pair, fenced, idle⟩ := buildDispatchPlan_ready planned ready rfl rfl
  -- The previous record was never looked at, but it has the same material.
  have same := discerned (fenceMatches_material.mp fenced).2
  refine ⟨pair, ?_, idle, unresolvedActionAttempt_none read resolved⟩
  show ShowsIdle lowercase task policy now (fenceMaterial (first.snapshot encoding))
  rw [same]
  exact idle

private def stalledTask : TaskRecord :=
  { taskId := "t", state := .suspect, lsmSessionId := some "s", currentWorkerId := some "w" }

private def stalledPage (observedAt : Time) : BrowserObservation :=
  { workerId := "w"
    observedAt
    url := some "https://chatgpt.com/c/1"
    generating := some false
    visibleError := some "Message delivery timed out"
    lastDomChangeAt := some 50
    composerPresent := some true }

private def stalledWorld (observedAt : Time) : ObservedWorld Unit :=
  { task := stalledTask
    checkpoint := ()
    worker := some
      { workerId := "w", taskId := "t", conversationUrl := "https://chatgpt.com/c/1", status := .active, startedAt := 0 }
    browser := some (stalledPage observedAt)
    network := none
    lsm := some { taskId := "t", observedAt, sessionId := some "s", sessionStatus := some "active" }
    workspace := some { taskId := "t", observedAt, cwd := "/repo", cwdExists := true } }

/-- The canonical texts of the values of `stalledWorld`. -/
private def stalledEncoding : JsonEncoding Unit where
  checkpoint _ := "\x7b\x7d"
  material _ :=
    "\x7b\"browser\":\x7b\"composer_present\":true,\"generating\":false,\"last_dom_change_at\":50.0," ++
    "\"message_signature\":null,\"pending_tool_calls\":null,\"send_button_ready\":null," ++
    "\"url\":\"https://chatgpt.com/c/1\",\"visible_error\":\"Message delivery timed out\"," ++
    "\"worker_id\":\"w\"\x7d,\"lsm\":\x7b\"active_jobs\":0,\"active_run_id\":null," ++
    "\"completed_steps\":null,\"continuation_due\":null,\"continuation_pending\":null,\"failed_jobs\":0," ++
    "\"freshest_in_flight_heartbeat\":null,\"in_flight_calls\":0,\"plan_last_agent_activity\":null," ++
    "\"plan_status\":null,\"recent_event_at\":null,\"recent_event_type\":null,\"session_id\":\"s\"," ++
    "\"session_status\":\"active\",\"succeeded_jobs\":0,\"total_steps\":null\x7d,\"network\":null," ++
    "\"task\":\x7b\"checkpoint_digest\":\"44136fa355b3678a1146ad16f7e8649e94fb4fc21fe77e8310c060f61caaff8a\"," ++
    "\"current_worker_id\":\"w\",\"lsm_session_id\":\"s\",\"max_recovery_attempts\":3," ++
    "\"recovery_attempts\":0,\"registered_worker_status\":\"active\"," ++
    "\"registered_worker_url\":\"https://chatgpt.com/c/1\",\"state\":\"SUSPECT\",\"task_id\":\"t\"\x7d," ++
    "\"workspace\":\x7b\"cwd\":\"/repo\",\"cwd_exists\":true,\"error\":null,\"git_dirty\":null," ++
    "\"git_head\":null,\"git_root\":null,\"git_status_hash\":null,\"is_git_repo\":null\x7d\x7d"

private def stalledRecord (observedAt : Time) (suffix : String) : ReconciliationRecord :=
  buildReconciliationRecord stalledEncoding
    { assessment := { state := .suspect, reason := "idle", confidence := "high" }, createdAt := observedAt, suffix }
    (stalledWorld observedAt)

private theorem stalled_plan :
    ∃ plan, buildDispatchPlan lower stalledTask (some (stalledRecord 100 "a")) (some (stalledRecord 110 "b"))
        { transportEnabled := true } 112 { action := "reconcile_then_continue" } = .ok plan ∧
      plan.taskId = "t" ∧ plan.candidateReady = true ∧ plan.transportEnabled = true ∧ plan.blockers = [] := by
  have fenced : fenceMatches (stalledRecord 100 "a") (stalledRecord 110 "b") = true :=
    fenceMatches_material.mpr ⟨rfl, rfl⟩
  have observed : ∃ observed, browserChecks lower stalledTask { transportEnabled := true } 112
      (stalledRecord 110 "b").snapshot = .ok observed ∧ ∀ check ∈ observed, check.passed = true := by
    refine ⟨_, rfl, ?_⟩
    decide +kernel
  obtain ⟨observed, read, page⟩ := observed
  refine continuePlan_passed read (by rintro ⟨⟩) ?_
  simp only [List.forall_mem_append]
  refine ⟨⟨⟨⟨⟨?_, ?_⟩, ?_⟩, ?_⟩, page⟩, ?_⟩
  · decide +kernel
  · exact pairChecks_passed.mpr ⟨by decide +kernel, by decide +kernel, by decide +kernel, fenced⟩
  · decide +kernel
  · decide +kernel
  · decide +kernel

private def stalledDatabase : Database := { tasks := ⟨[stalledTask], by decide⟩ }

/-- A conversation that stalled on a delivery error, sampled twice. -/
theorem ready_plan_idle_twice_stalled :
    ∃ plan gated,
      buildDispatchPlan lower stalledTask (some (stalledRecord 100 "a")) (some (stalledRecord 110 "b"))
        { transportEnabled := true } 112 { action := "reconcile_then_continue" } = .ok plan ∧
      gateTimeoutDispatchPlan lower stalledDatabase (applyUnresolvedActionGate plan none) (some (stalledPage 110))
        { enabled := true } 112 = .ok gated ∧
      gated.wouldDispatch = true ∧
      ShowsIdle lower stalledTask { transportEnabled := true } 112 (fenceMaterial (stalledRecord 100 "a").snapshot) := by
  obtain ⟨plan, planned, named, ready, transport, unblocked⟩ := stalled_plan
  have unchanged : ∃ checks, applyUnresolvedActionGate plan none = { plan with checks } := by
    unfold applyUnresolvedActionGate
    simp only [Option.filter_none]
    split
    · exact ⟨plan.checks, rfl⟩
    · exact ⟨_, rfl⟩
  obtain ⟨checks, opened⟩ := unchanged
  have clear : blockersOf (timeoutChecks lower (some (stalledPage 110)) { enabled := true } false false none) = [] := by
    decide +kernel
  have gate : gateTimeoutDispatchPlan lower stalledDatabase (applyUnresolvedActionGate plan none) (some (stalledPage 110))
      { enabled := true } 112 =
      .ok (gatedPlan { plan with checks }
        (timeoutChecks lower (some (stalledPage 110)) { enabled := true } false false none)) := by
    rw [opened]
    unfold gateTimeoutDispatchPlan
    rw [named]
    rfl
  have dispatch : (gatedPlan { plan with checks }
      (timeoutChecks lower (some (stalledPage 110)) { enabled := true } false false none)).wouldDispatch = true := by
    simp only [gatedPlan, ready, unblocked, transport, clear]
    rfl
  refine ⟨plan, _, planned, gate, dispatch, ?_⟩
  exact ((ready_plan_idle_twice lower stalledEncoding stalledTask { action := "reconcile_then_continue" }
    { transportEnabled := true } 112 (stalledWorld 100) (stalledWorld 110) _ _ (fun _ => rfl)).1 plan none _
    stalledDatabase (some (stalledPage 110)) { enabled := true } 112 planned rfl gate dispatch).2.1

end WebSupervisor.Dispatcher.Proofs
