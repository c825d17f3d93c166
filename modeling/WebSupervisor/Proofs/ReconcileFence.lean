import WebSupervisor.Reconcile

/-! What the fence of a reconciliation record tells apart. -/

namespace WebSupervisor.Reconcile.Proofs

variable {κ : Type} {encoding : JsonEncoding κ} {first second : ObservedWorld κ}

/-- The digests of the two worlds are equal for equal values only. -/
structure Discerned (encoding : JsonEncoding κ) (first second : ObservedWorld κ) : Prop where
  checkpoint : digestJson (encoding.checkpoint first.checkpoint) = digestJson (encoding.checkpoint second.checkpoint) →
    first.checkpoint = second.checkpoint
  material : digestJson (encoding.material (fenceMaterial (first.snapshot encoding))) =
      digestJson (encoding.material (fenceMaterial (second.snapshot encoding))) →
    fenceMaterial (first.snapshot encoding) = fenceMaterial (second.snapshot encoding)

/-- The two worlds agree in all facts but the branch of the workspace. Only the
times of the four samples, and the task they were taken for, are left out. -/
structure AgreeButBranch (first second : ObservedWorld κ) : Prop where
  taskId : first.task.taskId = second.task.taskId
  state : first.task.state = second.task.state
  currentWorkerId : first.task.currentWorkerId = second.task.currentWorkerId
  lsmSessionId : first.task.lsmSessionId = second.task.lsmSessionId
  recoveryAttempts : first.task.recoveryAttempts = second.task.recoveryAttempts
  maxRecoveryAttempts : first.task.maxRecoveryAttempts = second.task.maxRecoveryAttempts
  checkpoint : first.checkpoint = second.checkpoint
  workerUrl : first.registeredWorker.map (·.conversationUrl) = second.registeredWorker.map (·.conversationUrl)
  workerStatus : first.registeredWorker.map (·.status) = second.registeredWorker.map (·.status)
  browser : first.browser.map (fun browser => { browser with observedAt := 0 }) =
    second.browser.map (fun browser => { browser with observedAt := 0 })
  network : first.network.map (fun network => { network with observedAt := 0 }) =
    second.network.map (fun network => { network with observedAt := 0 })
  lsm : first.lsm.map (fun lsm => { lsm with observedAt := 0, taskId := "" }) =
    second.lsm.map (fun lsm => { lsm with observedAt := 0, taskId := "" })
  workspace : first.workspace.map (fun workspace => { workspace with observedAt := 0, taskId := "", gitBranch := none }) =
    second.workspace.map (fun workspace => { workspace with observedAt := 0, taskId := "", gitBranch := none })

def SameBranch (first second : ObservedWorld κ) : Prop :=
  first.workspace.bind (·.gitBranch) = second.workspace.bind (·.gitBranch)

/-- The same actionable world, the branch included. -/
def SameWorld (first second : ObservedWorld κ) : Prop := AgreeButBranch first second ∧ SameBranch first second

private theorem map_agree {α β γ : Type} {f : α → β} {g : α → γ} (agree : ∀ x y, f x = f y ↔ g x = g y)
    (x y : Option α) : x.map f = y.map f ↔ x.map g = y.map g := by
  cases x with
  | none => cases y <;> simp
  | some x =>
    cases y with
    | none => simp
    | some y => simpa using agree x y

/-- The digested material is equal exactly when the facts are. -/
theorem fenceMaterial_eq (discerned : Discerned encoding first second) :
    fenceMaterial (first.snapshot encoding) = fenceMaterial (second.snapshot encoding) ↔
      AgreeButBranch first second := by
  simp only [fenceMaterial, ObservedWorld.snapshot, FenceMaterial.mk.injEq, Option.map_map, Option.some.injEq,
    TaskFacts.mk.injEq]
  constructor
  · rintro ⟨⟨taskId, state, current, url, status, session, attempts, budget, checkpoint⟩, browser, network, lsm, workspace⟩
    refine ⟨taskId, state, current, session, attempts, budget, discerned.checkpoint checkpoint, url, status, ?_, ?_, ?_, ?_⟩
    · exact (map_agree (by simp; tauto) _ _).mp browser
    · exact (map_agree (by simp) _ _).mp network
    · exact (map_agree (by simp) _ _).mp lsm
    · exact (map_agree (by simp) _ _).mp workspace
  · intro agree
    refine ⟨⟨agree.taskId, agree.state, agree.currentWorkerId, agree.workerUrl, agree.workerStatus, agree.lsmSessionId,
      agree.recoveryAttempts, agree.maxRecoveryAttempts, by rw [agree.checkpoint]⟩, ?_, ?_, ?_, ?_⟩
    · exact (map_agree (by simp; tauto) _ _).mpr agree.browser
    · exact (map_agree (by simp) _ _).mpr agree.network
    · exact (map_agree (by simp) _ _).mpr agree.lsm
    · exact (map_agree (by simp) _ _).mpr agree.workspace

theorem fenceMatches_material {firstStamp secondStamp : RecordStamp} :
    fenceMatches (buildReconciliationRecord encoding firstStamp first)
        (buildReconciliationRecord encoding secondStamp second) = true ↔
      first.task.taskId = second.task.taskId ∧
      digestJson (encoding.material (fenceMaterial (first.snapshot encoding))) =
        digestJson (encoding.material (fenceMaterial (second.snapshot encoding))) := by
  simp [fenceMatches, buildReconciliationRecord]

/-- The fence holds for worlds that agree in all facts but the branch. -/
theorem fenceMatches_agree (discerned : Discerned encoding first second) {firstStamp secondStamp : RecordStamp} :
    fenceMatches (buildReconciliationRecord encoding firstStamp first)
        (buildReconciliationRecord encoding secondStamp second) = true ↔ AgreeButBranch first second := by
  rw [fenceMatches_material]
  constructor
  · rintro ⟨_, digests⟩
    exact (fenceMaterial_eq discerned).mp (discerned.material digests)
  · intro agree
    exact ⟨agree.taskId, by rw [(fenceMaterial_eq discerned).mpr agree]⟩

/-- The fence is exact unless the two worlds differ in the branch alone. -/
theorem fence_captures_world (encoding : JsonEncoding κ) (first second : ObservedWorld κ)
    (firstStamp secondStamp : RecordStamp) (discerned : Discerned encoding first second) :
    (fenceMatches (buildReconciliationRecord encoding firstStamp first)
        (buildReconciliationRecord encoding secondStamp second) = true ↔ SameWorld first second) ↔
      ¬ (AgreeButBranch first second ∧ ¬ SameBranch first second) := by
  rw [fenceMatches_agree discerned]
  constructor
  · rintro exact ⟨agree, different⟩
    exact different (exact.mp agree).2
  · intro same
    constructor
    · intro agree
      exact ⟨agree, by_contra fun different => same ⟨agree, different⟩⟩
    · intro world
      exact world.1

private def checkout (branch : String) (observedAt : Time) : ObservedWorld Unit :=
  { task := { taskId := "t", state := .running }
    checkpoint := ()
    browser := none
    network := none
    lsm := none
    workspace := some
      { taskId := "t"
        observedAt
        cwd := "/repo"
        cwdExists := true
        isGitRepo := some true
        gitRoot := some "/repo"
        gitHead := some "1f"
        gitBranch := some branch
        gitDirty := some false } }

/-- The canonical texts of the values of `checkout`. -/
private def checkoutEncoding : JsonEncoding Unit where
  checkpoint _ := "\x7b\x7d"
  material _ :=
    "\x7b\"browser\":null,\"lsm\":null,\"network\":null,\"task\":\x7b\"checkpoint_digest\":" ++
    "\"44136fa355b3678a1146ad16f7e8649e94fb4fc21fe77e8310c060f61caaff8a\",\"current_worker_id\":null," ++
    "\"lsm_session_id\":null,\"max_recovery_attempts\":3,\"recovery_attempts\":0,\"registered_worker_status\":null," ++
    "\"registered_worker_url\":null,\"state\":\"RUNNING\",\"task_id\":\"t\"\x7d,\"workspace\":\x7b\"cwd\":\"/repo\"," ++
    "\"cwd_exists\":true,\"error\":null,\"git_dirty\":false,\"git_head\":\"1f\",\"git_root\":\"/repo\"," ++
    "\"git_status_hash\":null,\"is_git_repo\":true\x7d\x7d"

private def stampAt (createdAt : Time) (suffix : String) : RecordStamp :=
  { assessment := { state := .suspect, reason := "idle", confidence := "high" }, createdAt, suffix }

private theorem checkout_discerned (branch other : String) :
    Discerned checkoutEncoding (checkout branch 1) (checkout other 2) := ⟨fun _ => rfl, fun _ => rfl⟩

/-- The same checkout at two times. -/
theorem fence_captures_world_checkout :
    fenceMatches (buildReconciliationRecord checkoutEncoding (stampAt 1 "a") (checkout "main" 1))
        (buildReconciliationRecord checkoutEncoding (stampAt 2 "b") (checkout "main" 2)) = true ↔
      SameWorld (checkout "main" 1) (checkout "main" 2) :=
  (fence_captures_world checkoutEncoding (checkout "main" 1) (checkout "main" 2) (stampAt 1 "a") (stampAt 2 "b")
    (checkout_discerned "main" "main")).mpr (fun differ => differ.2 rfl)

/-- Another branch at the same commit passes the fence. -/
theorem fence_misses_branch : Discerned checkoutEncoding (checkout "main" 1) (checkout "release" 2) ∧
    fenceMatches (buildReconciliationRecord checkoutEncoding (stampAt 1 "a") (checkout "main" 1))
        (buildReconciliationRecord checkoutEncoding (stampAt 2 "b") (checkout "release" 2)) = true ∧
    ¬ SameWorld (checkout "main" 1) (checkout "release" 2) := by
  refine ⟨checkout_discerned "main" "release", fenceMatches_material.mpr ⟨rfl, rfl⟩, fun same => ?_⟩
  have branches : some "main" = some "release" := same.2
  exact absurd branches (by decide)

end WebSupervisor.Reconcile.Proofs
