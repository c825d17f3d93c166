import WebSupervisor.Proofs.ChildCompletion
import WebSupervisor.Proofs.SpawnRequests

/-! The reconciliation of a spawn. It looks and does not act: the browser is only
observed, and an attempt that has left WINDOW_BOUND with its window is never back in it,
so that no reconciliation allows a second prompt. -/

namespace WebSupervisor.ChildSpawn.Proofs
open Library Library.Program Registry Registry.Proofs WorkerPersistence.Proofs

section Requests
variable {attemptId : String} {now leaseSeconds : Time}

/-- The requests that change nothing in the browser. -/
def Observing : SpawnRequest → Prop
  | .transport (.observeOwnedProject _) | .transport (.observeBoundUrl _) | .clock | .uuid => True
  | _ => False

private theorem asks_reconcileUnbound {attempt : ChildSpawnAttempt} : Asks Observing (reconcileUnbound attempt now).run := by
  refine .andThen (.ask trivial) (fun observed => ?_)
  split
  next => exact Silent.any silent_bind
  next =>
    split
    next => exact Silent.any (silent_update _)
    next => exact .done

private theorem asks_reconcileBound {attempt : ChildSpawnAttempt} :
    Asks Observing (reconcileBound attempt leaseSeconds now).run := by
  refine .andThen (.ask trivial) (fun observed => ?_)
  dsimp only
  split
  next => exact asks_complete trivial
  next =>
    split
    next => exact .done
    next => exact Silent.any (silent_update _)

/-- A reconciliation observes the browser and asks it for nothing else. -/
theorem asks_reconcile {clock : Option Time} : Asks Observing (reconcileChildSpawn attemptId leaseSeconds clock).run := by
  refine .andThen .check (fun attempt => .andThen (asks_clockOr trivial) (fun ts => ?_))
  split
  next => exact .done
  next =>
    split
    next => exact asks_reconcileUnbound
    next =>
      split
      next => exact asks_reconcileBound
      next => exact Silent.any (silent_update _)

end Requests

section Adoption

/-- The spawns are what they were. -/
private def KeepsSpawns (before after : Database) : Prop := after.childSpawnAttempts = before.childSpawnAttempts

private theorem KeepsSpawns.refl (db : Database) : KeepsSpawns db db := rfl

private theorem KeepsSpawns.trans (first second third : Database) (start : KeepsSpawns first second)
    (rest : KeepsSpawns second third) : KeepsSpawns first third := Eq.trans rest start

private theorem protocol_keeps {before after : Database} {method : ProtocolMethod} {taskId : String}
    {answer : WorkerProtocol.ProtocolDecision} (returned : method.transaction taskId before = .ok (answer, after)) :
    KeepsSpawns before after := by
  rcases method_cases method taskId before with ⟨_, raised⟩ | ⟨_, same⟩
  · rw [raised] at returned
    cases returned
  · obtain ⟨_, _, _, ⟨_, rfl⟩ | ⟨_, applied⟩⟩ := applied_cases (same.symm.trans returned)
    · rfl
    · exact applied.persisted.records.spawns

private theorem protocol_step (method : ProtocolMethod) (taskId : String) :
    Effects KeepsSpawns (ω := SpawnAnswer) (transaction (method.transaction taskId)).run :=
  .transaction .refl (fun _ _ _ done => protocol_keeps done)

private theorem adopt_keeps {args : AdoptArgs} : Effects KeepsSpawns (ω := SpawnAnswer) (adoptChildWorker args).run := by
  refine .andThen (.check .refl) (fun _ => .andThen .ensure (fun _ => .andThen .ensure (fun _ =>
    .andThen (.check .refl) (fun state => .andThen .ensure (fun _ => ?_)))))
  have claims (state : WorkerProtocol.WorkerTaskState) (candidate : WorkerProtocol.WorkerLease) :
      Effects KeepsSpawns (ω := SpawnAnswer) (claimChildWorker args state candidate).run :=
    .andThen (protocol_step (.claimWorker ..) _) (fun _ => .andThen .ensure (fun _ => .done))
  unfold adoptMatching
  split
  next =>
    split
    next => exact .done
    next => exact .ensure
  next => exact .andThen .ensure (fun _ => claims _ _)
  next =>
    refine .andThen (.andThen (protocol_step (.registerWorker ..) _) (fun _ => .andThen .ensure (fun _ => ?_)))
      (fun registered => claims _ _)
    split
    next => exact .ensure
    next => exact .done

private theorem bindWorkerWindow_keeps {args : BindArgs} :
    Effects KeepsSpawns (ω := SpawnAnswer) (bindWorkerWindow args).run := by
  refine .andThen (.check .refl) (fun _ => .andThen .ensure (fun _ => .andThen (.check .refl) (fun _ =>
    .andThen (.transaction .refl (fun _ _ _ done => ?_)) (fun _ => .check .refl))))
  cases done
  rfl

end Adoption

section Runs
variable {db after : Database} {trace : List (Happening Database SpawnAnswer)} {attemptId : String}
  {row : ChildSpawnRow} {now leaseSeconds : Time} {outcome : Except SupervisorError ChildSpawnAttempt}

/-- The attempt is where it was or in this state, and no other attempt has moved. -/
private def MovesTo (attemptId : String) (state : ChildSpawnAttemptState) (db after : Database) : Prop :=
  (spawnState after attemptId = spawnState db attemptId ∨ spawnState after attemptId = some state) ∧
    ∀ wanted ≠ attemptId, spawnState after wanted = spawnState db wanted

private theorem MovesTo.still {state : ChildSpawnAttemptState} (kept : KeepsSpawns db after) :
    MovesTo attemptId state db after := by
  unfold MovesTo spawnState
  rw [show after.childSpawnAttempts = db.childSpawnAttempts from kept]
  exact ⟨.inl rfl, fun _ _ => rfl⟩

private theorem solo_updates {change : SpawnUpdate} (found : db.childSpawnAttempts.find? attemptId = some row)
    (run : Solo (updateChildSpawnAttempt attemptId change now).run db trace outcome after) :
    MovesTo attemptId change.state db after := by
  obtain ⟨_, _, run⟩ := run.checked (getChildSpawnAttempt_found found)
  have writes {trace : List (Happening Database SpawnAnswer)} {result : Except SupervisorError Unit} {last : Database}
      (writing : Solo (transaction (replaceChildSpawnAttempt (updatedSpawn row.payload change now))).run db trace result
        last) : MovesTo attemptId change.state db last := by
    obtain ⟨_, ⟨_, written, _⟩ | ⟨_, _, _, rfl⟩⟩ := solo_transaction.mp writing
    · have rewritten := replaceChildSpawnAttempt_rewritten written
      rw [show (updatedSpawn row.payload change now).attemptId = attemptId from (Table.find?_some.mp found).2] at rewritten
      refine ⟨.inr rewritten.spawnState, fun wanted other => ?_⟩
      unfold spawnState
      rw [rewritten.rows, if_neg other]
    · exact .still rfl
  rcases run.decided with ⟨_, _, going⟩ | ⟨_, _, _, _, rfl⟩
  case inr => exact .still rfl
  rcases solo_andThen.mp going with ⟨_, _, _, _, _, writing, reading⟩ | ⟨_, _, raised⟩
  · obtain ⟨_, _, rfl⟩ := solo_check.mp reading
    exact writes writing
  · exact writes raised

private theorem solo_binds {windowHandle browserPid : Int} {url : String}
    (found : db.childSpawnAttempts.find? attemptId = some row)
    (run : Solo (bindChildSpawnWindow attemptId windowHandle browserPid url now).run db trace outcome after) :
    MovesTo attemptId .windowBound db after := by
  obtain ⟨_, _, run⟩ := run.checked (getChildSpawnAttempt_found found)
  rcases run.decided with ⟨_, _, going⟩ | ⟨_, _, _, _, rfl⟩
  · exact solo_updates found going
  · exact .still rfl

private theorem solo_completes {url : String} (found : db.childSpawnAttempts.find? row.payload.attemptId = some row)
    (run : Solo (completeFromBoundConversation row.payload url now leaseSeconds).run db trace outcome after) :
    MovesTo row.payload.attemptId .completed db after := by
  rcases run.decided with ⟨_, _, accepted⟩ | ⟨_, _, _, _, rfl⟩
  case inr => exact .still rfl
  obtain ⟨generated, _, _, ⟨_, ⟨⟩, drawn⟩ | ⟨_, wrong, _⟩⟩ := accepted.asked
  case inr => cases wrong
  rcases solo_andThen.mp drawn with ⟨_, _, state, adopted, _, adopting, published⟩ | ⟨_, _, raised⟩
  case inr => exact .still (adopt_keeps.solo .refl .trans raised)
  have kept := adopt_keeps.solo .refl .trans adopting
  rcases published.decided with ⟨_, _, going⟩ | ⟨_, _, _, _, rfl⟩
  case inr => exact .still kept
  rcases solo_andThen.mp going with ⟨_, _, _, bound, _, binding, last⟩ | ⟨_, _, raised⟩
  case inr => exact .still (.trans _ _ _ kept (bindWorkerWindow_keeps.solo .refl .trans raised))
  have same : bound.childSpawnAttempts = db.childSpawnAttempts :=
    KeepsSpawns.trans _ _ _ kept (bindWorkerWindow_keeps.solo .refl .trans binding)
  have held : bound.childSpawnAttempts.find? row.payload.attemptId = some row := by rw [same, found]
  have moved := solo_updates held last
  unfold MovesTo spawnState at moved ⊢
  rwa [same] at moved

/-- What a reconciliation may do to the state of an attempt. A window is bound only while
the attempt waits for one, and only an attempt that has its window is completed. -/
inductive Reconciled (attempt : ChildSpawnAttempt) : ChildSpawnAttemptState → Prop where
  | ambiguous : Reconciled attempt .reconcileRequired
  | bound (waiting : attempt.state = .windowOpenSubmitted ∨
      attempt.state = .reconcileRequired ∧ given attempt.windowHandle = false) : Reconciled attempt .windowBound
  | completed (shown : given attempt.windowHandle = true ∧ given attempt.browserPid = true) :
      Reconciled attempt .completed

/-- The attempt keeps its state or has been moved on as a reconciliation may, and no other
attempt has moved. -/
def Settles (attempt : ChildSpawnAttempt) (db after : Database) : Prop :=
  (spawnState after attempt.attemptId = spawnState db attempt.attemptId ∨
      ∃ state, spawnState after attempt.attemptId = some state ∧ Reconciled attempt state) ∧
    ∀ wanted ≠ attempt.attemptId, spawnState after wanted = spawnState db wanted

private theorem MovesTo.settles {attempt : ChildSpawnAttempt} {state : ChildSpawnAttemptState}
    (moved : MovesTo attempt.attemptId state db after) (may : Reconciled attempt state) : Settles attempt db after :=
  ⟨moved.1.imp_right (fun reached => ⟨state, reached, may⟩), moved.2⟩

private theorem settles_still {attempt : ChildSpawnAttempt} : Settles attempt db db := ⟨.inl rfl, fun _ _ => rfl⟩

private theorem solo_reconcileUnbound (found : db.childSpawnAttempts.find? row.payload.attemptId = some row)
    (waiting : row.payload.state = .windowOpenSubmitted ∨
      row.payload.state = .reconcileRequired ∧ given row.payload.windowHandle = false)
    (run : Solo (reconcileUnbound row.payload now).run db trace outcome after) : Settles row.payload db after := by
  obtain ⟨_, _, rfl, ⟨observed, _, looked⟩ | ⟨_, _, _, _, rfl⟩⟩ := run.asked
  case inr => exact settles_still
  split at looked
  next => exact (solo_binds found looked).settles (.bound waiting)
  next =>
    split at looked
    next => exact (solo_updates found looked).settles .ambiguous
    next =>
      obtain ⟨_, _, rfl⟩ := solo_done.mp looked
      exact settles_still

private theorem solo_reconcileBound (found : db.childSpawnAttempts.find? row.payload.attemptId = some row)
    (shown : given row.payload.windowHandle = true ∧ given row.payload.browserPid = true)
    (run : Solo (reconcileBound row.payload leaseSeconds now).run db trace outcome after) :
    Settles row.payload db after := by
  obtain ⟨_, _, rfl, ⟨observed, _, looked⟩ | ⟨_, _, _, _, rfl⟩⟩ := run.asked
  case inr => exact settles_still
  dsimp only at looked
  split at looked
  next => exact (solo_completes found looked).settles (.completed shown)
  next =>
    split at looked
    next =>
      obtain ⟨_, _, rfl⟩ := solo_done.mp looked
      exact settles_still
    next => exact (solo_updates found looked).settles .ambiguous

/-- However a reconciliation ends, raising or not, it settles its attempt. -/
theorem reconcile_settles {clock : Option Time} (found : db.childSpawnAttempts.find? attemptId = some row)
    (run : Solo (reconcileChildSpawn attemptId leaseSeconds clock).run db trace outcome after) :
    Settles row.payload db after := by
  obtain rfl : row.payload.attemptId = attemptId := (Table.find?_some.mp found).2
  obtain ⟨_, _, read⟩ := run.checked (getChildSpawnAttempt_found found)
  obtain ⟨ts, _, _, _, _, going⟩ := solo_clockOr read
  split at going
  next =>
    obtain ⟨_, _, rfl⟩ := solo_done.mp going
    exact settles_still
  next =>
    split at going
    next waiting => exact solo_reconcileUnbound found waiting going
    next =>
      split at going
      next shown => exact solo_reconcileBound found shown going
      next => exact (solo_updates found going).settles .ambiguous

/-- No reconciliation allows a second prompt: an attempt that has its window and has left
WINDOW_BOUND is not back in it. -/
theorem reconcile_sends_nothing {clock : Option Time} (found : db.childSpawnAttempts.find? attemptId = some row)
    (run : Solo (reconcileChildSpawn attemptId leaseSeconds clock).run db trace outcome after)
    (shown : given row.payload.windowHandle = true) (opened : row.payload.state ≠ .windowOpenSubmitted)
    (left : row.payload.state ≠ .windowBound) : spawnState after attemptId ≠ some .windowBound := by
  have settled := reconcile_settles found run
  obtain rfl : row.payload.attemptId = attemptId := (Table.find?_some.mp found).2
  intro bound
  rcases settled.1 with same | ⟨state, reached, may⟩
  · rw [same, spawnState, found] at bound
    exact left (Option.some.inj bound)
  · cases reached.symm.trans bound
    cases may with
    | bound waiting =>
      rcases waiting with submitted | ⟨_, missing⟩
      · exact opened submitted
      · rw [shown] at missing
        cases missing

end Runs

end WebSupervisor.ChildSpawn.Proofs
