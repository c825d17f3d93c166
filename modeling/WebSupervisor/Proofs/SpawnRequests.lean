import WebSupervisor.ChildSpawn
import WebSupervisor.Proofs.SpawnSteps

/-! What the programs of a spawn ask of their environment. Only the methods of the
transport reach the browser; the registry is read and written without a request. -/

namespace WebSupervisor.ChildSpawn.Proofs
open Library Library.Program Registry Registry.Proofs

variable {attemptId : String} {now : Time}

theorem asks_clockOr {clock : Option Time} {allowed : SpawnRequest → Prop} (may : allowed .clock) :
    Asks allowed (clockOr clock).run := by
  cases clock with
  | none => exact .ask may
  | some now => exact .done

/-- The clock, asked or given, is no part of the transport. -/
theorem solo_clockOr {clock : Option Time} {β : Type} {next : Time → Spawning β} {db after : Database}
    {trace : List (Happening Database SpawnAnswer)} {result : Except SupervisorError β}
    (run : Solo (clockOr clock >>= next).run db trace result after) :
    ∃ time first rest, trace = first ++ rest ∧ (∀ found called answer, .asked found (.transport called) answer ∉ first) ∧
      Solo (next time).run db rest result after := by
  cases clock with
  | some time => exact ⟨time, [], trace, rfl, by simp, run⟩
  | none =>
    obtain ⟨time, rest, rfl, ⟨_, ⟨⟩, going⟩ | ⟨_, wrong, _⟩⟩ := run.asked
    · exact ⟨time, [_], rest, rfl, by simp, going⟩
    · cases wrong

section Opens

theorem silent_bind {windowHandle browserPid : Int} {url : String} :
    Silent (bindChildSpawnWindow attemptId windowHandle browserPid url now).run :=
  .andThen .check (fun _ => .andThen .ensure (fun _ => silent_update _))

private theorem silent_release (source : ReuseSource) : Silent (releaseSource attemptId now source).run := by
  cases source with
  | fresh => exact .done
  | completedSpawn spawn =>
    refine .andThen (.attempt (silent_annotate _)) (fun marked => ?_)
    split
    next => exact .done
    next => exact .done
    next => exact .ensure
  | worker worker binding =>
    refine .andThen silent_childSpawnAttempts (fun attempts => ?_)
    have last : Silent (ω := SpawnAnswer) (do
        let _ ← clearWorkerWindowBinding worker.workerId
        pure () : Spawning Unit).run := .andThen .transaction (fun _ => .done)
    split
    next => exact last
    next owner _ => exact .andThen (silent_annotate _) (fun _ => last)

/-- After its one call to the transport an open asks nothing more. -/
theorem silent_settle {source : ReuseSource} {result : ChildSpawnExecution} :
    Silent (settleOpen attemptId source result now).run := by
  unfold settleOpen
  split
  next => exact .andThen silent_bind (fun _ => .andThen (silent_release source) (fun _ => .done))
  next => exact silent_update _

theorem silent_submit : Silent (ω := SpawnAnswer) (submitChildSpawnOpen attemptId now).run :=
  .andThen .check (fun _ => .andThen .ensure (fun _ => silent_update _))

end Opens

section Completions

private theorem silent_adopt {args : AdoptArgs} : Silent (ω := SpawnAnswer) (adoptChildWorker args).run := by
  refine .andThen .check (fun _ => .andThen .ensure (fun _ => .andThen .ensure (fun _ => .andThen .check (fun state =>
    .andThen .ensure (fun _ => ?_)))))
  have claims (state : WorkerProtocol.WorkerTaskState) (candidate : WorkerProtocol.WorkerLease) :
      Silent (ω := SpawnAnswer) (claimChildWorker args state candidate).run :=
    .andThen .transaction (fun _ => .andThen .ensure (fun _ => .done))
  unfold adoptMatching
  split
  next =>
    split
    next => exact .done
    next => exact .ensure
  next => exact .andThen .ensure (fun _ => claims _ _)
  next =>
    refine .andThen (.andThen .transaction (fun _ => .andThen .ensure (fun _ => ?_))) (fun registered => claims _ _)
    split
    next => exact .ensure
    next => exact .done

private theorem silent_bindWorkerWindow {args : BindArgs} : Silent (ω := SpawnAnswer) (bindWorkerWindow args).run :=
  .andThen .check (fun _ => .andThen .ensure (fun _ => .andThen .check (fun _ => .andThen .transaction (fun _ => .check))))

/-- The completion draws the id of a worker. -/
theorem asks_complete {allowed : SpawnRequest → Prop} (draws : allowed .uuid) {attempt : ChildSpawnAttempt} {url : String}
    {leaseSeconds : Time} : Asks allowed (completeFromBoundConversation attempt url now leaseSeconds).run :=
  .andThen .ensure (fun _ => .andThen (.ask draws) (fun _ => .andThen (Silent.any silent_adopt) (fun _ =>
    .andThen .ensure (fun _ => .andThen (Silent.any silent_bindWorkerWindow) (fun _ => Silent.any (silent_update _))))))

end Completions

end WebSupervisor.ChildSpawn.Proofs
