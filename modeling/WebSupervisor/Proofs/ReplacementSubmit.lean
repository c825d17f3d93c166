import WebSupervisor.Library.Authority
import WebSupervisor.Registry.Replacements

/-! The authority for a takeover. A call that returns normally has moved the
attempt out of ARMED by its own write, as long as the attempt stays ARMED from
the call's first read of it to that write. -/

namespace WebSupervisor.Registry.Proofs
open Library Library.Program

/-- One call of `submit_replacement`. -/
structure SubmitCall where
  attemptId : String
  now : Time

abbrev Submitted := Except SupervisorError ReplacementAttempt

def submitMachine : Machine Database NoAnswer SubmitCall Submitted where
  body call := (submitReplacement call.attemptId call.now).run

def replacementArmed (db : Database) (attemptId : String) : Bool :=
  (db.replacementAttempts.find? attemptId).any (fun attempt => attempt.state = .armed)

/-- The call returned the record that authorises the takeover. -/
def takeovers : Authority Database SubmitCall Submitted String where
  entitled attemptId db := replacementArmed db attemptId = true
  crosses attemptId before after := replacementArmed before attemptId && !replacementArmed after attemptId
  wants call := some call.attemptId
  earns result := result.toOption.map (·.attemptId)

section Writes
variable {db after : Database} {attempt : ReplacementAttempt} {attemptId : String}

theorem getReplacementAttempt_ok (found : getReplacementAttempt db attemptId = .ok attempt) :
    db.replacementAttempts.find? attemptId = some attempt ∧ attempt.attemptId = attemptId := by
  unfold getReplacementAttempt at found
  split at found
  next => cases found
  next row present =>
    cases found
    exact ⟨present, (Table.find?_some.mp present).2⟩

/-- The row that an update leaves. -/
theorem replaceReplacementAttempt_ok (replaced : replaceReplacementAttempt attempt db = .ok ((), after)) :
    ∀ wanted, after.replacementAttempts.find? wanted =
      if wanted = attempt.attemptId then some attempt else db.replacementAttempts.find? wanted := by
  unfold replaceReplacementAttempt at replaced
  split at replaced
  next => cases replaced
  next old present =>
    split at replaced
    next => cases replaced
    next table written =>
      cases replaced
      intro wanted
      change table.toTable.find? wanted = _
      rw [IndexedTable.replace?_some written]
      exact Table.find?_replace ⟨old, Table.find?_some.mp present⟩ wanted

end Writes

section Certificate
variable {pid : Nat} {call : SubmitCall}

private theorem armed_of_get {db : Database} {attempt : ReplacementAttempt} {attemptId : String}
    (found : getReplacementAttempt db attemptId = .ok attempt) :
    replacementArmed db attemptId = true ↔ attempt.state = .armed := by
  unfold replacementArmed
  rw [(getReplacementAttempt_ok found).1]
  simp

private theorem takeovers_still (attemptId : String) (db : Database) : takeovers.crosses attemptId db db = false := by
  simp [takeovers]

private theorem write_triple {attempt : ReplacementAttempt} (named : attempt.attemptId = call.attemptId) :
    takeovers.contract.Triple pid call (takeovers.Ready (ω := NoAnswer) pid call.attemptId)
      (writeReplacement attempt .lsmTakeoverSubmitted none none call.now)
      (fun result now => ∀ item, takeovers.earns result = some item → takeovers.Crossed pid item now.log) := by
  have stable (result : Submitted) : takeovers.contract.Stable pid call (fun now : Shared Database NoAnswer Submitted =>
      ∀ item, takeovers.earns result = some item → takeovers.Crossed pid item now.log) :=
    .forall (fun _ => .imp Authority.stable_crossed)
  have refl := @Authority.staysEntitled_refl _ _ NoAnswer _ _ _ takeovers pid call
  have allowed : takeovers.contract.Triple pid call (takeovers.Ready (ω := NoAnswer) pid call.attemptId)
      (ensure (requireAllowedReplacement attempt .lsmTakeoverSubmitted))
      (fun _ now => takeovers.Ready pid call.attemptId now) :=
    .ensure (Authority.stable_ready rfl) (fun _ _ ready => ready)
  refine .bind refl allowed (fun _ => ?_) (fun error => stable _) (fun _ _ _ _ => nofun)
  refine .bind refl (Authority.write rfl ?_) (fun _ => ?_) (fun error => stable _) (fun _ _ _ _ => nofun)
  · intro store value after entitled replaced
    have gone : replacementArmed after call.attemptId = false := by
      unfold replacementArmed
      rw [replaceReplacementAttempt_ok replaced]
      simp [updatedReplacement, named]
    simpa [takeovers, gone] using entitled
  · refine Authority.crossed_read.weaken (fun _ _ crossed => crossed () rfl) ?_
    rintro result now _ ⟨crossed, store, found⟩ item earns
    cases result with
    | error error => cases earns
    | ok returned =>
      cases earns
      have same : returned.attemptId = call.attemptId := (getReplacementAttempt_ok found).2.trans named
      change takeovers.Crossed pid returned.attemptId now.log
      exact same.symm ▸ crossed

theorem takeovers_certifies : takeovers.contract.Certifies submitMachine := by
  intro pid call seen earned fresh
  have stable (result : Submitted) : takeovers.contract.Stable pid call (fun now : Shared Database NoAnswer Submitted =>
      ∀ item, takeovers.earns result = some item → takeovers.Crossed pid item now.log) :=
    .forall (fun _ => .imp Authority.stable_crossed)
  have refl := @Authority.staysEntitled_refl _ _ NoAnswer _ _ _ takeovers pid call
  have triple : takeovers.contract.Triple pid call (fun now => ¬ takeovers.Crossed pid call.attemptId now.log)
      (submitReplacement (ω := NoAnswer) call.attemptId call.now)
      (fun result now => ∀ item, takeovers.earns result = some item → takeovers.Crossed pid item now.log) := by
    refine .bind refl (Authority.first_read (takeovers_still _) rfl) (fun attempt => ?_) (fun error => stable _)
      (fun _ _ _ _ => nofun)
    have armed : takeovers.contract.Triple pid call
        (fun now : Shared Database NoAnswer Submitted => ¬ takeovers.Crossed pid call.attemptId now.log ∧
          ((∀ store, getReplacementAttempt store call.attemptId = .ok attempt →
            takeovers.entitled call.attemptId store) → takeovers.Ready pid call.attemptId now))
        (ensure (refuse (attempt.state ≠ .armed)
          (SupervisorError.runtime ("replacement " ++ call.attemptId ++ " is not ARMED"))))
        (fun result now => ∀ value, result = .ok value → takeovers.Ready pid call.attemptId now) := by
      refine .ensure (.forall (fun _ => .imp (Authority.stable_ready rfl))) ?_
      rintro now _ ⟨_, ready⟩ value passed
      rw [refuse_eq_ok, not_not] at passed
      exact ready (fun store found => (armed_of_get found).mpr passed)
    refine .bind refl armed (fun _ => ?_) (fun error => stable _) (fun _ _ _ _ => nofun)
    · refine .bind refl ((Authority.later_read (takeovers_still _) rfl).weaken (fun _ _ ready => ready () rfl)
        (fun _ _ _ held => held)) (fun again => ?_) (fun error => stable _) (fun _ _ _ _ => nofun)
      -- The second read finds ARMED as well, so that the call goes on to write.
      split
      next same =>
        intro now valid held
        obtain ⟨_, store, entitled, found⟩ := held
        exact absurd (same.trans ((armed_of_get found).mp entitled)) (by decide)
      next =>
        intro now valid held
        obtain ⟨ready, store, entitled, found⟩ := held
        exact write_triple (getReplacementAttempt_ok found).2 now valid ready
  exact (triple seen earned (Authority.fresh_start fresh)).weaken (fun _ _ valid crossed =>
    Authority.returns valid crossed)

private theorem submit_effects (call : SubmitCall) :
    (submitMachine.body call).Effects (fun before after => ∀ attemptId, ¬ takeovers.entitled attemptId before →
      ¬ takeovers.entitled attemptId after) := by
  have refl (db : Database) (attemptId : String) (gone : ¬ takeovers.entitled attemptId db) :
      ¬ takeovers.entitled attemptId db := gone
  refine .andThen (.check refl) (fun attempt => .andThen .ensure (fun _ => .andThen (.check refl) (fun again => ?_)))
  split
  · exact .done
  · refine .andThen .ensure (fun _ => .andThen (.transaction refl ?_) (fun _ => .check refl))
    intro db value after replaced attemptId gone armed
    simp only [takeovers, replacementArmed] at gone armed
    rw [replaceReplacementAttempt_ok replaced attemptId] at armed
    split at armed
    · simp [updatedReplacement] at armed
    · exact gone armed

end Certificate

/-- In every run of `submit_replacement` calls in which an attempt stays ARMED
between a call's first read of it and that call's write, at most one call on an
attempt returns normally. -/
theorem takeover_authorised_once (start : Database) (moves : List (Move NoAnswer SubmitCall))
    (undisturbed : UndisturbedRun takeovers.StaysEntitled submitMachine { store := start, log := [] } moves)
    (attemptId : String) :
    (run submitMachine.move { store := start, log := [] } moves).log.countP (takeovers.granting attemptId) ≤ 1 := by
  have crossings := (Authority.crossing_le_one attemptId (run_linked submitMachine start moves)
    (fun before after crosses => by simpa [takeovers] using crosses)
    (fun pid before after member => run_effects submit_effects member attemptId)).1
  exact Nat.le_trans (Authority.run_granting_le takeovers_certifies start moves undisturbed attemptId) crossings

/-- One armed replacement and nothing else. -/
def oneReplacement : Database :=
  { replacementAttempts :=
      ⟨⟨[{ attemptId := "replace_1", taskId := "task", candidateWorkerId := "worker", state := .armed,
           expectedRevision := 1, previousWorkerId := none, previousGeneration := 0, lsmSessionId := "session",
           previousActiveRunId := none, workspaceGitHead := none, workspaceStatusHash := none,
           expectedBranch := none, mode := "CLAIM_AFTER_LSM_RESUME", takeoverReason := "no_active_worker",
           createdAt := 0, updatedAt := 0 }], by decide⟩, by simp⟩ }

/-- One call takes the authority and the next one is refused. -/
theorem takeover_authorised_once_second :
    let moves : List (Move NoAnswer SubmitCall) :=
      [.start ⟨"replace_1", 5⟩, .step 0, .step 0, .step 0, .step 0, .step 0, .start ⟨"replace_1", 6⟩, .step 1, .step 1]
    let final := run submitMachine.move { store := oneReplacement, log := [] } moves
    final.log.countP (takeovers.granting "replace_1") = 1 ∧
      final.log.countP (takeovers.granting "replace_1") ≤ 1 := by
  refine ⟨by decide +kernel, takeover_authorised_once oneReplacement _ ?_ _⟩
  refine ⟨trivial, ?_, ?_, ?_, ?_, ?_, trivial, ?_, ?_, trivial⟩ <;>
    exact fun process found _ item _ _ _ entitled => by
      cases found
      exact entitled

/-- Two calls read the armed attempt. The first submits it; the second finds it
submitted, takes that for its own update and returns the same record. -/
theorem takeover_authorised_once_fails :
    let moves : List (Move NoAnswer SubmitCall) :=
      [.start ⟨"replace_1", 5⟩, .start ⟨"replace_1", 6⟩, .step 0, .step 1,
       .step 0, .step 0, .step 0, .step 0, .step 1, .step 1]
    (run submitMachine.move { store := oneReplacement, log := [] } moves).log.countP
      (takeovers.granting "replace_1") = 2 := by
  decide +kernel

end WebSupervisor.Registry.Proofs
