import WebSupervisor.Library.Alone
import WebSupervisor.Proofs.ChildCompletion
import WebSupervisor.Proofs.ReplacementSubmit
import WebSupervisor.Replacement

/-! A replacement that is blocked. Its exits before the protocol moves either record
their reasons, or raise them alone; and an attempt that was blocked before keeps the
reasons of that time. -/

namespace WebSupervisor.Replacement.Proofs
open Library Library.Program Registry Registry.Proofs WorkerProtocol WorkerPersistence

/-- The result does not raise the exception of a blocked replacement. -/
def Plain {α : Type} (result : Except SupervisorError α) : Prop :=
  ∀ blockers, result ≠ .error (.replacementBlocked blockers)

namespace Plain
variable {α β : Type}

theorem ok (value : α) : Plain (.ok value) := nofun

theorem error {other : SupervisorError} (differs : ∀ blockers, other ≠ .replacementBlocked blockers) :
    Plain (.error other : Except SupervisorError α) := fun blockers same => differs blockers (Except.error.inj same)

theorem refuse {bad : Prop} [Decidable bad] {error : SupervisorError} (other : ∀ blockers, error ≠ .replacementBlocked blockers) :
    Plain (refuse bad error) := by
  intro blockers raised
  rw [refuse_eq_error] at raised
  exact other blockers raised.2

theorem persistence {bad : Prop} [Decidable bad] {message : String} : Plain (refusePersistence bad message) :=
  refuse nofun

theorem bind {first : Except SupervisorError α} {next : α → Except SupervisorError β} (one : Plain first)
    (two : ∀ value, Plain (next value)) : Plain (first >>= next) := by
  intro blockers raised
  rw [bind_eq_error] at raised
  rcases raised with here | ⟨value, _, there⟩
  · exact one blockers here
  · exact two value blockers there

theorem protocol {result : Except ProtocolError α} : Plain (result.mapError .protocol) := by
  cases result <;> nofun

theorem foldlM {step : β → α → Except SupervisorError β} (plain : ∀ value item, Plain (step value item)) (start : β)
    (items : List α) : Plain (items.foldlM step start) := by
  induction items generalizing start with
  | nil => exact ok start
  | cons item items ih => exact bind (plain start item) ih

theorem forM {check : α → Except SupervisorError PUnit} (plain : ∀ item, Plain (check item)) (items : List α) :
    Plain (items.forM check) := by
  induction items with
  | nil => exact ok _
  | cons item items ih => exact bind (plain item) (fun _ => ih)

end Plain

section Persistence
variable {db : Database} {taskId : String}

private theorem plain_lineage (state : WorkerTaskState) : Plain (validateLineageReferences db state) := by
  refine .bind .persistence (fun _ => ?_)
  split
  next => exact .ok _
  next => exact .bind .persistence (fun _ => .persistence)

private theorem plain_legacy (state : WorkerTaskState) : Plain (validateLegacyConsistency db state) := by
  unfold validateLegacyConsistency
  split
  next => exact .error (by simp)
  next task _ =>
    refine .bind .persistence (fun _ => .bind ?_ (fun _ => .bind .persistence (fun _ => .forM (fun lease => ?_) _)))
    · unfold validateTaskState
      split
      next => exact .persistence
      next => exact .persistence
    · unfold validateLegacyWorker
      split
      next => exact .error (by simp)
      next =>
        exact .bind .persistence (fun _ => .bind .persistence (fun _ => .bind .persistence (fun _ =>
          .bind .persistence (fun _ => .bind .persistence (fun _ => .persistence)))))

theorem plain_load : Plain (loadWorkerProtocol db taskId) := by
  unfold loadWorkerProtocol
  split
  next =>
    split
    next => exact .error (by simp)
    next => exact .error (by simp)
  next =>
    dsimp only
    split
    next => exact .error (by simp)
    next => exact .bind (plain_lineage _) (fun _ => .bind (plain_legacy _) (fun _ => .ok _))

private theorem plain_sync (existing : List WorkerRecord) (lease : WorkerLease) : Plain (syncLegacyWorker existing db lease) := by
  refine .bind ?_ (fun _ => .ok _)
  unfold writeLegacyWorker
  dsimp only
  split
  next =>
    refine .bind .persistence (fun _ => ?_)
    unfold insertWorker
    split
    next => nofun
    next => exact .ok _
  next => exact .bind .persistence (fun _ => .bind .persistence (fun _ => .ok _))

private theorem plain_persist (previous : WorkerTaskState) (decision : ProtocolDecision) (revision : Int) :
    Plain (persistDecision db previous decision revision) := by
  refine .bind (.bind (.foldlM (fun _ => plain_sync _) _ _) (fun _ => .bind .persistence (fun _ => .ok _))) (fun db => ?_)
  split
  next => nofun
  next =>
    refine .bind .persistence (fun _ => .bind (.foldlM (fun _ _ => .bind .persistence (fun _ => .ok _)) _ _) (fun db => ?_))
    refine .bind (.foldlM (fun _ _ => ?_) _ _) (fun _ => .bind .persistence (fun _ => .ok _))
    unfold insertEvent
    split
    next => nofun
    next => exact .ok _

/-- A transition of the protocol is rejected, or fails in a way of its own. -/
theorem plain_transition {revision : Int} {transition : WorkerTaskState → Except ProtocolError ProtocolDecision} :
    Plain (applyWorkerProtocolTransition taskId revision transition db) := by
  refine .bind plain_load (fun state => .bind .protocol (fun decision => .bind .persistence (fun _ =>
    .bind .persistence (fun _ => ?_))))
  split
  next => exact .ok _
  next =>
    refine .bind .persistence (fun _ => .bind .persistence (fun _ => .bind .persistence (fun _ => .bind .persistence
      (fun _ => .bind .protocol (fun _ => .bind (plain_persist _ _ _) (fun _ => .bind plain_load (fun _ => ?_)))))))
    exact .bind .persistence (fun _ => .ok _)

end Persistence

/-- The program does not raise the exception of a blocked replacement. -/
def Quiet {α : Type} (program : ExceptT SupervisorError (Program Database NoAnswer) α) : Prop :=
  ∀ store, Plain (program.run.alone store).1

namespace Quiet
variable {α β : Type} {program : ExceptT SupervisorError (Program Database NoAnswer) α}

theorem check {view : Database → Except SupervisorError α} (plain : ∀ db, Plain (view db)) : Quiet (Program.check view) :=
  plain

theorem ensure {result : Except SupervisorError α} (plain : Plain result) : Quiet (Program.ensure result) :=
  fun _ => plain

theorem transaction {work : Transaction α} (plain : ∀ db, Plain (work db)) : Quiet (Program.transaction work) := by
  intro store blockers raised
  cases done : work store with
  | ok pair =>
    rw [alone_transaction_ok done] at raised
    cases raised
  | error error =>
    rw [alone_transaction_error done] at raised
    cases raised
    exact plain store blockers done

theorem bind {next : α → ExceptT SupervisorError (Program Database NoAnswer) β} (one : Quiet program)
    (two : ∀ value, Quiet (next value)) : Quiet (program >>= next) := by
  intro store
  rcases alone_andThen program next store with ⟨value, _, same⟩ | ⟨error, raised, same⟩
  · rw [same]
    exact two value _
  · rw [same]
    rintro blockers ⟨⟩
    exact one store blockers raised

/-- What follows a quiet program raises what the whole raises. -/
theorem raised {next : α → ExceptT SupervisorError (Program Database NoAnswer) β} {store after : Database}
    {blockers : List String} (quiet : Quiet program)
    (run : (program >>= next).run.alone store = (.error (.replacementBlocked blockers), after)) :
    ∃ value, (program.run.alone store).1 = .ok value ∧
      (next value).run.alone (program.run.alone store).2 = (.error (.replacementBlocked blockers), after) := by
  rcases alone_andThen program next store with ⟨value, returned, same⟩ | ⟨error, raised, same⟩
  · exact ⟨value, returned, same ▸ run⟩
  · rw [same] at run
    cases run
    exact absurd raised (quiet store blockers)

end Quiet

section Programs
variable {args : CompletionArgs} {attempt : ReplacementAttempt} {db after : Database} {blockers : List String}

private theorem plain_get {attemptId : String} : Plain (getReplacementAttempt db attemptId) := by
  unfold getReplacementAttempt
  split
  next => nofun
  next => exact .ok _

private theorem plain_replace : Plain (replaceReplacementAttempt attempt db) := by
  unfold replaceReplacementAttempt
  split
  next => nofun
  next =>
    split
    next => nofun
    next => exact .ok _

theorem quiet_update {attemptId : String} {state : ReplacementAttemptState} {runId lastError : Option String} {now : Time} :
    Quiet (updateReplacementAttempt attemptId state runId lastError now) := by
  refine .bind (.check (fun _ => plain_get)) (fun found => ?_)
  split
  next => exact .ensure (.ok _)
  next =>
    exact .bind (.ensure (.refuse nofun)) (fun _ => .bind (.transaction (fun _ => plain_replace))
      (fun _ => .check (fun _ => plain_get)))

private theorem quiet_claim (state : WorkerTaskState) : Quiet (claimCandidate args attempt state) :=
  .bind (.transaction (fun _ => plain_transition)) (fun _ => .bind (.ensure (.refuse nofun)) (fun _ => .ensure (.ok _)))

private theorem quiet_reads : Quiet (readEvidence attempt) := by
  refine .bind (.check (fun db => .bind ?_ (fun _ => .ok _))) (fun _ => .bind (.check (fun _ => .ok _)) (fun _ =>
    .bind (.check (fun db => ?_)) (fun _ => .bind (.check (fun _ => plain_load)) (fun _ => .ensure (.ok _)))))
  · unfold getTask
    split
    next => nofun
    next => exact .ok _
  · unfold getChildDispatch
    split
    next => nofun
    next => exact .ok _

/-- What the registry holds about the attempt, in one look. -/
def evidenceOf (attempt : ReplacementAttempt) (db : Database) : Except SupervisorError CompletionEvidence := do
  let action ← unresolvedActionAttempt db attempt.taskId
  let dispatch ← getChildDispatch db attempt.taskId
  let protocol ← loadWorkerProtocol db attempt.taskId
  pure { action, probe := unresolvedProbeMutationOperation db, dispatch, protocol }

theorem readEvidence_alone : (readEvidence attempt).run.alone db = (evidenceOf attempt db, db) := by
  unfold readEvidence evidenceOf
  cases action : unresolvedActionAttempt db attempt.taskId with
  | error error => exact alone_bind_error (by rw [alone_check, action])
  | ok found =>
    have probe : (check (fun db => .ok (unresolvedProbeMutationOperation db)) :
        ExceptT SupervisorError (Program Database NoAnswer) _).run.alone db = (.ok (unresolvedProbeMutationOperation db), db) := rfl
    rw [alone_bind_ok (by rw [alone_check, action]), alone_bind_ok probe]
    cases dispatch : getChildDispatch db attempt.taskId with
    | error error => exact alone_bind_error (by rw [alone_check, dispatch])
    | ok record =>
      rw [alone_bind_ok (by rw [alone_check, dispatch])]
      cases protocol : loadWorkerProtocol db attempt.taskId with
      | error error => exact alone_bind_error (by rw [alone_check, protocol])
      | ok state =>
        rw [alone_bind_ok (by rw [alone_check, protocol])]
        rfl

/-- What stands against the completion and is recorded with the attempt. -/
def recordedBlockers (attempt : ReplacementAttempt) (found : CompletionEvidence) (args : CompletionArgs) : List String :=
  completionBlockers attempt found args ++ protocolBlockers attempt found.protocol

/-- What stands against the transition of the protocol and is only raised. -/
def unrecordedBlockers (attempt : ReplacementAttempt) (found : CompletionEvidence) (args : CompletionArgs) : List String :=
  match found.protocol.currentWorkerId with
  | none => []
  | some current =>
    if some current ≠ attempt.previousWorkerId ∨ found.protocol.generation ≠ attempt.previousGeneration then
      ["current worker/generation changed since replacement was armed"]
    else
      match takeoverEligibility found.protocol attempt.candidateWorkerId args.now with
      | .error _ => []
      | .ok eligibility => ["worker protocol replacement ceased to be eligible: " ++ eligibility.reason.value]

/-- Why a blocked call is blocked. -/
def refusal (attempt : ReplacementAttempt) (found : CompletionEvidence) (args : CompletionArgs) : List String :=
  if recordedBlockers attempt found args ≠ [] then recordedBlockers attempt found args
  else unrecordedBlockers attempt found args

/-- The row of an attempt with the reasons and the run of a blocked call. -/
def blockedRow (attempt : ReplacementAttempt) (args : CompletionArgs) (blockers : List String) : ReplacementAttempt :=
  updatedReplacement attempt .reconcileRequired (some args.newActiveRunId) (some (joined blockers)) args.now

/-- Only the row of the attempt is written, if anything. -/
structure Wrote (args : CompletionArgs) (row : ReplacementAttempt) (before after : Database) : Prop where
  shape : after = { before with replacementAttempts := after.replacementAttempts }
  found : after.replacementAttempts.find? args.attemptId = some row

private theorem write_alone (named : attempt.attemptId = args.attemptId) (submitted : attempt.state = .lsmTakeoverSubmitted) {recorded : List String}
    {value : ReplacementAttempt}
    (returned : ((writeReplacement (ω := NoAnswer) attempt .reconcileRequired (some args.newActiveRunId)
      (some (joined recorded)) args.now).run.alone db).1 = .ok value) :
    Wrote args (blockedRow attempt args recorded) db
      ((writeReplacement (ω := NoAnswer) attempt .reconcileRequired (some args.newActiveRunId) (some (joined recorded))
        args.now).run.alone db).2 := by
  have allowed : requireAllowedReplacement attempt .reconcileRequired = .ok () := by
    rw [requireAllowedReplacement, refuse_eq_ok, not_not, submitted]
    decide
  have whole : (writeReplacement (ω := NoAnswer) attempt .reconcileRequired (some args.newActiveRunId)
      (some (joined recorded)) args.now).run.alone db =
      (transaction (replaceReplacementAttempt (blockedRow attempt args recorded)) >>= fun _ =>
        check (fun db => getReplacementAttempt db attempt.attemptId)).run.alone db :=
    alone_bind_ok (show (ensure (requireAllowedReplacement attempt .reconcileRequired) :
      ExceptT SupervisorError (Program Database NoAnswer) Unit).run.alone db = (.ok (), db) by rw [alone_ensure, allowed])
  rw [whole] at returned ⊢
  cases written : replaceReplacementAttempt (blockedRow attempt args recorded) db with
  | error error =>
    rw [alone_bind_error (alone_transaction_error written)] at returned
    cases returned
  | ok pair =>
    rw [alone_bind_ok (alone_transaction_ok written)]
    refine ⟨?_, ?_⟩
    · unfold replaceReplacementAttempt at written
      split at written
      next => cases written
      next =>
        split at written
        next => cases written
        next => cases written; rfl
    · have row := replaceReplacementAttempt_ok written args.attemptId
      rwa [if_pos (show args.attemptId = (blockedRow attempt args recorded).attemptId from named.symm)] at row

private theorem block_alone (found : db.replacementAttempts.find? args.attemptId = some attempt)
    (awaiting : attempt.state = .lsmTakeoverSubmitted ∨ attempt.state = .reconcileRequired) {recorded : List String}
    (run : (blockReplacement args recorded).run.alone db = (.error (.replacementBlocked blockers), after)) :
    blockers = recorded ∧
      Wrote args (if attempt.state = .lsmTakeoverSubmitted then blockedRow attempt args recorded else attempt) db after := by
  have read : getReplacementAttempt db args.attemptId = .ok attempt := by rw [getReplacementAttempt, found]
  have named : attempt.attemptId = args.attemptId := (Table.find?_some.mp found).2
  obtain ⟨value, returned, raised⟩ := Quiet.raised quiet_update run
  obtain ⟨rfl, rfl⟩ : recorded = blockers ∧ (_ : Database) = after := by
    rw [alone_ensure] at raised
    simpa using raised
  refine ⟨rfl, ?_⟩
  have start : (updateReplacementAttempt args.attemptId .reconcileRequired (some args.newActiveRunId)
      (some (joined recorded)) args.now).run.alone db = _ :=
    alone_bind_ok (show (check (fun db => getReplacementAttempt db args.attemptId) :
      ExceptT SupervisorError (Program Database NoAnswer) _).run.alone db = (.ok attempt, db) by rw [alone_check, read])
  rcases awaiting with submitted | blocked
  · rw [if_pos submitted]
    rw [start, if_neg (by rw [submitted]; decide)] at returned ⊢
    exact write_alone named submitted returned
  · rw [if_neg (by rw [blocked]; decide), start, if_pos blocked.symm]
    exact ⟨rfl, found⟩

private theorem supersede_alone {found : CompletionEvidence} {current : String}
    (lead : found.protocol.currentWorkerId = some current)
    (run : (supersedeWorker args attempt found.protocol current).run.alone db =
      (.error (.replacementBlocked blockers), after)) :
    after = db ∧ blockers = unrecordedBlockers attempt found args := by
  unfold unrecordedBlockers
  rw [lead]
  dsimp only
  by_cases changed : some current ≠ attempt.previousWorkerId ∨ found.protocol.generation ≠ attempt.previousGeneration
  · rw [if_pos changed]
    have refused : refuse (some current ≠ attempt.previousWorkerId ∨ found.protocol.generation ≠ attempt.previousGeneration)
        (SupervisorError.replacementBlocked ["current worker/generation changed since replacement was armed"]) =
        .error (.replacementBlocked ["current worker/generation changed since replacement was armed"]) := by
      rw [refuse_eq_error]
      exact ⟨changed, rfl⟩
    rw [supersedeWorker, alone_bind_error (by rw [alone_ensure, refused])] at run
    cases run
    exact ⟨rfl, rfl⟩
  rw [if_neg changed]
  have passed : refuse (some current ≠ attempt.previousWorkerId ∨ found.protocol.generation ≠ attempt.previousGeneration)
      (SupervisorError.replacementBlocked ["current worker/generation changed since replacement was armed"]) = .ok () := by
    rw [refuse_eq_ok]
    exact changed
  rw [supersedeWorker, alone_bind_ok (by rw [alone_ensure, passed])] at run
  cases judged : takeoverEligibility found.protocol attempt.candidateWorkerId args.now with
  | error error =>
    rw [judged, alone_bind_error (by rw [alone_ensure, Except.mapError])] at run
    cases run
  | ok eligibility =>
    rw [judged, alone_bind_ok (by rw [alone_ensure, Except.mapError])] at run
    split at run
    next =>
      have quiet : Quiet (transaction (protocolTakeoverWorker attempt.taskId attempt.candidateWorkerId
          found.protocol.revision args.leaseSeconds args.now) >>= fun takeover => ensure (refuse (takeover.accepted = false)
            (SupervisorError.runtime ("replacement takeover rejected: " ++ takeover.code.value))) >>= fun _ =>
              pure takeover.state) :=
        .bind (.transaction (fun _ => plain_transition)) (fun _ => .bind (.ensure (.refuse (by simp))) (fun _ => .ensure (.ok _)))
      exact absurd (congrArg Prod.fst run) (quiet db blockers)
    next =>
      split at run
      next =>
        have quiet : Quiet (transaction (protocolAbandonWorker attempt.taskId current found.protocol.generation
            found.protocol.revision args.now) >>= fun abandoned => ensure (refuse (abandoned.accepted = false)
              (SupervisorError.runtime ("old worker fence rejected: " ++ abandoned.code.value))) >>= fun _ =>
                claimCandidate args attempt abandoned.state) :=
          .bind (.transaction (fun _ => plain_transition)) (fun _ => .bind (.ensure (.refuse (by simp))) (fun _ => quiet_claim _))
        exact absurd (congrArg Prod.fst run) (quiet db blockers)
      next =>
        rw [alone_ensure] at run
        cases run
        exact ⟨rfl, rfl⟩

private theorem publish_alone {found : CompletionEvidence}
    (run : (publishCandidate args attempt found.protocol).run.alone db = (.error (.replacementBlocked blockers), after)) :
    after = db ∧ blockers = unrecordedBlockers attempt found args := by
  unfold publishCandidate at run
  split at run
  next => exact absurd (congrArg Prod.fst run) (quiet_claim _ db blockers)
  next current lead => exact supersede_alone lead run

/-- What a blocked call leaves behind. -/
structure Refused (args : CompletionArgs) (attempt : ReplacementAttempt) (blockers : List String) (found : CompletionEvidence)
    (before after : Database) : Prop where
  reasons : blockers = refusal attempt found args
  recorded : recordedBlockers attempt found args ≠ [] →
    Wrote args (if attempt.state = .lsmTakeoverSubmitted then blockedRow attempt args blockers else attempt) before after
  silent : recordedBlockers attempt found args = [] → after = before

theorem complete_refused (stored : db.replacementAttempts.find? args.attemptId = some attempt)
    (awaiting : attempt.state = .lsmTakeoverSubmitted ∨ attempt.state = .reconcileRequired)
    (run : (completeReplacement args).run.alone db = (.error (.replacementBlocked blockers), after)) :
    ∃ found, evidenceOf attempt db = .ok found ∧ Refused args attempt blockers found db after := by
  have read : getReplacementAttempt db args.attemptId = .ok attempt := by rw [getReplacementAttempt, stored]
  have passed : refuse (attempt.state ∉ [.lsmTakeoverSubmitted, .reconcileRequired])
      (SupervisorError.runtime ("replacement " ++ args.attemptId ++ " is not awaiting LSM reconciliation")) = .ok () := by
    rw [refuse_eq_ok, not_not]
    simpa using awaiting
  rw [completeReplacement, alone_bind_ok (by rw [alone_check, read]), alone_bind_ok (by rw [alone_ensure, passed])] at run
  obtain ⟨found, returned, rest⟩ := Quiet.raised quiet_reads run
  rw [readEvidence_alone] at returned rest
  refine ⟨found, returned, ?_⟩
  change (if recordedBlockers attempt found args ≠ [] then blockReplacement args (recordedBlockers attempt found args) else
    _).run.alone db = _ at rest
  split at rest
  next blocked =>
    obtain ⟨rfl, wrote⟩ := block_alone stored awaiting rest
    exact ⟨(if_pos blocked).symm, fun _ => wrote, fun free => absurd free blocked⟩
  next free =>
    have quiet (args : CompletionArgs) : Quiet (finishReplacement args) := quiet_update
    split at rest
    next => exact absurd (congrArg Prod.fst rest) (quiet args db blockers)
    next =>
      have silent : after = db ∧ blockers = unrecordedBlockers attempt found args := by
        rcases alone_andThen (publishCandidate args attempt found.protocol) _ db with ⟨value, _, same⟩ | ⟨error, raised, same⟩
        · rw [same] at rest
          have later : Quiet (ensure (refuse (value.currentWorkerId ≠ some attempt.candidateWorkerId)
              (SupervisorError.runtime "replacement transition did not publish candidate authority")) >>= fun _ =>
                finishReplacement args) :=
            .bind (.ensure (.refuse (by simp))) (fun _ => quiet args)
          exact absurd (congrArg Prod.fst rest) (later _ blockers)
        · rw [same] at rest
          cases rest
          exact publish_alone (Prod.ext raised rfl)
      exact ⟨by rw [refusal, if_neg free, silent.2], fun blocked => absurd blocked free, fun _ => silent.1⟩

/-- The call left its reasons and its run with the attempt, and changed nothing else. -/
def Kept (args : CompletionArgs) (blockers : List String) (before after : Database) : Prop :=
  after = { before with replacementAttempts := after.replacementAttempts } ∧
    ∃ row, after.replacementAttempts.find? args.attemptId = some row ∧ row.state = .reconcileRequired ∧
      row.lastError = some (clip 1000 (joined blockers)) ∧ row.newActiveRunId = givenText (some args.newActiveRunId) none

/-- The row of an attempt already reads as a call would leave it. -/
def AsRecorded (attempt : ReplacementAttempt) (args : CompletionArgs) (blockers : List String) : Prop :=
  attempt.lastError = some (clip 1000 (joined blockers)) ∧
    attempt.newActiveRunId = givenText (some args.newActiveRunId) none

/-- When a blocked call is on record. Either it is the first one that is recorded,
or the attempt is already on record with the same reasons and run. -/
def Recordable (attempt : ReplacementAttempt) (found : CompletionEvidence) (args : CompletionArgs) : Prop :=
  attempt.state = .lsmTakeoverSubmitted ∧ recordedBlockers attempt found args ≠ [] ∨
    attempt.state = .reconcileRequired ∧ AsRecorded attempt args (refusal attempt found args)

private theorem kept_of_row {row : ReplacementAttempt}
    (shape : after = { db with replacementAttempts := after.replacementAttempts })
    (found : after.replacementAttempts.find? args.attemptId = some row) :
    Kept args blockers db after ↔ row.state = .reconcileRequired ∧ AsRecorded row args blockers := by
  constructor
  · rintro ⟨_, other, present, blocked, same⟩
    cases found.symm.trans present
    exact ⟨blocked, same⟩
  · rintro ⟨blocked, same⟩
    exact ⟨shape, row, found, blocked, same⟩

private theorem blockedRow_recorded : (blockedRow attempt args blockers).state = .reconcileRequired ∧
    AsRecorded (blockedRow attempt args blockers) args blockers :=
  ⟨rfl, rfl, rfl⟩

/-- A call of `complete_replacement` that is blocked leaves everything but the attempt
as it was. The attempt is then RECONCILE_REQUIRED with the reasons and the run of this
call exactly when the attempt was still submitted and the reasons were found before the
protocol was to move, or it was blocked for these reasons and with this run before. -/
theorem blocked_replacement_recorded (db after : Database) (args : CompletionArgs) (attempt : ReplacementAttempt)
    (blockers : List String) (stored : db.replacementAttempts.find? args.attemptId = some attempt)
    (awaiting : attempt.state = .lsmTakeoverSubmitted ∨ attempt.state = .reconcileRequired)
    (run : (completeReplacement args).run.alone db = (.error (.replacementBlocked blockers), after)) :
    after = { db with replacementAttempts := after.replacementAttempts } ∧
      ∃ found, evidenceOf attempt db = .ok found ∧ blockers = refusal attempt found args ∧
        (Kept args blockers db after ↔ Recordable attempt found args) := by
  obtain ⟨found, returned, refused⟩ := complete_refused stored awaiting run
  have submitted_only : attempt.state = .lsmTakeoverSubmitted → attempt.state ≠ .reconcileRequired := by
    rintro submitted
    rw [submitted]
    decide
  by_cases free : recordedBlockers attempt found args = []
  · cases refused.silent free
    refine ⟨rfl, found, returned, refused.reasons, ?_⟩
    rw [kept_of_row rfl stored, Recordable, refused.reasons]
    exact ⟨Or.inr, fun held => held.resolve_left (fun first => first.2 free)⟩
  · have wrote := refused.recorded free
    refine ⟨wrote.shape, found, returned, refused.reasons, ?_⟩
    rcases awaiting with submitted | blocked
    · rw [if_pos submitted] at wrote
      rw [kept_of_row wrote.shape wrote.found]
      exact ⟨fun _ => Or.inl ⟨submitted, free⟩, fun _ => blockedRow_recorded⟩
    · rw [if_neg (fun submitted => submitted_only submitted blocked)] at wrote
      rw [kept_of_row wrote.shape wrote.found, Recordable, refused.reasons]
      exact ⟨Or.inr, fun held => held.resolve_left (fun first => submitted_only first.1 blocked)⟩

end Programs

/-- A child whose takeover was submitted. Its candidate is not in the protocol. -/
def submittedChild : Database :=
  { openChild with
    replacementAttempts :=
      ⟨⟨[{ attemptId := "replace_1", taskId := "child", candidateWorkerId := "worker", state := .lsmTakeoverSubmitted
           expectedRevision := 0, previousWorkerId := none, previousGeneration := 0, lsmSessionId := "session"
           previousActiveRunId := none, workspaceGitHead := none, workspaceStatusHash := none, expectedBranch := none
           mode := "CLAIM_AFTER_LSM_RESUME", takeoverReason := "no_active_worker", createdAt := 0, updatedAt := 0 }],
        by decide⟩, by simp⟩ }

/-- A completion without any evidence, and one that reports another run. -/
def withoutEvidence : CompletionArgs :=
  { attemptId := "replace_1", newActiveRunId := "run_1", lsm := none, workspace := none, now := 5 }

def withSession : CompletionArgs :=
  { attemptId := "replace_1", newActiveRunId := "run_2", workspace := none, now := 6
    lsm := some { taskId := "child", observedAt := 6, sessionId := some "session", activeRunId := some "run_2" } }

/-- The registry after the first completion. -/
def blockedChild : Database := ((completeReplacement withoutEvidence).run.alone submittedChild).2

def firstReasons : List String :=
  ["fresh LSM observation is required", "fresh workspace observation is required",
   "replacement candidate disappeared from worker protocol"]

def secondReasons : List String :=
  ["fresh workspace observation is required", "replacement candidate disappeared from worker protocol"]

private theorem first_blocked : (completeReplacement withoutEvidence).run.alone submittedChild =
    (.error (.replacementBlocked firstReasons), blockedChild) :=
  Prod.ext (by decide +kernel) rfl

private theorem second_blocked : (completeReplacement withSession).run.alone blockedChild =
    (.error (.replacementBlocked secondReasons), ((completeReplacement withSession).run.alone blockedChild).2) :=
  Prod.ext (by decide +kernel) rfl

theorem blocked_replacement_recorded_first :
    ∃ attempt, submittedChild.replacementAttempts.find? "replace_1" = some attempt ∧
      attempt.state = .lsmTakeoverSubmitted ∧
      ∃ found, evidenceOf attempt submittedChild = .ok found ∧ firstReasons = refusal attempt found withoutEvidence ∧
        (Kept withoutEvidence firstReasons submittedChild blockedChild ↔ Recordable attempt found withoutEvidence) :=
  ⟨_, rfl, rfl, (blocked_replacement_recorded submittedChild blockedChild withoutEvidence _ firstReasons rfl (Or.inl rfl)
    first_blocked).2⟩

/-- The second of two blocked calls leaves the reasons and the run of the first. -/
theorem blocked_replacement_recorded_fails :
    ¬ ∀ (db after : Database) (args : CompletionArgs) (attempt : ReplacementAttempt) (blockers : List String),
      db.replacementAttempts.find? args.attemptId = some attempt →
      (attempt.state = .lsmTakeoverSubmitted ∨ attempt.state = .reconcileRequired) →
      (completeReplacement args).run.alone db = (.error (.replacementBlocked blockers), after) →
      Kept args blockers db after := by
  intro always
  have blocked : (blockedChild.replacementAttempts.find? "replace_1").map (·.state) = some .reconcileRequired := by
    decide +kernel
  obtain ⟨attempt, present, state⟩ := Option.map_eq_some_iff.mp blocked
  obtain ⟨_, row, found, _, recorded, _⟩ :=
    always blockedChild _ withSession attempt secondReasons present (Or.inr state) second_blocked
  have kept : (((completeReplacement withSession).run.alone blockedChild).2.replacementAttempts.find? "replace_1").map
      (·.lastError) = some (some (clip 1000 (joined firstReasons))) := by decide +kernel
  rw [show withSession.attemptId = "replace_1" from rfl] at found
  rw [found, Option.map_some, recorded] at kept
  exact absurd kept (by decide +kernel)

end WebSupervisor.Replacement.Proofs
