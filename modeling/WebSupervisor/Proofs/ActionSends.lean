import WebSupervisor.Library.Certificate
import WebSupervisor.Library.History
import WebSupervisor.Proofs.ActionChange

/-! Sends of one task. Executions, reconciliations and the revising methods run
beside each other and may crash anywhere. An attempt is sent by the process that
has armed it and by nobody else, and a task arms its next attempt only when all
earlier ones have been resolved. -/

namespace WebSupervisor.ActionRuntime.Proofs
open Library Library.Program Registry Registry.Proofs

/-- The calls of the runtime. `other` is any writer of the registry that leaves
the action attempts alone. -/
inductive ActionCall where
  | execute (execution : RecoveryExecution)
  | reconcile (attemptId : String) (now : Time)
  | revise (method : ActionMethod)
  | other (write : Database → Database)

def ActionCall.body : ActionCall → Program Database Answer Unit
  | .execute execution => (fun _ => ()) <$> (executeCurrentWorkerRecovery execution).run
  | .reconcile attemptId now => (fun _ => ()) <$> (reconcileActionWithUia attemptId now).run
  | .revise method => (fun _ => ()) <$> method.program.run
  | .other write => .atomic (fun db => { write db with actionAttempts := db.actionAttempts }) (fun _ => .pure ())

def actionMachine : Machine Database Answer ActionCall Unit := { body := ActionCall.body }

abbrev ActionEvent := Event Database Answer Unit

/-- The event is a call of `transport.submit` for the attempt. -/
def sends (attemptId : String) : ActionEvent → Bool
  | .issued _ (.submit intent) _ => intent.attemptId = attemptId
  | _ => false

def ArmedIn (attempt : ActionAttempt) (log : List ActionEvent) : Prop :=
  ∃ pid before after, .committed pid before after ∈ log ∧ Arms attempt before after

def ArmedBy (pid : Nat) (attemptId : String) (log : List ActionEvent) : Prop :=
  ∃ attempt before after, .committed pid before after ∈ log ∧ Arms attempt before after ∧
    attempt.attemptId = attemptId

/-- The commit takes the attempt out of the unresolved states. -/
def Leaves (attemptId : String) (event : ActionEvent) : Prop :=
  ∃ pid before after, event = .committed pid before after ∧
    (∃ old ∈ before.actionAttempts, old.attemptId = attemptId ∧ old.state.Unresolved) ∧
    ∃ new ∈ after.actionAttempts, new.attemptId = attemptId ∧ ¬ new.state.Unresolved

def Unsent (attemptId : String) (log : List ActionEvent) : Prop := ∀ event ∈ log, sends attemptId event = false

/-- Why an event may stand after the older ones. -/
def Reason : ActionEvent → List ActionEvent → Prop
  | .committed _ before after, _ => AttemptChange before after
  | .issued pid (.submit intent) _, older => ArmedBy pid intent.attemptId older ∧ Unsent intent.attemptId older
  | _, _ => True

structure Ordered (start : Database) (shared : Shared Database Answer Unit) : Prop where
  linked : Linked start shared.log shared.store
  justified : Justified Reason shared.log

/-- An attempt that a process has armed stays armed by it, and unsent as far as
others go. -/
def Reserved (pid : Nat) (before after : Shared Database Answer Unit) : Prop :=
  ∀ attemptId, ArmedBy pid attemptId before.log →
    ArmedBy pid attemptId after.log ∧ (Unsent attemptId before.log → Unsent attemptId after.log)

def sending (start : Database) : Contract Database Answer ActionCall Unit where
  valid := Ordered start
  rely pid _ seen now := Reserved pid seen now ∧ Retained seen.store now.store
  guarantee pid _ before after := (∀ other ≠ pid, Reserved other before after) ∧ Retained before.store after.store

theorem sending_isolated (start : Database) : (sending start).Isolated actionMachine where
  refl _ _ _ := ⟨fun _ armed => ⟨armed, id⟩, .refl _⟩
  trans one two := by
    refine ⟨fun attemptId armed => ?_, one.2.trans two.2⟩
    obtain ⟨armed, first⟩ := one.1 attemptId armed
    obtain ⟨armed, second⟩ := two.1 attemptId armed
    exact ⟨armed, fun unsent => second (first unsent)⟩
  cover different _ guaranteed := ⟨guaranteed.1 _ (Ne.symm different), guaranteed.2⟩

section History
variable {start : Database} {shared : Shared Database Answer Unit} {pid other : Nat} {attemptId : String}

private theorem Ordered.change (ordered : Ordered start shared) {before after : Database}
    (member : .committed pid before after ∈ shared.log) : AttemptChange before after := by
  obtain ⟨_, _, _, change⟩ := ordered.justified.of_mem member
  exact change

private theorem retained_along {first last : Database} {log : List ActionEvent} (linked : Linked first log last)
    (changes : ∀ pid before after, .committed pid before after ∈ log → AttemptChange before after) :
    Retained first last := by
  intro attemptId taskId recorded
  exact linked.stays recorded
    (fun pid before after member earlier => (changes pid before after member).retained attemptId taskId earlier)

private theorem arms_recorded {attempt : ActionAttempt} {before after : Database} (arms : Arms attempt before after) :
    Recorded after attempt.attemptId attempt.taskId :=
  ⟨attempt, (arms.rows attempt).mpr (Or.inr rfl), rfl, rfl⟩

private theorem Ordered.armed_recorded (ordered : Ordered start shared) (armed : ArmedBy pid attemptId shared.log) :
    ∃ row ∈ shared.store.actionAttempts, row.attemptId = attemptId := by
  obtain ⟨attempt, before, after, member, arms, rfl⟩ := armed
  obtain ⟨newer, older, split⟩ := List.append_of_mem member
  have linked := ordered.linked
  rw [split] at linked
  have retained := retained_along linked.since (fun pid before after inside =>
    ordered.change (split ▸ List.mem_append_left _ inside))
  obtain ⟨row, present, same, _⟩ := retained _ _ (arms_recorded arms)
  exact ⟨row, present, same⟩

private theorem Ordered.not_armed_again (ordered : Ordered start shared) {newer middle older : List ActionEvent}
    {before after found left : Database} {first second : ActionAttempt}
    (split : shared.log = newer ++ .committed other found left :: (middle ++ .committed pid before after :: older))
    (one : Arms first before after) (two : Arms second found left) : first.attemptId ≠ second.attemptId := by
  intro same
  have linked := ordered.linked
  rw [split] at linked
  have retained := retained_along linked.between (fun pid before after inside =>
    ordered.change (split ▸ List.mem_append_right _ (List.mem_cons_of_mem _ (List.mem_append_left _ inside))))
  obtain ⟨row, present, equal, _⟩ := retained _ _ (arms_recorded one)
  exact two.fresh row present (equal.trans same)

private theorem Ordered.armed_once (ordered : Ordered start shared) (one : ArmedBy pid attemptId shared.log)
    (two : ArmedBy other attemptId shared.log) : pid = other := by
  obtain ⟨first, before, after, firstMember, firstArms, firstId⟩ := one
  obtain ⟨second, found, left, secondMember, secondArms, secondId⟩ := two
  obtain ⟨newer, older, split⟩ := List.append_of_mem firstMember
  rw [split] at secondMember
  rcases List.mem_append.mp secondMember with later | rest
  · obtain ⟨latest, middle, rfl⟩ := List.append_of_mem later
    rw [List.append_assoc, List.cons_append] at split
    exact absurd (firstId.trans secondId.symm) (ordered.not_armed_again split firstArms secondArms)
  · rcases List.mem_cons.mp rest with same | earlier
    · cases same
      rfl
    · obtain ⟨middle, oldest, rfl⟩ := List.append_of_mem earlier
      exact absurd (secondId.trans firstId.symm) (ordered.not_armed_again split secondArms firstArms)

private theorem Ordered.unsent (ordered : Ordered start shared)
    (fresh : ∀ old ∈ shared.store.actionAttempts, old.attemptId ≠ attemptId) : Unsent attemptId shared.log := by
  intro event member
  by_contra sent
  unfold sends at sent
  split at sent
  next sender intent found =>
    obtain ⟨newer, older, split, armed, _⟩ := ordered.justified.of_mem member
    obtain ⟨attempt, before, after, inside, arms, same⟩ := armed
    have earlier : ArmedBy sender attemptId shared.log :=
      ⟨attempt, before, after, split ▸ List.mem_append_right _ (List.mem_cons_of_mem _ inside), arms,
        same.trans (by simpa using sent)⟩
    obtain ⟨row, present, equal⟩ := ordered.armed_recorded earlier
    exact fresh row present equal
  next => exact sent rfl

end History

section Steps
variable {start : Database} {pid : Nat} {call : ActionCall} {now : Shared Database Answer Unit}

private theorem ArmedBy.cons {attemptId : String} {log : List ActionEvent} {event : ActionEvent}
    (armed : ArmedBy pid attemptId log) : ArmedBy pid attemptId (event :: log) := by
  obtain ⟨attempt, before, after, member, rest⟩ := armed
  exact ⟨attempt, before, after, List.mem_cons_of_mem _ member, rest⟩

private theorem Unsent.cons {attemptId : String} {log : List ActionEvent} {event : ActionEvent}
    (unsent : Unsent attemptId log) (quiet : sends attemptId event = false) : Unsent attemptId (event :: log) := by
  intro other member
  rcases List.mem_cons.mp member with rfl | old
  · exact quiet
  · exact unsent other old

private theorem reserved_cons {after : Shared Database Answer Unit} {event : ActionEvent}
    (log : after.log = event :: now.log) (quiet : ∀ attemptId, sends attemptId event = false) (other : Nat) :
    Reserved other now after := by
  intro attemptId armed
  rw [log]
  exact ⟨armed.cons, fun unsent => unsent.cons (quiet attemptId)⟩

private theorem keeps_commit (ordered : Ordered start now) {after : Database} (change : AttemptChange now.store after) :
    Keeps (sending start).valid ((sending start).guarantee pid call) now (now.became pid after) :=
  ⟨⟨ordered.linked.became pid after, ordered.justified.cons change⟩,
    fun other _ => reserved_cons rfl (fun _ => rfl) other, change.retained⟩

private theorem keeps_read (ordered : Ordered start now) :
    Keeps (sending start).valid ((sending start).guarantee pid call) now (now.became pid now.store) :=
  keeps_commit ordered (.same rfl)

private theorem keeps_answer (ordered : Ordered start now) (request : Request) (answer : Answer request) :
    Keeps (sending start).valid ((sending start).guarantee pid call) now
      (now.record (.answered pid request answer)) :=
  ⟨⟨ordered.linked, ordered.justified.cons trivial⟩, fun other _ => reserved_cons rfl (fun _ => rfl) other, .refl _⟩

private theorem keeps_issue (ordered : Ordered start now) {request : Request} (harmless : ∀ intent, request ≠ .submit intent) :
    Keeps (sending start).valid ((sending start).guarantee pid call) now (now.issue pid request) := by
  have quiet (attemptId : String) : sends attemptId (.issued pid request now.store) = false := by
    cases request with
    | submit intent => exact absurd rfl (harmless intent)
    | transportFactory binding => rfl
    | observerFactory executable => rfl
    | observe workerId url nonce handle browserPid => rfl
  refine ⟨⟨ordered.linked.issue pid request, ordered.justified.cons ?_⟩, fun other _ => reserved_cons rfl quiet other,
    .refl _⟩
  cases request with
  | submit intent => exact absurd rfl (harmless intent)
  | transportFactory binding => trivial
  | observerFactory executable => trivial
  | observe workerId url nonce handle browserPid => trivial

private theorem keeps_submit (ordered : Ordered start now) {intent : ActionIntent}
    (armed : ArmedBy pid intent.attemptId now.log) (unsent : Unsent intent.attemptId now.log) :
    Keeps (sending start).valid ((sending start).guarantee pid call) now (now.issue pid (.submit intent)) := by
  refine ⟨⟨ordered.linked.issue pid _, ordered.justified.cons ⟨armed, unsent⟩⟩, fun other different => ?_, .refl _⟩
  intro attemptId reserved
  refine ⟨reserved.cons, fun free => free.cons ?_⟩
  simp only [sends, decide_eq_false_iff_not]
  rintro rfl
  exact different (ordered.armed_once reserved armed)

end Steps

section Certificates
variable {start : Database} {pid : Nat} {call : ActionCall} {seen : Shared Database Answer Unit} {β : Type}

private theorem finds_refl (shared : Shared Database Answer Unit) : (sending start).Finds pid call shared shared :=
  ⟨.refl pid shared, (sending_isolated start).refl pid call shared⟩

private theorem safe_done (value : β) : (sending start).Safe pid call (fun _ _ => True) (.pure value) seen :=
  fun _ _ _ => trivial

private theorem safe_check (view : Database → Except SupervisorError β) :
    (sending start).Safe pid call (fun _ _ => True) (check view).run seen := by
  apply Certified.check
  exact fun now ordered _ => ⟨keeps_read ordered, by simp⟩

private theorem safe_ask {request : Request} (harmless : ∀ intent, request ≠ .submit intent)
    (receive : Answer request → Except SupervisorError β) :
    (sending start).Safe pid call (fun _ _ => True) (ask request receive).run seen := by
  apply Certified.ask
  intro now ordered _
  refine ⟨keeps_issue ordered harmless, fun later lateOrdered _ answer => ?_⟩
  exact ⟨keeps_answer lateOrdered request answer, by simp⟩

private theorem safe_then {γ : Type} {program : Runtime β} {next : β → Runtime γ} (ordered : Ordered start seen)
    (first : (sending start).Safe pid call (fun _ _ => True) program.run seen)
    (rest : ∀ value now, Ordered start now → (sending start).Safe pid call (fun _ _ => True) (next value).run now) :
    (sending start).Safe pid call (fun _ _ => True) (program >>= next).run seen :=
  Certified.andThen finds_refl ordered first (fun value now nowOrdered _ => rest value now nowOrdered)
    (fun _ _ _ _ => safe_done _)

private theorem safe_ensure {γ : Type} {result : Except SupervisorError β} {next : β → Runtime γ}
    (rest : ∀ value, result = .ok value → (sending start).Safe pid call (fun _ _ => True) (next value).run seen) :
    (sending start).Safe pid call (fun _ _ => True) (ensure result >>= next).run seen :=
  Certified.ensure rest (fun _ _ => safe_done _)

private theorem safe_replace {changed : ActionAttempt}
    (recorded : Recorded seen.store changed.attemptId changed.taskId) :
    (sending start).Safe pid call (fun _ _ => True) (transaction (replaceActionAttempt changed)).run seen := by
  apply Certified.transaction
  intro now ordered found
  refine ⟨fun value after replaced => ⟨keeps_commit ordered ?_, by simp⟩, fun _ _ => ⟨keeps_read ordered, by simp⟩⟩
  obtain ⟨row, present, sameId, sameTask⟩ := found.2.2 _ _ recorded
  exact .revised row changed present sameId sameTask (replaceActionAttempt_ok replaced).2

private theorem safe_revise {revision : Revision} {target : ActionAttemptState} (revises : Revises revision target)
    (ordered : Ordered start seen) :
    (sending start).Safe pid call (fun _ _ => True) (reviseAction revision).run seen := by
  let read : Except SupervisorError ActionAttempt → Shared Database Answer Unit → Prop := fun result now =>
    ∀ changed, result = .ok changed → Recorded now.store changed.attemptId changed.taskId
  have checked : (sending start).Safe pid call read (check (fun db => do
      let attempt ← getActionAttempt db revision.attemptId
      revision.change attempt)).run seen := by
    apply Certified.check
    intro now nowOrdered _
    refine ⟨keeps_read nowOrdered, fun last _ found changed accepted => ?_⟩
    rw [bind_eq_ok] at accepted
    obtain ⟨attempt, present, revised⟩ := accepted
    refine found.2.2 _ _ ⟨attempt, (getActionAttempt_ok present).1, ?_, ?_⟩
    · exact (revises.identity revised).symm
    · exact (revises.task revised).symm
  refine Certified.andThen finds_refl ordered checked ?_ (fun _ _ _ _ => safe_done _)
  intro changed now nowOrdered recorded
  exact safe_then nowOrdered (safe_replace (recorded changed rfl)) (fun _ _ _ => safe_check _)

private theorem safe_method (method : ActionMethod) (ordered : Ordered start seen) :
    (sending start).Safe pid call (fun _ _ => True) method.program.run seen := by
  cases method with
  | markSubmitted attemptId transportName now => exact safe_revise (submittedRevision_revises ..) ordered
  | markReconcileRequired attemptId error transportName now =>
    exact safe_revise (reconcileRequiredRevision_revises ..) ordered
  | fail attemptId error transportName now => exact safe_revise (failedRevision_revises ..) ordered
  | acknowledge acknowledgement => exact safe_revise (acknowledgedRevision_revises ..) ordered
  | recordAckBrowserSignature attemptId signature =>
    exact safe_ensure (fun _ _ => safe_revise (browserSignatureRevision_revises ..) ordered)
  | cancel attemptId reason now => exact safe_revise (cancelledRevision_revises ..) ordered

private theorem safe_settle (attemptId transportName : String) (markedAt : Time) (answer : SubmitAnswer)
    (ordered : Ordered start seen) :
    (sending start).Safe pid call (fun _ _ => True) (settleSubmission attemptId transportName markedAt answer).run
      seen := by
  cases answer with
  | disabled message => exact safe_done _
  | raised exception =>
    exact safe_then ordered (safe_revise (reconcileRequiredRevision_revises ..) ordered) (fun _ _ _ => safe_done _)
  | returned result =>
    rw [settleSubmission]
    split
    · exact safe_then ordered (safe_revise (submittedRevision_revises ..) ordered) (fun _ _ _ => safe_done _)
    · split
      · exact safe_then ordered (safe_revise (reconcileRequiredRevision_revises ..) ordered)
          (fun _ _ _ => safe_done _)
      · exact safe_then ordered (safe_revise (failedRevision_revises ..) ordered) (fun _ _ _ => safe_done _)

/-- The process has armed the attempt and not sent it. -/
private def Loaded (pid : Nat) (attemptId : String) (shared : Shared Database Answer Unit) : Prop :=
  ArmedBy pid attemptId shared.log ∧ Unsent attemptId shared.log

private theorem Loaded.later {attemptId : String} {now : Shared Database Answer Unit} (loaded : Loaded pid attemptId seen)
    (found : (sending start).Finds pid call seen now) : Loaded pid attemptId now :=
  ⟨(found.2.1 attemptId loaded.1).1, (found.2.1 attemptId loaded.1).2 loaded.2⟩

private theorem Loaded.read {attemptId : String} (loaded : Loaded pid attemptId seen) :
    Loaded pid attemptId (seen.became pid seen.store) :=
  ⟨loaded.1.cons, loaded.2.cons rfl⟩

private theorem intentFromAttempt_attemptId {attempt : ActionAttempt} {prompt : String} {intent : ActionIntent}
    (built : intentFromAttempt attempt prompt = .ok intent) : intent.attemptId = attempt.attemptId := by
  simp only [intentFromAttempt, bind_eq_ok] at built
  obtain ⟨_, _, _, _, _, _, same⟩ := built
  cases same
  rfl

private theorem safe_submit {attemptId : String} (prompt transportName : String) (markedAt : Time)
    (ordered : Ordered start seen) (loaded : Loaded pid attemptId seen) :
    (sending start).Safe pid call (fun _ _ => True) (submitArmedAction attemptId prompt transportName markedAt).run
      seen := by
  let built : Except SupervisorError ActionIntent → Shared Database Answer Unit → Prop := fun result now =>
    Loaded pid attemptId now ∧ ∀ intent, result = .ok intent → intent.attemptId = attemptId
  have checked : (sending start).Safe pid call built (check (fun db => do
      let attempt ← getActionAttempt db attemptId
      intentFromAttempt attempt prompt)).run seen := by
    apply Certified.check
    intro now nowOrdered found
    refine ⟨keeps_read nowOrdered, fun last _ after => ⟨(loaded.later found).read.later after, ?_⟩⟩
    intro intent accepted
    rw [bind_eq_ok] at accepted
    obtain ⟨attempt, present, made⟩ := accepted
    exact (intentFromAttempt_attemptId made).trans (getActionAttempt_ok present).2
  refine Certified.andThen finds_refl ordered checked ?_ (fun _ _ _ _ => safe_done _)
  intro intent middle middleOrdered known
  obtain ⟨ready, same⟩ := known
  have asked : (sending start).Safe pid call (fun _ _ => True)
      (ask (.submit intent) .ok : Runtime SubmitAnswer).run middle := by
    apply Certified.ask
    intro now nowOrdered found
    obtain ⟨armed, unsent⟩ := ready.later found
    rw [← same intent rfl] at armed unsent
    refine ⟨keeps_submit nowOrdered armed unsent, fun later lateOrdered _ answer => ?_⟩
    exact ⟨keeps_answer lateOrdered _ answer, by simp⟩
  exact safe_then middleOrdered asked (fun answer now nowOrdered => safe_settle _ _ _ answer nowOrdered)

private theorem safe_arm (execution : RecoveryExecution) (attempt : ActionAttempt) :
    (sending start).Safe pid call (fun result now => result = .ok () → Loaded pid attempt.attemptId now)
      (transaction (execution.arm attempt)).run seen := by
  apply Certified.transaction
  intro now ordered _
  refine ⟨fun value after armed => ?_, fun error _ => ⟨keeps_read ordered, fun _ _ _ impossible => nomatch impossible⟩⟩
  have arms := arm_ok armed
  refine ⟨keeps_commit ordered (.armed attempt arms), fun last _ found _ => ?_⟩
  have loaded : Loaded pid attempt.attemptId (now.became pid after) :=
    ⟨⟨attempt, now.store, after, List.mem_cons_self .., arms, rfl⟩, (ordered.unsent arms.fresh).cons rfl⟩
  exact loaded.later found

private theorem safe_execute (execution : RecoveryExecution) (ordered : Ordered start seen) :
    (sending start).Safe pid call (fun _ _ => True) (executeCurrentWorkerRecovery execution).run seen := by
  refine safe_ensure (fun _ _ => ?_)
  refine safe_then ordered (safe_check _) (fun task seen ordered => ?_)
  refine safe_ensure (fun workerId _ => ?_)
  refine safe_then ordered (safe_check _) (fun worker seen ordered => ?_)
  refine safe_ensure (fun _ _ => ?_)
  refine safe_then ordered (safe_check _) (fun _ seen ordered => ?_)
  refine safe_then ordered (safe_check _) (fun current seen ordered => ?_)
  refine safe_then ordered (safe_check _) (fun binding seen ordered => ?_)
  refine safe_then ordered (safe_check _) (fun signature seen ordered => ?_)
  refine safe_then ordered (safe_ask (by simp) _) (fun transportName seen ordered => ?_)
  refine safe_ensure (fun attempt _ => ?_)
  refine Certified.andThen finds_refl ordered (safe_arm execution _) ?_ (fun _ _ _ _ => safe_done _)
  intro _ now nowOrdered loaded
  exact safe_then nowOrdered (safe_submit _ _ _ nowOrdered (loaded rfl)) (fun _ _ _ => safe_done _)

private theorem safe_reconcile (attemptId : String) (time : Time) (ordered : Ordered start seen) :
    (sending start).Safe pid call (fun _ _ => True) (reconcileActionWithUia attemptId time).run seen := by
  refine safe_then ordered (safe_check _) (fun attempt seen ordered => ?_)
  split
  · refine safe_then ordered (safe_check _) (fun task seen ordered => ?_)
    refine safe_ensure (fun _ _ => ?_)
    refine safe_then ordered (safe_check _) (fun worker seen ordered => ?_)
    refine safe_ensure (fun _ _ => ?_)
    refine safe_then ordered (safe_check _) (fun binding seen ordered => ?_)
    refine safe_then ordered (safe_ask (by simp) _) (fun _ seen ordered => ?_)
    refine safe_then ordered (safe_ask (by simp) _) (fun observation seen ordered => ?_)
    unfold acknowledgeObserved
    split
    next => exact safe_done _
    next ack built =>
      exact safe_then ordered (safe_revise (acknowledgedRevision_revises ack) ordered) (fun _ _ _ => safe_done _)
  · exact safe_done _

private theorem safe_returns {program : Program Database Answer β}
    (safe : (sending start).Safe pid call (fun _ _ => True) program seen) :
    (sending start).CertifiedPhase pid call seen (.running ((fun _ => ()) <$> program)) := by
  refine Certified.map (safe.weaken (fun _ now ordered _ => ?_))
  exact ⟨⟨ordered.linked, ordered.justified.cons trivial⟩, fun other _ => reserved_cons rfl (fun _ => rfl) other,
    .refl _⟩

theorem sending_certifies (start : Database) : (sending start).Certifies actionMachine := by
  intro pid call seen ordered _
  cases call with
  | execute execution => exact safe_returns (safe_execute execution ordered)
  | reconcile attemptId now => exact safe_returns (safe_reconcile attemptId now ordered)
  | revise method => exact safe_returns (safe_method method ordered)
  | other write =>
    intro now nowOrdered _
    refine ⟨keeps_commit nowOrdered (.same rfl), fun last lastOrdered _ => ?_⟩
    exact ⟨⟨lastOrdered.linked, lastOrdered.justified.cons trivial⟩,
      fun other _ => reserved_cons rfl (fun _ => rfl) other, .refl _⟩

end Certificates

/-- What holds of the sends in a world. Logs stand latest first. -/
structure OneUnresolvedSend (world : World Database Answer ActionCall Unit) : Prop where
  once : ∀ attemptId, world.log.countP (sends attemptId) ≤ 1
  armed : ∀ newer pid intent found older, world.log = newer ++ .issued pid (.submit intent) found :: older →
    ∃ attempt before after, .committed pid before after ∈ older ∧ Arms attempt before after ∧
      attempt.attemptId = intent.attemptId
  unresolved : ∀ first ∈ world.store.actionAttempts, ∀ second ∈ world.store.actionAttempts,
    first.taskId = second.taskId → first.state.Unresolved → second.state.Unresolved → first = second
  resolved : ∀ newer sender intent found middle armer before after earlier first second,
    world.log = newer ++ .issued sender (.submit intent) found :: (middle ++ .committed armer before after :: earlier) →
    Arms second before after → second.attemptId = intent.attemptId → ArmedIn first earlier →
    first.taskId = second.taskId → ∃ event ∈ earlier, Leaves first.attemptId event

private theorem Ordered.left {start : Database} {shared : Shared Database Answer Unit} (ordered : Ordered start shared)
    {newer earlier : List ActionEvent} {armer : Nat} {before after : Database} {first second : ActionAttempt}
    (split : shared.log = newer ++ .committed armer before after :: earlier) (arms : Arms second before after)
    (armed : ArmedIn first earlier) (sameTask : first.taskId = second.taskId) :
    ∃ event ∈ earlier, Leaves first.attemptId event := by
  obtain ⟨pid, found, left, member, firstArms⟩ := armed
  obtain ⟨middle, oldest, rfl⟩ := List.append_of_mem member
  have changes (pid : Nat) (before after : Database) (inside : .committed pid before after ∈ middle) :
      AttemptChange before after :=
    ordered.change (split ▸ List.mem_append_right _ (List.mem_cons_of_mem _ (List.mem_append_left _ inside)))
  have linked := ordered.linked
  rw [split] at linked
  let unresolved : Database → Prop := fun db =>
    ∃ row ∈ db.actionAttempts, row.attemptId = first.attemptId ∧ row.state.Unresolved
  have initially : unresolved left :=
    ⟨first, (firstArms.rows first).mpr (Or.inr rfl), rfl, Or.inl firstArms.state⟩
  have lastly : ¬ unresolved before := by
    rintro ⟨row, present, same, isOpen⟩
    obtain ⟨kept, keptMember, keptId, keptTask⟩ :=
      retained_along linked.between changes _ _ (arms_recorded firstArms)
    obtain rfl := attempt_eq keptMember present (keptId.trans same.symm)
    exact arms.resolved kept present (keptTask.trans sameTask) isOpen
  obtain ⟨mover, old, new, inside, ⟨row, present, same, isOpen⟩, closed⟩ := linked.between.crossing initially lastly
  obtain ⟨kept, keptMember, keptId, _⟩ :=
    (changes mover old new inside).retained _ _ ⟨row, present, same, rfl⟩
  refine ⟨_, List.mem_append_left _ inside, mover, old, new, rfl, ⟨row, present, same, isOpen⟩, kept, keptMember,
    keptId, ?_⟩
  exact fun stillOpen => closed ⟨kept, keptMember, keptId, stillOpen⟩

/-- An attempt is sent at most once and only after its ARMED row was committed;
a task has at most one unresolved attempt; and a later attempt is sent only
after the earlier ones were resolved. -/
theorem one_unresolved_send (start : Database) (moves : List (Move Answer ActionCall)) :
    OneUnresolvedSend (run actionMachine.move { store := start, log := [] } moves) := by
  have initial : (sending start).valid { store := start, log := [] } := ⟨rfl, .nil⟩
  have ordered := Contract.run_valid (sending_isolated start) (sending_certifies start) initial rfl moves
  refine ⟨fun attemptId => ?_, ?_, ?_, ?_⟩
  · refine ordered.justified.once (fun event older reason sent => ?_)
    unfold sends at sent
    split at sent
    next pid intent found =>
      obtain rfl : intent.attemptId = attemptId := by simpa using sent
      exact reason.2
    next => cases sent
  · intro newer pid intent found older split
    obtain ⟨attempt, before, after, member, arms, same⟩ := (ordered.justified newer _ older split).1
    exact ⟨attempt, before, after, member, arms, same⟩
  · intro first firstMember second secondMember sameTask firstOpen secondOpen
    refine IndexedTable.eq_of_index firstMember secondMember ?_ ?_
    · simp [ActionAttempt.unresolvedTask, firstOpen]
    · simp [ActionAttempt.unresolvedTask, firstOpen, secondOpen, sameTask]
  · intro newer sender intent found middle armer before after earlier first second split arms _ armed sameTask
    rw [← List.cons_append, ← List.append_assoc] at split
    exact ordered.left split arms armed sameTask

end WebSupervisor.ActionRuntime.Proofs
