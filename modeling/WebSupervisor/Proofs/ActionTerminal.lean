import WebSupervisor.Library.Certificate
import WebSupervisor.Library.History
import WebSupervisor.Proofs.ActionChange

/-! Terminal attempts. A revising method checks the attempt it has read and
writes it back later. As long as no attempt is resolved between a call's read
and its write, a terminal state is never left. -/

namespace WebSupervisor.Registry.Proofs
open Library Library.Program

abbrev Revised := Except SupervisorError ActionAttempt

def reviseMachine : Machine Database NoAnswer ActionMethod Revised := { body := fun method => method.program.run }

def ActionMethod.attemptId : ActionMethod → String
  | .markSubmitted attemptId .. | .markReconcileRequired attemptId .. | .fail attemptId ..
  | .recordAckBrowserSignature attemptId _ | .cancel attemptId .. => attemptId
  | .acknowledge acknowledgement => acknowledgement.attemptId

/-- The state that a method writes. -/
def ActionMethod.target : ActionMethod → ActionAttemptState
  | .markSubmitted .. => .submitted
  | .markReconcileRequired .. => .reconcileRequired
  | .fail .. => .failed
  | .acknowledge _ | .recordAckBrowserSignature .. => .acknowledged
  | .cancel .. => .cancelled

/-- What a method makes of the attempt that it has read. -/
def ActionMethod.revision : ActionMethod → Revision
  | .markSubmitted attemptId transportName now => submittedRevision attemptId transportName now
  | .markReconcileRequired attemptId error transportName now =>
    reconcileRequiredRevision attemptId error transportName now
  | .fail attemptId error transportName now => failedRevision attemptId error transportName now
  | .acknowledge acknowledgement => acknowledgedRevision acknowledgement
  | .recordAckBrowserSignature attemptId signature => browserSignatureRevision attemptId (strip signature)
  | .cancel attemptId reason now => cancelledRevision attemptId reason now

/-- A call that has read an unresolved attempt, has not refused it and is about to
write it back: the attempt is still unresolved, or it is already in the state that
the call writes. -/
def StillOpen (pid : Nat) (method : ActionMethod) (seen now : Shared Database NoAnswer Revised) : Prop :=
  (seen.log.filter (·.pid == pid)).length = 1 →
    ∀ read ∈ seen.store.actionAttempts, read.attemptId = ActionMethod.attemptId method → read.state.Unresolved →
    (∃ changed, (ActionMethod.revision method).change read = .ok changed) →
    ∀ row ∈ now.store.actionAttempts, row.attemptId = ActionMethod.attemptId method →
      row.state.Unresolved ∨ row.state = ActionMethod.target method

/-- The attempt is stored in this terminal state. -/
def StoredTerminal (db : Database) (attemptId : String) (state : ActionAttemptState) : Prop :=
  ¬ state.Unresolved ∧ ∃ row ∈ db.actionAttempts, row.attemptId = attemptId ∧ row.state = state

/-- No terminal state is left. -/
def Absorbs (before after : Database) : Prop :=
  ∀ attemptId state, StoredTerminal before attemptId state → StoredTerminal after attemptId state

structure Absorbed (start : Database) (shared : Shared Database NoAnswer Revised) : Prop where
  linked : Linked start shared.log shared.store
  absorbs : ∀ pid before after, .committed pid before after ∈ shared.log → Absorbs before after
  returned : ∀ pid attempt, .returned pid (.ok attempt) ∈ shared.log → ¬ attempt.state.Unresolved →
    StoredTerminal shared.store attempt.attemptId attempt.state

def absorbing (start : Database) : Contract Database NoAnswer ActionMethod Revised where
  valid := Absorbed start
  rely := StillOpen
  guarantee _ _ _ _ := True

section Steps
variable {start : Database} {pid : Nat} {method : ActionMethod} {seen now : Shared Database NoAnswer Revised}

private theorem Absorbed.persists (earlier : Absorbed start seen) (later : Absorbed start now)
    (grown : seen.log <:+ now.log) : Absorbs seen.store now.store := by
  obtain ⟨newer, same⟩ := grown
  have linked := later.linked
  rw [← same] at linked
  have since := earlier.linked.resume linked
  have absorbs (pid : Nat) (before after : Database) (member : .committed pid before after ∈ newer) :
      Absorbs before after := later.absorbs pid before after (same ▸ List.mem_append_left _ member)
  exact fun attemptId state stored => since.stays stored (fun pid before after member =>
    absorbs pid before after member attemptId state)

private theorem Absorbed.commit (absorbed : Absorbed start now) {after : Database} (absorbs : Absorbs now.store after) :
    Keeps (absorbing start).valid ((absorbing start).guarantee pid method) now (now.became pid after) := by
  refine ⟨⟨absorbed.linked.became pid after, ?_, ?_⟩, trivial⟩
  · intro other before found member
    rcases List.mem_cons.mp member with same | old
    · cases same
      exact absorbs
    · exact absorbed.absorbs other before found old
  · intro other attempt member terminal
    rcases List.mem_cons.mp member with same | old
    · cases same
    · exact absorbs _ _ (absorbed.returned other attempt old terminal)

private theorem Absorbed.read (absorbed : Absorbed start now) :
    Keeps (absorbing start).valid ((absorbing start).guarantee pid method) now (now.became pid now.store) :=
  absorbed.commit (fun _ _ stored => stored)

private theorem keeps_return (absorbed : Absorbed start now) {result : Revised}
    (stored : ∀ attempt, result = .ok attempt → ¬ attempt.state.Unresolved →
      StoredTerminal now.store attempt.attemptId attempt.state) : (absorbing start).Returns pid method result now := by
  refine ⟨⟨absorbed.linked, ?_, ?_⟩, trivial⟩
  · intro other before found member
    rcases List.mem_cons.mp member with same | old
    · cases same
    · exact absorbed.absorbs other before found old
  · intro other attempt member terminal
    rcases List.mem_cons.mp member with same | old
    · cases same
      exact stored attempt rfl terminal
    · exact absorbed.returned other attempt old terminal

/-- The call has made its read and nothing else, and it has accepted the attempt. -/
private structure Poised (pid : Nat) (method : ActionMethod) (seen : Shared Database NoAnswer Revised) : Prop where
  read : (seen.log.filter (·.pid == pid)).length = 1
  accepted : ∃ attempt ∈ seen.store.actionAttempts, attempt.attemptId = ActionMethod.attemptId method ∧
    ∃ changed, (ActionMethod.revision method).change attempt = .ok changed

private theorem Poised.isOpen (ready : Poised pid method seen)
    (revises : Revises (ActionMethod.revision method) (ActionMethod.target method)) (earlier : Absorbed start seen)
    (later : Absorbed start now) (found : (absorbing start).Finds pid method seen now) :
    ∀ row ∈ now.store.actionAttempts, row.attemptId = ActionMethod.attemptId method →
      row.state.Unresolved ∨ row.state = ActionMethod.target method := by
  intro row present same
  obtain ⟨old, member, named, changed, accepted⟩ := ready.accepted
  by_cases unresolved : old.state.Unresolved
  · exact found.2 ready.read old member named unresolved ⟨changed, accepted⟩ row present same
  · -- A terminal row that was accepted is in the target state and stays there.
    have target : old.state = ActionMethod.target method := (revises.guard accepted).resolve_left unresolved
    obtain ⟨_, kept, keptMember, keptId, keptState⟩ :=
      earlier.persists later found.1.log _ _ ⟨unresolved, old, member, named, rfl⟩
    obtain rfl := attempt_eq keptMember present (keptId.trans same.symm)
    exact Or.inr (keptState.trans target)

private theorem replaced_absorbs {db after : Database} {changed : ActionAttempt}
    (replaced : replaceActionAttempt changed db = .ok ((), after))
    (isOpen : ∀ row ∈ db.actionAttempts, row.attemptId = changed.attemptId →
      row.state.Unresolved ∨ row.state = changed.state) : Absorbs db after := by
  obtain ⟨_, rows⟩ := replaceActionAttempt_ok replaced
  rintro attemptId state ⟨terminal, row, present, rfl, rfl⟩
  by_cases own : row.attemptId = changed.attemptId
  · have same := (isOpen row present own).resolve_left terminal
    exact ⟨terminal, changed, (rows changed).mpr (Or.inl rfl), own.symm, same.symm⟩
  · exact ⟨terminal, row, (rows row).mpr (Or.inr ⟨present, own⟩), rfl, rfl⟩

end Steps

section Certificates
variable {start : Database} {pid : Nat} {method : ActionMethod} {seen : Shared Database NoAnswer Revised}

private theorem absorbing_refl (shared : Shared Database NoAnswer Revised) :
    (absorbing start).Finds pid method shared shared := by
  refine ⟨.refl pid shared, fun _ read member same unresolved _ row present sameRow => Or.inl ?_⟩
  exact attempt_eq member present (same.trans sameRow.symm) ▸ unresolved

private theorem safe_error (error : SupervisorError) :
    (absorbing start).Safe pid method ((absorbing start).Returns pid method) (.pure (.error error)) seen :=
  fun _ absorbed _ => keeps_return absorbed (fun _ impossible => nomatch impossible)

private theorem safe_write {changed : ActionAttempt}
    (revises : Revises (ActionMethod.revision method) (ActionMethod.target method)) (absorbed : Absorbed start seen)
    (ready : Poised pid method seen) (named : changed.attemptId = ActionMethod.attemptId method)
    (state : changed.state = ActionMethod.target method) :
    (absorbing start).Safe pid method (fun _ _ => True) (transaction (replaceActionAttempt changed)).run seen := by
  apply Certified.transaction
  intro now nowAbsorbed found
  refine ⟨fun _ after replaced => ⟨nowAbsorbed.commit (replaced_absorbs replaced ?_), by simp⟩,
    fun _ _ => ⟨nowAbsorbed.read, by simp⟩⟩
  intro row member same
  rw [state]
  exact ready.isOpen revises absorbed nowAbsorbed found row member (same.trans named)

private theorem safe_answer (attemptId : String) :
    (absorbing start).Safe pid method ((absorbing start).Returns pid method)
      (check (fun db => getActionAttempt db attemptId)).run seen := by
  apply Certified.check
  intro now absorbed _
  have kept : Keeps (absorbing start).valid ((absorbing start).guarantee pid method) now (now.became pid now.store) :=
    absorbed.read
  refine ⟨kept, fun last lastAbsorbed found => keeps_return lastAbsorbed ?_⟩
  intro attempt present terminal
  exact kept.1.persists lastAbsorbed found.1.log _ _ ⟨terminal, attempt, (getActionAttempt_ok present).1, rfl, rfl⟩

private theorem safe_revise (named : (ActionMethod.revision method).attemptId = ActionMethod.attemptId method)
    (revises : Revises (ActionMethod.revision method) (ActionMethod.target method))
    (fresh : ∀ event ∈ seen.log, event.pid ≠ pid) :
    (absorbing start).Safe pid method ((absorbing start).Returns pid method)
      (reviseAction (ActionMethod.revision method)).run seen := by
  apply Certified.checked
  intro now absorbed found
  have kept : Keeps (absorbing start).valid ((absorbing start).guarantee pid method) now (now.became pid now.store) :=
    absorbed.read
  refine ⟨kept, fun changed accepted => ?_, fun error _ => safe_error error⟩
  rw [bind_eq_ok] at accepted
  obtain ⟨attempt, present, revised⟩ := accepted
  obtain ⟨member, same⟩ := getActionAttempt_ok present
  have none : now.log.filter (·.pid == pid) = [] := by
    rw [found.1.own, List.filter_eq_nil_iff]
    exact fun event inside => by simpa using fresh event inside
  have ready : Poised pid method (now.became pid now.store) :=
    ⟨by simp [none], attempt, member, same.trans named, changed, revised⟩
  refine Certified.andThen absorbing_refl kept.1 (safe_write revises kept.1 ready ?_ (revises.state revised))
    (fun _ _ _ _ => safe_answer _) (fun error _ _ _ => safe_error error)
  exact (revises.identity revised).trans (same.trans named)

theorem absorbing_certifies (start : Database) : (absorbing start).Certifies reviseMachine := by
  intro pid method seen absorbed fresh
  cases method with
  | markSubmitted attemptId transportName now => exact safe_revise rfl (submittedRevision_revises ..) fresh
  | markReconcileRequired attemptId error transportName now =>
    exact safe_revise rfl (reconcileRequiredRevision_revises ..) fresh
  | fail attemptId error transportName now => exact safe_revise rfl (failedRevision_revises ..) fresh
  | acknowledge acknowledgement => exact safe_revise rfl (acknowledgedRevision_revises ..) fresh
  | recordAckBrowserSignature attemptId signature =>
    refine Certified.ensure (fun _ _ => ?_) (fun error _ => safe_error error)
    exact safe_revise rfl (browserSignatureRevision_revises ..) fresh
  | cancel attemptId reason now => exact safe_revise rfl (cancelledRevision_revises ..) fresh

end Certificates

/-- In every run in which no attempt is resolved between the read and the write of a
call that has accepted it, a terminal row keeps its state from then on, and so does every terminal
state that a call has returned. -/
theorem terminal_states_absorb (start : Database) (first rest : List (Move NoAnswer ActionMethod))
    (undisturbed : UndisturbedRun StillOpen reviseMachine { store := start, log := [] } (first ++ rest)) :
    let earlier := run reviseMachine.move { store := start, log := [] } first
    let later := run reviseMachine.move earlier rest
    (∀ row ∈ earlier.store.actionAttempts, ¬ row.state.Unresolved →
      ∃ kept ∈ later.store.actionAttempts, kept.attemptId = row.attemptId ∧ kept.state = row.state) ∧
    ∀ pid attempt, .returned pid (.ok attempt) ∈ earlier.log → ¬ attempt.state.Unresolved →
      ∃ kept ∈ later.store.actionAttempts, kept.attemptId = attempt.attemptId ∧ kept.state = attempt.state := by
  intro earlier later
  have initial : (absorbing start).Holds { store := start, log := [] } := .initial ⟨rfl, by simp, by simp⟩ rfl
  have before := (Contract.run_holds (absorbing_certifies start) initial first undisturbed.left).valid
  have after := (Contract.run_holds (absorbing_certifies start) initial (first ++ rest) undisturbed).valid
  rw [run_append] at after
  have absorbs := before.persists after (run_extends earlier rest)
  constructor
  · intro row member terminal
    exact (absorbs _ _ ⟨terminal, row, member, rfl, rfl⟩).2
  · intro pid attempt member terminal
    exact (absorbs _ _ (before.returned pid attempt member terminal)).2

/-- One armed attempt and nothing else. -/
def oneArmed : Database :=
  { actionAttempts :=
      ⟨⟨[{ attemptId := "act_1", taskId := "task", workerId := "worker", action := "CONTINUE_CURRENT_WORKER",
           fenceToken := "fence", fenceVersion := 1, promptHash := "hash", nonce := "nonce", state := .armed,
           createdAt := 0, updatedAt := 0 }], by decide⟩, by simp⟩ }

/-- An attempt is cancelled, and a later call finds it so. -/
theorem terminal_states_absorb_cancelled :
    let first : List (Move NoAnswer ActionMethod) :=
      [.start (.cancel "act_1" "operator" 5), .step 0, .step 0, .step 0, .step 0]
    let rest : List (Move NoAnswer ActionMethod) := [.start (.markSubmitted "act_1" "uia" 6), .step 1, .step 1]
    let earlier := run reviseMachine.move { store := oneArmed, log := [] } first
    let later := run reviseMachine.move earlier rest
    (getActionAttempt earlier.store "act_1").map (·.state) = .ok .cancelled ∧
      ∀ row ∈ earlier.store.actionAttempts, ¬ row.state.Unresolved →
        ∃ kept ∈ later.store.actionAttempts, kept.attemptId = row.attemptId ∧ kept.state = row.state := by
  refine ⟨by decide +kernel, (terminal_states_absorb oneArmed _ _ ?_).1⟩
  refine ⟨trivial, ?_, ?_, ?_, ?_, trivial, ?_, ?_, trivial⟩ <;> rintro process ⟨⟩ _ one
  · cases one
  · intro read member same unresolved _ row present sameRow
    exact Or.inl (attempt_eq member present (same.trans sameRow.symm) ▸ unresolved)
  · cases one
  · cases one
  · cases one
  · intro read member same unresolved _ row present sameRow
    exact Or.inl (attempt_eq member present (same.trans sameRow.symm) ▸ unresolved)

/-- A call reads the armed attempt, the attempt is cancelled and the cancelling
call returns it so, and then the first call writes SUBMITTED over it. -/
theorem terminal_states_absorb_fails :
    let first : List (Move NoAnswer ActionMethod) :=
      [.start (.markSubmitted "act_1" "uia" 6), .step 0,
       .start (.cancel "act_1" "operator" 5), .step 1, .step 1, .step 1, .step 1]
    let earlier := run reviseMachine.move { store := oneArmed, log := [] } first
    let later := run reviseMachine.move earlier [.step 0]
    (∃ attempt, .returned 1 (.ok attempt) ∈ earlier.log ∧ attempt.state = .cancelled) ∧
      (getActionAttempt earlier.store "act_1").map (·.state) = .ok .cancelled ∧
      (getActionAttempt later.store "act_1").map (·.state) = .ok .submitted := by
  refine ⟨⟨_, List.mem_cons_self .., rfl⟩, by decide +kernel, by decide +kernel⟩

end WebSupervisor.Registry.Proofs
