import WebSupervisor.Library.Program

/-! Programs that run with no other process beside them and ask nothing of their
environment. Such a run is a function of the store. -/

namespace WebSupervisor.Library.Program

variable {σ α β ε : Type}

/-- The value that the program returns and the store that it leaves. -/
def alone : Program σ NoAnswer α → σ → α × σ
  | .pure value, store => (value, store)
  | .atomic effect next, store => (next store).alone (effect store)
  | .call request _, _ => request.elim

theorem alone_bind (program : Program σ NoAnswer α) (next : α → Program σ NoAnswer β) (store : σ) :
    (program.bind next).alone store = (next (program.alone store).1).alone (program.alone store).2 := by
  induction program generalizing store with
  | pure value => rfl
  | atomic effect rest ih => exact ih store (effect store)
  | call request => exact request.elim

/-- The first part has returned, or it has raised and the second part does not start. -/
theorem alone_andThen (program : ExceptT ε (Program σ NoAnswer) α) (next : α → ExceptT ε (Program σ NoAnswer) β)
    (store : σ) :
    (∃ value, (program.run.alone store).1 = .ok value ∧
      (program >>= next).run.alone store = (next value).run.alone (program.run.alone store).2) ∨
    ∃ error, (program.run.alone store).1 = .error error ∧
      (program >>= next).run.alone store = (.error error, (program.run.alone store).2) := by
  have split := alone_bind program.run (ExceptT.bindCont next) store
  cases result : (program.run.alone store).1 with
  | ok value =>
    rw [result] at split
    exact Or.inl ⟨value, rfl, split⟩
  | error error =>
    rw [result] at split
    exact Or.inr ⟨error, rfl, split⟩

theorem alone_bind_ok {program : ExceptT ε (Program σ NoAnswer) α} {next : α → ExceptT ε (Program σ NoAnswer) β}
    {store after : σ} {value : α} (first : program.run.alone store = (.ok value, after)) :
    (program >>= next).run.alone store = (next value).run.alone after := by
  have split := alone_bind program.run (ExceptT.bindCont next) store
  rw [first] at split
  exact split

theorem alone_bind_error {program : ExceptT ε (Program σ NoAnswer) α} {next : α → ExceptT ε (Program σ NoAnswer) β}
    {store after : σ} {error : ε} (first : program.run.alone store = (.error error, after)) :
    (program >>= next).run.alone store = (.error error, after) := by
  have split := alone_bind program.run (ExceptT.bindCont next) store
  rw [first] at split
  exact split

theorem alone_assoc {γ : Type} (program : ExceptT ε (Program σ NoAnswer) α) (next : α → ExceptT ε (Program σ NoAnswer) β)
    (last : β → ExceptT ε (Program σ NoAnswer) γ) (store : σ) :
    ((program >>= next) >>= last).run.alone store = (program >>= fun value => next value >>= last).run.alone store := by
  rcases alone_andThen program next store with ⟨value, first, rest⟩ | ⟨error, first, rest⟩
  · rw [alone_bind_ok (Prod.ext first rfl)]
    rcases alone_andThen (next value) last (program.run.alone store).2 with ⟨result, second, last⟩ | ⟨error, second, last⟩
    · rw [last, alone_bind_ok (rest.trans (Prod.ext second rfl))]
    · rw [last, alone_bind_error (rest.trans (Prod.ext second rfl))]
  · rw [alone_bind_error (Prod.ext first rfl), alone_bind_error rest]

theorem alone_check (view : σ → Except ε α) (store : σ) :
    (check view : ExceptT ε (Program σ NoAnswer) α).run.alone store = (view store, store) := rfl

theorem alone_ensure (result : Except ε α) (store : σ) :
    (ensure result : ExceptT ε (Program σ NoAnswer) α).run.alone store = (result, store) := rfl

theorem alone_transaction_ok {work : σ → Except ε (α × σ)} {store after : σ} {value : α}
    (done : work store = .ok (value, after)) :
    (transaction work : ExceptT ε (Program σ NoAnswer) α).run.alone store = (.ok value, after) := by
  simp [transaction, transact, alone, ExceptT.run, ExceptT.mk, done, Except.map]

theorem alone_transaction_error {work : σ → Except ε (α × σ)} {store : σ} {error : ε}
    (raised : work store = .error error) :
    (transaction work : ExceptT ε (Program σ NoAnswer) α).run.alone store = (.error error, store) := by
  simp [transaction, transact, alone, ExceptT.run, ExceptT.mk, raised, Except.map]

theorem alone_transaction_returned {work : σ → Except ε (α × σ)} {store : σ} {value : α}
    (returned : ((transaction work : ExceptT ε (Program σ NoAnswer) α).run.alone store).1 = .ok value) :
    work store = .ok (value, ((transaction work : ExceptT ε (Program σ NoAnswer) α).run.alone store).2) := by
  cases result : work store with
  | ok pair =>
    rw [alone_transaction_ok result] at returned ⊢
    cases returned
    rfl
  | error error =>
    rw [alone_transaction_error result] at returned
    cases returned

end WebSupervisor.Library.Program
