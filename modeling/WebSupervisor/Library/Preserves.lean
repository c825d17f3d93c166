import WebSupervisor.Library.Program

/-! Invariants of the store that every single step keeps, whatever the process
has seen before. Only the answers of the environment may be restricted. -/

namespace WebSupervisor.Library

variable {σ ρ : Type} {ω : ρ → Type} {κ α β γ ε : Type}

namespace Program
variable (holds : σ → Prop) (admits : (request : ρ) → ω request → Prop)

def Preserves : Program σ ω α → Prop
  | .pure _ => True
  | .atomic effect next => (∀ store, holds store → holds (effect store)) ∧ ∀ found, (next found).Preserves
  | .call request next => ∀ answer, admits request answer → (next answer).Preserves

variable {holds admits}

namespace Preserves

theorem bind {program : Program σ ω β} {next : β → Program σ ω γ} (first : Preserves holds admits program)
    (rest : ∀ value, Preserves holds admits (next value)) : Preserves holds admits (program.bind next) := by
  induction program with
  | pure value => exact rest value
  | atomic effect tail ih => exact ⟨first.1, fun found => ih found (first.2 found)⟩
  | call request tail ih => exact fun answer admitted => ih answer (first answer admitted)

theorem map {program : Program σ ω β} {convert : β → γ} (first : Preserves holds admits program) :
    Preserves holds admits (convert <$> program) :=
  first.bind (fun _ => trivial)

/-- A raising sequence. -/
theorem andThen {program : ExceptT ε (Program σ ω) β} {next : β → ExceptT ε (Program σ ω) γ}
    (first : Preserves holds admits program.run) (rest : ∀ value, Preserves holds admits (next value).run) :
    Preserves holds admits (program >>= next).run := by
  refine first.bind ?_
  rintro (error | value)
  · trivial
  · exact rest value

theorem mapOk {program : ExceptT ε (Program σ ω) β} {convert : β → γ} (first : Preserves holds admits program.run) :
    Preserves holds admits (convert <$> program).run := by
  refine first.bind ?_
  rintro (error | value)
  · trivial
  · trivial

theorem done {value : β} : Preserves holds admits (Pure.pure value : ExceptT ε (Program σ ω) β).run := trivial

theorem ensure {result : Except ε β} : Preserves holds admits (Program.ensure result : ExceptT ε (Program σ ω) β).run :=
  trivial

theorem check {view : σ → Except ε β} : Preserves holds admits (Program.check view : ExceptT ε (Program σ ω) β).run :=
  ⟨fun _ held => held, fun _ => trivial⟩

theorem transaction {work : σ → Except ε (β × σ)}
    (step : ∀ store value after, holds store → work store = .ok (value, after) → holds after) :
    Preserves holds admits (Program.transaction work : ExceptT ε (Program σ ω) β).run := by
  refine ⟨fun store held => ?_, fun _ => trivial⟩
  dsimp only
  split
  next value after done => exact step store value after held done
  next => exact held

/-- A request, and the rest of the call with an answer that is admitted. -/
theorem askThen {request : ρ} {receive : ω request → Except ε β} {next : β → ExceptT ε (Program σ ω) γ}
    (rest : ∀ answer value, admits request answer → receive answer = .ok value →
      Preserves holds admits (next value).run) :
    Preserves holds admits (Program.ask request receive >>= next).run := by
  intro answer admitted
  change Preserves holds admits ((Program.pure (receive answer)).bind (ExceptT.bindCont next))
  cases received : receive answer with
  | error error => trivial
  | ok value => exact rest answer value admitted received

theorem ask {request : ρ} {receive : ω request → Except ε β} :
    Preserves holds admits (Program.ask request receive : ExceptT ε (Program σ ω) β).run :=
  fun _ _ => trivial

theorem attempt {program : ExceptT ε (Program σ ω) β} (first : Preserves holds admits program.run) :
    Preserves holds admits (Program.attempt program).run :=
  first.bind (fun _ => trivial)

end Preserves

end Program

section Runs
variable (holds : σ → Prop) (admits : (request : ρ) → ω request → Prop)

private def PhasePreserves : Phase σ ω α → Prop
  | .running program => program.Preserves holds admits
  | .waiting request next => ∀ answer, admits request answer → (next answer).Preserves holds admits
  | .ended => True

private structure Preserved (world : World σ ω κ α) : Prop where
  store : holds world.store
  phases : ∀ process ∈ world.processes, PhasePreserves holds admits process.phase

/-- A move by calls and answers that are allowed. -/
def Allowed (machine : Machine σ ω κ α) : Move ω κ → Prop
  | .start call => (machine.body call).Preserves holds admits
  | .answer _ reply => ∀ request, admits request (reply request)
  | .step _ | .crash _ => True

variable {holds admits}

private theorem Preserved.advance {world : World σ ω κ α} (preserved : Preserved holds admits world) {pid : Nat}
    {change : Shared σ ω α → Phase σ ω α → Option (Phase σ ω α × Shared σ ω α)}
    (kept : ∀ before after shared, PhasePreserves holds admits before →
      change world.toShared before = some (after, shared) → holds shared.store ∧ PhasePreserves holds admits after) :
    Preserved holds admits (world.advance pid change) := by
  unfold World.advance
  split
  next => exact preserved
  next process found =>
    split
    next => exact preserved
    next phase shared changed =>
      obtain ⟨store, next⟩ := kept _ _ _ (preserved.phases process (List.mem_of_getElem? found)) changed
      refine ⟨store, fun other member => ?_⟩
      rcases List.mem_or_eq_of_mem_set member with old | rfl
      · exact preserved.phases other old
      · exact next

private theorem Preserved.move {machine : Machine σ ω κ α} {world : World σ ω κ α}
    (preserved : Preserved holds admits world) (move : Move ω κ) (allowed : Allowed holds admits machine move) :
    Preserved holds admits (machine.move world move) := by
  cases move with
  | start call =>
    simp only [Machine.move]
    split
    next =>
      refine ⟨preserved.store, fun process member => ?_⟩
      rcases List.mem_append.mp member with old | new
      · exact preserved.phases process old
      · rw [List.mem_singleton] at new
        exact new ▸ allowed
    next => exact preserved
  | step pid =>
    refine preserved.advance (fun before after shared phase stepped => ?_)
    unfold Process.step at stepped
    split at stepped
    next =>
      cases stepped
      exact ⟨preserved.store, trivial⟩
    next =>
      cases stepped
      exact ⟨phase.1 _ preserved.store, phase.2 _⟩
    next =>
      cases stepped
      exact ⟨preserved.store, phase⟩
    next => cases stepped
    next => cases stepped
  | answer pid reply =>
    refine preserved.advance (fun before after shared phase received => ?_)
    unfold Process.receive at received
    split at received
    next =>
      cases received
      exact ⟨preserved.store, phase _ (allowed _)⟩
    next => cases received
    next => cases received
  | crash pid =>
    simp only [Machine.move]
    refine preserved.advance (fun before after shared phase ended => ?_)
    cases ended
    exact ⟨preserved.store, trivial⟩

/-- An invariant that the calls preserve holds after every run of them. -/
theorem run_preserves {machine : Machine σ ω κ α} {start : σ} {moves : List (Move ω κ)} (initial : holds start)
    (allowed : ∀ move ∈ moves, Allowed holds admits machine move) :
    holds (run machine.move { store := start, log := [] } moves).store := by
  have general (world : World σ ω κ α) (preserved : Preserved holds admits world) :
      Preserved holds admits (run machine.move world moves) := by
    induction moves generalizing world with
    | nil => exact preserved
    | cons move moves ih =>
      rw [List.forall_mem_cons] at allowed
      exact ih allowed.2 _ (preserved.move move allowed.1)
  exact (general _ ⟨initial, by simp⟩).store

end Runs

-- Proofs go through the rules above and never compute a program.
attribute [irreducible] Program.Preserves

end WebSupervisor.Library
