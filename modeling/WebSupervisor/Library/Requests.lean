import WebSupervisor.Library.Solo

/-! The requests that a program can issue, whatever it finds and is answered. -/

namespace WebSupervisor.Library.Program

variable {σ ρ : Type} {ω : ρ → Type} {α β γ ε : Type}

/-- Every request of the program is allowed. -/
def Asks (allowed : ρ → Prop) : Program σ ω α → Prop
  | .pure _ => True
  | .atomic _ next => ∀ found, (next found).Asks allowed
  | .call request next => allowed request ∧ ∀ answer, (next answer).Asks allowed

/-- A program that asks nothing. -/
abbrev Silent (program : Program σ ω α) : Prop := program.Asks (fun _ => False)

namespace Asks
variable {allowed : ρ → Prop}

theorem weaken {wider : ρ → Prop} {program : Program σ ω β} (asks : Asks allowed program)
    (implies : ∀ request, allowed request → wider request) : Asks wider program := by
  induction program with
  | pure value => trivial
  | atomic effect next ih => exact fun found => ih found (asks found)
  | call request next ih => exact ⟨implies request asks.1, fun answer => ih answer (asks.2 answer)⟩

theorem bind {program : Program σ ω β} {next : β → Program σ ω γ} (first : Asks allowed program)
    (rest : ∀ value, Asks allowed (next value)) : Asks allowed (program.bind next) := by
  induction program with
  | pure value => exact rest value
  | atomic effect tail ih => exact fun found => ih found (first found)
  | call request tail ih => exact ⟨first.1, fun answer => ih answer (first.2 answer)⟩

theorem andThen {program : ExceptT ε (Program σ ω) β} {next : β → ExceptT ε (Program σ ω) γ}
    (first : Asks allowed program.run) (rest : ∀ value, Asks allowed (next value).run) :
    Asks allowed (program >>= next).run := by
  refine first.bind ?_
  rintro (error | value)
  · trivial
  · exact rest value

theorem done {value : β} : Asks allowed (Pure.pure value : ExceptT ε (Program σ ω) β).run := trivial

theorem ensure {result : Except ε β} : Asks allowed (Program.ensure result : ExceptT ε (Program σ ω) β).run := trivial

theorem check {view : σ → Except ε β} : Asks allowed (Program.check view : ExceptT ε (Program σ ω) β).run :=
  fun _ => trivial

theorem transaction {work : σ → Except ε (β × σ)} :
    Asks allowed (Program.transaction work : ExceptT ε (Program σ ω) β).run := fun _ => trivial

theorem ask {request : ρ} {receive : ω request → Except ε β} (may : allowed request) :
    Asks allowed (Program.ask request receive : ExceptT ε (Program σ ω) β).run := ⟨may, fun _ => trivial⟩

theorem attempt {program : ExceptT ε (Program σ ω) β} (inner : Asks allowed program.run) :
    Asks allowed (Program.attempt program).run := inner.bind (fun _ => trivial)

/-- What a run has asked was allowed. -/
theorem solo {program : Program σ ω β} {store after : σ} {trace : List (Happening σ ω)} {value : β}
    (asks : Asks allowed program) (run : Solo program store trace value after) {found : σ} {request : ρ}
    {answer : ω request} (asked : .asked found request answer ∈ trace) : allowed request := by
  induction run with
  | pure => cases asked
  | atomic _ ih =>
    rcases List.mem_cons.mp asked with same | later
    · cases same
    · exact ih (asks _) later
  | call given _ ih =>
    rcases List.mem_cons.mp asked with same | later
    · cases same
      exact asks.1
    · exact ih (asks.2 given) later

end Asks

/-- A program that asks nothing asks only what is allowed. -/
theorem Silent.any {allowed : ρ → Prop} {program : Program σ ω β} (silent : Silent program) : Asks allowed program :=
  silent.weaken (fun _ impossible => impossible.elim)

-- Proofs go through the rules above and never compute a program.
attribute [irreducible] Asks

end WebSupervisor.Library.Program
