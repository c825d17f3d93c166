import WebSupervisor.Library.Alone
import WebSupervisor.Library.Effects
import WebSupervisor.Library.Solo

/-! Programs that are stopped on their way. A program that runs alone can be
killed before any of its steps, and what it leaves is the store at that point. A
proof that it only passes through good stores, whatever it is answered, is also a
proof about every one of these stops. -/

namespace WebSupervisor.Library.Program

variable {σ ρ : Type} {ω : ρ → Type} {α β γ ε : Type}

/-- The stores at which a run of the program alone can be stopped. -/
inductive Stops : Program σ ω α → σ → σ → Prop where
  | here {program : Program σ ω α} {store : σ} : Stops program store store
  | atomic {effect : σ → σ} {next : σ → Program σ ω α} {store stop : σ} (later : Stops (next store) (effect store) stop) :
      Stops (.atomic effect next) store stop
  | call {request : ρ} {next : ω request → Program σ ω α} {store stop : σ} (answer : ω request)
      (later : Stops (next answer) store stop) : Stops (.call request next) store stop

/-- The store that a program without calls leaves after so many steps. -/
def stopAfter : Nat → Program σ NoAnswer α → σ → σ
  | steps + 1, .atomic effect next, store => stopAfter steps (next store) (effect store)
  | _, _, store => store

theorem stops_stopAfter (steps : Nat) (program : Program σ NoAnswer α) (store : σ) :
    Stops program store (program.stopAfter steps store) := by
  induction steps generalizing program store with
  | zero => exact .here
  | succ steps ih =>
    cases program with
    | pure value => exact .here
    | atomic effect next => exact .atomic (ih (next store) (effect store))
    | call request next => exact request.elim

/-- Whatever is answered, the run passes only through such stores and ends with
such a value and store. -/
def Leads (through : σ → Prop) (post : α → σ → Prop) : Program σ ω α → σ → Prop
  | .pure value, store => through store ∧ post value store
  | .atomic effect next, store => through store ∧ (next store).Leads through post (effect store)
  | .call _ next, store => through store ∧ ∀ answer, (next answer).Leads through post store

namespace Leads
variable {through : σ → Prop} {store : σ}

theorem start {post : α → σ → Prop} {program : Program σ ω α} (leads : Leads through post program store) :
    through store := by
  cases program with
  | pure value => exact leads.1
  | atomic effect next => exact leads.1
  | call request next => exact leads.1

theorem stops {post : α → σ → Prop} {program : Program σ ω α} {stop : σ} (leads : Leads through post program store)
    (stopped : Stops program store stop) : through stop := by
  induction stopped with
  | here => exact leads.start
  | atomic _ ih => exact ih leads.2
  | call answer _ ih => exact ih (leads.2 answer)

theorem alone {post : α → σ → Prop} {program : Program σ NoAnswer α} (leads : Leads through post program store) :
    through (program.alone store).2 ∧ post (program.alone store).1 (program.alone store).2 := by
  induction program generalizing store with
  | pure value => exact leads
  | atomic effect next ih => exact ih store leads.2
  | call request next => exact request.elim

theorem bind {middle : β → σ → Prop} {post : γ → σ → Prop} {program : Program σ ω β} {next : β → Program σ ω γ}
    (first : Leads through middle program store)
    (rest : ∀ value after, through after → middle value after → Leads through post (next value) after) :
    Leads through post (program.bind next) store := by
  induction program generalizing store with
  | pure value => exact rest value store first.1 first.2
  | atomic effect tail ih => exact ⟨first.1, ih store first.2⟩
  | call request tail ih => exact ⟨first.1, fun answer => ih answer (first.2 answer)⟩

section Raising
variable {post : Except ε γ → σ → Prop} {next : β → ExceptT ε (Program σ ω) γ}

/-- What every atomic step respects holds between the first store and all later ones. -/
theorem effects {relates : σ → σ → Prop} {program : Program σ ω β} {start : σ} (steps : Effects relates program)
    (trans : ∀ {first second third}, relates first second → relates second third → relates first third)
    (here : relates start store) : Leads (relates start) (fun _ _ => True) program store := by
  induction program generalizing store with
  | pure value => exact ⟨here, trivial⟩
  | atomic effect next ih =>
    obtain ⟨first, rest⟩ := Effects.atomic_iff.mp steps
    exact ⟨here, ih store (rest store) (trans here (first store))⟩
  | call request next ih => exact ⟨here, fun answer => ih answer (Effects.call_iff.mp steps answer) here⟩

/-- The second part starts where the first one has returned. -/
theorem andThen {middle : Except ε β → σ → Prop} {program : ExceptT ε (Program σ ω) β}
    (first : Leads through middle program.run store)
    (rest : ∀ value after, through after → middle (.ok value) after → Leads through post (next value).run after)
    (raised : ∀ error after, through after → middle (.error error) after → post (.error error) after) :
    Leads through post (program >>= next).run store := by
  refine bind first ?_
  rintro (error | value) after here reached
  · exact ⟨here, raised error after here reached⟩
  · exact rest value after here reached

theorem returned {value : γ} (here : through store) (holds : post (.ok value) store) :
    Leads through post (Pure.pure value : ExceptT ε (Program σ ω) γ).run store := ⟨here, holds⟩

theorem checked {view : σ → Except ε β} {value : β} (here : through store) (found : view store = .ok value)
    (rest : Leads through post (next value).run store) : Leads through post (check view >>= next).run store := by
  refine andThen (show Leads through (fun result after => result = .ok value ∧ after = store) _ store from
    ⟨here, here, found, rfl⟩) ?_ ?_
  · rintro _ _ _ ⟨⟨⟩, rfl⟩
    exact rest
  · rintro _ _ _ ⟨⟨⟩, _⟩

/-- A read that may raise. -/
theorem reads {view : σ → Except ε β} (here : through store)
    (rest : ∀ value, view store = .ok value → Leads through post (next value).run store)
    (raised : ∀ error, view store = .error error → post (.error error) store) :
    Leads through post (check view >>= next).run store := by
  refine andThen (show Leads through (fun result after => view store = result ∧ after = store) _ store from
    ⟨here, here, rfl, rfl⟩) ?_ ?_
  · rintro value _ _ ⟨found, rfl⟩
    exact rest value found
  · rintro error _ _ ⟨found, rfl⟩
    exact raised error found

theorem decides {result : Except ε β} (here : through store)
    (rest : ∀ value, result = .ok value → Leads through post (next value).run store)
    (raised : ∀ error, result = .error error → post (.error error) store) :
    Leads through post (ensure result >>= next).run store := by
  cases result with
  | ok value => exact rest value rfl
  | error error => exact ⟨here, raised error rfl⟩

theorem ensured {value : β} {result : Except ε β} (holds : result = .ok value)
    (rest : Leads through post (next value).run store) : Leads through post (ensure result >>= next).run store := by
  subst holds
  exact rest

theorem committed {work : σ → Except ε (β × σ)} {value : β} {after : σ} (here : through store)
    (done : work store = .ok (value, after)) (rest : Leads through post (next value).run after) :
    Leads through post (transaction work >>= next).run store := by
  refine andThen (show Leads through (fun result last => result = .ok value ∧ last = after) _ store from
    ⟨here, ?_⟩) ?_ ?_
  · dsimp only
    rw [done]
    exact ⟨rest.start, rfl, rfl⟩
  · rintro _ _ _ ⟨⟨⟩, rfl⟩
    exact rest
  · rintro _ _ _ ⟨⟨⟩, _⟩

end Raising

end Leads

end WebSupervisor.Library.Program
