import WebSupervisor.Library.Effects

/-! Runs of one program with no other process beside it. The environment answers
as it likes; the run leaves a trace of its steps and of the answers, first one
first. -/

namespace WebSupervisor.Library

/-- A step of a program that runs alone. -/
inductive Happening (σ : Type) {ρ : Type} (ω : ρ → Type) where
  | changed (before after : σ)
  | asked (store : σ) (request : ρ) (answer : ω request)

namespace Program
variable {σ ρ : Type} {ω : ρ → Type} {α β γ ε : Type}

/-- The program returns `value` and leaves `after` in the store. -/
inductive Solo : Program σ ω α → σ → List (Happening σ ω) → α → σ → Prop where
  | pure {value : α} {store : σ} : Solo (.pure value) store [] value store
  | atomic {effect : σ → σ} {next : σ → Program σ ω α} {store after : σ} {trace : List (Happening σ ω)} {value : α}
      (rest : Solo (next store) (effect store) trace value after) :
      Solo (.atomic effect next) store (.changed store (effect store) :: trace) value after
  | call {request : ρ} {next : ω request → Program σ ω α} {store after : σ} {trace : List (Happening σ ω)} {value : α}
      (answer : ω request) (rest : Solo (next answer) store trace value after) :
      Solo (.call request next) store (.asked store request answer :: trace) value after

variable {store after : σ} {trace : List (Happening σ ω)}

theorem solo_pure {value result : α} : Solo (.pure value : Program σ ω α) store trace result after ↔
    trace = [] ∧ result = value ∧ after = store := by
  constructor
  · rintro ⟨⟩
    exact ⟨rfl, rfl, rfl⟩
  · rintro ⟨rfl, rfl, rfl⟩
    exact .pure

theorem solo_bind {program : Program σ ω α} {next : α → Program σ ω β} {result : β} :
    Solo (program.bind next) store trace result after ↔
      ∃ first rest value middle, trace = first ++ rest ∧ Solo program store first value middle ∧
        Solo (next value) middle rest result after := by
  constructor
  · intro solo
    induction program generalizing store trace with
    | pure value => exact ⟨[], trace, value, store, rfl, .pure, solo⟩
    | atomic effect tail ih =>
      cases solo with
      | atomic rest =>
        obtain ⟨first, later, value, middle, rfl, one, two⟩ := ih _ rest
        exact ⟨_ :: first, later, value, middle, rfl, .atomic one, two⟩
    | call request tail ih =>
      cases solo with
      | call answer rest =>
        obtain ⟨first, later, value, middle, rfl, one, two⟩ := ih _ rest
        exact ⟨_ :: first, later, value, middle, rfl, .call answer one, two⟩
  · rintro ⟨first, rest, value, middle, rfl, one, two⟩
    induction one with
    | pure => exact two
    | atomic _ ih => exact .atomic (ih two)
    | call answer _ ih => exact .call answer (ih two)

/-- The run against an environment that answers every request alike. -/
def play (reply : ∀ request, ω request) : Program σ ω α → σ → List (Happening σ ω) × α × σ
  | .pure value, store => ([], value, store)
  | .atomic effect next, store =>
    let rest := (next store).play reply (effect store)
    (.changed store (effect store) :: rest.1, rest.2)
  | .call request next, store =>
    let rest := (next (reply request)).play reply store
    (.asked store request (reply request) :: rest.1, rest.2)

theorem solo_play (reply : ∀ request, ω request) (program : Program σ ω α) (store : σ) :
    Solo program store (program.play reply store).1 (program.play reply store).2.1 (program.play reply store).2.2 := by
  induction program generalizing store with
  | pure value => exact .pure
  | atomic effect next ih => exact .atomic (ih store (effect store))
  | call request next ih => exact .call (reply request) (ih (reply request) store)

theorem play_replies (reply : ∀ request, ω request) (program : Program σ ω α) (store : σ) :
    ∀ found request answer, .asked found request answer ∈ (program.play reply store).1 → answer = reply request := by
  induction program generalizing store with
  | pure value => exact fun _ _ _ member => nomatch member
  | atomic effect next ih =>
    intro found request answer member
    rcases List.mem_cons.mp member with same | later
    · cases same
    · exact ih store (effect store) found request answer later
  | call asked next ih =>
    intro found request answer member
    rcases List.mem_cons.mp member with same | later
    · cases same
      rfl
    · exact ih (reply asked) store found request answer later

/-- What every atomic step respects, a run that is made of them respects. -/
theorem Effects.solo {relates : σ → σ → Prop} (refl : ∀ store, relates store store)
    (trans : ∀ first second third, relates first second → relates second third → relates first third)
    {program : Program σ ω α} {value : α} (effects : program.Effects relates)
    (solo : Solo program store trace value after) : relates store after := by
  induction solo with
  | pure => exact refl _
  | atomic _ ih =>
    obtain ⟨step, rest⟩ := Effects.atomic_iff.mp effects
    exact trans _ _ _ (step _) (ih (rest _))
  | call answer _ ih =>
    exact ih (Effects.call_iff.mp effects answer)

section Raising
variable {program : ExceptT ε (Program σ ω) α} {result : Except ε β}

theorem solo_done {value : β} : Solo (Pure.pure value : ExceptT ε (Program σ ω) β).run store trace result after ↔
    trace = [] ∧ result = .ok value ∧ after = store := solo_pure

/-- The first part has returned, or it has raised and the second does not start. -/
theorem solo_andThen {next : α → ExceptT ε (Program σ ω) β} :
    Solo (program >>= next).run store trace result after ↔
      (∃ first rest value middle, trace = first ++ rest ∧ Solo program.run store first (.ok value) middle ∧
        Solo (next value).run middle rest result after) ∨
      ∃ error, result = .error error ∧ Solo program.run store trace (.error error) after := by
  refine Iff.trans (@solo_bind _ _ _ _ _ store after trace program.run (ExceptT.bindCont next) result) ?_
  constructor
  · rintro ⟨first, rest, error | value, middle, rfl, one, two⟩
    · obtain ⟨rfl, rfl, rfl⟩ := solo_pure.mp two
      exact Or.inr ⟨error, rfl, by rwa [List.append_nil]⟩
    · exact Or.inl ⟨first, rest, value, middle, rfl, one, two⟩
  · rintro (⟨first, rest, value, middle, rfl, one, two⟩ | ⟨error, rfl, raised⟩)
    · exact ⟨first, rest, .ok value, middle, rfl, one, two⟩
    · exact ⟨trace, [], .error error, after, (List.append_nil _).symm, raised, .pure⟩

/-- A sequence that returns has returned from both parts. -/
theorem solo_andThen_ok {next : α → ExceptT ε (Program σ ω) β} {returned : β} :
    Solo (program >>= next).run store trace (.ok returned) after ↔
      ∃ first rest value middle, trace = first ++ rest ∧ Solo program.run store first (.ok value) middle ∧
        Solo (next value).run middle rest (.ok returned) after := by
  rw [solo_andThen]
  constructor
  · rintro (both | ⟨error, impossible, _⟩)
    · exact both
    · cases impossible
  · exact Or.inl

theorem solo_mapOk {convert : α → β} : Solo (convert <$> program).run store trace result after ↔
    ∃ outcome, Solo program.run store trace outcome after ∧ result = outcome.map convert := by
  refine Iff.trans solo_bind ?_
  constructor
  · rintro ⟨first, rest, error | value, middle, rfl, one, two⟩
    · obtain ⟨rfl, rfl, rfl⟩ := solo_pure.mp two
      exact ⟨.error error, by rwa [List.append_nil], rfl⟩
    · obtain ⟨rfl, rfl, rfl⟩ := solo_pure.mp two
      exact ⟨.ok value, by rwa [List.append_nil], rfl⟩
  · rintro ⟨error | value, solo, rfl⟩
    · exact ⟨trace, [], _, after, (List.append_nil _).symm, solo, .pure⟩
    · exact ⟨trace, [], _, after, (List.append_nil _).symm, solo, .pure⟩

theorem solo_check {view : σ → Except ε β} : Solo (check view : ExceptT ε (Program σ ω) β).run store trace result after ↔
    trace = [.changed store store] ∧ result = view store ∧ after = store := by
  constructor
  · rintro (_ | ⟨⟨⟩⟩)
    exact ⟨rfl, rfl, rfl⟩
  · rintro ⟨rfl, rfl, rfl⟩
    exact .atomic .pure

theorem solo_ensure {outcome : Except ε β} :
    Solo (ensure outcome : ExceptT ε (Program σ ω) β).run store trace result after ↔
      trace = [] ∧ result = outcome ∧ after = store := solo_pure

theorem solo_transaction {work : σ → Except ε (β × σ)} :
    Solo (transaction work : ExceptT ε (Program σ ω) β).run store trace result after ↔
      trace = [.changed store after] ∧
        ((∃ value, work store = .ok (value, after) ∧ result = .ok value) ∨
          ∃ error, work store = .error error ∧ result = .error error ∧ after = store) := by
  constructor
  · rintro (_ | ⟨⟨⟩⟩)
    refine ⟨rfl, ?_⟩
    cases done : work store with
    | ok pair => exact Or.inl ⟨pair.1, by simp [done], by simp [Except.map]⟩
    | error error => exact Or.inr ⟨error, rfl, by simp [Except.map], by simp [done]⟩
  · rintro ⟨rfl, ⟨value, done, rfl⟩ | ⟨error, raised, rfl, rfl⟩⟩
    · have step : Solo (transaction work : ExceptT ε (Program σ ω) β).run store _ _ _ := .atomic .pure
      simpa only [done, Except.map] using step
    · have step : Solo (transaction work : ExceptT ε (Program σ ω) β).run after _ _ _ := .atomic .pure
      simpa only [raised, Except.map] using step

theorem solo_ask {request : ρ} {receive : ω request → Except ε β} :
    Solo (ask request receive : ExceptT ε (Program σ ω) β).run store trace result after ↔
      ∃ answer, trace = [.asked store request answer] ∧ result = receive answer ∧ after = store := by
  constructor
  · rintro (_ | _ | ⟨answer, ⟨⟩⟩)
    exact ⟨answer, rfl, rfl, rfl⟩
  · rintro ⟨answer, rfl, rfl, rfl⟩
    exact .call answer .pure

theorem solo_attempt {outcome : Except ε (Except ε α)} :
    Solo (attempt program).run store trace outcome after ↔
      ∃ result, Solo program.run store trace result after ∧ outcome = .ok result := by
  refine Iff.trans solo_bind ?_
  constructor
  · rintro ⟨first, rest, result, middle, rfl, one, two⟩
    obtain ⟨rfl, rfl, rfl⟩ := solo_pure.mp two
    exact ⟨result, by rwa [List.append_nil], rfl⟩
  · rintro ⟨result, solo, rfl⟩
    exact ⟨trace, [], result, after, (List.append_nil _).symm, solo, .pure⟩

section Sequences
variable {next : α → ExceptT ε (Program σ ω) β} {value : α} {error : ε}

/-- A read whose value is known. -/
theorem Solo.checked {view : σ → Except ε α} (run : Solo (check view >>= next).run store trace result after)
    (found : view store = .ok value) :
    ∃ rest, trace = .changed store store :: rest ∧ Solo (next value).run store rest result after := by
  rcases solo_andThen.mp run with ⟨_, rest, _, _, rfl, read, going⟩ | ⟨_, _, raised⟩
  · obtain ⟨rfl, same, rfl⟩ := solo_check.mp read
    cases same.trans found
    exact ⟨rest, rfl, going⟩
  · obtain ⟨_, same, _⟩ := solo_check.mp raised
    cases same.trans found

theorem Solo.checkedError {view : σ → Except ε α} (run : Solo (check view >>= next).run store trace result after)
    (raised : view store = .error error) : trace = [.changed store store] ∧ result = .error error ∧ after = store := by
  rcases solo_andThen.mp run with ⟨_, _, _, _, _, read, _⟩ | ⟨_, rfl, read⟩
  · obtain ⟨_, same, _⟩ := solo_check.mp read
    cases same.trans raised
  · obtain ⟨rfl, same, rfl⟩ := solo_check.mp read
    cases same.trans raised
    exact ⟨rfl, rfl, rfl⟩

theorem Solo.ensured {given : Except ε α} (run : Solo (ensure given >>= next).run store trace result after)
    (holds : given = .ok value) : Solo (next value).run store trace result after := by
  subst holds
  exact run

theorem Solo.ensuredError {given : Except ε α} (run : Solo (ensure given >>= next).run store trace result after)
    (raised : given = .error error) : trace = [] ∧ result = .error error ∧ after = store := by
  subst raised
  exact solo_pure.mp run

/-- A sequence after a computation of the program alone. -/
theorem Solo.decided {given : Except ε α} (run : Solo (ensure given >>= next).run store trace result after) :
    (∃ value, given = .ok value ∧ Solo (next value).run store trace result after) ∨
      ∃ error, given = .error error ∧ trace = [] ∧ result = .error error ∧ after = store := by
  cases given with
  | ok value => exact .inl ⟨value, rfl, run⟩
  | error error => exact .inr ⟨error, rfl, run.ensuredError rfl⟩

/-- A transaction whose work is known. -/
theorem Solo.committed {work : σ → Except ε (α × σ)} {middle : σ}
    (run : Solo (transaction work >>= next).run store trace result after) (done : work store = .ok (value, middle)) :
    ∃ rest, trace = .changed store middle :: rest ∧ Solo (next value).run middle rest result after := by
  rcases solo_andThen.mp run with ⟨_, rest, _, _, rfl, wrote, going⟩ | ⟨_, _, raised⟩
  · obtain ⟨rfl, ⟨_, made, same⟩ | ⟨_, _, wrong, _⟩⟩ := solo_transaction.mp wrote
    · cases made.symm.trans done
      cases same
      exact ⟨rest, rfl, going⟩
    · cases wrong
  · obtain ⟨_, ⟨_, _, wrong⟩ | ⟨_, failed, _⟩⟩ := solo_transaction.mp raised
    · cases wrong
    · cases failed.symm.trans done

/-- A request, which may raise with its answer. -/
theorem Solo.asked {request : ρ} {receive : ω request → Except ε α}
    (run : Solo (ask request receive >>= next).run store trace result after) :
    ∃ answer rest, trace = .asked store request answer :: rest ∧
      ((∃ value, receive answer = .ok value ∧ Solo (next value).run store rest result after) ∨
        ∃ error, receive answer = .error error ∧ rest = [] ∧ result = .error error ∧ after = store) := by
  rcases solo_andThen.mp run with ⟨_, rest, _, _, rfl, asked, going⟩ | ⟨_, rfl, raised⟩
  · obtain ⟨answer, rfl, same, rfl⟩ := solo_ask.mp asked
    exact ⟨answer, rest, rfl, .inl ⟨_, same.symm, going⟩⟩
  · obtain ⟨answer, rfl, same, rfl⟩ := solo_ask.mp raised
    exact ⟨answer, [], rfl, .inr ⟨_, same.symm, rfl, rfl, rfl⟩⟩

end Sequences

end Raising

end Program

end WebSupervisor.Library
