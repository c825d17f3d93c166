import WebSupervisor.Library.History

/-! What every run of a machine shows, whatever its processes know. Its commits
lead from the first store to the present one, a process returns at most once,
and a relation that every atomic step of every call respects holds across all
commits of the log. -/

namespace WebSupervisor.Library

variable {σ ρ : Type} {ω : ρ → Type} {κ α β γ ε : Type}

namespace Program
variable (relates : σ → σ → Prop)

/-- Every atomic step of the program respects the relation. -/
def Effects : Program σ ω α → Prop
  | .pure _ => True
  | .atomic effect next => (∀ store, relates store (effect store)) ∧ ∀ found, (next found).Effects
  | .call _ next => ∀ answer, (next answer).Effects

variable {relates}

/-- Every value that the program can return, in any store and with any answers. -/
def Returns (holds : α → Prop) : Program σ ω α → Prop
  | .pure value => holds value
  | .atomic _ next => ∀ found, (next found).Returns holds
  | .call _ next => ∀ answer, (next answer).Returns holds

theorem Returns.bind {holds : β → Prop} {after : γ → Prop} {program : Program σ ω β} {next : β → Program σ ω γ}
    (first : Returns holds program) (rest : ∀ value, holds value → Returns after (next value)) :
    Returns after (program.bind next) := by
  induction program with
  | pure value => exact rest value first
  | atomic effect tail ih => exact fun found => ih found (first found)
  | call request tail ih => exact fun answer => ih answer (first answer)

/-- What returns after a part is what the second part returns. -/
theorem Returns.andThen {holds : γ → Prop} {program : ExceptT ε (Program σ ω) β} {next : β → ExceptT ε (Program σ ω) γ}
    (rest : ∀ value, Returns (fun result => ∀ value, result = .ok value → holds value) (next value).run) :
    Returns (fun result => ∀ value, result = .ok value → holds value) (program >>= next).run := by
  have any : Returns (fun _ => True) program.run := by
    generalize program.run = inner
    induction inner with
    | pure value => trivial
    | atomic effect tail ih => exact ih
    | call request tail ih => exact ih
  refine any.bind ?_
  rintro (error | value) _
  · exact fun _ impossible => nomatch impossible
  · exact rest value

theorem Returns.check {holds : β → Prop} {view : σ → Except ε β} (gives : ∀ found value, view found = .ok value → holds value) :
    Returns (fun result => ∀ value, result = .ok value → holds value)
      (Program.check view : ExceptT ε (Program σ ω) β).run :=
  fun found value same => gives found value same

namespace Effects

theorem atomic_iff {effect : σ → σ} {next : σ → Program σ ω β} :
    Effects relates (.atomic effect next) ↔
      (∀ store, relates store (effect store)) ∧ ∀ found, Effects relates (next found) := Iff.rfl

theorem call_iff {request : ρ} {next : ω request → Program σ ω β} :
    Effects relates (.call request next) ↔ ∀ answer, Effects relates (next answer) := Iff.rfl

theorem weaken {weaker : σ → σ → Prop} {program : Program σ ω β} (effects : Effects relates program)
    (implies : ∀ before after, relates before after → weaker before after) : Effects weaker program := by
  induction program with
  | pure value => trivial
  | atomic effect tail ih => exact ⟨fun store => implies _ _ (effects.1 store), fun found => ih found (effects.2 found)⟩
  | call request tail ih => exact fun answer => ih answer (effects answer)

theorem bind {program : Program σ ω β} {next : β → Program σ ω γ} (first : Effects relates program)
    (rest : ∀ value, Effects relates (next value)) : Effects relates (program.bind next) := by
  induction program with
  | pure value => exact rest value
  | atomic effect tail ih => exact ⟨first.1, fun found => ih found (first.2 found)⟩
  | call request tail ih => exact fun answer => ih answer (first answer)

theorem map {program : Program σ ω β} {convert : β → γ} (first : Effects relates program) :
    Effects relates (convert <$> program) :=
  first.bind (fun _ => trivial)

theorem andThen {program : ExceptT ε (Program σ ω) β} {next : β → ExceptT ε (Program σ ω) γ}
    (first : Effects relates program.run) (rest : ∀ value, Effects relates (next value).run) :
    Effects relates (program >>= next).run := by
  refine first.bind ?_
  rintro (error | value)
  · trivial
  · exact rest value

/-- A sequence whose second part relies on what the first returns. -/
theorem andThenGiven {holds : β → Prop} {program : ExceptT ε (Program σ ω) β} {next : β → ExceptT ε (Program σ ω) γ}
    (first : Effects relates program.run)
    (returns : Returns (fun result => ∀ value, result = .ok value → holds value) program.run)
    (rest : ∀ value, holds value → Effects relates (next value).run) : Effects relates (program >>= next).run := by
  change Effects relates (program.run.bind (ExceptT.bindCont next))
  generalize program.run = inner at first returns
  induction inner with
  | pure outcome =>
    cases outcome with
    | error error => trivial
    | ok value => exact rest value (returns value rfl)
  | atomic effect tail ih => exact ⟨first.1, fun found => ih found (first.2 found) (returns found)⟩
  | call request tail ih => exact fun answer => ih answer (first answer) (returns answer)

theorem mapOk {program : ExceptT ε (Program σ ω) β} {convert : β → γ} (first : Effects relates program.run) :
    Effects relates (convert <$> program).run := by
  refine first.bind ?_
  rintro (error | value)
  · trivial
  · trivial

theorem value {value : β} : Effects relates (.pure value : Program σ ω β) := trivial

theorem done {value : β} : Effects relates (Pure.pure value : ExceptT ε (Program σ ω) β).run := trivial

theorem ensure {result : Except ε β} : Effects relates (Program.ensure result : ExceptT ε (Program σ ω) β).run := trivial

theorem check {view : σ → Except ε β} (refl : ∀ store, relates store store) :
    Effects relates (Program.check view : ExceptT ε (Program σ ω) β).run :=
  ⟨refl, fun _ => trivial⟩

theorem transaction {work : σ → Except ε (β × σ)} (refl : ∀ store, relates store store)
    (step : ∀ store value after, work store = .ok (value, after) → relates store after) :
    Effects relates (Program.transaction work : ExceptT ε (Program σ ω) β).run := by
  refine ⟨fun store => ?_, fun _ => trivial⟩
  dsimp only
  split
  next value after done => exact step store value after done
  next => exact refl store

/-- A single write. -/
theorem write {effect : σ → σ} {value : β} (step : ∀ store, relates store (effect store)) :
    Effects relates (Program.atomic effect (fun _ => .pure value) : Program σ ω β) :=
  ⟨step, fun _ => trivial⟩

theorem ask {request : ρ} {receive : ω request → Except ε β} :
    Effects relates (Program.ask request receive : ExceptT ε (Program σ ω) β).run :=
  fun _ => trivial

theorem attempt {program : ExceptT ε (Program σ ω) β} (first : Effects relates program.run) :
    Effects relates (Program.attempt program).run :=
  first.bind (fun _ => trivial)

end Effects

end Program

section Runs
variable (relates : κ → σ → σ → Prop)

private def PhaseEffects (respects : σ → σ → Prop) : Phase σ ω α → Prop
  | .running program => program.Effects respects
  | .waiting _ next => ∀ answer, (next answer).Effects respects
  | .ended => True

/-- The pids of the processes that have returned. -/
def returnedPids (log : List (Event σ ω α)) : List Nat :=
  log.filterMap (fun event => match event with
    | .returned pid _ => some pid
    | _ => none)

/-- What holds of every world that a run reaches. -/
private structure Traced (start : σ) (world : World σ ω κ α) : Prop where
  linked : Linked start world.log world.store
  commits : ∀ pid before after, .committed pid before after ∈ world.log →
    ∃ call ∈ world.processes[pid]?.map (·.call), relates call before after
  phases : ∀ process ∈ world.processes, PhaseEffects (relates process.call) process.phase
  once : (returnedPids world.log).Nodup
  ended : ∀ pid ∈ returnedPids world.log, ∃ process, world.processes[pid]? = some process ∧ process.phase = .ended

variable {relates} {start : σ}

private theorem ended_set {processes : List (Process σ ω κ α)} {pid other : Nat} {process moved : Process σ ω κ α}
    (found : processes[pid]? = some process) (live : process.phase ≠ .ended)
    (ended : ∃ old, processes[other]? = some old ∧ old.phase = .ended) :
    other ≠ pid ∧ ∃ old, (processes.set pid moved)[other]? = some old ∧ old.phase = .ended := by
  obtain ⟨old, present, finished⟩ := ended
  have different : other ≠ pid := by
    rintro rfl
    rw [found] at present
    cases present
    exact live finished
  refine ⟨different, old, ?_, finished⟩
  rw [List.getElem?_set_ne (Ne.symm different)]
  exact present

private theorem Traced.advance {world : World σ ω κ α} (traced : Traced relates start world) {pid : Nat}
    {change : Shared σ ω α → Phase σ ω α → Option (Phase σ ω α × Shared σ ω α)}
    (kept : ∀ call before after shared, PhaseEffects (relates call) before →
      change world.toShared before = some (after, shared) →
      PhaseEffects (relates call) after ∧ Linked start shared.log shared.store ∧
      (∀ other found left, .committed other found left ∈ shared.log →
        .committed other found left ∈ world.log ∨ other = pid ∧ relates call found left) ∧
      (returnedPids shared.log = returnedPids world.log ∧ (before = .ended → after = .ended) ∨
        before ≠ .ended ∧ after = .ended ∧ returnedPids shared.log = pid :: returnedPids world.log)) :
    Traced relates start (world.advance pid change) := by
  unfold World.advance
  split
  next => exact traced
  next process found =>
    split
    next => exact traced
    next phase shared changed =>
      obtain ⟨effects, linked, commits, returns⟩ :=
        kept _ _ _ _ (traced.phases process (List.mem_of_getElem? found)) changed
      have inside : pid < world.processes.length := (List.getElem?_eq_some_iff.mp found).choose
      have own : (world.processes.set pid { process with phase, seen := shared })[pid]? =
          some { process with phase, seen := shared } := List.getElem?_set_self inside
      have calls (other : Nat) : (world.processes.set pid { process with phase, seen := shared })[other]?.map (·.call) =
          world.processes[other]?.map (·.call) := by
        by_cases self : other = pid
        · rw [self, own, found]
          rfl
        · rw [List.getElem?_set_ne (Ne.symm self)]
      have made : ∀ other before after, .committed other before after ∈ shared.log →
          ∃ call ∈ (world.processes.set pid { process with phase, seen := shared })[other]?.map (·.call),
            relates call before after := by
        intro other before after member
        rw [calls]
        rcases commits other before after member with old | ⟨rfl, respects⟩
        · exact traced.commits other before after old
        · exact ⟨process.call, by rw [found]; rfl, respects⟩
      have phases : ∀ other ∈ world.processes.set pid { process with phase, seen := shared },
          PhaseEffects (relates other.call) other.phase := by
        intro other member
        rcases List.mem_or_eq_of_mem_set member with old | rfl
        · exact traced.phases other old
        · exact effects
      rcases returns with ⟨same, still⟩ | ⟨live, finished, added⟩
      · refine ⟨linked, made, phases, same ▸ traced.once, fun other member => ?_⟩
        have before := traced.ended other (same ▸ member)
        by_cases finished : process.phase = .ended
        · by_cases self : other = pid
          · subst self
            exact ⟨_, own, still finished⟩
          · obtain ⟨old, present, ended⟩ := before
            exact ⟨old, by rw [List.getElem?_set_ne (Ne.symm self)]; exact present, ended⟩
        · exact (ended_set found finished before).2
      · refine ⟨linked, made, phases, ?_, fun other member => ?_⟩
        · rw [added]
          refine List.nodup_cons.mpr ⟨fun again => ?_, traced.once⟩
          exact (@ended_set _ _ _ _ _ _ _ _ _ process found live (traced.ended pid again)).1 rfl
        · rw [added] at member
          rcases List.mem_cons.mp member with rfl | old
          · exact ⟨_, own, finished⟩
          · exact (ended_set found live (traced.ended other old)).2

private theorem Traced.move {machine : Machine σ ω κ α} (effects : ∀ call, (machine.body call).Effects (relates call))
    {world : World σ ω κ α} (traced : Traced relates start world) (move : Move ω κ) :
    Traced relates start (machine.move world move) := by
  cases move with
  | start call =>
    simp only [Machine.move]
    split
    next =>
      refine ⟨traced.linked, fun pid before after member => ?_, fun process member => ?_, traced.once, fun pid member => ?_⟩
      · obtain ⟨held, present, respects⟩ := traced.commits pid before after member
        obtain ⟨process, found, rfl⟩ := Option.map_eq_some_iff.mp present
        have inside : pid < world.processes.length := (List.getElem?_eq_some_iff.mp found).choose
        exact ⟨process.call, by rw [List.getElem?_append_left inside, found]; rfl, respects⟩
      · rcases List.mem_append.mp member with old | new
        · exact traced.phases process old
        · rw [List.mem_singleton] at new
          exact new ▸ effects call
      · obtain ⟨process, present, finished⟩ := traced.ended pid member
        have inside : pid < world.processes.length := (List.getElem?_eq_some_iff.mp present).choose
        exact ⟨process, by rw [List.getElem?_append_left inside]; exact present, finished⟩
    next => exact traced
  | step pid =>
    refine traced.advance (fun call before after shared phase stepped => ?_)
    unfold Process.step at stepped
    split at stepped
    next value =>
      cases stepped
      refine ⟨trivial, traced.linked, fun other found left member => ?_, Or.inr ⟨(by simp), rfl, rfl⟩⟩
      rcases List.mem_cons.mp member with same | old
      · cases same
      · exact Or.inl old
    next effect next =>
      cases stepped
      refine ⟨phase.2 _, traced.linked.became pid _, fun other found left member => ?_, Or.inl ⟨rfl, (by simp)⟩⟩
      rcases List.mem_cons.mp member with same | old
      · cases same
        exact Or.inr ⟨rfl, phase.1 _⟩
      · exact Or.inl old
    next request next =>
      cases stepped
      refine ⟨phase, traced.linked.issue pid request, fun other found left member => ?_, Or.inl ⟨rfl, (by simp)⟩⟩
      rcases List.mem_cons.mp member with same | old
      · cases same
      · exact Or.inl old
    next => cases stepped
    next => cases stepped
  | answer pid reply =>
    refine traced.advance (fun call before after shared phase received => ?_)
    unfold Process.receive at received
    split at received
    next request next =>
      cases received
      refine ⟨phase _, traced.linked, fun other found left member => ?_, Or.inl ⟨rfl, (by simp)⟩⟩
      rcases List.mem_cons.mp member with same | old
      · cases same
      · exact Or.inl old
    next => cases received
    next => cases received
  | crash pid =>
    simp only [Machine.move]
    refine traced.advance (fun call before after shared phase ended => ?_)
    cases ended
    exact ⟨trivial, traced.linked, fun _ _ _ => Or.inl, Or.inl ⟨rfl, fun _ => rfl⟩⟩

private theorem run_traced {machine : Machine σ ω κ α} (effects : ∀ call, (machine.body call).Effects (relates call))
    (start : σ) (moves : List (Move ω κ)) :
    Traced relates start (run machine.move { store := start, log := [] } moves) :=
  run_invariant machine.move (fun _ move traced => traced.move effects move) _ moves
    ⟨rfl, by simp, by simp, List.nodup_nil, by simp [returnedPids]⟩

private theorem effects_trivial (program : Program σ ω α) : program.Effects (fun _ _ => True) := by
  induction program with
  | pure value => trivial
  | atomic effect next ih => exact ⟨fun _ => trivial, ih⟩
  | call request next ih => exact ih

private theorem run_any (machine : Machine σ ω κ α) (start : σ) (moves : List (Move ω κ)) :
    Traced (fun _ _ _ => True) start (run machine.move { store := start, log := [] } moves) :=
  run_traced (fun call => effects_trivial (machine.body call)) start moves

/-- The commits of a run lead from its first store to the present one. -/
theorem run_linked (machine : Machine σ ω κ α) (start : σ) (moves : List (Move ω κ)) :
    Linked start (run machine.move { store := start, log := [] } moves).log
      (run machine.move { store := start, log := [] } moves).store :=
  (run_any machine start moves).linked

theorem run_returns_once (machine : Machine σ ω κ α) (start : σ) (moves : List (Move ω κ)) :
    (returnedPids (run machine.move { store := start, log := [] } moves).log).Nodup :=
  (run_any machine start moves).once

/-- Every commit of a run respects what the steps of its call respect. -/
theorem run_call_effects {machine : Machine σ ω κ α} (effects : ∀ call, (machine.body call).Effects (relates call))
    {start : σ} {moves : List (Move ω κ)} {pid : Nat} {before after : σ}
    (member : .committed pid before after ∈ (run machine.move { store := start, log := [] } moves).log) :
    ∃ call ∈ (run machine.move { store := start, log := [] } moves).processes[pid]?.map (·.call),
      relates call before after :=
  (run_traced effects start moves).commits pid before after member

/-- Every commit of a run respects what the steps of all calls respect. -/
theorem run_effects {machine : Machine σ ω κ α} {respects : σ → σ → Prop}
    (effects : ∀ call, (machine.body call).Effects respects)
    {start : σ} {moves : List (Move ω κ)} {pid : Nat} {before after : σ}
    (member : .committed pid before after ∈ (run machine.move { store := start, log := [] } moves).log) :
    respects before after := by
  obtain ⟨_, _, related⟩ := @run_call_effects _ _ _ _ _ (fun _ => respects) machine effects start moves pid before after member
  exact related

end Runs

-- Proofs go through the rules above and never compute a program.
attribute [irreducible] Program.Effects

end WebSupervisor.Library
