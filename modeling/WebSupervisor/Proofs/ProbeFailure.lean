import WebSupervisor.Library.Effects
import WebSupervisor.Library.Triple
import WebSupervisor.Proofs.ProbeAuthority

/-! A failing call beside the other probe methods. It reads an armed operation
and writes FAILED over it in a later statement. As long as the operation is
still armed at that write, a failed operation has received no authority and a
completed one is not overwritten. -/

namespace WebSupervisor.Registry.Proofs
open Library Library.Program

/-- A failing call, a method that holds the database, or any other writer that
leaves the operations alone. -/
inductive ProbeRace where
  | fail (operationId reason : String) (now : Time)
  | method (method : ProbeMethod)
  | other (write : Database → Database)

/-- A call returns its own entry; `other` returns nothing. -/
abbrev RaceShared := Shared Database NoAnswer (Option ProbeEntry)

def raceMachine (casefold : String → String) : Machine Database NoAnswer ProbeRace (Option ProbeEntry) where
  body
    | .fail operationId reason now =>
      (fun result => some ⟨.fail operationId reason now, result⟩) <$> (failProbeMutationSteps operationId reason now).run
    | .method method =>
      (fun result => some ⟨method, result⟩) <$> (transaction (method.transaction casefold)).run
    | .other write =>
      .atomic (fun db => { write db with probeMutationOperations := db.probeMutationOperations }) (fun _ => .pure none)

def ProbeArmed (db : Database) (operationId : String) : Prop :=
  ∃ operation ∈ db.probeMutationOperations, operation.operationId = operationId ∧ operation.state = .armed

/-- A failing call that has found its operation armed finds it so at its write. -/
def StillArmed (pid : Nat) (call : ProbeRace) (seen now : RaceShared) : Prop :=
  ∀ operationId reason at', call = .fail operationId reason at' → (∃ event ∈ seen.log, event.pid = pid) →
    ProbeArmed seen.store operationId → ProbeArmed now.store operationId

/-- The operation may still fail, or has failed. -/
def Powerless (operation : ProbeMutationOperation) : Prop :=
  effectiveState operation = .armed ∨ operation.state = .failed

/-- The commit gives authority to an operation. -/
def Empowers (operationId : String) (after : Database) : Prop :=
  ∃ operation ∈ after.probeMutationOperations, operation.operationId = operationId ∧ ¬ Powerless operation

def Empowered (operationId : String) (log : List (Event Database NoAnswer (Option ProbeEntry))) : Prop :=
  ∃ pid before after, .committed pid before after ∈ log ∧ Empowers operationId after

/-- What every commit keeps. An operation without power has had none before. -/
structure Careful (before after : Database) : Prop where
  powerless : ∀ new ∈ after.probeMutationOperations, Powerless new →
    (∃ old ∈ before.probeMutationOperations, old.operationId = new.operationId ∧ Powerless old) ∨
      ∀ old ∈ before.probeMutationOperations, old.operationId ≠ new.operationId
  held : ∀ old ∈ before.probeMutationOperations, ∃ new ∈ after.probeMutationOperations,
    new.operationId = old.operationId ∧ (old.state = .completed → new.state = .completed)

theorem Careful.same {before after : Database} (same : after.probeMutationOperations = before.probeMutationOperations) :
    Careful before after := by
  refine ⟨fun new member powerless => Or.inl ⟨new, same ▸ member, rfl, powerless⟩, fun old member => ?_⟩
  exact ⟨old, same ▸ member, rfl, id⟩

private theorem Careful.saved {before after : Database} {old new : ProbeMutationOperation}
    (member : old ∈ before.probeMutationOperations) (sameId : new.operationId = old.operationId)
    (unresolved : old.state.Unresolved) (saved : Saved new before after) (powerless : Powerless new → Powerless old) :
    Careful before after := by
  constructor
  · intro row present powerlessRow
    rcases (saved.rows row).mp present with rfl | ⟨kept, _⟩
    · exact Or.inl ⟨old, member, sameId.symm, powerless powerlessRow⟩
    · exact Or.inl ⟨row, kept, rfl, powerlessRow⟩
  · intro row present
    by_cases own : row.operationId = new.operationId
    · have same : row = old := Table.eq_of_key present member (own.trans sameId)
      refine ⟨new, (saved.rows new).mpr (Or.inl rfl), own.symm, fun completed => ?_⟩
      rw [same] at completed
      simp [completed, ProbeMutationState.Unresolved] at unresolved
    · exact ⟨row, (saved.rows row).mpr (Or.inr ⟨present, own⟩), rfl, id⟩

private theorem powerless_state {operation : ProbeMutationOperation} {state : ProbeMutationState}
    (moved : operation.state = state) (known : state ≠ .reconcileRequired) :
    Powerless operation ↔ state = .armed ∨ state = .failed := by
  unfold Powerless
  rw [effectiveState_of_ne (moved ▸ known), moved]

private theorem Advances.powerless {old new : ProbeMutationOperation} {method : ProbeMethod}
    (advances : Advances old new method) (powerless : Powerless new) : Powerless old := by
  cases advances with
  | opened now ready moved =>
    rw [powerless_state moved (by decide)] at powerless
    exact absurd powerless (by decide)
  | closed now kind ready moved =>
    rw [powerless_state moved (by decide)] at powerless
    exact absurd powerless (by decide)
  | failed reason now ready moved => exact (powerless_state ready (by decide)).mpr (Or.inl rfl)
  | completed binding now outcome authority moved =>
    rw [powerless_state moved (by decide)] at powerless
    exact absurd powerless (by decide)
  | reconciled observation current decided resumes =>
    generalize moved : new.state = state at decided
    cases decided with
    | fenced =>
      rcases powerless with armed | failed
      · exact Or.inl ((resumes moved).symm.trans armed)
      · rw [moved] at failed
        cases failed
    | armed armed => exact Or.inl armed
    | ready kind from_ neither =>
      rw [powerless_state moved (by decide)] at powerless
      exact absurd powerless (by decide)
    | completed authority =>
      rw [powerless_state moved (by decide)] at powerless
      exact absurd powerless (by decide)

theorem ProbeChange.careful {before after : Database} {operation : ProbeMutationOperation} {method : ProbeMethod}
    (change : ProbeChange before after operation method) : Careful before after := by
  cases change with
  | same same noOpen noClose => exact .same same
  | armed armed state fresh rows =>
    refine ⟨fun new member powerless => ?_, fun old member => ⟨old, (rows old).mpr (Or.inl member), rfl, id⟩⟩
    rcases (rows new).mp member with kept | rfl
    · exact Or.inl ⟨new, kept, rfl, powerless⟩
    · exact Or.inr fresh
  | advanced old member sameId sameKind unresolved saved advances =>
    exact .saved member sameId unresolved saved advances.powerless

structure Guarded (shared : RaceShared) : Prop where
  powerless : ∀ operation ∈ shared.store.probeMutationOperations, Powerless operation →
    ¬ Empowered operation.operationId shared.log
  absent : ∀ operationId, (∀ operation ∈ shared.store.probeMutationOperations, operation.operationId ≠ operationId) →
    ¬ Empowered operationId shared.log
  careful : ∀ pid before after, .committed pid before after ∈ shared.log → Careful before after
  earned : ∀ pid entry operationId, .returned pid (some entry) ∈ shared.log →
    grantsOpen operationId entry = true ∨ grantsClose operationId entry = true → Empowered operationId shared.log

def guarding : Contract Database NoAnswer ProbeRace (Option ProbeEntry) where
  valid := Guarded
  rely := StillArmed
  guarantee _ _ _ _ := True

section Steps
variable {pid : Nat} {call : ProbeRace} {now : RaceShared} {operationId : String}

private theorem Empowered.mono {older newer : List (Event Database NoAnswer (Option ProbeEntry))}
    (empowered : Empowered operationId older) (grown : older <:+ newer) : Empowered operationId newer := by
  obtain ⟨pid, before, after, member, empowers⟩ := empowered
  exact ⟨pid, before, after, grown.subset member, empowers⟩

private theorem empowered_became {after : Database} (empowered : Empowered operationId (now.became pid after).log) :
    Empowers operationId after ∨ Empowered operationId now.log := by
  obtain ⟨other, before, left, member, empowers⟩ := empowered
  rcases List.mem_cons.mp member with same | old
  · cases same
    exact Or.inl empowers
  · exact Or.inr ⟨other, before, left, old, empowers⟩

private theorem Guarded.commit (guarded : Guarded now) {after : Database} (careful : Careful now.store after) :
    Keeps guarding.valid (guarding.guarantee pid call) now (now.became pid after) := by
  refine ⟨⟨fun new member powerless empowered => ?_, fun operationId absent empowered => ?_, ?_, ?_⟩, trivial⟩
  · rcases empowered_became empowered with ⟨other, present, same, power⟩ | earlier
    · rw [Table.eq_of_key present member same] at power
      exact power powerless
    · rcases careful.powerless new member powerless with ⟨old, oldMember, same, oldPowerless⟩ | fresh
      · exact guarded.powerless old oldMember oldPowerless (same ▸ earlier)
      · exact guarded.absent new.operationId fresh earlier
  · rcases empowered_became empowered with ⟨other, present, same, _⟩ | earlier
    · exact absent other present same
    · refine guarded.absent operationId (fun old member same => ?_) earlier
      obtain ⟨new, present, kept, _⟩ := careful.held old member
      exact absent new present (kept.trans same)
  · intro other before left member
    rcases List.mem_cons.mp member with same | old
    · cases same
      exact careful
    · exact guarded.careful other before left old
  · intro other entry operationId member grants
    rcases List.mem_cons.mp member with same | old
    · cases same
    · exact (guarded.earned other entry operationId old grants).mono (List.suffix_cons ..)

private theorem Guarded.read (guarded : Guarded now) :
    Keeps guarding.valid (guarding.guarantee pid call) now (now.became pid now.store) :=
  guarded.commit (.same rfl)

/-- The answer of a call, and the power behind it. -/
private def Backed (method : ProbeMethod) (result : Except SupervisorError ProbeMutationOperation) (now : RaceShared) :
    Prop :=
  ∀ operationId, grantsOpen operationId ⟨method, result⟩ = true ∨ grantsClose operationId ⟨method, result⟩ = true →
    Empowered operationId now.log

private theorem Guarded.returned (guarded : Guarded now) {value : Option ProbeEntry}
    (backed : ∀ entry, value = some entry → Backed entry.call entry.result now) :
    guarding.Returns pid call value now := by
  have grown : now.log <:+ (now.record (.returned pid value)).log := List.suffix_cons ..
  have shorter {operationId : String} (empowered : Empowered operationId (now.record (.returned pid value)).log) :
      Empowered operationId now.log := by
    obtain ⟨other, before, after, member, empowers⟩ := empowered
    rcases List.mem_cons.mp member with same | old
    · cases same
    · exact ⟨other, before, after, old, empowers⟩
  refine ⟨⟨fun new member powerless empowered => guarded.powerless new member powerless (shorter empowered),
    fun operationId absent empowered => guarded.absent operationId absent (shorter empowered), ?_, ?_⟩, trivial⟩
  · intro other before left member
    rcases List.mem_cons.mp member with same | old
    · cases same
    · exact guarded.careful other before left old
  · intro other entry operationId member grants
    rcases List.mem_cons.mp member with same | old
    · cases same
      exact (backed entry rfl operationId grants).mono grown
    · exact (guarded.earned other entry operationId old grants).mono grown

private theorem returns_backed (guarded : Guarded now) {method : ProbeMethod}
    {result : Except SupervisorError ProbeMutationOperation} (backed : Backed method result now) :
    guarding.Returns pid call (some ⟨method, result⟩) now := by
  refine guarded.returned (fun entry same => ?_)
  cases same
  exact backed

private theorem stable_backed {method : ProbeMethod} (result : Except SupervisorError ProbeMutationOperation) :
    guarding.Stable pid call (Backed method result) :=
  fun _ _ _ _ found backed operationId grants => (backed operationId grants).mono found.1.log

private theorem guarding_refl (shared : RaceShared) : guarding.rely pid call shared shared :=
  fun _ _ _ _ _ armed => armed

end Steps

section Certificate
variable {pid : Nat} {call : ProbeRace}

private theorem backed_fail {operationId reason : String} {at' : Time}
    (result : Except SupervisorError ProbeMutationOperation) (now : RaceShared) :
    Backed (.fail operationId reason at') result now := by
  rintro wanted (opens | closes)
  · cases opens
  · cases closes

private theorem backed_method {casefold : String → String} {method : ProbeMethod} {now : RaceShared} {after : Database}
    {operation : ProbeMutationOperation}
    (done : method.transaction casefold now.store = .ok (operation, after)) :
    Backed method (.ok operation) (now.became pid after) := by
  intro operationId grants
  have change := ProbeMethod.change done
  refine ⟨pid, now.store, after, List.mem_cons_self .., ?_⟩
  cases change with
  | same same noOpen noClose =>
    cases method <;> simp [grantsOpen, grantsClose] at grants
    · exact absurd rfl (noOpen _ _)
    · exact absurd rfl (noClose _ _)
  | armed armed state fresh rows =>
    subst armed
    simp [grantsOpen, grantsClose] at grants
  | advanced old member sameId sameKind unresolved saved advances =>
    have present : operation ∈ after.probeMutationOperations := (saved.rows operation).mpr (Or.inl rfl)
    cases advances with
    | opened at' ready moved =>
      refine ⟨operation, present, sameId.trans (by simpa [grantsOpen, grantsClose] using grants), ?_⟩
      rw [powerless_state moved (by decide)]
      decide
    | closed at' kind ready moved =>
      refine ⟨operation, present, sameId.trans (by simpa [grantsOpen, grantsClose] using grants), ?_⟩
      rw [powerless_state moved (by decide)]
      decide
    | failed reason at' ready moved => simp [grantsOpen, grantsClose] at grants
    | completed binding at' outcome authority moved => simp [grantsOpen, grantsClose] at grants
    | reconciled observation current decided resumes => simp [grantsOpen, grantsClose] at grants

/-- The failing call knows that its operation is armed. -/
private def Failing (pid : Nat) (operationId : String) (operation : ProbeMutationOperation) (now : RaceShared) : Prop :=
  operation.operationId = operationId ∧ (∃ event ∈ now.log, event.pid = pid) ∧ ProbeArmed now.store operationId

private theorem stable_failing {operationId reason : String} {at' : Time} {operation : ProbeMutationOperation} :
    guarding.Stable pid (.fail operationId reason at') (Failing pid operationId operation) := by
  rintro seen now _ _ found ⟨named, ⟨event, member, own⟩, armed⟩
  exact ⟨named, ⟨event, found.1.log.subset member, own⟩,
    found.2 operationId reason at' rfl ⟨event, member, own⟩ armed⟩

private theorem fail_careful {operationId : String} {db after : Database} {operation saved : ProbeMutationOperation}
    {reason : String} {at' : Time} (named : operation.operationId = operationId) (armed : ProbeArmed db operationId)
    (done : saveProbeMutationOperation (failedOperation operation reason at') db = .ok (saved, after)) :
    Careful db after := by
  obtain ⟨old, member, sameId, state⟩ := armed
  obtain ⟨_, rows⟩ := save_ok done
  have own : (failedOperation operation reason at').operationId = old.operationId := named.trans sameId.symm
  exact .saved member own (state ▸ by decide) rows (fun _ => (powerless_state state (by decide)).mpr (Or.inl rfl))

private theorem fail_triple (operationId reason : String) (at' : Time) :
    guarding.Triple pid (.fail operationId reason at') (fun _ => True)
      (failProbeMutationSteps operationId reason at') (Backed (.fail operationId reason at')) := by
  have read : guarding.Triple pid (.fail operationId reason at') (fun _ => True)
      (check (requireFailable operationId))
      (fun result now => ∀ operation, result = .ok operation → Failing pid operationId operation now) := by
    refine .check Contract.stable_const (fun _ => .forall (fun _ => .imp stable_failing)) (fun now guarded _ => ?_)
    refine ⟨guarded.read, fun operation checked => ?_⟩
    obtain ⟨member, named, armed⟩ := requireFailable_ok checked
    exact ⟨named, ⟨_, List.mem_cons_self .., rfl⟩, operation, member, named, armed⟩
  refine .bind guarding_refl read (fun operation => ?_) (fun _ => stable_backed _) (fun _ now _ _ => backed_fail _ now)
  have write : guarding.Triple pid (.fail operationId reason at')
      (fun now => ∀ found, Except.ok operation = (.ok found : Except SupervisorError _) →
        Failing pid operationId found now)
      (transaction (saveProbeMutationOperation (failedOperation operation reason at'))) (fun _ _ => True) := by
    refine .transaction (.forall (fun _ => .imp stable_failing)) (fun _ => Contract.stable_const) ?_ ?_
    · intro now saved after guarded failing done
      obtain ⟨named, _, armed⟩ := failing operation rfl
      exact ⟨guarded.commit (fail_careful named armed done), trivial⟩
    · exact fun now error guarded _ _ => ⟨guarded.read, trivial⟩
  refine .bind guarding_refl write (fun _ => ?_) (fun _ => stable_backed _) (fun _ now _ _ => backed_fail _ now)
  exact .check Contract.stable_const (fun _ => stable_backed _) (fun now guarded _ =>
    ⟨guarded.read, backed_fail _ _⟩)

private theorem method_triple (casefold : String → String) (method : ProbeMethod) :
    guarding.Triple pid call (fun _ => True) (transaction (method.transaction casefold)) (Backed method) := by
  refine .transaction Contract.stable_const (fun _ => stable_backed _) ?_ ?_
  · intro now operation after guarded _ done
    exact ⟨guarded.commit (ProbeMethod.change done).careful, backed_method done⟩
  · intro now error guarded _ _
    refine ⟨guarded.read, fun operationId grants => ?_⟩
    cases method <;> simp [grantsOpen, grantsClose] at grants

theorem guarding_certifies (casefold : String → String) : guarding.Certifies (raceMachine casefold) := by
  intro pid call seen guarded _
  cases call with
  | fail operationId reason at' =>
    exact Certified.map (Certified.weaken (fail_triple operationId reason at' seen guarded trivial)
      (fun _ _ valid backed => returns_backed valid backed))
  | method method =>
    exact Certified.map (Certified.weaken (method_triple casefold method seen guarded trivial)
      (fun _ _ valid backed => returns_backed valid backed))
  | other write =>
    intro now nowGuarded _
    have kept : Keeps guarding.valid (guarding.guarantee pid (.other write)) now (now.became pid
        { write now.store with probeMutationOperations := now.store.probeMutationOperations }) :=
      nowGuarded.commit (.same rfl)
    exact ⟨kept, fun last valid _ => valid.returned (fun _ same => nomatch same)⟩

end Certificate

/-- In every run in which a failing call still finds its operation armed when it
writes, a failed operation was granted no authority before, and a completed
operation stays completed. -/
theorem failed_probe_unauthorised (casefold : String → String) (start : Database)
    (first rest : List (Move NoAnswer ProbeRace))
    (undisturbed : UndisturbedRun StillArmed (raceMachine casefold) { store := start, log := [] } (first ++ rest)) :
    let earlier := run (raceMachine casefold).move { store := start, log := [] } first
    let later := run (raceMachine casefold).move earlier rest
    (∀ operation ∈ later.store.probeMutationOperations, operation.state = .failed →
      ∀ pid entry, .returned pid (some entry) ∈ later.log →
        grantsOpen operation.operationId entry = false ∧ grantsClose operation.operationId entry = false) ∧
    ∀ operation ∈ earlier.store.probeMutationOperations, operation.state = .completed →
      ∃ kept ∈ later.store.probeMutationOperations,
        kept.operationId = operation.operationId ∧ kept.state = .completed := by
  intro earlier later
  have none (operationId : String) : ¬ Empowered operationId [] := by
    rintro ⟨_, _, _, member, _⟩
    simp at member
  have initial : guarding.Holds { store := start, log := [] } :=
    .initial ⟨fun _ _ _ => none _, fun _ _ => none _, by simp, by simp⟩ rfl
  have guarded := (Contract.run_holds (guarding_certifies casefold) initial (first ++ rest) undisturbed).valid
  have linked := run_linked (raceMachine casefold) start (first ++ rest)
  rw [run_append] at guarded linked
  constructor
  · intro operation member failed pid entry returned
    have unpowered := guarded.powerless operation member (Or.inr failed)
    constructor
    · by_contra grants
      exact unpowered (guarded.earned pid entry _ returned (Or.inl (by simpa using grants)))
    · by_contra grants
      exact unpowered (guarded.earned pid entry _ returned (Or.inr (by simpa using grants)))
  · intro operation member completed
    obtain ⟨newer, same⟩ := run_extends earlier rest
    have log : later.log = newer ++ earlier.log := same.symm
    change Linked start later.log later.store at linked
    rw [log] at linked
    have held : ∃ kept ∈ earlier.store.probeMutationOperations,
        kept.operationId = operation.operationId ∧ kept.state = .completed := ⟨operation, member, rfl, completed⟩
    have since := (run_linked (raceMachine casefold) start first).resume linked
    refine @Linked.stays _ _ _ _ _ _ _ (fun db => ∃ kept ∈ db.probeMutationOperations,
      kept.operationId = operation.operationId ∧ kept.state = .completed) since held ?_
    rintro pid before after inside ⟨old, present, named, done⟩
    obtain ⟨new, kept, sameId, still⟩ :=
      (guarded.careful pid before after (log ▸ List.mem_append_left _ inside)).held old present
    exact ⟨new, kept, sameId.trans named, still done⟩

/-- The database with an armed operation that opens a window. -/
def armedProbe : Database :=
  { probedDatabase with
    probeWindowSlots := .empty
    probeMutationOperations :=
      ⟨⟨[{ rotation with kind := .openNew, operationId := "open", priorSlot := none }], by decide⟩, by simp⟩ }

/-- A failing call makes its read and its write, and the authority is refused. -/
theorem failed_probe_unauthorised_refused :
    let first : List (Move NoAnswer ProbeRace) := [.start (.fail "open" "cancelled" 5), .step 0, .step 0]
    let rest : List (Move NoAnswer ProbeRace) := [.start (.method (.authorizeOpen "open" 6)), .step 1, .step 1]
    let earlier := run (raceMachine id).move { store := armedProbe, log := [] } first
    let later := run (raceMachine id).move earlier rest
    (later.store.probeMutationOperations.find? "open").map (·.state) = some .failed ∧
      ∀ operation ∈ later.store.probeMutationOperations, operation.state = .failed →
        ∀ pid entry, .returned pid (some entry) ∈ later.log →
          grantsOpen operation.operationId entry = false ∧ grantsClose operation.operationId entry = false := by
  refine ⟨by decide +kernel, (failed_probe_unauthorised id armedProbe _ _ ?_).1⟩
  refine ⟨trivial, ?_, ?_, trivial, ?_, ?_, trivial⟩ <;>
    exact fun process found _ operationId reason at' _ _ armed => by
      cases found
      exact armed

/-- A failing call reads the armed operation; the operation is authorised and
completed; then the failing call writes FAILED over it. -/
theorem failed_probe_unauthorised_fails :
    let binding : ProbeWindowSlotBinding :=
      { probedSlot with targetWorkerId := "worker", targetConversationUrl := "https://chatgpt.com/c/2",
                        actualUrl := "https://chatgpt.com/c/2#lws" }
    let first : List (Move NoAnswer ProbeRace) :=
      [.start (.fail "open" "cancelled" 5), .step 0, .start (.method (.authorizeOpen "open" 6)), .step 1, .step 1,
       .start (.method (.complete "open" (some binding) 7 none)), .step 2]
    let earlier := run (raceMachine id).move { store := armedProbe, log := [] } first
    let later := run (raceMachine id).move earlier [.step 0]
    earlier.log.any (fun event => match event with
      | .returned _ (some entry) => grantsOpen "open" entry
      | _ => false) = true ∧
      (earlier.store.probeMutationOperations.find? "open").map (·.state) = some .completed ∧
      (later.store.probeMutationOperations.find? "open").map (·.state) = some .failed := by
  refine ⟨by decide +kernel, by decide +kernel, by decide +kernel⟩

end WebSupervisor.Registry.Proofs
