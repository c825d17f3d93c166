import WebSupervisor.Library.Journal
import WebSupervisor.PageRuntime
import WebSupervisor.Proofs.ProbeChange

/-! The single probe slot. While a mutation is unresolved the stored slot is the
one that its operation was built from: binding and clearing are fenced, and the
completion that changes the slot resolves the operation in the same commit. -/

namespace WebSupervisor.Registry.Proofs
open Library Journaled PageRuntime

/-- The calls. An operation is armed only as the builders make it, from a worker
and a slot that were read at any time; `other` is any writer that leaves the two
probe tables alone. -/
inductive SlotCall where
  | armPlanned (worker : WorkerRecord) (existing : Option ProbeWindowSlotBinding) (slotId : String) (plannedAt : Time)
      (token : String) (args : OperationArgs)
  | armClose (worker : WorkerRecord) (existing : ProbeWindowSlotBinding) (now : Time) (operationId nonce : String)
  | authorizeOpen (operationId : String) (now : Time)
  | authorizeClose (operationId : String) (now : Time)
  | complete (operationId : String) (binding : Option ProbeWindowSlotBinding) (now : Time) (outcome : Option String)
  | fail (operationId reason : String) (now : Time)
  | reconcile (operationId : String) (observation : ProbeMutationObservation) (current : Time)
  | bind (args : ProbeSlotArgs)
  | clear (slotId : String)
  | other (write : Database → Database)

def armPlannedOperation (worker : WorkerRecord) (existing : Option ProbeWindowSlotBinding) (slotId : String)
    (plannedAt : Time) (token : String) (args : OperationArgs) : Transaction ProbeMutationOperation := fun db => do
  let plan ← planProbeSlot worker existing slotId plannedAt token
  let operation ← probeOperationFromPlan worker plan existing args
  armProbeMutationOperation operation db

def armCloseOperation (worker : WorkerRecord) (existing : ProbeWindowSlotBinding) (now : Time)
    (operationId nonce : String) : Transaction ProbeMutationOperation := fun db => do
  let operation ← probeCloseOperation worker existing now operationId nonce
  armProbeMutationOperation operation db

/-- What a transaction commits; its answer is not looked at. -/
def committing {α : Type} (work : Transaction α) : Transaction Unit := fun db => (work db).map (fun done => ((), done.2))

def SlotCall.transaction (casefold : String → String) : SlotCall → Transaction Unit
  | .armPlanned worker existing slotId plannedAt token args =>
    committing (armPlannedOperation worker existing slotId plannedAt token args)
  | .armClose worker existing now operationId nonce =>
    committing (armCloseOperation worker existing now operationId nonce)
  | .authorizeOpen operationId now => committing (authorizeProbeOpen operationId now)
  | .authorizeClose operationId now => committing (authorizeProbeClose operationId now)
  | .complete operationId binding now outcome =>
    committing (completeProbeMutationOperation casefold operationId binding now outcome)
  | .fail operationId reason now => committing (failProbeMutationOperation operationId reason now)
  | .reconcile operationId observation current =>
    committing (reconcileProbeMutationOperation casefold operationId observation current)
  | .bind args => committing (bindProbeWindowSlot args)
  | .clear slotId => committing (clearProbeWindowSlot slotId)
  | .other write => fun db => .ok ((), { write db with
      probeMutationOperations := db.probeMutationOperations
      probeWindowSlots := db.probeWindowSlots })

/-- The stored slot is the snapshot of the operation. -/
structure FrozenAt (db : Database) (operation : ProbeMutationOperation) : Prop where
  slots : db.probeWindowSlots.rows = operation.priorSlot.toList
  kind : operation.kind = .openNew ↔ operation.priorSlot = none
  slotId : ∀ slot, operation.priorSlot = some slot → slot.slotId = operation.slotId

structure SlotFrozen (db : Database) : Prop where
  single : db.probeWindowSlots.rows.length ≤ 1
  frozen : ∀ operation ∈ db.probeMutationOperations, operation.state.Unresolved → FrozenAt db operation

/-- The slot after a completion. -/
def Published (operation : ProbeMutationOperation) (db : Database) : Prop :=
  (operation.kind = .close → db.probeWindowSlots.rows = []) ∧
  (operation.kind ≠ .close → ∃ slot, db.probeWindowSlots.rows = [slot] ∧ slot.ownerToken = operation.ownerToken ∧
    slot.targetWorkerId = operation.targetWorkerId ∧
    rstripSlash slot.actualUrl = rstripSlash operation.expectedActualUrl)

/-- The errors about the slot that a completion may raise. -/
def slotErrors : List SupervisorError :=
  [.runtime "multiple durable probe slots require reconciliation",
   .runtime "durable probe slot appeared while OPEN was unresolved",
   .runtime "durable probe slot changed while mutation was unresolved"]

section Saves
variable {before after : Database} {old new written : ProbeMutationOperation}

private theorem unresolved_eq {db : Database} (first : old ∈ db.probeMutationOperations)
    (second : new ∈ db.probeMutationOperations) (one : old.state.Unresolved) (two : new.state.Unresolved) : old = new := by
  refine IndexedTable.eq_of_index first second ?_ ?_
  · simp [ProbeMutationOperation.unresolvedIndex, one]
  · simp [ProbeMutationOperation.unresolvedIndex, one, two]

private theorem committing_ok {α : Type} {work : Transaction α} (done : committing work before = .ok ((), after)) :
    ∃ value, work before = .ok (value, after) := by
  unfold committing at done
  cases result : work before with
  | error error =>
    rw [result] at done
    cases done
  | ok pair =>
    rw [result] at done
    cases done
    exact ⟨pair.1, rfl⟩

private theorem committing_error {α : Type} {work : Transaction α} {error : SupervisorError}
    (raised : committing work before = .error error) : work before = .error error := by
  unfold committing at raised
  cases result : work before with
  | error found =>
    rw [result] at raised
    cases raised
    rfl
  | ok pair =>
    rw [result] at raised
    cases raised

private theorem save_slots (saved : saveProbeMutationOperation written before = .ok (new, after)) :
    after.probeWindowSlots = before.probeWindowSlots := by
  unfold saveProbeMutationOperation at saved
  split at saved
  next => cases saved
  next =>
    split at saved
    next => cases saved
    next =>
      cases saved
      rfl

private theorem frozen_save (frozen : SlotFrozen before) (member : old ∈ before.probeMutationOperations)
    (unresolved : old.state.Unresolved) (kind : written.kind = old.kind) (slotId : written.slotId = old.slotId)
    (prior : written.priorSlot = old.priorSlot)
    (saved : saveProbeMutationOperation written before = .ok (new, after)) : SlotFrozen after := by
  have slots := save_slots saved
  obtain ⟨rfl, rows⟩ := save_ok saved
  obtain ⟨same, shape, named⟩ := frozen.frozen old member unresolved
  refine ⟨by rw [slots]; exact frozen.single, fun operation present isOpen => ?_⟩
  rcases (rows.rows operation).mp present with rfl | ⟨kept, _⟩
  · exact ⟨by rw [slots, prior, same], by rw [kind, prior, shape], by rw [prior, slotId]; exact named⟩
  · obtain ⟨same, shape, named⟩ := frozen.frozen operation kept isOpen
    exact ⟨by rw [slots, same], shape, named⟩

end Saves

section Completion
variable {before after : Database} {old new : ProbeMutationOperation} {casefold : String → String}
  {binding : Option ProbeWindowSlotBinding} {ts : Time} {outcome : Option String} {reconciled : Bool}

private theorem frozen_checks (frozen : FrozenAt before old) :
    currentProbeSlot before = .ok old.priorSlot ∧ requireUnchangedSlot old old.priorSlot = .ok () := by
  constructor
  · unfold currentProbeSlot
    rw [frozen.slots]
    cases old.priorSlot <;> rfl
  · unfold requireUnchangedSlot
    split
    next opens => simp [frozen.kind.mp opens]
    next => simp

private theorem completionBinding_ok (checked : requireCompletionBinding casefold old binding = .ok ()) :
    old.kind = .close ∧ binding = none ∨ old.kind ≠ .close ∧ ∃ slot, binding = some slot ∧ slot.slotId = old.slotId ∧
      slot.ownerToken = old.ownerToken ∧ slot.targetWorkerId = old.targetWorkerId ∧
      rstripSlash slot.actualUrl = rstripSlash old.expectedActualUrl := by
  unfold requireCompletionBinding at checked
  split at checked
  next kind => exact Or.inl ⟨kind, rfl⟩
  next => cases checked
  next => cases checked
  next slot notClose =>
    simp only [validateProbeCompletionBinding, bind_eq_ok, refuse_eq_ok, not_not] at checked
    obtain ⟨_, slotId, _, owner, _, worker, _, _, _, url, _⟩ := checked
    refine Or.inr ⟨fun kind => ?_, slot, rfl, slotId, owner, worker, url⟩
    exact notClose kind

private theorem publish_rows (frozen : FrozenAt before old) (checked : requireCompletionBinding casefold old binding = .ok ()) :
    (publishProbeSlot before old binding).probeWindowSlots.rows = binding.toList := by
  rcases completionBinding_ok checked with ⟨kind, rfl⟩ | ⟨_, slot, rfl, named, _⟩
  · have prior : old.priorSlot ≠ none := fun none => by
      rw [frozen.kind.mpr none] at kind
      cases kind
    obtain ⟨slot, held⟩ := Option.ne_none_iff_exists'.mp prior
    have rows := frozen.slots
    rw [held] at rows
    simp [publishProbeSlot, Table.delete, rows, frozen.slotId slot held]
  · have rows := frozen.slots
    cases held : old.priorSlot with
    | none =>
      rw [held] at rows
      simp_all [publishProbeSlot, Table.upsert, Table.insert?]
    | some prior =>
      rw [held] at rows
      have same : prior.slotId = slot.slotId := (frozen.slotId prior held).trans named.symm
      simp_all [publishProbeSlot, Table.upsert, Table.insert?, Table.replace]

private theorem complete_frozen (frozen : SlotFrozen before) (member : old ∈ before.probeMutationOperations)
    (unresolved : old.state.Unresolved)
    (done : completeProbeMutationLocked casefold old binding ts outcome reconciled before = .ok (new, after)) :
    SlotFrozen after ∧ Published old after ∧ new.operationId = old.operationId ∧ new.kind = old.kind ∧
      new.ownerToken = old.ownerToken ∧ new.targetWorkerId = old.targetWorkerId ∧
      new.expectedActualUrl = old.expectedActualUrl ∧ Saved new before after := by
  have frozenAt := frozen.frozen old member unresolved
  unfold completeProbeMutationLocked at done
  simp only [bind_eq_ok] at done
  obtain ⟨_, checked, _, _, _, _, saved⟩ := done
  have slots : after.probeWindowSlots.rows = binding.toList := by
    rw [save_slots saved]
    exact publish_rows frozenAt checked
  obtain ⟨rfl, rows⟩ := save_ok saved
  have untouched : (publishProbeSlot before old binding).probeMutationOperations = before.probeMutationOperations := by
    unfold publishProbeSlot
    split <;> rfl
  refine ⟨⟨?_, fun operation present isOpen => ?_⟩, ⟨fun kind => ?_, fun kind => ?_⟩, rfl, rfl, rfl, rfl, rfl, ⟨fun row => ?_⟩⟩
  · rw [slots]
    cases binding <;> simp
  · rcases (rows.rows operation).mp present with rfl | ⟨kept, other⟩
    · simp [ProbeMutationState.Unresolved] at isOpen
    · rw [untouched] at kept
      exact absurd (congrArg _ (unresolved_eq kept member isOpen unresolved)) other
  · rcases completionBinding_ok checked with ⟨_, rfl⟩ | ⟨notClose, _⟩
    · exact slots
    · exact absurd kind notClose
  · rcases completionBinding_ok checked with ⟨close, _⟩ | ⟨_, slot, rfl, _, owner, worker, url⟩
    · exact absurd close kind
    · exact ⟨slot, slots, owner, worker, url⟩
  · rw [rows.rows row, untouched]

/-- The computation raises no error about the slot. -/
private def Harmless {α : Type} (result : Except SupervisorError α) : Prop :=
  ∀ error, result = .error error → error ∉ slotErrors

private theorem Harmless.ok {α : Type} (value : α) : Harmless (.ok value) := by
  intro error raised
  cases raised

private theorem Harmless.error {α : Type} {error : SupervisorError} (other : error ∉ slotErrors) :
    Harmless (.error error : Except SupervisorError α) := by
  intro found raised
  cases raised
  exact other

private theorem Harmless.refuse {bad : Prop} [Decidable bad] {error : SupervisorError} (other : error ∉ slotErrors) :
    Harmless (refuse bad error) := by
  intro found raised
  rw [refuse_eq_error] at raised
  exact raised.2 ▸ other

private theorem Harmless.bind {α β : Type} {first : Except SupervisorError α} {next : α → Except SupervisorError β}
    (one : Harmless first) (two : ∀ value, first = .ok value → Harmless (next value)) : Harmless (first >>= next) := by
  intro error raised
  rcases (bind_eq_error ..).mp raised with early | ⟨value, passed, late⟩
  · exact one error early
  · exact two value passed error late

private theorem value_harmless (text : String) : SupervisorError.value text ∉ slotErrors := by
  simp [slotErrors]

private theorem completionBinding_harmless : Harmless (requireCompletionBinding casefold old binding) := by
  unfold requireCompletionBinding
  split
  next => exact .ok _
  next => exact .error (value_harmless _)
  next => exact .error (value_harmless _)
  next =>
    unfold validateProbeCompletionBinding
    refine .bind (.refuse (value_harmless _)) (fun _ _ => .bind (.refuse (value_harmless _)) (fun _ _ => ?_))
    refine .bind (.refuse (value_harmless _)) (fun _ _ => .bind (.refuse (value_harmless _)) (fun _ _ => ?_))
    refine .bind (.refuse (value_harmless _)) (fun _ _ => .bind (.refuse (value_harmless _)) (fun _ _ => ?_))
    exact .refuse (value_harmless _)

private theorem save_harmless {written : ProbeMutationOperation} {db : Database} :
    Harmless (saveProbeMutationOperation written db) := by
  unfold saveProbeMutationOperation
  split
  next => exact .error (by simp [slotErrors])
  next =>
    split
    next => exact .error (by simp [slotErrors])
    next => exact .ok _

private theorem completeLocked_harmless (frozen : SlotFrozen before) (member : old ∈ before.probeMutationOperations)
    (unresolved : old.state.Unresolved) :
    Harmless (completeProbeMutationLocked casefold old binding ts outcome reconciled before) := by
  obtain ⟨current, unchanged⟩ := frozen_checks (frozen.frozen old member unresolved)
  unfold completeProbeMutationLocked
  rw [current]
  refine .bind completionBinding_harmless (fun _ _ => .bind (.ok _) (fun slot same => ?_))
  cases same
  rw [unchanged]
  exact .bind (.ok _) (fun _ _ => save_harmless)

end Completion

section Calls
variable {before after : Database} {operation : ProbeMutationOperation} {operationId : String} {casefold : String → String}

private theorem get_harmless : Harmless (getProbeMutationOperation before operationId) := by
  unfold getProbeMutationOperation
  split
  next => exact .error (by simp [slotErrors])
  next => exact .ok _

private theorem complete_harmless (frozen : SlotFrozen before) (binding : Option ProbeWindowSlotBinding) (now : Time)
    (outcome : Option String) :
    Harmless (completeProbeMutationOperation casefold operationId binding now outcome before) := by
  unfold completeProbeMutationOperation
  refine .bind get_harmless (fun old found => ?_)
  obtain ⟨member, _⟩ := getProbeMutationOperation_ok found
  split
  next => exact .ok _
  next =>
    refine .bind (.refuse ?_) (fun _ passed => ?_)
    · -- The text of the other error begins in another way.
      simp only [slotErrors, List.mem_cons, List.not_mem_nil, or_false, SupervisorError.runtime.injEq]
      rintro (same | same | same) <;>
        · have first := congrArg (fun text => text.toList.head?) same
          simp at first
    · rw [refuse_eq_ok, not_not] at passed
      refine .bind ?_ (fun _ _ => completeLocked_harmless frozen member passed)
      unfold requireCompletionAuthority
      split <;> exact .refuse (by simp [slotErrors])

private theorem reconcile_harmless (frozen : SlotFrozen before) (observation : ProbeMutationObservation) (current : Time) :
    Harmless (reconcileProbeMutationOperation casefold operationId observation current before) := by
  unfold reconcileProbeMutationOperation
  refine .bind get_harmless (fun old found => ?_)
  obtain ⟨member, _⟩ := getProbeMutationOperation_ok found
  split
  next => exact .ok _
  next isOpen =>
    dsimp only
    split
    next => exact completeLocked_harmless frozen member (not_not.mp isOpen)
    next => exact save_harmless

/-- An operation that the commit completes has its slot published. -/
private def Publishes (before after : Database) : Prop :=
  ∀ old ∈ before.probeMutationOperations, old.state ≠ .completed → ∀ new ∈ after.probeMutationOperations,
    new.operationId = old.operationId → new.state = .completed → Published new after

private theorem publishes_same (same : after.probeMutationOperations = before.probeMutationOperations) :
    Publishes before after := by
  intro old member notDone new present named done
  rw [same] at present
  cases Table.eq_of_key present member named
  exact absurd done notDone

private theorem publishes_save {written : ProbeMutationOperation} (rows : Saved written before after)
    (published : written.state = .completed → Published written after) : Publishes before after := by
  intro old member notDone new present named done
  rcases (rows.rows new).mp present with rfl | ⟨kept, _⟩
  · exact published done
  · cases Table.eq_of_key kept member named
    exact absurd done notDone

private theorem step_save {old written new : ProbeMutationOperation} (frozen : SlotFrozen before)
    (member : old ∈ before.probeMutationOperations) (unresolved : old.state.Unresolved)
    (saved : saveProbeMutationOperation written before = .ok (new, after)) (notDone : written.state ≠ .completed)
    (kind : written.kind = old.kind) (slotId : written.slotId = old.slotId) (prior : written.priorSlot = old.priorSlot) :
    SlotFrozen after ∧ Publishes before after :=
  ⟨frozen_save frozen member unresolved kind slotId prior saved,
    publishes_save (save_ok saved).2 (fun done => absurd done notDone)⟩

private theorem step_completeLocked {old new : ProbeMutationOperation} {binding : Option ProbeWindowSlotBinding} {ts : Time}
    {outcome : Option String} {reconciled : Bool} (frozen : SlotFrozen before)
    (member : old ∈ before.probeMutationOperations) (unresolved : old.state.Unresolved)
    (done : completeProbeMutationLocked casefold old binding ts outcome reconciled before = .ok (new, after)) :
    SlotFrozen after ∧ Publishes before after := by
  obtain ⟨kept, published, _, kind, owner, worker, url, rows⟩ := complete_frozen frozen member unresolved done
  refine ⟨kept, publishes_save rows (fun _ => ?_)⟩
  unfold Published at published ⊢
  rw [kind, owner, worker, url]
  exact published

private theorem insertOperation_ok (inserted : insertProbeMutationOperation before operation = .ok after) :
    after.probeWindowSlots = before.probeWindowSlots ∧
      ∀ row, row ∈ after.probeMutationOperations ↔ row ∈ before.probeMutationOperations ∨ row = operation := by
  unfold insertProbeMutationOperation at inserted
  simp only [bind_eq_ok] at inserted
  obtain ⟨_, _, entered⟩ := inserted
  split at entered
  next => cases entered
  next => cases entered
  next table grown =>
    cases entered
    exact ⟨rfl, fun row => Table.mem_insert? (IndexedTable.insert_ok grown)⟩

private theorem currentProbeSlot_ok {current : Option ProbeWindowSlotBinding}
    (found : currentProbeSlot before = .ok current) : before.probeWindowSlots.rows = current.toList := by
  unfold currentProbeSlot at found
  split at found
  next rows =>
    cases found
    exact rows
  next rows =>
    cases found
    exact rows
  next => cases found

private theorem requirePriorSlot_ok {current : Option ProbeWindowSlotBinding}
    (prior : requirePriorSlot operation current = .ok ()) : current = operation.priorSlot := by
  unfold requirePriorSlot at prior
  split at prior
  next =>
    rw [refuse_eq_ok, not_or, not_not, not_not] at prior
    rw [prior.1, prior.2]
  next =>
    simp only [bind_eq_ok, refuse_eq_ok, not_not] at prior
    exact prior.choose_spec.2

private theorem step_arm {armed : ProbeMutationOperation} (frozen : SlotFrozen before) (state : armed.state = .armed)
    (kind : armed.kind = .openNew ↔ armed.priorSlot = none)
    (slotId : ∀ slot, armed.priorSlot = some slot → slot.slotId = armed.slotId)
    (done : armProbeMutationOperation armed before = .ok (operation, after)) :
    SlotFrozen after ∧ Publishes before after := by
  unfold armProbeMutationOperation at done
  simp only [bind_eq_ok] at done
  obtain ⟨_, _, _, _, rest⟩ := done
  split at rest
  next => cases rest
  next none =>
    simp only [bind_eq_ok] at rest
    obtain ⟨current, found, _, prior, grown, inserted, same⟩ := rest
    obtain ⟨slots, rows⟩ := insertOperation_ok inserted
    cases same
    have stored := currentProbeSlot_ok found
    rw [requirePriorSlot_ok prior] at stored
    have quiet (row : ProbeMutationOperation) (member : row ∈ before.probeMutationOperations) : ¬ row.state.Unresolved := by
      have absent := List.find?_eq_none.mp none row member
      simpa using absent
    refine ⟨⟨by rw [slots]; exact frozen.single, fun row present isOpen => ?_⟩, ?_⟩
    · rcases (rows row).mp present with old | rfl
      · exact absurd isOpen (quiet row old)
      · exact ⟨by rw [slots, stored], kind, slotId⟩
    · intro old member notDone new present named finished
      rcases (rows new).mp present with kept | rfl
      · cases Table.eq_of_key kept member named
        exact absurd finished notDone
      · rw [state] at finished
        cases finished

private theorem planned_slot {worker : WorkerRecord} {existing : Option ProbeWindowSlotBinding} {slotId token : String}
    {now : Time} {plan : ProbeSlotPlan} (planned : planProbeSlot worker existing slotId now token = .ok plan)
    (mutates : plan.action ∈ [.openNew, .rotate]) :
    plan.slotId = slotId ∧ (plan.action = .openNew ↔ existing = none) ∧
      ∀ slot, existing = some slot → slot.slotId = slotId := by
  unfold planProbeSlot at planned
  rw [bind_eq_ok] at planned
  obtain ⟨identity, _, planned⟩ := planned
  dsimp only at planned
  split at planned
  next =>
    cases planned
    simp at mutates
  next =>
    split at planned
    next =>
      cases planned
      exact ⟨rfl, by simp, by simp⟩
    next slot =>
      split at planned
      next =>
        cases planned
        simp at mutates
      next passed =>
        have named : slot.slotId = slotId := by
          by_contra other
          refine passed (List.any_eq_true.mpr ⟨("slot_id_matches", decide (slot.slotId = slotId)), by simp, ?_⟩)
          simp [other]
        have only : ∀ held, some slot = some held → held.slotId = slotId := by
          intro held same
          cases same
          exact named
        split at planned
        next =>
          cases planned
          exact ⟨rfl, by simp, only⟩
        next =>
          obtain ⟨target, _, planned⟩ := (bind_eq_ok ..).mp planned
          split at planned
          next =>
            cases planned
            simp at mutates
          next =>
            cases planned
            exact ⟨rfl, by simp, only⟩

private theorem step_armPlanned {worker : WorkerRecord} {existing : Option ProbeWindowSlotBinding} {slotId token : String}
    {plannedAt : Time} {args : OperationArgs} (frozen : SlotFrozen before)
    (done : armPlannedOperation worker existing slotId plannedAt token args before = .ok (operation, after)) :
    SlotFrozen after ∧ Publishes before after := by
  unfold armPlannedOperation at done
  rw [bind_eq_ok] at done
  obtain ⟨plan, planned, done⟩ := done
  rw [bind_eq_ok] at done
  obtain ⟨built, made, done⟩ := done
  unfold probeOperationFromPlan at made
  simp only [bind_eq_ok, refuse_eq_ok, not_not] at made
  obtain ⟨_, _, _, mutates, _, _, _, _, _, _, url, _, same⟩ := made
  cases same
  obtain ⟨named, kind, only⟩ := planned_slot planned mutates
  refine step_arm frozen rfl ?_ (fun slot held => ?_) done
  · rw [← kind]
    dsimp only
    split <;> simp_all
  · exact (only slot held).trans named.symm

private theorem step_armClose {worker : WorkerRecord} {existing : ProbeWindowSlotBinding} {now : Time}
    {operationId nonce : String} (frozen : SlotFrozen before)
    (done : armCloseOperation worker existing now operationId nonce before = .ok (operation, after)) :
    SlotFrozen after ∧ Publishes before after := by
  unfold armCloseOperation at done
  rw [bind_eq_ok] at done
  obtain ⟨built, made, done⟩ := done
  unfold probeCloseOperation at made
  simp only [bind_eq_ok] at made
  obtain ⟨_, _, _, _, _, _, same⟩ := made
  cases same
  refine step_arm frozen rfl (by simp) (fun slot held => ?_) done
  cases held
  rfl

private theorem requireNoProbeMutation_ok (free : requireNoProbeMutation before = .ok ()) :
    ∀ row ∈ before.probeMutationOperations, ¬ row.state.Unresolved := by
  unfold requireNoProbeMutation at free
  split at free
  next none =>
    intro row member
    have absent := List.find?_eq_none.mp none row member
    simpa using absent
  next => cases free

private theorem step_slot (free : requireNoProbeMutation before = .ok ())
    (same : after.probeMutationOperations = before.probeMutationOperations)
    (single : after.probeWindowSlots.rows.length ≤ 1) : SlotFrozen after ∧ Publishes before after := by
  refine ⟨⟨single, fun row present isOpen => ?_⟩, publishes_same same⟩
  rw [same] at present
  exact absurd isOpen (requireNoProbeMutation_ok free row present)

private theorem upsert_single {slot : ProbeWindowSlotBinding} (frozen : SlotFrozen before)
    (only : ∀ row ∈ before.probeWindowSlots.rows, row.slotId = slot.slotId) :
    (before.probeWindowSlots.upsert slot).rows.length ≤ 1 := by
  have single := frozen.single
  match rows : before.probeWindowSlots.rows with
  | [] => simp [Table.upsert, Table.insert?, rows]
  | [row] =>
    have same := only row (by simp [rows])
    simp [Table.upsert, Table.insert?, Table.replace, rows, same]
  | _ :: _ :: _ =>
    rw [rows] at single
    simp at single

private theorem step_bind {args : ProbeSlotArgs} {slot : ProbeWindowSlotBinding} (frozen : SlotFrozen before)
    (done : bindProbeWindowSlot args before = .ok (slot, after)) : SlotFrozen after ∧ Publishes before after := by
  unfold bindProbeWindowSlot at done
  simp only [bind_eq_ok] at done
  obtain ⟨_, free, _, _, _, _, _, only, _, _, _, _, _, _, _, _, same⟩ := done
  cases same
  refine step_slot free rfl (upsert_single frozen (fun row member => ?_))
  unfold requireOnlySlot at only
  split at only
  next none =>
    have absent := List.find?_eq_none.mp none row member
    simpa using absent
  next => cases only

private theorem step_clear {slotId : String} {cleared : Bool} (frozen : SlotFrozen before)
    (done : clearProbeWindowSlot slotId before = .ok (cleared, after)) : SlotFrozen after ∧ Publishes before after := by
  unfold clearProbeWindowSlot at done
  simp only [bind_eq_ok] at done
  obtain ⟨_, free, same⟩ := done
  cases same
  refine step_slot free rfl ?_
  exact (List.length_filter_le ..).trans frozen.single

private theorem step_complete {binding : Option ProbeWindowSlotBinding} {now : Time} {outcome : Option String}
    (frozen : SlotFrozen before)
    (done : completeProbeMutationOperation casefold operationId binding now outcome before = .ok (operation, after)) :
    SlotFrozen after ∧ Publishes before after := by
  unfold completeProbeMutationOperation at done
  rw [bind_eq_ok] at done
  obtain ⟨old, found, done⟩ := done
  obtain ⟨member, _⟩ := getProbeMutationOperation_ok found
  split at done
  next =>
    cases done
    exact ⟨frozen, publishes_same rfl⟩
  next =>
    simp only [bind_eq_ok, refuse_eq_ok, not_not] at done
    obtain ⟨_, unresolved, _, _, locked⟩ := done
    exact step_completeLocked frozen member unresolved locked

private theorem step_reconcile {observation : ProbeMutationObservation} {current : Time} (frozen : SlotFrozen before)
    (done : reconcileProbeMutationOperation casefold operationId observation current before = .ok (operation, after)) :
    SlotFrozen after ∧ Publishes before after := by
  unfold reconcileProbeMutationOperation at done
  rw [bind_eq_ok] at done
  obtain ⟨old, found, done⟩ := done
  obtain ⟨member, _⟩ := getProbeMutationOperation_ok found
  split at done
  next =>
    cases done
    exact ⟨frozen, publishes_same rfl⟩
  next isOpen =>
    dsimp only at done
    split at done
    next => exact step_completeLocked frozen member (not_not.mp isOpen) done
    next moves => exact step_save frozen member (not_not.mp isOpen) done moves rfl rfl rfl

private theorem step_authorize {now : Time} (frozen : SlotFrozen before) :
    (authorizeProbeOpen operationId now before = .ok (operation, after) → SlotFrozen after ∧ Publishes before after) ∧
    (authorizeProbeClose operationId now before = .ok (operation, after) → SlotFrozen after ∧ Publishes before after) := by
  constructor
  · intro done
    unfold authorizeProbeOpen at done
    simp only [bind_eq_ok, refuse_eq_ok, not_not] at done
    obtain ⟨old, found, _, ready, saved⟩ := done
    obtain ⟨member, _⟩ := getProbeMutationOperation_ok found
    have unresolved : old.state.Unresolved := by
      rcases ready with ⟨_, armed⟩ | ⟨_, waiting⟩
      · exact armed ▸ by decide
      · exact waiting ▸ by decide
    exact step_save frozen member unresolved saved (by simp) rfl rfl rfl
  · intro done
    unfold authorizeProbeClose at done
    simp only [bind_eq_ok, refuse_eq_ok, not_not] at done
    obtain ⟨old, found, _, _, _, armed, saved⟩ := done
    obtain ⟨member, _⟩ := getProbeMutationOperation_ok found
    exact step_save frozen member (armed ▸ by decide) saved (by simp) rfl rfl rfl

private theorem step_fail {reason : String} {now : Time} (frozen : SlotFrozen before)
    (done : failProbeMutationOperation operationId reason now before = .ok (operation, after)) :
    SlotFrozen after ∧ Publishes before after := by
  unfold failProbeMutationOperation at done
  rw [bind_eq_ok] at done
  obtain ⟨old, checked, saved⟩ := done
  obtain ⟨member, _, armed⟩ := requireFailable_ok checked
  exact step_save frozen member (armed ▸ by decide) saved (by simp [failedOperation]) rfl rfl rfl

private theorem slot_step {call : SlotCall} (frozen : SlotFrozen before)
    (done : call.transaction casefold before = .ok ((), after)) : SlotFrozen after ∧ Publishes before after := by
  cases call with
  | armPlanned worker existing slotId plannedAt token args =>
    obtain ⟨_, called⟩ := committing_ok done
    exact step_armPlanned frozen called
  | armClose worker existing now operationId nonce =>
    obtain ⟨_, called⟩ := committing_ok done
    exact step_armClose frozen called
  | authorizeOpen operationId now =>
    obtain ⟨_, called⟩ := committing_ok done
    exact (step_authorize frozen).1 called
  | authorizeClose operationId now =>
    obtain ⟨_, called⟩ := committing_ok done
    exact (step_authorize frozen).2 called
  | complete operationId binding now outcome =>
    obtain ⟨_, called⟩ := committing_ok done
    exact step_complete frozen called
  | fail operationId reason now =>
    obtain ⟨_, called⟩ := committing_ok done
    exact step_fail frozen called
  | reconcile operationId observation current =>
    obtain ⟨_, called⟩ := committing_ok done
    exact step_reconcile frozen called
  | bind args =>
    obtain ⟨_, called⟩ := committing_ok done
    exact step_bind frozen called
  | clear slotId =>
    obtain ⟨_, called⟩ := committing_ok done
    exact step_clear frozen called
  | other write =>
    cases done
    refine ⟨⟨frozen.single, fun row present isOpen => ?_⟩, publishes_same rfl⟩
    obtain ⟨slots, kind, slotId⟩ := frozen.frozen row present isOpen
    exact ⟨slots, kind, slotId⟩

end Calls

abbrev SlotRun := Journaled Database SlotCall SupervisorError Unit

def slotRun (casefold : String → String) (start : Database) (calls : List SlotCall) : SlotRun :=
  run (perform (SlotCall.transaction casefold)) { store := start } calls

private theorem slotRun_frozen (casefold : String → String) (start : Database) (calls : List SlotCall)
    (frozen : SlotFrozen start) : SlotFrozen (slotRun casefold start calls).store := by
  refine @run_invariant _ _ (perform (SlotCall.transaction casefold)) (fun state : SlotRun => SlotFrozen state.store)
    (fun state call held => ?_) _ calls frozen
  exact @perform_keeps _ _ _ _ (SlotCall.transaction casefold) state call (fun state : SlotRun => SlotFrozen state.store)
    (fun _ _ done => (slot_step held done).1) (fun _ _ => held)

/-- The calls that complete operations. -/
def SlotCall.completes : SlotCall → Bool
  | .complete .. | .reconcile .. => true
  | _ => false

/-- After every run from empty probe tables there is at most one slot and at most
one unresolved operation, and while an operation is unresolved the slot is its
snapshot. So the next call, if it completes or reconciles, raises none of the
errors about the slot; and an operation that it completes has its slot deleted
or published, with a target address that agrees up to trailing slashes. -/
theorem probe_slot_frozen (casefold : String → String) (start : Database) (calls : List SlotCall) (call : SlotCall)
    (noSlot : start.probeWindowSlots.rows = []) (noOperation : start.probeMutationOperations.rows = []) :
    let before := (slotRun casefold start calls).store
    before.probeWindowSlots.rows.length ≤ 1 ∧
    (∀ first ∈ before.probeMutationOperations, ∀ second ∈ before.probeMutationOperations,
      first.state.Unresolved → second.state.Unresolved → first = second) ∧
    (∀ operation ∈ before.probeMutationOperations, operation.state.Unresolved →
      before.probeWindowSlots.rows = operation.priorSlot.toList ∧
      (operation.kind = .openNew → operation.priorSlot = none)) ∧
    (call.completes = true → ∀ error ∈ slotErrors, call.transaction casefold before ≠ .error error) ∧
    ∀ after, call.transaction casefold before = .ok ((), after) → ∀ old ∈ before.probeMutationOperations,
      old.state ≠ .completed → ∀ new ∈ after.probeMutationOperations, new.operationId = old.operationId →
      new.state = .completed → Published new after := by
  intro before
  have initial : SlotFrozen start := by
    refine ⟨by simp [noSlot], fun operation member => ?_⟩
    have inside : operation ∈ start.probeMutationOperations.rows := member
    simp [noOperation] at inside
  have frozen : SlotFrozen before := slotRun_frozen casefold start calls initial
  refine ⟨frozen.single, ?_, ?_, ?_, ?_⟩
  · intro first firstMember second secondMember one two
    exact unresolved_eq firstMember secondMember one two
  · intro operation member isOpen
    have frozenAt := frozen.frozen operation member isOpen
    exact ⟨frozenAt.slots, frozenAt.kind.mp⟩
  · intro completes error member raised
    cases call with
    | complete operationId binding now outcome =>
      exact complete_harmless frozen binding now outcome error (committing_error raised) member
    | reconcile operationId observation current =>
      exact reconcile_harmless frozen observation current error (committing_error raised) member
    | _ => cases completes
  · intro after done
    exact (slot_step frozen done).2

section Runs

def parkedWorker : WorkerRecord :=
  { workerId := "worker", taskId := "task", conversationUrl := "https://chatgpt.com/c/0123456789abcdef", status := .parked
    startedAt := 0 }

def parkedDatabase : Database where
  tasks := .single { taskId := "task", state := .running }
  workers := ⟨[parkedWorker], by decide⟩

/-- The window that was opened, as it is observed at an address. -/
def openedWindow (actualUrl : String) : ProbeWindowSlotBinding where
  slotId := "probe:default"
  ownerToken := "token"
  targetWorkerId := "worker"
  targetConversationUrl := "https://chatgpt.com/c/0123456789abcdef"
  actualUrl
  windowHandle := 1
  browserPid := 2
  chromeExecutable := "chrome"
  source := "windows_uia_lws_probe"
  boundAt := 2
  observedAt := 2
  expiresAt := 122

/-- An OPEN is planned, armed and authorised. -/
def openingCalls : List SlotCall :=
  [.armPlanned parkedWorker none "probe:default" 0 "token"
    { chromeExecutable := "chrome", now := 0, operationId := "op", nonce := "nonce" },
   .authorizeOpen "op" 1]

def openedUrl : String := "https://chatgpt.com/c/0123456789abcdef#lws-probe=probe:default:token"

theorem probe_slot_frozen_opened :
    let before := (slotRun id parkedDatabase openingCalls).store
    let after := (slotRun id parkedDatabase
      (openingCalls ++ [.complete "op" (some (openedWindow openedUrl)) 2 none])).store
    after.probeMutationOperations.rows.map (·.state) = [.completed] ∧
    after.probeWindowSlots.rows = [openedWindow openedUrl] ∧ before.probeWindowSlots.rows.length ≤ 1 :=
  ⟨by decide +kernel, by decide +kernel, (probe_slot_frozen id parkedDatabase openingCalls (.clear "") rfl rfl).1⟩

/-- The window is reported with a trailing slash. The completion accepts it, and
the slot carries another text than the tagged address of the operation. -/
theorem probe_slot_frozen_slash :
    let after := (slotRun id parkedDatabase
      (openingCalls ++ [.complete "op" (some (openedWindow (openedUrl ++ "/"))) 2 none])).store
    after.probeMutationOperations.rows.map (fun operation => (operation.state, operation.expectedActualUrl)) =
      [(.completed, openedUrl)] ∧
    after.probeWindowSlots.rows.map (·.actualUrl) = [openedUrl ++ "/"] ∧ openedUrl ++ "/" ≠ openedUrl := by
  decide +kernel

end Runs

end WebSupervisor.Registry.Proofs
