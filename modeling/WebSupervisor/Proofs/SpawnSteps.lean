import WebSupervisor.Library.Requests
import WebSupervisor.Registry.Adoption
import WebSupervisor.Proofs.SpawnSubmit

/-! The spawn methods of the registry in a run that nothing interrupts. -/

namespace WebSupervisor.Registry.Proofs
open Library Library.Program

/-- One row of the spawns is written, and nothing else. -/
structure Rewritten (attemptId : String) (next : ChildSpawnRow) (before after : Database) : Prop where
  shape : after = { before with childSpawnAttempts := after.childSpawnAttempts }
  rows : ∀ wanted, after.childSpawnAttempts.find? wanted =
    if wanted = attemptId then some next else before.childSpawnAttempts.find? wanted

/-- The attempt may go to the state, or is in it. -/
def Allowed (attempt : ChildSpawnAttempt) (state : ChildSpawnAttemptState) : Prop :=
  state = attempt.state ∨ state ∈ ChildSpawnAttemptState.allowed attempt.state

instance Allowed.decidable (attempt : ChildSpawnAttempt) (state : ChildSpawnAttemptState) :
    Decidable (Allowed attempt state) := inferInstanceAs (Decidable (_ ∨ _))

section Rows
variable {db after : Database} {attemptId : String} {row next : ChildSpawnRow}

theorem Rewritten.found (written : Rewritten attemptId next db after) :
    after.childSpawnAttempts.find? attemptId = some next := (written.rows attemptId).trans (if_pos rfl)

theorem Rewritten.spawnState (written : Rewritten attemptId next db after) :
    spawnState after attemptId = some next.payload.state := by
  rw [Proofs.spawnState, written.found, Option.map_some]

/-- A row that keeps its state moves no attempt. -/
theorem Rewritten.kept {next : ChildSpawnRow} (written : Rewritten attemptId next db after)
    (found : db.childSpawnAttempts.find? attemptId = some row) (same : next.payload.state = row.payload.state)
    (wanted : String) : Proofs.spawnState after wanted = Proofs.spawnState db wanted := by
  unfold Proofs.spawnState
  rw [written.rows]
  split
  next own => rw [own, found, Option.map_some, Option.map_some, same]
  next => rfl

/-- A write that does not enter the index of unresolved spawns. -/
theorem writeSpawnRow_free {change : ChildSpawnRow → ChildSpawnRow}
    (found : db.childSpawnAttempts.find? attemptId = some row) (same : (change row).attemptId = row.attemptId)
    (free : (change row).unresolvedTask = row.unresolvedTask ∨ (change row).unresolvedTask = none) :
    ∃ after, writeSpawnRow attemptId change db = .ok ((), after) ∧ Rewritten attemptId (change row) db after := by
  obtain ⟨member, named⟩ := Table.find?_some.mp found
  have replaced : ∃ table, db.childSpawnAttempts.replace? (change row) = some table := by
    rcases free with kept | outside
    · exact IndexedTable.replace?_same_index member same.symm kept.symm
    · unfold IndexedTable.replace?
      split
      next clash => exact absurd outside clash.1
      next => exact ⟨_, rfl⟩
  obtain ⟨table, written⟩ := replaced
  refine ⟨{ db with childSpawnAttempts := table }, ?_, rfl, fun wanted => ?_⟩
  · unfold writeSpawnRow
    rw [found]
    dsimp only
    rw [written]
  · change table.toTable.find? wanted = _
    rw [IndexedTable.replace?_some written, Table.find?_replace ⟨row, member, same.symm⟩, same, named]

private theorem unresolvedTask_updated {change : SpawnUpdate} {now : Time}
    (free : row.state.Unresolved ∨ ¬ change.state.Unresolved) :
    (ChildSpawnRow.mk change.state (updatedSpawn row.payload change now)).unresolvedTask = row.unresolvedTask ∨
      (ChildSpawnRow.mk change.state (updatedSpawn row.payload change now)).unresolvedTask = none := by
  by_cases unresolved : change.state.Unresolved
  · have own := free.resolve_right (not_not.mpr unresolved)
    left
    simp [ChildSpawnRow.unresolvedTask, unresolved, own, updatedSpawn]
  · right
    simp [ChildSpawnRow.unresolvedTask, unresolved]

theorem getChildSpawnAttempt_found (found : db.childSpawnAttempts.find? attemptId = some row) :
    getChildSpawnAttempt db attemptId = .ok row.payload := by rw [getChildSpawnAttempt, found]

end Rows

section Solo
variable {ρ : Type} {ω : ρ → Type} {db after : Database} {trace : List (Happening Database ω)} {attemptId : String}
  {row : ChildSpawnRow} {now : Time} {outcome : Except SupervisorError ChildSpawnAttempt}

theorem silent_update (change : SpawnUpdate) :
    Silent (ω := ω) (updateChildSpawnAttempt attemptId change now).run :=
  .andThen .check (fun _ => .andThen .ensure (fun _ => .andThen .transaction (fun _ => .check)))

theorem silent_annotate (updates : Metadata) :
    Silent (ω := ω) (annotateChildSpawnAttempt attemptId updates now).run :=
  .andThen .check (fun _ => .andThen .transaction (fun _ => .check))

/-- An update of a row that stays out of the index, or in it. -/
theorem solo_update {change : SpawnUpdate} (found : db.childSpawnAttempts.find? attemptId = some row)
    (free : row.state.Unresolved ∨ ¬ change.state.Unresolved)
    (run : Solo (updateChildSpawnAttempt attemptId change now).run db trace outcome after) :
    Allowed row.payload change.state ∧ outcome = .ok (updatedSpawn row.payload change now) ∧
        Rewritten attemptId ⟨change.state, updatedSpawn row.payload change now⟩ db after ∨
      ¬ Allowed row.payload change.state ∧ (∃ message, outcome = .error (.runtime message)) ∧ after = db := by
  have named : row.payload.attemptId = attemptId := (Table.find?_some.mp found).2
  obtain ⟨_, _, run⟩ := run.checked (getChildSpawnAttempt_found found)
  by_cases may : Allowed row.payload change.state
  · have passed : requireAllowedSpawn row.payload change.state = .ok () := by
      simp only [requireAllowedSpawn, refuse_eq_ok, not_and_or, not_not]
      exact may
    have written : ∃ last, replaceChildSpawnAttempt (updatedSpawn row.payload change now) db = .ok ((), last) ∧
        Rewritten attemptId ⟨change.state, updatedSpawn row.payload change now⟩ db last := by
      unfold replaceChildSpawnAttempt
      rw [show (updatedSpawn row.payload change now).attemptId = attemptId from named]
      exact @writeSpawnRow_free db attemptId row (fun _ => ⟨change.state, updatedSpawn row.payload change now⟩)
        found rfl (unresolvedTask_updated free)
    obtain ⟨last, done, rewritten⟩ := written
    obtain ⟨_, _, run⟩ := (run.ensured passed).committed done
    obtain ⟨_, rfl, rfl⟩ := solo_check.mp run
    exact .inl ⟨may, getChildSpawnAttempt_found rewritten.found, rewritten⟩
  · have refused : requireAllowedSpawn row.payload change.state = .error (.runtime ("invalid child spawn transition " ++
        row.payload.state.value ++ " -> " ++ change.state.value)) := by
      rw [requireAllowedSpawn, refuse, if_pos (not_or.mp may)]
    obtain ⟨_, rfl, rfl⟩ := run.ensuredError refused
    exact .inr ⟨may, ⟨_, rfl⟩, rfl⟩

theorem replaceChildSpawnAttempt_rewritten {attempt : ChildSpawnAttempt}
    (written : replaceChildSpawnAttempt attempt db = .ok ((), after)) :
    Rewritten attempt.attemptId ⟨attempt.state, attempt⟩ db after := by
  refine ⟨?_, replaceChildSpawnAttempt_ok written⟩
  unfold replaceChildSpawnAttempt writeSpawnRow at written
  split at written
  next => cases written
  next =>
    split at written <;> cases written
    rfl

/-- An update that returns has written. -/
theorem solo_updated {change : SpawnUpdate} {returned : ChildSpawnAttempt}
    (found : db.childSpawnAttempts.find? attemptId = some row)
    (run : Solo (updateChildSpawnAttempt attemptId change now).run db trace (.ok returned) after) :
    Allowed row.payload change.state ∧ returned = updatedSpawn row.payload change now ∧
      Rewritten attemptId ⟨change.state, updatedSpawn row.payload change now⟩ db after := by
  have named : row.payload.attemptId = attemptId := (Table.find?_some.mp found).2
  obtain ⟨_, _, run⟩ := run.checked (getChildSpawnAttempt_found found)
  obtain ⟨_, _, _, _, _, passing, going⟩ := solo_andThen_ok.mp run
  obtain ⟨_, passed, rfl⟩ := solo_ensure.mp passing
  have may : Allowed row.payload change.state := by
    have allowed := passed.symm
    simp only [requireAllowedSpawn, refuse_eq_ok, not_and_or, not_not] at allowed
    exact allowed
  obtain ⟨_, _, _, _, _, writing, reading⟩ := solo_andThen_ok.mp going
  obtain ⟨_, ⟨_, written, _⟩ | ⟨_, _, wrong, _⟩⟩ := solo_transaction.mp writing
  · have rewritten := replaceChildSpawnAttempt_rewritten written
    rw [show (updatedSpawn row.payload change now).attemptId = attemptId from named] at rewritten
    obtain ⟨_, same, rfl⟩ := solo_check.mp reading
    rw [getChildSpawnAttempt_found rewritten.found] at same
    exact ⟨may, Except.ok.inj same, rewritten⟩
  · cases wrong

/-- Metadata never moves a row. -/
theorem solo_annotate {updates : Metadata} (found : db.childSpawnAttempts.find? attemptId = some row)
    (run : Solo (annotateChildSpawnAttempt attemptId updates now).run db trace outcome after) :
    outcome = .ok { row.payload with metadata := row.payload.metadata.update updates, updatedAt := now } ∧
      Rewritten attemptId
        { row with payload := { row.payload with metadata := row.payload.metadata.update updates, updatedAt := now } }
        db after := by
  have named : row.payload.attemptId = attemptId := (Table.find?_some.mp found).2
  set next : ChildSpawnAttempt :=
    { row.payload with metadata := row.payload.metadata.update updates, updatedAt := now } with nextIs
  have written : ∃ last, replaceSpawnPayload next db = .ok ((), last) ∧
      Rewritten attemptId { row with payload := next } db last := by
    unfold replaceSpawnPayload
    rw [show next.attemptId = attemptId from named]
    exact @writeSpawnRow_free db attemptId row (fun row => { row with payload := next }) found rfl (.inl rfl)
  obtain ⟨last, done, rewritten⟩ := written
  obtain ⟨_, _, run⟩ := run.checked (getChildSpawnAttempt_found found)
  obtain ⟨_, _, run⟩ := run.committed (nextIs ▸ done)
  obtain ⟨_, rfl, rfl⟩ := solo_check.mp run
  exact ⟨getChildSpawnAttempt_found rewritten.found, rewritten⟩

theorem solo_annotate_unknown {updates : Metadata} (missing : db.childSpawnAttempts.find? attemptId = none)
    (run : Solo (annotateChildSpawnAttempt attemptId updates now).run db trace outcome after) :
    (∃ message, outcome = .error (.key message)) ∧ after = db := by
  have raised : getChildSpawnAttempt db attemptId = .error (.key ("unknown child spawn attempt: " ++ attemptId)) := by
    rw [getChildSpawnAttempt, missing]
  obtain ⟨_, rfl, rfl⟩ := run.checkedError raised
  exact ⟨⟨_, rfl⟩, rfl⟩

section Lists
variable {rows : List ChildSpawnRow} {result : Except SupervisorError (List ChildSpawnAttempt)}

/-- The rows behind `childSpawnIds`. -/
def listedSpawns (db : Database) (childTaskId : String) (limit : Nat) : List ChildSpawnRow :=
  let rows := db.childSpawnAttempts.rows.filter (fun row => row.payload.childTaskId = childTaskId)
  (rows.insertionSort (fun first second =>
    second.payload.createdAt < first.payload.createdAt ∨
      second.payload.createdAt = first.payload.createdAt ∧ first.attemptId ≤ second.attemptId)).take
    (max 1 (min limit 500))

theorem listedSpawns_mem {childTaskId : String} {limit : Nat} (listed : row ∈ listedSpawns db childTaskId limit) :
    row ∈ db.childSpawnAttempts ∧ row.payload.childTaskId = childTaskId := by
  have sorted := (List.perm_insertionSort _ _).mem_iff.mp (List.mem_of_mem_take listed)
  obtain ⟨member, own⟩ := List.mem_filter.mp sorted
  exact ⟨member, of_decide_eq_true own⟩

theorem silent_getSpawns (ids : List String) : Silent (ω := ω) (getSpawns ids).run := by
  induction ids with
  | nil => exact .done
  | cons attemptId rest ih => exact .andThen .check (fun _ => .andThen ih (fun _ => .done))

theorem silent_childSpawnAttempts {childTaskId : String} {limit : Nat} :
    Silent (ω := ω) (childSpawnAttempts childTaskId limit).run := .andThen .check (fun ids => silent_getSpawns ids)

private theorem solo_getSpawns (members : ∀ row ∈ rows, row ∈ db.childSpawnAttempts)
    (run : Solo (getSpawns (rows.map (·.attemptId))).run db trace result after) :
    result = .ok (rows.map (·.payload)) ∧ after = db := by
  induction rows generalizing trace result after with
  | nil =>
    obtain ⟨_, rfl, rfl⟩ := solo_done.mp run
    exact ⟨rfl, rfl⟩
  | cons row rows ih =>
    obtain ⟨member, others⟩ := List.forall_mem_cons.mp members
    have found : db.childSpawnAttempts.find? row.attemptId = some row := Table.find?_some.mpr ⟨member, rfl⟩
    obtain ⟨_, _, run⟩ := run.checked (getChildSpawnAttempt_found found)
    rcases solo_andThen.mp run with ⟨_, _, _, _, rfl, got, run⟩ | ⟨_, rfl, raised⟩
    · obtain ⟨same, rfl⟩ := ih others got
      cases same
      obtain ⟨_, rfl, rfl⟩ := solo_done.mp run
      exact ⟨rfl, rfl⟩
    · cases (ih others raised).1

/-- The list is what its rows say. -/
theorem solo_childSpawnAttempts {childTaskId : String} {limit : Nat}
    (run : Solo (childSpawnAttempts childTaskId limit).run db trace result after) :
    result = .ok ((listedSpawns db childTaskId limit).map (·.payload)) ∧ after = db := by
  obtain ⟨_, _, run⟩ := run.checked rfl
  have ids : childSpawnIds db childTaskId limit = (listedSpawns db childTaskId limit).map (·.attemptId) := by
    rw [childSpawnIds, listedSpawns, List.map_take]
  rw [ids] at run
  exact solo_getSpawns (fun row listed => (listedSpawns_mem listed).1) run

end Lists

end Solo

end WebSupervisor.Registry.Proofs
