import WebSupervisor.Proofs.SpawnSteps

/-! The scan for an unresolved spawn, in a run that nothing interrupts. It may repair the
state columns of the rows that it passes; the payloads, by which it decides, stay. -/

namespace WebSupervisor

/-- A scan goes through the spawns of a child by decreasing places. -/
def ChildSpawnAttempt.place (attempt : ChildSpawnAttempt) : Time ×ₗ String := toLex (attempt.createdAt, attempt.attemptId)

end WebSupervisor

namespace WebSupervisor.Registry.Proofs
open Library Library.Program

def spawnPayloads (db : Database) : List ChildSpawnAttempt := db.childSpawnAttempts.rows.map (·.payload)

/-- At most the state columns of the spawns differ. -/
structure SamePayloads (before after : Database) : Prop where
  shape : after = { before with childSpawnAttempts := after.childSpawnAttempts }
  payloads : spawnPayloads after = spawnPayloads before

section Payloads
variable {before middle after db : Database} {attemptId childTaskId : String} {attempt : ChildSpawnAttempt}

theorem SamePayloads.refl (db : Database) : SamePayloads db db := ⟨rfl, rfl⟩

theorem SamePayloads.trans (one : SamePayloads before middle) (two : SamePayloads middle after) :
    SamePayloads before after := ⟨by rw [two.shape, one.shape], two.payloads.trans one.payloads⟩

theorem getChildSpawnAttempt_payloads (db : Database) (attemptId : String) :
    getChildSpawnAttempt db attemptId =
      match (spawnPayloads db).find? (·.attemptId = attemptId) with
      | none => .error (.key ("unknown child spawn attempt: " ++ attemptId))
      | some attempt => .ok attempt := by
  have found : (spawnPayloads db).find? (·.attemptId = attemptId) =
      (db.childSpawnAttempts.find? attemptId).map (·.payload) := by
    rw [spawnPayloads, List.find?_map]
    rfl
  rw [getChildSpawnAttempt, found]
  cases db.childSpawnAttempts.find? attemptId <;> rfl

theorem SamePayloads.get (same : SamePayloads before after) (attemptId : String) :
    getChildSpawnAttempt after attemptId = getChildSpawnAttempt before attemptId := by
  rw [getChildSpawnAttempt_payloads, getChildSpawnAttempt_payloads, same.payloads]

/-- What a scan of some entries says of them. -/
structure Scanned (db : Database) (ids : List String) (answer : Option ChildSpawnAttempt) : Prop where
  nothing : answer = none → ∀ attemptId ∈ ids, ∀ attempt, getChildSpawnAttempt db attemptId = .ok attempt →
    ¬ attempt.state.Unresolved
  found : ∀ attempt ∈ answer, attempt.state.Unresolved ∧ ∃ earlier attemptId later, ids = earlier ++ attemptId :: later ∧
    getChildSpawnAttempt db attemptId = .ok attempt ∧
    ∀ passed ∈ earlier, ∀ other, getChildSpawnAttempt db passed = .ok other → ¬ other.state.Unresolved

private theorem Scanned.stop (read : getChildSpawnAttempt db attemptId = .ok attempt) (rest : List String)
    (unresolved : attempt.state.Unresolved) : Scanned db (attemptId :: rest) (some attempt) := by
  refine ⟨by simp, fun other same => ?_⟩
  cases Option.mem_some_iff.mp same
  exact ⟨unresolved, [], attemptId, rest, rfl, read, fun _ passed => absurd passed List.not_mem_nil⟩

private theorem Scanned.back {ids : List String} {answer : Option ChildSpawnAttempt} (same : SamePayloads before after)
    (scanned : Scanned after ids answer) : Scanned before ids answer := by
  refine ⟨fun none id member attempt read => scanned.nothing none id member attempt ((same.get id).trans read), ?_⟩
  intro attempt given
  obtain ⟨unresolved, earlier, id, later, ids, read, clear⟩ := scanned.found attempt given
  exact ⟨unresolved, earlier, id, later, ids, (same.get id).symm.trans read,
    fun passed member other got => clear passed member other ((same.get passed).trans got)⟩

end Payloads

section Solo
variable {ρ : Type} {ω : ρ → Type} {db after : Database} {trace : List (Happening Database ω)} {childTaskId : String}
  {outcome : Except SupervisorError (Option ChildSpawnAttempt)}

end Solo

end WebSupervisor.Registry.Proofs
