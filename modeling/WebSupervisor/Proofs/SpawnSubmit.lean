import WebSupervisor.Library.Authority
import WebSupervisor.Registry.ChildSpawns

/-! The authority to open a window and to send a prompt. A call that returns
normally has made the transition by its own write, as long as the attempt stays
in the state that the call has checked until that write. -/

namespace WebSupervisor.Registry.Proofs
open Library Library.Program

section Rows
variable {db after : Database} {attempt : ChildSpawnAttempt} {attemptId : String}

theorem getChildSpawnAttempt_ok (found : getChildSpawnAttempt db attemptId = .ok attempt) :
    ∃ row, db.childSpawnAttempts.find? attemptId = some row ∧ row.payload = attempt ∧ attempt.attemptId = attemptId := by
  unfold getChildSpawnAttempt at found
  split at found
  next => cases found
  next row present =>
    cases found
    exact ⟨row, present, rfl, (Table.find?_some.mp present).2⟩

/-- The row that a write leaves. -/
theorem writeSpawnRow_ok {change : ChildSpawnRow → ChildSpawnRow}
    (same : ∀ row, row.attemptId = attemptId → (change row).attemptId = attemptId)
    (written : writeSpawnRow attemptId change db = .ok ((), after)) :
    ∃ row, db.childSpawnAttempts.find? attemptId = some row ∧
      ∀ wanted, after.childSpawnAttempts.find? wanted =
        if wanted = attemptId then some (change row) else db.childSpawnAttempts.find? wanted := by
  unfold writeSpawnRow at written
  split at written
  next => cases written
  next row present =>
    split at written
    next => cases written
    next table replaced =>
      cases written
      have named : row.attemptId = attemptId := (Table.find?_some.mp present).2
      refine ⟨row, present, fun wanted => ?_⟩
      change table.toTable.find? wanted = _
      rw [IndexedTable.replace?_some replaced,
        Table.find?_replace ⟨row, (Table.find?_some.mp present).1, named.trans (same row named).symm⟩, same row named]

theorem replaceChildSpawnAttempt_ok (written : replaceChildSpawnAttempt attempt db = .ok ((), after)) (wanted : String) :
    after.childSpawnAttempts.find? wanted =
      if wanted = attempt.attemptId then some ⟨attempt.state, attempt⟩ else db.childSpawnAttempts.find? wanted := by
  have same (row : ChildSpawnRow) (_ : row.attemptId = attempt.attemptId) :
      (ChildSpawnRow.mk attempt.state attempt).attemptId = attempt.attemptId := rfl
  obtain ⟨_, _, rows⟩ := writeSpawnRow_ok same written
  exact rows wanted

end Rows

/-- The state in the payload of an attempt. -/
def spawnState (db : Database) (attemptId : String) : Option ChildSpawnAttemptState :=
  (db.childSpawnAttempts.find? attemptId).map (·.payload.state)

theorem spawnState_of_get {db : Database} {attemptId : String} {attempt : ChildSpawnAttempt}
    (found : getChildSpawnAttempt db attemptId = .ok attempt) : spawnState db attemptId = some attempt.state := by
  obtain ⟨row, present, rfl, _⟩ := getChildSpawnAttempt_ok found
  rw [spawnState, present, Option.map_some]

/-- What a record returned by one of the two calls stands for. -/
inductive SpawnAuthority where
  | openWindow (attemptId : String)
  | sendPrompt (attemptId : String)
  deriving DecidableEq

namespace SpawnAuthority

def attemptId : SpawnAuthority → String
  | .openWindow attemptId | .sendPrompt attemptId => attemptId

/-- The state in which the authority may be taken. -/
def origin : SpawnAuthority → ChildSpawnAttemptState
  | .openWindow _ => .armed
  | .sendPrompt _ => .windowBound

/-- The state that taking it leads to. -/
def target : SpawnAuthority → ChildSpawnAttemptState
  | .openWindow _ => .windowOpenSubmitted
  | .sendPrompt _ => .promptSubmitted

end SpawnAuthority

/-- The two calls that take authority, and any update beside them. -/
inductive SpawnCall where
  | submitOpen (attemptId : String) (now : Time)
  | submitPrompt (attemptId : String) (now : Time)
  | update (attemptId : String) (change : SpawnUpdate) (now : Time)

inductive SpawnReturned where
  | opened (attempt : ChildSpawnAttempt)
  | prompted (attempt : ChildSpawnAttempt) (prompt : String)
  | updated (attempt : ChildSpawnAttempt)
  deriving DecidableEq

abbrev SpawnResult := Except SupervisorError SpawnReturned

def SpawnCall.program : SpawnCall → ExceptT SupervisorError (Program Database NoAnswer) SpawnReturned
  | .submitOpen attemptId now => SpawnReturned.opened <$> submitChildSpawnOpen attemptId now
  | .submitPrompt attemptId now =>
    (fun answer => SpawnReturned.prompted answer.1 answer.2) <$> submitChildSpawnPrompt attemptId now
  | .update attemptId change now => SpawnReturned.updated <$> updateChildSpawnAttempt attemptId change now

def spawnMachine : Machine Database NoAnswer SpawnCall SpawnResult where
  body call := call.program.run

def spawning : Authority Database SpawnCall SpawnResult SpawnAuthority where
  entitled item db := spawnState db item.attemptId = some item.origin
  crosses item before after :=
    spawnState before item.attemptId = some item.origin ∧ spawnState after item.attemptId = some item.target
  wants
    | .submitOpen attemptId _ => some (.openWindow attemptId)
    | .submitPrompt attemptId _ => some (.sendPrompt attemptId)
    | .update .. => none
  earns
    | .ok (.opened attempt) => some (.openWindow attempt.attemptId)
    | .ok (.prompted attempt _) => some (.sendPrompt attempt.attemptId)
    | .ok (.updated _) | .error _ => none

section Certificate
variable {pid : Nat} {call : SpawnCall} {item : SpawnAuthority}

private theorem spawning_still (item : SpawnAuthority) (db : Database) : spawning.crosses item db db = false := by
  apply decide_eq_false
  rintro ⟨origin, target⟩
  rw [origin] at target
  cases item <;> cases target

private theorem spawning_refl (shared : Shared Database NoAnswer SpawnResult) :
    spawning.contract.rely pid call shared shared :=
  Authority.staysEntitled_refl pid call shared

/-- What is known of a call that has its answer. -/
private def Took (pid : Nat) (item : SpawnAuthority) (result : Except SupervisorError ChildSpawnAttempt)
    (now : Shared Database NoAnswer SpawnResult) : Prop :=
  ∀ attempt, result = .ok attempt → attempt.attemptId = item.attemptId ∧ spawning.Crossed pid item now.log

private theorem took_stable (result : Except SupervisorError ChildSpawnAttempt) :
    spawning.contract.Stable pid call (Took pid item result) :=
  .forall (fun _ => .imp (Contract.stable_const.and Authority.stable_crossed))

private theorem took_error (error : SupervisorError) (now : Shared Database NoAnswer SpawnResult) :
    Took pid item (.error error) now := by
  intro attempt same
  cases same

private theorem ensure_ready {ε β : Type} {result : Except ε β} (wants : spawning.wants call = some item) :
    spawning.contract.Triple pid call (spawning.Ready (ω := NoAnswer) pid item) (ensure result)
      (fun _ now => spawning.Ready pid item now) :=
  .ensure (Authority.stable_ready wants) (fun _ _ ready => ready)

private theorem update_triple (wants : spawning.wants call = some item) (now : Time) :
    spawning.contract.Triple pid call (spawning.Ready (ω := NoAnswer) pid item)
      (updateChildSpawnAttempt item.attemptId { state := item.target } now) (Took pid item) := by
  refine .bind spawning_refl (Authority.later_read (spawning_still item) wants) (fun attempt => ?_)
    (fun _ => took_stable _) (fun error now _ _ => took_error error now)
  have named : spawning.contract.Triple pid call
      (fun seen : Shared Database NoAnswer SpawnResult => spawning.Ready pid item seen ∧ ∃ store,
        spawning.entitled item store ∧ getChildSpawnAttempt store item.attemptId = .ok attempt)
      (ensure (requireAllowedSpawn attempt item.target))
      (fun _ seen => spawning.Ready pid item seen ∧ attempt.attemptId = item.attemptId) := by
    refine .ensure ((Authority.stable_ready wants).and Contract.stable_const) ?_
    rintro seen _ ⟨ready, store, _, found⟩
    obtain ⟨_, _, _, named⟩ := getChildSpawnAttempt_ok found
    exact ⟨ready, named⟩
  refine .bind spawning_refl named (fun _ => ?_) (fun _ => took_stable _) (fun error now _ _ => took_error error now)
  intro seen valid held
  have same : attempt.attemptId = item.attemptId := held.2
  refine Contract.Triple.bind spawning_refl (Authority.write wants ?_) (fun _ => ?_) (fun _ => took_stable _)
    (fun error now _ _ => took_error error now) seen valid held.1
  · intro store value after entitled written
    have target : spawnState after item.attemptId = some item.target := by
      rw [spawnState, replaceChildSpawnAttempt_ok written]
      simp [updatedSpawn, same]
    exact decide_eq_true ⟨entitled, target⟩
  · refine Authority.crossed_read.weaken (fun _ _ crossed => crossed () rfl) ?_
    rintro result last _ ⟨crossed, store, found⟩ returned rfl
    obtain ⟨_, _, _, own⟩ := getChildSpawnAttempt_ok found
    exact ⟨own, crossed⟩

private theorem submit_triple {β : Type} {error : SupervisorError} {post : Except SupervisorError β →
      Shared Database NoAnswer SpawnResult → Prop}
    {rest : ChildSpawnAttempt → ExceptT SupervisorError (Program Database NoAnswer) β}
    (wants : spawning.wants call = some item) (stable : ∀ result, spawning.contract.Stable pid call (post result))
    (raised : ∀ error now, post (.error error) now)
    (next : ∀ attempt, spawning.contract.Triple pid call (spawning.Ready (ω := NoAnswer) pid item) (rest attempt) post) :
    spawning.contract.Triple pid call (fun now => ¬ spawning.Crossed pid item now.log)
      (do
        let attempt ← check (fun db => getChildSpawnAttempt db item.attemptId)
        ensure (refuse (attempt.state ≠ item.origin) error)
        rest attempt) post := by
  refine .bind spawning_refl (Authority.first_read (spawning_still item) wants) (fun attempt => ?_) (fun _ => stable _)
    (fun error now _ _ => raised error now)
  have checked : spawning.contract.Triple pid call
      (fun now : Shared Database NoAnswer SpawnResult => ¬ spawning.Crossed pid item now.log ∧
        ((∀ store, getChildSpawnAttempt store item.attemptId = .ok attempt → spawning.entitled item store) →
          spawning.Ready pid item now))
      (ensure (refuse (attempt.state ≠ item.origin) error))
      (fun result now => ∀ value, result = .ok value → spawning.Ready pid item now) := by
    refine .ensure (.forall (fun _ => .imp (Authority.stable_ready wants))) ?_
    rintro now _ ⟨_, ready⟩ value passed
    rw [refuse_eq_ok, not_not] at passed
    refine ready (fun store found => ?_)
    exact (spawnState_of_get found).trans (congrArg some passed)
  refine .bind spawning_refl checked (fun _ => ?_) (fun _ => stable _) (fun error now _ _ => raised error now)
  exact (next attempt).weaken (fun _ _ ready => ready () rfl) (fun _ _ _ held => held)

private theorem prompt_triple (attemptId : String) (now : Time)
    (wants : spawning.wants call = some (.sendPrompt attemptId)) :
    spawning.contract.Triple pid call
      (fun seen => ¬ spawning.Crossed (ω := NoAnswer) pid (.sendPrompt attemptId) seen.log)
      (submitChildSpawnPrompt attemptId now)
      (fun result => Took pid (.sendPrompt attemptId) (result.map Prod.fst)) := by
  have raised (error : SupervisorError) (seen : Shared Database NoAnswer SpawnResult) :
      Took pid (.sendPrompt attemptId) ((Except.error error : Except _ (ChildSpawnAttempt × String)).map Prod.fst) seen :=
    took_error error seen
  refine submit_triple wants (fun _ => took_stable _) raised (fun attempt => ?_)
  refine .bind spawning_refl (Authority.later_read (spawning_still _) wants) (fun dispatch => ?_) (fun _ => took_stable _)
    (fun error seen _ _ => raised error seen)
  refine .bind spawning_refl ((ensure_ready wants).weaken (fun _ _ held => held.1) (fun _ _ _ held => held))
    (fun _ => ?_) (fun _ => took_stable _) (fun error seen _ _ => raised error seen)
  refine .bind spawning_refl (update_triple wants now) (fun submitted => ?_) (fun _ => took_stable _)
    (fun error seen _ _ => raised error seen)
  exact .pure (took_stable _) (fun _ _ took => took)

private theorem open_triple (attemptId : String) (now : Time)
    (wants : spawning.wants call = some (.openWindow attemptId)) :
    spawning.contract.Triple pid call
      (fun seen => ¬ spawning.Crossed (ω := NoAnswer) pid (.openWindow attemptId) seen.log)
      (submitChildSpawnOpen attemptId now) (Took pid (.openWindow attemptId)) :=
  submit_triple wants (fun _ => took_stable _) took_error (fun _ => update_triple wants now)

/-- Authority is answered by a call that has crossed. -/
private def Answers (pid : Nat) (result : SpawnResult) (now : Shared Database NoAnswer SpawnResult) : Prop :=
  ∀ item, spawning.earns result = some item → spawning.Crossed pid item now.log

private theorem answers_stable (result : SpawnResult) : spawning.contract.Stable pid call (Answers pid result) :=
  .forall (fun _ => .imp Authority.stable_crossed)

theorem spawning_certifies : spawning.contract.Certifies spawnMachine := by
  intro pid call seen earned fresh
  have final (answers : spawning.contract.Safe pid call (Answers pid) call.program.run seen) :
      spawning.contract.CertifiedPhase pid call seen (.running (spawnMachine.body call)) :=
    answers.weaken (fun _ _ valid crossed => Authority.returns valid crossed)
  apply final
  cases call with
  | submitOpen attemptId now =>
    have triple : spawning.contract.Triple pid (.submitOpen attemptId now)
        (fun seen => ¬ spawning.Crossed (ω := NoAnswer) pid (.openWindow attemptId) seen.log)
        (submitChildSpawnOpen attemptId now) (fun result => Answers pid (result.map .opened)) := by
      refine (open_triple attemptId now rfl).weaken (fun _ _ held => held) (fun result last _ took item earns => ?_)
      cases result with
      | error error => cases earns
      | ok attempt =>
        cases earns
        obtain ⟨named, crossed⟩ := took attempt rfl
        rw [named]
        exact crossed
    exact Contract.Triple.map spawning_refl triple answers_stable seen earned (Authority.fresh_start fresh)
  | submitPrompt attemptId now =>
    have triple : spawning.contract.Triple pid (.submitPrompt attemptId now)
        (fun seen => ¬ spawning.Crossed (ω := NoAnswer) pid (.sendPrompt attemptId) seen.log)
        (submitChildSpawnPrompt attemptId now)
        (fun result => Answers pid (result.map (fun answer => .prompted answer.1 answer.2))) := by
      refine (prompt_triple attemptId now rfl).weaken (fun _ _ held => held) (fun result last _ took item earns => ?_)
      cases result with
      | error error => cases earns
      | ok answer =>
        cases earns
        obtain ⟨named, crossed⟩ := took answer.1 rfl
        rw [named]
        exact crossed
    exact Contract.Triple.map spawning_refl triple answers_stable seen earned (Authority.fresh_start fresh)
  | update attemptId change now =>
    have triple : spawning.contract.Triple pid (.update attemptId change now) (fun _ => True)
        (updateChildSpawnAttempt (ω := NoAnswer) attemptId change now)
        (fun result => Answers pid (result.map .updated)) := by
      intro first valid _
      refine (Authority.safe_free _ first).weaken (fun result last _ _ item earns => ?_)
      cases result <;> cases earns
    exact Contract.Triple.map spawning_refl triple answers_stable seen earned trivial

end Certificate

/-- In every run of submits and updates in which an attempt stays in the state
that a submit has read until that call's write, no more calls return the
authority to open a window, or to send the prompt, than there are transitions
from ARMED to WINDOW_OPEN_SUBMITTED, or from WINDOW_BOUND to PROMPT_SUBMITTED. -/
theorem spawn_authority_once (start : Database) (moves : List (Move NoAnswer SpawnCall))
    (undisturbed : UndisturbedRun spawning.StaysEntitled spawnMachine { store := start, log := [] } moves)
    (item : SpawnAuthority) :
    let log := (run spawnMachine.move { store := start, log := [] } moves).log
    log.countP (spawning.granting item) ≤ log.countP (spawning.crossing item) :=
  Authority.run_granting_le spawning_certifies start moves undisturbed item

/-- One attempt in the given state, and the dispatch of its child. -/
def oneSpawn (state : ChildSpawnAttemptState) : Database :=
  { childDispatches :=
      ⟨[{ dispatchId := "dispatch", parentTaskId := "parent", childTaskId := "child", childKey := "key",
          promptText := "prompt", promptSha256 := "hash", expectedBranch := none, baseRef := none,
          webProjectUrl := none, createdAt := 0, updatedAt := 0 }], by simp⟩
    childSpawnAttempts :=
      ⟨⟨[{ state, payload :=
            { attemptId := "spawn_1", childTaskId := "child", state, ownerToken := "owner", projectUrl := "",
              projectId := "", taggedProjectUrl := "", promptSha256 := "hash", chromeExecutable := "chrome",
              createdAt := 0, updatedAt := 0 } }], by simp⟩, by simp⟩ }

/-- One call takes the authority and the next one is refused. -/
theorem spawn_authority_once_second :
    let moves : List (Move NoAnswer SpawnCall) :=
      [.start (.submitOpen "spawn_1" 5), .step 0, .step 0, .step 0, .step 0, .step 0,
       .start (.submitOpen "spawn_1" 6), .step 1, .step 1]
    let log := (run spawnMachine.move { store := oneSpawn .armed, log := [] } moves).log
    log.countP (spawning.granting (.openWindow "spawn_1")) = 1 ∧
      log.countP (spawning.granting (.openWindow "spawn_1")) ≤ log.countP (spawning.crossing (.openWindow "spawn_1")) := by
  refine ⟨by decide +kernel, spawn_authority_once (oneSpawn .armed) _ ?_ _⟩
  refine ⟨trivial, ?_, ?_, ?_, ?_, ?_, trivial, ?_, ?_, trivial⟩ <;>
    exact fun process found _ item _ _ _ entitled => by
      cases found
      exact entitled

/-- Two calls read the armed attempt, and two calls the bound one. Both of each
pair write the same transition and return, although the state changes once. -/
theorem spawn_authority_once_fails :
    (let moves : List (Move NoAnswer SpawnCall) :=
        [.start (.submitOpen "spawn_1" 5), .start (.submitOpen "spawn_1" 6), .step 0, .step 1,
         .step 0, .step 0, .step 0, .step 0, .step 1, .step 1, .step 1, .step 1]
      let log := (run spawnMachine.move { store := oneSpawn .armed, log := [] } moves).log
      log.countP (spawning.granting (.openWindow "spawn_1")) = 2 ∧
        log.countP (spawning.crossing (.openWindow "spawn_1")) = 1) ∧
    let moves : List (Move NoAnswer SpawnCall) :=
        [.start (.submitPrompt "spawn_1" 5), .start (.submitPrompt "spawn_1" 6), .step 0, .step 1,
         .step 0, .step 0, .step 0, .step 0, .step 0, .step 1, .step 1, .step 1, .step 1, .step 1]
    let log := (run spawnMachine.move { store := oneSpawn .windowBound, log := [] } moves).log
    log.countP (spawning.granting (.sendPrompt "spawn_1")) = 2 ∧
      log.countP (spawning.crossing (.sendPrompt "spawn_1")) = 1 := by
  refine ⟨⟨by decide +kernel, by decide +kernel⟩, by decide +kernel, by decide +kernel⟩

end WebSupervisor.Registry.Proofs
