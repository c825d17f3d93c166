import WebSupervisor.Library.Triple
import WebSupervisor.Library.History
import WebSupervisor.Proofs.SpawnSubmit

/-! Spawn records under writers that each hold a copy. A write that finds the
payload it was computed from follows the table of allowed states, keeps all
metadata keys and leaves the state column in agreement with the payload. -/

namespace WebSupervisor.Registry.Proofs
open Library Library.Program

section Keys
variable {metadata other : Metadata} {key : String}

def HasKey (metadata : Metadata) (key : String) : Prop := ∃ entry ∈ metadata, entry.1 = key

theorem HasKey.set (name : String) (value : MetadataValue) :
    HasKey (metadata.set name value) key ↔ HasKey metadata key ∨ key = name := by
  unfold Metadata.set
  split
  next present =>
    rw [List.any_eq_true] at present
    obtain ⟨held, member, same⟩ := present
    have named : held.1 = name := by simpa using same
    constructor
    · rintro ⟨entry, inside, rfl⟩
      obtain ⟨old, oldMember, rfl⟩ := List.mem_map.mp inside
      by_cases own : old.1 = name
      · exact Or.inr (by simp [own])
      · exact Or.inl ⟨old, oldMember, by simp [own]⟩
    · rintro (⟨entry, inside, rfl⟩ | rfl)
      · by_cases own : entry.1 = name
        · exact ⟨_, List.mem_map_of_mem member, by simp [named, own]⟩
        · exact ⟨_, List.mem_map_of_mem inside, by simp [own]⟩
      · exact ⟨_, List.mem_map_of_mem member, by simp [named]⟩
  next =>
    constructor
    · rintro ⟨entry, inside, rfl⟩
      rcases List.mem_append.mp inside with old | new
      · exact Or.inl ⟨entry, old, rfl⟩
      · exact Or.inr (by rw [List.mem_singleton.mp new])
    · rintro (⟨entry, inside, rfl⟩ | rfl)
      · exact ⟨entry, List.mem_append_left _ inside, rfl⟩
      · exact ⟨(key, value), by simp, rfl⟩

theorem HasKey.update : HasKey (metadata.update other) key ↔ HasKey metadata key ∨ HasKey other key := by
  unfold Metadata.update
  induction other generalizing metadata with
  | nil => simp [HasKey]
  | cons entry other ih =>
    rw [List.foldl_cons, ih, HasKey.set, or_assoc]
    refine or_congr_right ?_
    constructor
    · rintro (rfl | ⟨found, member, same⟩)
      · exact ⟨entry, List.mem_cons_self .., rfl⟩
      · exact ⟨found, List.mem_cons_of_mem _ member, same⟩
    · rintro ⟨found, member, same⟩
      rcases List.mem_cons.mp member with rfl | inside
      · exact Or.inl same.symm
      · exact Or.inr ⟨found, inside, same⟩

end Keys

/-- The calls that write spawn records. -/
inductive SpawnWriter where
  | record (attempt : ChildSpawnAttempt)
  | annotate (attemptId : String) (updates : Metadata) (now : Time)
  | unresolved (childTaskId : String)
  | update (attemptId : String) (change : SpawnUpdate) (now : Time)

/-- What a completed call returned, and the metadata that it was given. -/
structure SpawnNote where
  attempt : Option ChildSpawnAttempt
  updates : Metadata := []
  deriving DecidableEq

abbrev SpawnNoted := Except SupervisorError SpawnNote

abbrev SpawnShared := Shared Database NoAnswer SpawnNoted

def SpawnWriter.program : SpawnWriter → ExceptT SupervisorError (Program Database NoAnswer) SpawnNote
  | .record attempt => (fun found => { attempt := some found }) <$> recordChildSpawnAttempt attempt
  | .annotate attemptId updates now =>
    (fun found => { attempt := some found, updates }) <$> annotateChildSpawnAttempt attemptId updates now
  | .unresolved childTaskId => (fun found => { attempt := found }) <$> unresolvedChildSpawnAttempt childTaskId
  | .update attemptId change now =>
    (fun found => { attempt := some found, updates := change.metadataUpdates }) <$>
      updateChildSpawnAttempt attemptId change now

def writerMachine : Machine Database NoAnswer SpawnWriter SpawnNoted where
  body call := call.program.run

/-- The payload that the last step of a process has found. -/
def lastPayload (pid : Nat) (attemptId : String) (log : List (Event Database NoAnswer SpawnNoted)) :
    Option ChildSpawnAttempt :=
  match log.find? (·.pid == pid) with
  | some (.committed _ _ left) => (left.childSpawnAttempts.find? attemptId).map (·.payload)
  | _ => none

/-- A commit that changes the row of an attempt finds the payload that the last
step of its process has found. -/
def WriteFresh : Event Database NoAnswer SpawnNoted → List (Event Database NoAnswer SpawnNoted) → Prop
  | .committed pid before after, older => ∀ row ∈ before.childSpawnAttempts.rows,
    after.childSpawnAttempts.find? row.attemptId ≠ some row → lastPayload pid row.attemptId older = some row.payload
  | _, _ => True

instance decidableWriteFresh : ∀ event older, Decidable (WriteFresh event older)
  | .committed pid before after, older => inferInstanceAs (Decidable (∀ row ∈ before.childSpawnAttempts.rows,
    after.childSpawnAttempts.find? row.attemptId ≠ some row → lastPayload pid row.attemptId older = some row.payload))
  | .issued .., _ | .answered .., _ | .returned .., _ => .isTrue trivial

/-- The state column agrees with the payload. -/
def Agrees (db : Database) : Prop :=
  ∀ attemptId row, db.childSpawnAttempts.find? attemptId = some row → row.state = row.payload.state

/-- What may become of a row. -/
structure Regular (row next : ChildSpawnRow) : Prop where
  state : next.payload.state = row.payload.state ∨ next.payload.state ∈ ChildSpawnAttemptState.allowed row.payload.state
  keys : ∀ key, HasKey row.payload.metadata key → HasKey next.payload.metadata key

theorem Regular.refl (row : ChildSpawnRow) : Regular row row := ⟨Or.inl rfl, fun _ held => held⟩

def Sane (before after : Database) : Prop :=
  ∀ attemptId row, before.childSpawnAttempts.find? attemptId = some row →
    ∃ next, after.childSpawnAttempts.find? attemptId = some next ∧ Regular row next

theorem Sane.refl (db : Database) : Sane db db := fun _ row found => ⟨row, found, .refl row⟩

def KeyStored (db : Database) (attemptId key : String) : Prop :=
  ∃ row, db.childSpawnAttempts.find? attemptId = some row ∧ HasKey row.payload.metadata key

structure Faithful (shared : SpawnShared) : Prop where
  agrees : Agrees shared.store
  sane : ∀ pid before after, .committed pid before after ∈ shared.log → Sane before after
  kept : ∀ pid attempt updates, .returned pid (.ok ⟨some attempt, updates⟩) ∈ shared.log →
    ∀ key, HasKey updates key → KeyStored shared.store attempt.attemptId key

structure SpawnHistory (start : Database) (shared : SpawnShared) : Prop where
  linked : Linked start shared.log shared.store
  faithful : Justified WriteFresh shared.log → Faithful shared

/-- Processes rely on nothing. -/
def recording (start : Database) : Contract Database NoAnswer SpawnWriter SpawnNoted where
  valid := SpawnHistory start
  rely _ _ _ _ := True
  guarantee _ _ _ _ := True

section Steps
variable {start : Database} {pid : Nat} {call : SpawnWriter} {now seen : SpawnShared}

private theorem KeyStored.sane {before after : Database} {attemptId key : String}
    (stored : KeyStored before attemptId key) (sane : Sane before after) : KeyStored after attemptId key := by
  obtain ⟨row, found, held⟩ := stored
  obtain ⟨next, present, regular⟩ := sane attemptId row found
  exact ⟨next, present, regular.keys key held⟩

private theorem keeps_commit {after : Database} (history : SpawnHistory start now)
    (step : Justified WriteFresh (now.became pid after).log → Agrees now.store → Sane now.store after ∧ Agrees after) :
    Keeps (recording start).valid ((recording start).guarantee pid call) now (now.became pid after) := by
  refine ⟨⟨history.linked.became pid after, fun fresh => ?_⟩, trivial⟩
  have earlier := history.faithful (Justified.cons_iff.mp fresh).2
  obtain ⟨sane, agrees⟩ := step fresh earlier.agrees
  refine ⟨agrees, fun other before left member => ?_, fun other attempt updates member key held => ?_⟩
  · rcases List.mem_cons.mp member with same | old
    · cases same
      exact sane
    · exact earlier.sane other before left old
  · rcases List.mem_cons.mp member with same | old
    · cases same
    · exact (earlier.kept other attempt updates old key held).sane sane

private theorem keeps_read (history : SpawnHistory start now) :
    Keeps (recording start).valid ((recording start).guarantee pid call) now (now.became pid now.store) :=
  keeps_commit history (fun _ agrees => ⟨.refl _, agrees⟩)

/-- The keys of a call's updates are stored. -/
private def Noted (result : SpawnNoted) (now : SpawnShared) : Prop :=
  Justified WriteFresh now.log → ∀ attempt updates, result = .ok ⟨some attempt, updates⟩ →
    ∀ key, HasKey updates key → KeyStored now.store attempt.attemptId key

private theorem returns_noted (history : SpawnHistory start now) {result : SpawnNoted} (noted : Noted result now) :
    (recording start).Returns pid call result now := by
  refine ⟨⟨history.linked, fun fresh => ?_⟩, trivial⟩
  have earlier := history.faithful (Justified.cons_iff.mp fresh).2
  refine ⟨earlier.agrees, fun other before left member => ?_, fun other attempt updates member key held => ?_⟩
  · rcases List.mem_cons.mp member with same | old
    · cases same
    · exact earlier.sane other before left old
  · rcases List.mem_cons.mp member with same | old
    · cases same
      exact noted (Justified.cons_iff.mp fresh).2 attempt updates rfl key held
    · exact earlier.kept other attempt updates old key held

private theorem stable_key {attemptId key : String} : (recording start).Stable pid call (fun now =>
    Justified WriteFresh now.log → KeyStored now.store attemptId key) := by
  intro seen now earlier later found stored fresh
  obtain ⟨newer, same⟩ := found.1.log
  have linked := later.linked
  rw [← same] at linked
  have before := stored (Justified.of_append (same ▸ fresh))
  refine @Linked.stays _ _ _ _ _ _ _ (fun db => KeyStored db attemptId key) (earlier.linked.resume linked) before ?_
  intro other first last member held
  exact held.sane ((later.faithful fresh).sane other first last (same ▸ List.mem_append_left _ member))

/-- The last step of the process has found the attempt. -/
private def LastRead (pid : Nat) (attemptId : String) (attempt : ChildSpawnAttempt) (now : SpawnShared) : Prop :=
  ∃ found left, now.log.find? (·.pid == pid) = some (.committed pid found left) ∧
    getChildSpawnAttempt left attemptId = .ok attempt

private theorem stable_lastRead {attemptId : String} {attempt : ChildSpawnAttempt} :
    (recording start).Stable pid call (LastRead pid attemptId attempt) := by
  rintro seen now _ _ found ⟨first, left, last, read⟩
  obtain ⟨newer, same, others⟩ := found.1.newer
  refine ⟨first, left, ?_, read⟩
  rw [same, List.find?_append]
  have none : newer.find? (·.pid == pid) = none := by
    rw [List.find?_eq_none]
    exact fun event member => by simpa using others event member
  rw [none, Option.none_or]
  exact last

private theorem lastRead_became {attemptId : String} {attempt : ChildSpawnAttempt}
    (found : getChildSpawnAttempt now.store attemptId = .ok attempt) :
    LastRead pid attemptId attempt (now.became pid now.store) :=
  ⟨now.store, now.store, by simp [Shared.became], found⟩

private theorem fresh_payload {after : Database} {attemptId : String} {attempt : ChildSpawnAttempt} {row : ChildSpawnRow}
    (read : LastRead pid attemptId attempt now) (fresh : Justified WriteFresh (now.became pid after).log)
    (present : now.store.childSpawnAttempts.find? attemptId = some row)
    (changed : after.childSpawnAttempts.find? attemptId ≠ some row) : row.payload = attempt := by
  obtain ⟨first, left, last, found⟩ := read
  obtain ⟨member, rfl⟩ := Table.find?_some.mp present
  have same := fresh [] (.committed pid now.store after) now.log rfl row member changed
  obtain ⟨held, heldRow, rfl, _⟩ := getChildSpawnAttempt_ok found
  rw [lastPayload, last] at same
  simp only [ChildSpawnRow.attemptId] at heldRow same
  rw [heldRow] at same
  exact (Option.some.inj same).symm

private theorem unchanged {before after : Database} (agrees : Agrees before)
    (rows : ∀ wanted, after.childSpawnAttempts.find? wanted = before.childSpawnAttempts.find? wanted) :
    Sane before after ∧ Agrees after := by
  refine ⟨fun attemptId row found => ⟨row, (rows attemptId).trans found, .refl row⟩, fun attemptId row found => ?_⟩
  exact agrees attemptId row ((rows attemptId).symm.trans found)

private theorem keeps_write {change : ChildSpawnRow → ChildSpawnRow} {after : Database} {attemptId : String}
    {attempt : ChildSpawnAttempt} (history : SpawnHistory start now) (read : LastRead pid attemptId attempt now)
    (named : ∀ row, row.attemptId = attemptId → (change row).attemptId = attemptId)
    (regular : ∀ row, row.payload = attempt → row.state = attempt.state →
      Regular row (change row) ∧ (change row).state = (change row).payload.state)
    (written : writeSpawnRow attemptId change now.store = .ok ((), after)) :
    Keeps (recording start).valid ((recording start).guarantee pid call) now (now.became pid after) := by
  obtain ⟨row, present, rows⟩ := writeSpawnRow_ok named written
  refine keeps_commit history (fun fresh agrees => ?_)
  have own : after.childSpawnAttempts.find? attemptId = some (change row) := by rw [rows, if_pos rfl]
  by_cases same : change row = row
  · refine unchanged agrees (fun wanted => ?_)
    rw [rows]
    split
    next here => rw [here, present, same]
    next => rfl
  · have payload : row.payload = attempt :=
      fresh_payload read fresh present (fun held => same (Option.some.inj (own.symm.trans held)))
    obtain ⟨next, agreed⟩ := regular row payload (payload ▸ agrees attemptId row present)
    constructor
    · intro other held found
      by_cases here : other = attemptId
      · subst here
        cases present.symm.trans found
        exact ⟨change row, own, next⟩
      · exact ⟨held, by rw [rows, if_neg here, found], .refl held⟩
    · intro other held found
      rw [rows] at found
      split at found
      next =>
        cases found
        exact agreed
      next => exact agrees other held found

/-- Rows change at most in their state column, which is then the payload's. -/
private def Repaired (before after : Database) : Prop :=
  ∀ wanted, after.childSpawnAttempts.find? wanted = before.childSpawnAttempts.find? wanted ∨
    ∃ row, before.childSpawnAttempts.find? wanted = some row ∧
      after.childSpawnAttempts.find? wanted = some { row with state := row.payload.state }

private theorem Repaired.trans {first second third : Database} (one : Repaired first second)
    (two : Repaired second third) : Repaired first third := by
  intro wanted
  rcases two wanted with same | ⟨row, found, repaired⟩
  · rcases one wanted with before | ⟨row, found, repaired⟩
    · exact Or.inl (same.trans before)
    · exact Or.inr ⟨row, found, same.trans repaired⟩
  · rcases one wanted with before | ⟨old, oldFound, earlier⟩
    · exact Or.inr ⟨row, before.symm.trans found, repaired⟩
    · cases earlier.symm.trans found
      exact Or.inr ⟨old, oldFound, repaired⟩

private theorem Repaired.unchanged {before after : Database} (repaired : Repaired before after) {wanted : String}
    (agrees : ∀ row, before.childSpawnAttempts.find? wanted = some row → row.state = row.payload.state) :
    after.childSpawnAttempts.find? wanted = before.childSpawnAttempts.find? wanted := by
  rcases repaired wanted with same | ⟨row, found, changed⟩
  · exact same
  · rw [changed, found, ← agrees row found]

private theorem repairSpawnState_rows {attempt : ChildSpawnAttempt} {before after : Database}
    (written : repairSpawnState attempt before = .ok ((), after)) :
    ∃ row, before.childSpawnAttempts.find? attempt.attemptId = some row ∧
      ∀ wanted, after.childSpawnAttempts.find? wanted =
        if wanted = attempt.attemptId then some { row with state := attempt.state }
        else before.childSpawnAttempts.find? wanted :=
  writeSpawnRow_ok (fun _ named => named) written

private theorem repairingScan_repairs {rest : List (String × ChildSpawnAttemptState)} {before after : Database}
    {answer : Option ChildSpawnAttempt} (scanned : repairingScan rest before = .ok (answer, after)) :
    Repaired before after := by
  induction rest generalizing before with
  | nil =>
    cases scanned
    exact fun wanted => Or.inl rfl
  | cons entry rest ih =>
    simp only [repairingScan, bind_eq_ok] at scanned
    obtain ⟨attempt, found, scanned⟩ := scanned
    have rest {middle : Database} (first : Repaired before middle)
        (goes : (if attempt.state.Unresolved then .ok (some attempt, middle) else repairingScan rest middle) =
          (.ok (answer, after) : Except SupervisorError (Option ChildSpawnAttempt × Database))) :
        Repaired before after := by
      split at goes
      next =>
        cases goes
        exact first
      next => exact first.trans (ih goes)
    split at scanned
    next =>
      obtain ⟨⟨_, middle⟩, written, scanned⟩ := (bind_eq_ok ..).mp scanned
      obtain ⟨row, present, rows⟩ := repairSpawnState_rows written
      obtain ⟨held, heldFound, payload, named⟩ := getChildSpawnAttempt_ok found
      rw [← named, present] at heldFound
      cases heldFound
      refine rest (fun wanted => ?_) scanned
      rw [rows]
      split
      next here => exact Or.inr ⟨row, by rw [here, present], by rw [payload]⟩
      next => exact Or.inl rfl
    next => exact rest (fun wanted => Or.inl rfl) scanned

private theorem keeps_repair {rest : List (String × ChildSpawnAttemptState)} {after : Database}
    {attempt : ChildSpawnAttempt} {answer : Option ChildSpawnAttempt} (history : SpawnHistory start now)
    (read : LastRead pid attempt.attemptId attempt now)
    (scanned : repairAndScan attempt rest now.store = .ok (answer, after)) :
    Keeps (recording start).valid ((recording start).guarantee pid call) now (now.became pid after) := by
  simp only [repairAndScan, bind_eq_ok] at scanned
  obtain ⟨⟨_, middle⟩, written, scanned⟩ := scanned
  obtain ⟨row, present, rows⟩ := repairSpawnState_rows written
  have repaired : Repaired middle after := by
    split at scanned
    next =>
      cases scanned
      exact fun wanted => Or.inl rfl
    next => exact repairingScan_repairs scanned
  refine keeps_commit history (fun fresh agrees => unchanged agrees (fun wanted => ?_))
  by_cases here : wanted = attempt.attemptId
  · have own : middle.childSpawnAttempts.find? wanted = some { row with state := attempt.state } := by
      rw [rows, if_pos here]
    have agreed : row.state = row.payload.state := agrees _ row present
    by_contra changed
    rw [here, present] at changed
    have payload := fresh_payload read fresh present changed
    rw [payload] at agreed
    refine changed ?_
    rw [← here, repaired.unchanged (fun held found => ?_), own, ← agreed]
    cases own.symm.trans found
    rw [payload]
  · have other : middle.childSpawnAttempts.find? wanted = now.store.childSpawnAttempts.find? wanted := by
      rw [rows, if_neg here]
    rw [← other]
    exact repaired.unchanged (fun held found => agrees wanted held (other.symm.trans found))

end Steps

section Calls
variable {start : Database} {pid : Nat} {call : SpawnWriter}

private theorem recording_refl (shared : SpawnShared) : (recording start).rely pid call shared shared := trivial

private theorem stable_true : (recording start).Stable pid call (fun _ => True) := Contract.stable_const

private theorem read_triple {ε β : Type} (view : Database → Except ε β) :
    (recording start).Triple pid call (fun _ => True) (check view) (fun _ _ => True) :=
  .check stable_true (fun _ => stable_true) (fun _ history _ => ⟨keeps_read history, trivial⟩)

private def ReadAs (pid : Nat) (attemptId : String) (result : Except SupervisorError ChildSpawnAttempt)
    (now : SpawnShared) : Prop :=
  ∀ attempt, result = .ok attempt → LastRead pid attemptId attempt now ∧ attempt.attemptId = attemptId

private theorem stable_readAs {attemptId : String} (result : Except SupervisorError ChildSpawnAttempt) :
    (recording start).Stable pid call (ReadAs pid attemptId result) :=
  .forall (fun _ => .imp (stable_lastRead.and Contract.stable_const))

private theorem get_triple (attemptId : String) :
    (recording start).Triple pid call (fun _ => True) (check (fun db => getChildSpawnAttempt db attemptId))
      (ReadAs pid attemptId) := by
  refine .check stable_true stable_readAs (fun now history _ => ⟨keeps_read history, fun attempt found => ?_⟩)
  obtain ⟨_, _, _, named⟩ := getChildSpawnAttempt_ok found
  exact ⟨lastRead_became found, named⟩

/-- The keys of the updates are stored with the attempt. -/
private def Stored (updates : Metadata) (attemptId : String) (now : SpawnShared) : Prop :=
  ∀ key, HasKey updates key → Justified WriteFresh now.log → KeyStored now.store attemptId key

private theorem stable_stored {updates : Metadata} {attemptId : String} :
    (recording start).Stable pid call (Stored updates attemptId) :=
  .forall (fun _ => .imp stable_key)

private theorem rewrite_triple {change : ChildSpawnRow → ChildSpawnRow} {attemptId : String} {attempt : ChildSpawnAttempt}
    {updates : Metadata} (named : ∀ row, row.attemptId = attemptId → (change row).attemptId = attemptId)
    (regular : ∀ row, row.payload = attempt → row.state = attempt.state →
      Regular row (change row) ∧ (change row).state = (change row).payload.state)
    (keys : ∀ row key, HasKey updates key → HasKey (change row).payload.metadata key) :
    (recording start).Triple pid call (LastRead pid attemptId attempt) (transaction (writeSpawnRow attemptId change))
      (fun result now => ∀ value, result = .ok value → Stored updates attemptId now) := by
  refine .transaction stable_lastRead (fun _ => .forall (fun _ => .imp stable_stored)) ?_ ?_
  · intro now value after history read written
    refine ⟨keeps_write history read named regular written, fun _ _ key held _ => ?_⟩
    obtain ⟨row, _, rows⟩ := writeSpawnRow_ok named written
    refine ⟨change row, ?_, keys row key held⟩
    rw [Shared.became_store, rows, if_pos rfl]
  · intro now error history _ _
    refine ⟨keeps_read history, fun value same => ?_⟩
    cases same

/-- The attempt that is read back has the keys. -/
private def Kept (updates : Metadata) (result : Except SupervisorError ChildSpawnAttempt) (now : SpawnShared) : Prop :=
  ∀ attempt, result = .ok attempt → Stored updates attempt.attemptId now

private theorem stable_kept {updates : Metadata} (result : Except SupervisorError ChildSpawnAttempt) :
    (recording start).Stable pid call (Kept updates result) :=
  .forall (fun _ => .imp stable_stored)

private theorem kept_error {updates : Metadata} (error : SupervisorError) (now : SpawnShared) :
    Kept updates (.error error) now := by
  intro attempt same
  cases same

private theorem back_triple {updates : Metadata} {attemptId : String} :
    (recording start).Triple pid call (Stored updates attemptId) (check (fun db => getChildSpawnAttempt db attemptId))
      (Kept updates) := by
  refine .check stable_stored stable_kept (fun now history stored => ⟨keeps_read history, fun attempt found => ?_⟩)
  obtain ⟨_, _, _, named⟩ := getChildSpawnAttempt_ok found
  intro key held fresh
  rw [named]
  exact stored key held (Justified.cons_iff.mp fresh).2

private theorem annotate_triple (attemptId : String) (updates : Metadata) (time : Time) :
    (recording start).Triple pid call (fun _ => True) (annotateChildSpawnAttempt attemptId updates time)
      (Kept updates) := by
  refine .bind recording_refl (get_triple attemptId) (fun attempt => ?_) (fun _ => stable_kept _)
    (fun error now _ _ => kept_error error now)
  have write : (recording start).Triple pid call (LastRead pid attempt.attemptId attempt)
      (transaction (replaceSpawnPayload { attempt with metadata := attempt.metadata.update updates, updatedAt := time }))
      (fun result now => ∀ value, result = .ok value → Stored updates attempt.attemptId now) := by
    refine rewrite_triple (fun _ _ => rfl) ?_ (fun row key held => HasKey.update.mpr (Or.inr held))
    rintro row rfl column
    exact ⟨⟨Or.inl rfl, fun key held => HasKey.update.mpr (Or.inl held)⟩, column⟩
  intro seen valid read
  obtain ⟨last, rfl⟩ := read attempt rfl
  exact Contract.Triple.bind recording_refl write
    (fun _ => back_triple.weaken (fun _ _ stored => stored () rfl) (fun _ _ _ kept => kept)) (fun _ => stable_kept _)
    (fun error now _ _ => kept_error error now) seen valid last

private theorem revise_triple (attemptId : String) (change : SpawnUpdate) (time : Time) :
    (recording start).Triple pid call (fun _ => True) (updateChildSpawnAttempt attemptId change time)
      (Kept change.metadataUpdates) := by
  refine .bind recording_refl (get_triple attemptId) (fun attempt => ?_) (fun _ => stable_kept _)
    (fun error now _ _ => kept_error error now)
  -- The check passes only for a transition of the table.
  have allowed : (recording start).Triple pid call (ReadAs pid attemptId (.ok attempt))
      (ensure (requireAllowedSpawn attempt change.state))
      (fun result now => ReadAs pid attemptId (.ok attempt) now ∧ ∀ value, result = .ok value →
        change.state = attempt.state ∨ change.state ∈ ChildSpawnAttemptState.allowed attempt.state) := by
    refine .ensure ((stable_readAs _).and Contract.stable_const) (fun now _ read => ⟨read, fun value passed => ?_⟩)
    rw [requireAllowedSpawn, refuse_eq_ok] at passed
    by_cases same : change.state = attempt.state
    · exact Or.inl same
    · exact Or.inr (by_contra fun absent => passed ⟨same, absent⟩)
  refine .bind recording_refl allowed (fun _ => ?_) (fun _ => stable_kept _) (fun error now _ _ => kept_error error now)
  rintro seen valid ⟨read, follows⟩
  have write : (recording start).Triple pid call (LastRead pid attempt.attemptId attempt)
      (transaction (replaceChildSpawnAttempt (updatedSpawn attempt change time)))
      (fun result now => ∀ value, result = .ok value → Stored change.metadataUpdates attempt.attemptId now) := by
    refine rewrite_triple (fun _ _ => rfl) ?_ (fun row key held => HasKey.update.mpr (Or.inr held))
    rintro row rfl _
    exact ⟨⟨follows () rfl, fun key held => HasKey.update.mpr (Or.inl held)⟩, rfl⟩
  obtain ⟨last, rfl⟩ := read attempt rfl
  exact Contract.Triple.bind recording_refl write
    (fun _ => back_triple.weaken (fun _ _ stored => stored () rfl) (fun _ _ _ kept => kept)) (fun _ => stable_kept _)
    (fun error now _ _ => kept_error error now) seen valid last

private theorem scan_triple (rows : List (String × ChildSpawnAttemptState)) :
    (recording start).Triple pid call (fun _ => True) (scanSpawns rows) (fun _ _ => True) := by
  induction rows with
  | nil => exact .pure stable_true (fun _ _ _ => trivial)
  | cons entry rest ih =>
    refine .bind recording_refl (get_triple entry.1) (fun attempt => ?_) (fun _ => stable_true) (fun _ _ _ _ => trivial)
    split
    next =>
      refine .transaction (stable_readAs _) (fun _ => stable_true) ?_ ?_
      · intro now answer after history read scanned
        obtain ⟨last, named⟩ := read attempt rfl
        exact ⟨keeps_repair history (named.symm ▸ last) scanned, trivial⟩
      · exact fun now error history _ _ => ⟨keeps_read history, trivial⟩
    next =>
      split
      next => exact .pure stable_true (fun _ _ _ => trivial)
      next => exact ih.weaken (fun _ _ _ => trivial) (fun _ _ _ _ => trivial)

private theorem unresolved_triple (childTaskId : String) :
    (recording start).Triple pid call (fun _ => True) (unresolvedChildSpawnAttempt childTaskId) (fun _ _ => True) :=
  .bind recording_refl (read_triple _) (fun rows => scan_triple rows) (fun _ => stable_true) (fun _ _ _ _ => trivial)

private theorem insert_triple (attempt : ChildSpawnAttempt) :
    (recording start).Triple pid call (fun _ => True) (transaction (insertChildSpawnAttempt attempt))
      (fun _ _ => True) := by
  refine .transaction stable_true (fun _ => stable_true) ?_ (fun now error history _ _ => ⟨keeps_read history, trivial⟩)
  intro now value after history _ inserted
  refine ⟨keeps_commit history (fun _ agrees => ?_), trivial⟩
  unfold insertChildSpawnAttempt at inserted
  split at inserted
  next => cases inserted
  next => cases inserted
  next table added =>
    cases inserted
    have rows (wanted : String) := Table.find?_insert? (IndexedTable.insert_ok added) wanted
    constructor
    · intro attemptId row found
      exact ⟨row, by rw [rows, found, Option.some_or], .refl row⟩
    · intro attemptId row found
      rw [rows, Option.or_eq_some_iff] at found
      rcases found with old | ⟨_, new⟩
      · exact agrees attemptId row old
      · split at new
        next =>
          cases new
          rfl
        next => cases new

private theorem record_triple (attempt : ChildSpawnAttempt) :
    (recording start).Triple pid call (fun _ => True) (recordChildSpawnAttempt attempt) (fun _ _ => True) := by
  have passed {ε β : Type} (result : Except ε β) : (recording start).Triple pid call (fun _ => True)
      (ensure result) (fun _ _ => True) := .ensure stable_true (fun _ _ _ => trivial)
  refine .bind recording_refl (read_triple _) (fun dispatch => ?_) (fun _ => stable_true) (fun _ _ _ _ => trivial)
  refine .bind recording_refl (passed _) (fun _ => ?_) (fun _ => stable_true) (fun _ _ _ _ => trivial)
  refine .bind recording_refl (unresolved_triple _) (fun found => ?_) (fun _ => stable_true) (fun _ _ _ _ => trivial)
  refine .bind recording_refl (passed _) (fun _ => ?_) (fun _ => stable_true) (fun _ _ _ _ => trivial)
  exact .bind recording_refl (insert_triple attempt) (fun _ => read_triple _) (fun _ => stable_true)
    (fun _ _ _ _ => trivial)

private theorem noted_of_kept {updates : Metadata} {result : Except SupervisorError ChildSpawnAttempt} {now : SpawnShared}
    (kept : Kept updates result now) : Noted (result.map (fun found => ⟨some found, updates⟩)) now := by
  intro fresh attempt given same key held
  cases result with
  | error error => cases same
  | ok found =>
    cases same
    exact kept _ rfl key held fresh

private theorem noted_without {result : SpawnNoted} {now : SpawnShared}
    (without : ∀ note, result = .ok note → note.updates = []) : Noted result now := by
  intro _ attempt updates same key held
  have none : updates = [] := without _ same
  subst none
  obtain ⟨entry, member, _⟩ := held
  simp at member

private theorem stable_noted (result : SpawnNoted) : (recording start).Stable pid call (Noted result) := by
  intro seen now earlier later found noted fresh attempt updates same key held
  exact stable_key seen now earlier later found (fun before => noted before attempt updates same key held) fresh

private theorem recording_certifies : (recording start).Certifies writerMachine := by
  intro pid call seen history _
  have final (noted : (recording start).Safe pid call Noted call.program.run seen) :
      (recording start).CertifiedPhase pid call seen (.running (writerMachine.body call)) :=
    noted.weaken (fun _ _ valid held => returns_noted valid held)
  apply final
  cases call with
  | record attempt =>
    refine Contract.Triple.map recording_refl ((record_triple attempt).weaken (fun _ _ held => held) ?_) stable_noted
      seen history trivial
    intro result now _ _
    exact noted_without (fun note same => by cases result <;> cases same; rfl)
  | annotate attemptId updates time =>
    exact Contract.Triple.map recording_refl ((annotate_triple attemptId updates time).weaken (fun _ _ held => held)
      (fun _ _ _ kept => noted_of_kept kept)) stable_noted seen history trivial
  | unresolved childTaskId =>
    refine Contract.Triple.map recording_refl ((unresolved_triple childTaskId).weaken (fun _ _ held => held) ?_)
      stable_noted seen history trivial
    intro result now _ _
    exact noted_without (fun note same => by cases result <;> cases same; rfl)
  | update attemptId change time =>
    exact Contract.Triple.map recording_refl ((revise_triple attemptId change time).weaken (fun _ _ held => held)
      (fun _ _ _ kept => noted_of_kept kept)) stable_noted seen history trivial

end Calls

def writerRun (start : Database) (moves : List (Move NoAnswer SpawnWriter)) :
    World Database NoAnswer SpawnWriter SpawnNoted :=
  run writerMachine.move { store := start, log := [] } moves

/-- In every run of writers in which each write to an attempt finds the payload
that its call has read in the step before: states change only along the table,
so that the two final ones are not left, the metadata keys of a call that has
returned are stored, and the state column agrees with the payload. -/
theorem spawn_records_faithful (start : Database) (agrees : Agrees start) (moves : List (Move NoAnswer SpawnWriter))
    (fresh : Justified WriteFresh (writerRun start moves).log) :
    Faithful (writerRun start moves).toShared ∧
    ∀ pid before after, .committed pid before after ∈ (writerRun start moves).log → ∀ attemptId,
      (spawnState before attemptId = some .completed → spawnState after attemptId = some .completed) ∧
      (spawnState before attemptId = some .failed → spawnState after attemptId = some .failed) := by
  have isolated : (recording start).Isolated writerMachine := ⟨fun _ _ _ => trivial, fun _ _ => trivial, fun _ _ _ => trivial⟩
  have initial : (recording start).valid { store := start, log := [] } := by
    refine ⟨rfl, fun _ => ⟨agrees, fun _ _ _ member => ?_, fun _ _ _ member => ?_⟩⟩ <;> simp at member
  have history : SpawnHistory start (writerRun start moves).toShared :=
    Contract.run_valid isolated recording_certifies initial rfl moves
  have faithful := history.faithful fresh
  have final {pid : Nat} {before after : Database} (member : .committed pid before after ∈ (writerRun start moves).log)
      {attemptId : String} {state : ChildSpawnAttemptState} (held : spawnState before attemptId = some state)
      (last : ChildSpawnAttemptState.allowed state = []) : spawnState after attemptId = some state := by
    obtain ⟨row, found, rfl⟩ := Option.map_eq_some_iff.mp held
    obtain ⟨next, present, regular⟩ := faithful.sane pid before after member attemptId row found
    rcases regular.state with same | moved
    · rw [spawnState, present, Option.map_some, same]
    · rw [last] at moved
      simp at moved
  refine ⟨faithful, fun pid before after member attemptId => ⟨fun held => ?_, fun held => ?_⟩⟩
  · exact final member held rfl
  · exact final member held rfl

/-- A note and an update, one after the other. -/
theorem spawn_records_faithful_quiet :
    let moves : List (Move NoAnswer SpawnWriter) :=
      [.start (.annotate "spawn_1" [("note", .text "first")] 5), .step 0, .step 0, .step 0, .step 0,
       .start (.update "spawn_1" { state := .completed } 6), .step 1, .step 1, .step 1, .step 1,
       .start (.unresolved "child"), .step 2, .step 2, .step 2]
    spawnState (writerRun (oneSpawn .promptSubmitted) moves).store "spawn_1" = some .completed ∧
      Faithful (writerRun (oneSpawn .promptSubmitted) moves).toShared := by
  refine ⟨by decide +kernel, (spawn_records_faithful (oneSpawn .promptSubmitted) ?_ _ (by decide +kernel)).1⟩
  intro attemptId row found
  have member := (Table.find?_some.mp found).1
  rw [Table.mem_def] at member
  cases List.mem_singleton.mp member
  rfl

/-- A note is computed from the payload before the attempt completes and is
written after it. The column says COMPLETED and the payload does not, the key of
the update is gone, and the next scan returns the attempt as unresolved. -/
theorem spawn_records_faithful_fails :
    let moves : List (Move NoAnswer SpawnWriter) :=
      [.start (.annotate "spawn_1" [("note", .text "first")] 5), .step 0,
       .start (.update "spawn_1" { state := .completed, metadataUpdates := [("done", .text "second")] } 6),
       .step 1, .step 1, .step 1, .step 1, .step 0, .step 0, .step 0]
    let later := moves ++ [.start (.unresolved "child"), .step 2, .step 2, .step 2, .step 2]
    let world := writerRun (oneSpawn .promptSubmitted) moves
    world.liveCalls.length = 0 ∧
    (world.store.childSpawnAttempts.find? "spawn_1").map (fun row => (row.state, row.payload.state, row.payload.metadata)) =
      some (.completed, .promptSubmitted, [("note", .text "first")]) ∧
    ((writerRun (oneSpawn .promptSubmitted) later).log.head?.bind fun event => match event with
      | .returned _ (.ok note) => note.attempt.map (·.state)
      | _ => none) = some .promptSubmitted := by
  decide +kernel

end WebSupervisor.Registry.Proofs
