import WebSupervisor.Library.Effects
import WebSupervisor.Library.Triple
import WebSupervisor.RuntimeState

/-! Moving the registry while processes use it. A process is given the durable path
only when that file exists or there is no older one, and the older path only when it
has found no durable file. What the code does not prevent is a rename over a file
that appeared after the last look, and writes to the older registry after it was
copied. -/

namespace WebSupervisor.RuntimeState.Proofs
open Library

/-- What no step of any process takes away. -/
structure Grows (before after : Disk) : Prop where
  durable : before.durable.isSome = true → after.durable.isSome = true
  legacy : after.legacy.isSome = before.legacy.isSome

theorem Grows.refl (disk : Disk) : Grows disk disk := ⟨id, rfl⟩

theorem Grows.trans {first second third : Disk} (one : Grows first second) (two : Grows second third) :
    Grows first third :=
  ⟨two.durable ∘ one.durable, two.legacy.trans one.legacy⟩

/-- The first step of the process found no durable file. -/
def FoundNone (pid : Nat) (log : List (Event Disk Answer Path)) : Prop :=
  ∃ newer before after older, log = newer ++ .committed pid before after :: older ∧
    (∀ event ∈ older, event.pid ≠ pid) ∧ before.durable = none

theorem FoundNone.later {pid : Nat} {older log : List (Event Disk Answer Path)} (found : FoundNone pid older)
    (extends_ : older <:+ log) : FoundNone pid log := by
  obtain ⟨newest, rfl⟩ := extends_
  obtain ⟨newer, before, after, rest, rfl, fresh, none⟩ := found
  exact ⟨newest ++ newer, before, after, rest, by simp, fresh, none⟩

/-- What a process knows about the path it was given. -/
def Given (explicit : Bool) (pid : Nat) (path : Path) (now : Shared Disk Answer Path) : Prop :=
  match path with
  | .named => explicit = true
  | .durable => explicit = false ∧ (now.store.durable.isSome = true ∨ now.store.legacy = none)
  | .legacy => explicit = false ∧ now.store.legacy.isSome = true ∧ FoundNone pid now.log

theorem Given.later {explicit : Bool} {pid : Nat} {path : Path} {seen now : Shared Disk Answer Path}
    (given : Given explicit pid path seen) (log : seen.log <:+ now.log) (grows : Grows seen.store now.store) :
    Given explicit pid path now := by
  cases path with
  | named => exact given
  | durable =>
    refine ⟨given.1, given.2.imp grows.durable (fun none => ?_)⟩
    have same := grows.legacy
    rw [none] at same
    exact Option.isNone_iff_eq_none.mp (by simpa using same)
  | legacy => exact ⟨given.1, grows.legacy.trans given.2.1, given.2.2.later log⟩

/-- The disk shows that a process may have been given the path. -/
def Offered (explicit : Bool) (disk : Disk) : Path → Prop
  | .named => explicit = true
  | .durable => explicit = false ∧ (disk.durable.isSome = true ∨ disk.legacy = none)
  | .legacy => explicit = false ∧ disk.legacy.isSome = true

theorem Given.offered {explicit : Bool} {pid : Nat} {path : Path} {now : Shared Disk Answer Path}
    (given : Given explicit pid path now) : Offered explicit now.store path := by
  cases path with
  | named => exact given
  | durable => exact given
  | legacy => exact ⟨given.1, given.2.1⟩

/-- A commit that writes to a path finds it offered. -/
def Entitled (explicit : Bool) : Event Disk Answer Path → Prop
  | .committed _ before after => ∀ path write, after = before.write path write → Offered explicit before path
  | _ => True

/-- Writes are entitled, and a returned path was given for a reason that is in the
log. -/
def sessions (explicit : Bool) : Contract Disk Answer Session Path where
  valid shared := (∀ event ∈ shared.log, Entitled explicit event) ∧
    ∀ pid path, .returned pid path ∈ shared.log → Given explicit pid path shared
  rely _ _ seen now := Grows seen.store now.store
  guarantee _ _ before after := Grows before.store after.store

theorem sessions_isolated (explicit : Bool) : (sessions explicit).Isolated (relocation explicit) where
  refl _ _ shared := Grows.refl shared.store
  trans first second := first.trans second
  cover _ _ guaranteed := guaranteed

section Steps
variable {explicit : Bool} {pid : Nat} {call : Session} {now : Shared Disk Answer Path}

private theorem keeps_event (valid : (sessions explicit).valid now) {later : Shared Disk Answer Path}
    {event : Event Disk Answer Path} (added : later.log = event :: now.log) (grows : Grows now.store later.store)
    (entitled : Entitled explicit event)
    (returned : ∀ pid path, event = .returned pid path → Given explicit pid path later) :
    Keeps (sessions explicit).valid ((sessions explicit).guarantee pid call) now later := by
  refine ⟨⟨fun other member => ?_, fun other path member => ?_⟩, grows⟩
  · rcases List.mem_cons.mp (added ▸ member) with rfl | old
    · exact entitled
    · exact valid.1 other old
  · rcases List.mem_cons.mp (added ▸ member) with same | old
    · exact returned other path same.symm
    · exact (valid.2 other path old).later (added ▸ List.suffix_cons ..) grows

private theorem keeps_commit (valid : (sessions explicit).valid now) {effect : Disk → Disk}
    (grows : Grows now.store (effect now.store))
    (entitled : ∀ path write, effect now.store = now.store.write path write → Offered explicit now.store path) :
    Keeps (sessions explicit).valid ((sessions explicit).guarantee pid call) now (now.commit pid effect) :=
  keeps_event valid rfl grows entitled (fun _ _ impossible => nomatch impossible)

theorem file_write (disk : Disk) (path other : Path) (write : Write) :
    (disk.write path write).file other =
      if other = path then some (((disk.file path).getD {}).write write) else disk.file other := by
  cases path <;> cases other <;> rfl

private theorem written_ne (content : Option Content) (write : Write) : some ((content.getD {}).write write) ≠ content := by
  intro same
  cases content with
  | none => cases same
  | some content =>
    have longer := congrArg (fun file : Content => file.writes.length) (Option.some.inj same)
    simp [Content.write] at longer

/-- A write changes the file at its path and renames nothing. -/
theorem ne_write {before after : Disk} (path : Path) (write : Write)
    (other : after.file path = before.file path ∨ after.installs ≠ before.installs) : after ≠ before.write path write := by
  rintro rfl
  rcases other with same | changed
  · rw [file_write, if_pos rfl] at same
    exact written_ne _ write same
  · cases path <;> exact changed rfl

theorem write_path {disk : Disk} {path other : Path} {write second : Write}
    (same : disk.write path write = disk.write other second) : path = other := by
  by_contra different
  refine ne_write other second (Or.inl ?_) same
  rw [file_write, if_neg (Ne.symm different)]

/-- Only the temporary files change, or a rename happens. -/
def Unwritten (before after : Disk) : Prop :=
  (∀ path, after.file path = before.file path) ∨ after.installs ≠ before.installs

theorem Unwritten.refl (disk : Disk) : Unwritten disk disk := Or.inl fun _ => rfl

theorem Unwritten.ne {before after : Disk} (unwritten : Unwritten before after) (path : Path) (write : Write) :
    after ≠ before.write path write :=
  ne_write path write (unwritten.imp_left (fun same => same path))

end Steps

section Certificates
variable {explicit : Bool} {pid : Nat} {call : Session} {β : Type} {post : β → Shared Disk Answer Path → Prop}
  {path : Path} {seen : Shared Disk Answer Path}

private theorem safe_pure {value : β} (known : ∀ now, seen.log <:+ now.log → Grows seen.store now.store → post value now) :
    (sessions explicit).Safe pid call post (.pure value) seen :=
  fun now _ found => known now found.1.log found.2

private theorem safe_step {effect : Disk → Disk} {next : Disk → Program Disk Answer β}
    (given : Given explicit pid path seen)
    (grows : ∀ disk, Grows disk (effect disk))
    (other : ∀ disk, Unwritten disk (effect disk))
    (rest : ∀ disk now, now.store = effect disk → Grows seen.store now.store → (sessions explicit).valid now →
      Given explicit pid path now → (sessions explicit).Safe pid call post (next disk) now) :
    (sessions explicit).Safe pid call post (.atomic effect next) seen := by
  intro now valid found
  have keeps : Keeps (sessions explicit).valid ((sessions explicit).guarantee pid call) now (now.commit pid effect) :=
    keeps_commit valid (grows now.store) (fun path write same => absurd same ((other now.store).ne path write))
  have known : Given explicit pid path now := given.later found.1.log found.2
  have after : Given explicit pid path (now.commit pid effect) := known.later (List.suffix_cons ..) (grows now.store)
  exact ⟨keeps, rest now.store _ rfl (found.2.trans (grows now.store)) keeps.1 after⟩

private theorem safe_read {next : Disk → Program Disk Answer β} (given : Given explicit pid path seen)
    (rest : ∀ now, (sessions explicit).valid now → Given explicit pid path now →
      (sessions explicit).Safe pid call post (next now.store) now) :
    (sessions explicit).Safe pid call post (.atomic id next) seen :=
  safe_step given Grows.refl Unwritten.refl (fun disk now same _ valid known =>
    (show disk = now.store from same.symm) ▸ rest now valid known)

private theorem safe_call {request : Request} {next : Answer request → Program Disk Answer β}
    (given : Given explicit pid path seen)
    (rest : ∀ now answer, (sessions explicit).valid now → Given explicit pid path now →
      (sessions explicit).Safe pid call post (next answer) now) :
    (sessions explicit).Safe pid call post (.call request next) seen := by
  intro now valid found
  have issued : Keeps (sessions explicit).valid ((sessions explicit).guarantee pid call) now (now.issue pid request) :=
    keeps_event valid rfl (Grows.refl _) trivial (fun _ _ impossible => nomatch impossible)
  have known : Given explicit pid path now := given.later found.1.log found.2
  have asked : Given explicit pid path (now.issue pid request) :=
    known.later (List.suffix_cons ..) (Grows.refl now.store)
  refine ⟨issued, fun later laterValid meantime answer => ?_⟩
  have received : Keeps (sessions explicit).valid ((sessions explicit).guarantee pid call) later
      (later.record (.answered pid request answer)) :=
    keeps_event laterValid rfl (Grows.refl _) trivial (fun _ _ impossible => nomatch impossible)
  have still : Given explicit pid path later := asked.later meantime.1.log meantime.2
  exact ⟨received, rest _ answer received.1 (still.later (List.suffix_cons ..) (Grows.refl later.store))⟩

private theorem safe_lease (now : Time) (given : Given explicit pid .legacy seen) :
    (sessions explicit).Safe pid call (fun _ => Given explicit pid .legacy) (legacyFreshWatchdogLease now) seen := by
  refine safe_call given (fun middle readable _ known => ?_)
  split
  · exact safe_pure (fun _ => known.later)
  · refine safe_read known (fun tables _ known => ?_)
    split
    · exact safe_pure (fun _ => known.later)
    · split
      · exact safe_pure (fun _ => known.later)
      · exact safe_read known (fun rows _ known => safe_pure (fun _ => known.later))

private theorem unlink_grows (name : String) (disk : Disk) : Grows disk (disk.unlink name) := ⟨id, rfl⟩

private theorem unlink_file (name : String) (disk : Disk) : Unwritten disk (disk.unlink name) :=
  Or.inl fun path => by cases path <;> rfl

private theorem backup_grows (name : String) (disk : Disk) :
    Grows disk (disk.backup name) ∧ Unwritten disk (disk.backup name) := by
  unfold Disk.backup
  split
  · exact ⟨.refl disk, .refl disk⟩
  · exact ⟨⟨id, rfl⟩, Or.inl fun path => by cases path <;> rfl⟩

private theorem replaceDurable_grows (name : String) (disk : Disk) :
    Grows disk (disk.replaceDurable name) ∧ Unwritten disk (disk.replaceDurable name) := by
  unfold Disk.replaceDurable
  split
  · exact ⟨.refl disk, .refl disk⟩
  · exact ⟨⟨fun _ => rfl, rfl⟩, Or.inr (Nat.succ_ne_self _)⟩

/-- After a migration that reports success the durable file is there. -/
private def Migrated (explicit : Bool) (pid : Nat) (migrated : Bool) (now : Shared Disk Answer Path) : Prop :=
  Given explicit pid .legacy now ∧ (migrated = true → now.store.durable.isSome = true)

private theorem safe_cleanUp (name : String) {result : Bool} (given : Given explicit pid .legacy seen)
    (there : result = true → seen.store.durable.isSome = true) :
    (sessions explicit).Safe pid call (Migrated explicit pid) (cleanUp name result) seen := by
  intro now valid found
  have keeps : Keeps (sessions explicit).valid ((sessions explicit).guarantee pid call) now
      (now.commit pid (·.unlink name)) :=
    keeps_commit valid (unlink_grows name now.store) (fun path write same =>
      absurd same ((unlink_file name now.store).ne path write))
  refine ⟨keeps, safe_pure (fun last log grows => ?_)⟩
  have before : Given explicit pid .legacy now := given.later found.1.log found.2
  have known : Given explicit pid .legacy (now.commit pid (·.unlink name)) :=
    before.later (List.suffix_cons ..) (unlink_grows name now.store)
  exact ⟨known.later log grows, fun done => grows.durable (found.2.durable (there done))⟩

private theorem safe_migrate (name : String) (given : Given explicit pid .legacy seen) :
    (sessions explicit).Safe pid call (Migrated explicit pid) (migrateSqliteRegistry name) seen := by
  have failed {now : Shared Disk Answer Path} (known : Given explicit pid .legacy now) :
      (sessions explicit).Safe pid call (Migrated explicit pid) (cleanUp name false) now :=
    safe_cleanUp name known (fun impossible => nomatch impossible)
  refine safe_read given (fun first _ known => ?_)
  split
  next there =>
    exact safe_pure (fun _ log grows => ⟨known.later log grows, fun _ => grows.durable there⟩)
  · refine safe_call known (fun _ copies _ known => ?_)
    split
    · exact failed known
    · refine safe_step known (fun disk => (backup_grows name disk).1) (fun disk => (backup_grows name disk).2)
        (fun source _ _ _ _ known => ?_)
      split
      · exact failed known
      · refine safe_call known (fun _ sound _ known => ?_)
        split
        · exact failed known
        · refine safe_read known (fun second _ known => ?_)
          split
          next there =>
            refine safe_step known (unlink_grows name) (unlink_file name) (fun _ _ _ grows _ known => ?_)
            exact safe_cleanUp name known (fun _ => grows.durable there)
          · refine safe_call known (fun _ replaces _ known => ?_)
            split
            · exact failed known
            · refine safe_step known (fun disk => (replaceDurable_grows name disk).1)
                (fun disk => (replaceDurable_grows name disk).2) (fun disk now same _ _ known => ?_)
              refine safe_cleanUp name known (fun done => ?_)
              obtain ⟨content, copy⟩ := Option.isSome_iff_exists.mp done
              rw [same, Disk.replaceDurable, copy]
              rfl

private theorem safe_resolve (time : Time) (name : String) (fresh : ∀ event ∈ seen.log, event.pid ≠ pid) :
    (sessions explicit).Safe pid call (Given explicit pid) (resolveDefaultRegistryPath explicit time name) seen := by
  unfold resolveDefaultRegistryPath
  split
  next named => exact safe_pure (fun _ _ _ => named)
  next implicit =>
    have open_ : explicit = false := by simpa using implicit
    intro now valid found
    have keeps : Keeps (sessions explicit).valid ((sessions explicit).guarantee pid call) now (now.commit pid id) :=
      keeps_commit valid (Grows.refl now.store) (fun path write same =>
        absurd same ((Unwritten.refl now.store).ne path write))
    refine ⟨keeps, ?_⟩
    dsimp only
    split
    next there => exact safe_pure (fun _ _ grows => ⟨open_, Or.inl (grows.durable there)⟩)
    next absent =>
      -- This first step is the evidence for the older path.
      have evidence : FoundNone pid (now.commit pid id).log := by
        obtain ⟨newer, added, others⟩ := found.1.newer
        refine ⟨[], now.store, now.store, now.log, rfl, fun event member => ?_, by simpa using absent⟩
        rw [added] at member
        rcases List.mem_append.mp member with new | old
        · exact others event new
        · exact fresh event old
      intro later laterValid meantime
      have keepsLater : Keeps (sessions explicit).valid ((sessions explicit).guarantee pid call) later
          (later.commit pid id) :=
        keeps_commit laterValid (Grows.refl later.store) (fun path write same =>
          absurd same ((Unwritten.refl later.store).ne path write))
      refine ⟨keepsLater, ?_⟩
      dsimp only
      split
      next missing =>
        refine safe_pure (fun last log grows => ⟨open_, Or.inr ?_⟩)
        have same := grows.legacy
        rw [show (later.commit pid id).store.legacy = none from Option.isNone_iff_eq_none.mp missing] at same
        exact Option.isNone_iff_eq_none.mp (by simpa using same)
      next present =>
        have there : later.store.legacy.isSome = true := by simpa [Option.isSome_iff_ne_none] using present
        have given : Given explicit pid .legacy (later.commit pid id) :=
          ⟨open_, there, (evidence.later meantime.1.log).later (List.suffix_cons ..)⟩
        refine Certified.bind (fun shared => ⟨.refl pid shared, Grows.refl shared.store⟩) keepsLater.1
          (safe_lease time given) (fun lease middle _ known => ?_)
        split
        · exact safe_pure (fun _ => known.later)
        · refine Certified.bind (fun shared => ⟨.refl pid shared, Grows.refl shared.store⟩) (by assumption)
            (safe_migrate name known) (fun migrated last _ reached => ?_)
          refine safe_pure (fun final log grows => ?_)
          cases migrated with
          | true => exact ⟨open_, Or.inl (grows.durable (reached.2 rfl))⟩
          | false => exact reached.1.later log grows

private theorem write_grows {now : Shared Disk Answer Path} (given : Given explicit pid path now) (write : Write) :
    Grows now.store (now.store.write path write) := by
  cases path with
  | named => exact ⟨id, rfl⟩
  | durable => exact ⟨fun _ => rfl, rfl⟩
  | legacy => exact ⟨id, given.2.1.symm⟩

private theorem safe_writes (given : Given explicit pid path seen) (writes : List Write) :
    (sessions explicit).Safe pid call (Given explicit pid) (commitWrites path writes) seen := by
  induction writes generalizing seen with
  | nil => exact safe_pure (fun _ => given.later)
  | cons write writes ih =>
    intro now valid found
    have known : Given explicit pid path now := given.later found.1.log found.2
    have keeps : Keeps (sessions explicit).valid ((sessions explicit).guarantee pid call) now
        (now.commit pid (·.write path write)) := by
      refine keeps_commit valid (write_grows known write) (fun other second same => ?_)
      rw [← write_path same]
      exact known.offered
    exact ⟨keeps, ih (known.later (List.suffix_cons ..) (write_grows known write))⟩

theorem sessions_certifies (explicit : Bool) : (sessions explicit).Certifies (relocation explicit) := by
  intro pid call seen valid fresh
  have body : (sessions explicit).Safe pid call (Given explicit pid) (call.body explicit) seen :=
    Certified.bind (fun shared => ⟨.refl pid shared, Grows.refl shared.store⟩) valid
      (safe_resolve call.now call.temporaryName fresh) (fun path now _ given => safe_writes given call.writes)
  refine body.weaken (fun path now nowValid given => ?_)
  refine keeps_event nowValid rfl (Grows.refl _) trivial (fun other returned same => ?_)
  cases same
  exact given.later (List.suffix_cons ..) (Grows.refl _)

theorem sessions_valid (explicit : Bool) (start : Disk) (moves : List (Move Answer Session)) :
    (sessions explicit).valid (run (relocation explicit).move { store := start, log := [] } moves).toShared :=
  Contract.run_valid (sessions_isolated explicit) (sessions_certifies explicit) ⟨by simp, by simp⟩ rfl moves

end Certificates

/-- What one step of a session does to the registries. -/
inductive DiskStep (before : Disk) : Disk → Prop where
  | quiet {after : Disk} (files : ∀ path, after.file path = before.file path) (same : after.installs = before.installs) :
      DiskStep before after
  | write (path : Path) (write : Write) : DiskStep before (before.write path write)
  | rename {after : Disk} (content : Content) (durable : after.durable = some content)
      (legacy : after.legacy = before.legacy) (named : after.named = before.named)
      (renamed : after.installs = before.installs + 1) : DiskStep before after

private theorem diskStep_refl (disk : Disk) : DiskStep disk disk := .quiet (fun _ => rfl) rfl

private theorem diskStep_unlink (name : String) (disk : Disk) : DiskStep disk (disk.unlink name) :=
  .quiet (fun path => by cases path <;> rfl) rfl

section Effects
open Program
variable {name : String}

private theorem steps_cleanUp (result : Bool) : (cleanUp name result).Effects DiskStep :=
  Effects.write (diskStep_unlink name)

private theorem diskStep_backup (disk : Disk) : DiskStep disk (disk.backup name) := by
  unfold Disk.backup
  split
  · exact diskStep_refl disk
  · exact .quiet (fun path => by cases path <;> rfl) rfl

private theorem diskStep_replace (disk : Disk) : DiskStep disk (disk.replaceDurable name) := by
  unfold Disk.replaceDurable
  split
  · exact diskStep_refl disk
  next content _ => exact .rename content rfl rfl rfl rfl

private theorem steps_lease (now : Time) : (legacyFreshWatchdogLease now).Effects DiskStep := by
  refine Effects.call_iff.mpr (fun readable => ?_)
  split
  · exact .value
  · refine Effects.atomic_iff.mpr ⟨diskStep_refl, fun tables => ?_⟩
    split
    · exact .value
    · split
      · exact .value
      · exact Effects.atomic_iff.mpr ⟨diskStep_refl, fun rows => .value⟩

private theorem steps_migrate : (migrateSqliteRegistry name).Effects DiskStep := by
  refine Effects.atomic_iff.mpr ⟨diskStep_refl, fun first => ?_⟩
  split
  · exact .value
  · refine Effects.call_iff.mpr (fun copies => ?_)
    split
    · exact steps_cleanUp false
    · refine Effects.atomic_iff.mpr ⟨diskStep_backup, fun source => ?_⟩
      split
      · exact steps_cleanUp false
      · refine Effects.call_iff.mpr (fun sound => ?_)
        split
        · exact steps_cleanUp false
        · refine Effects.atomic_iff.mpr ⟨diskStep_refl, fun second => ?_⟩
          split
          · exact Effects.atomic_iff.mpr ⟨diskStep_unlink name, fun _ => steps_cleanUp true⟩
          · refine Effects.call_iff.mpr (fun replaces => ?_)
            split
            · exact steps_cleanUp false
            · exact Effects.atomic_iff.mpr ⟨diskStep_replace, fun found => steps_cleanUp _⟩

theorem session_steps (explicit : Bool) (session : Session) : (session.body explicit).Effects DiskStep := by
  have writes (path : Path) (list : List Write) : (commitWrites path list).Effects DiskStep := by
    induction list with
    | nil => exact .value
    | cons write rest ih => exact Effects.atomic_iff.mpr ⟨fun disk => .write path write, fun _ => ih⟩
  refine Effects.bind ?_ (fun path => writes path session.writes)
  unfold resolveDefaultRegistryPath
  split
  · exact .value
  · refine Effects.atomic_iff.mpr ⟨diskStep_refl, fun disk => ?_⟩
    split
    · exact .value
    · refine Effects.atomic_iff.mpr ⟨diskStep_refl, fun old => ?_⟩
      split
      · exact .value
      · refine Effects.bind (steps_lease session.now) (fun lease => ?_)
        split
        · exact .value
        · exact Effects.bind steps_migrate (fun _ => .value)

end Effects

/-- The path of the registry that holds the state now. -/
def currentPath (explicit : Bool) (disk : Disk) : Path :=
  if explicit then .named else if disk.durable.isSome then .durable else .legacy

def current (explicit : Bool) (disk : Disk) : Option Content := disk.file (currentPath explicit disk)

/-- The write is in the file. -/
def Holds (file : Option Content) (write : Write) : Prop := ∃ content, file = some content ∧ write ∈ content.writes

/-- A rename finds no durable file and the older registry as it was copied; a write
to the older registry finds no durable file. -/
def Orderly : Event Disk Answer Path → Prop
  | .committed _ before after =>
    (after.installs ≠ before.installs → before.durable = none ∧ after.durable = before.legacy) ∧
    (after.legacy ≠ before.legacy → before.durable = none)
  | _ => True

instance orderlyDecidable : (event : Event Disk Answer Path) → Decidable (Orderly event)
  | .committed .. => inferInstanceAs (Decidable (_ ∧ _))
  | .issued .. | .answered .. | .returned .. => .isTrue trivial

section Commits
variable {explicit : Bool} {pid : Nat} {before after : Disk} {write : Write}

private theorem holds_write {path other : Path} (holds : Holds (before.file other) write) (second : Write) :
    Holds ((before.write path second).file other) write := by
  rw [file_write]
  split
  next own =>
    subst own
    obtain ⟨content, found, member⟩ := holds
    exact ⟨_, rfl, by rw [found]; exact List.mem_append_left _ member⟩
  next => exact holds

private theorem holds_new (disk : Disk) (path : Path) (write : Write) : Holds ((disk.write path write).file path) write := by
  rw [file_write, if_pos rfl]
  exact ⟨_, rfl, List.mem_append_right _ (List.mem_singleton_self write)⟩

private theorem currentPath_congr (same : after.durable.isSome = before.durable.isSome) :
    currentPath explicit after = currentPath explicit before := by
  simp only [currentPath, same]

private theorem DiskStep.keeps (step : DiskStep before after) (orderly : Orderly (.committed pid before after))
    (entitled : Entitled explicit (.committed pid before after)) (holds : Holds (current explicit before) write) :
    Holds (current explicit after) write := by
  unfold current at holds ⊢
  cases step with
  | quiet files same =>
    rw [currentPath_congr (congrArg Option.isSome (files .durable)), files]
    exact holds
  | write path other =>
    by_cases kept : (before.write path other).durable.isSome = before.durable.isSome
    · rw [currentPath_congr kept]
      exact holds_write holds other
    · -- Only a write to a missing durable file moves the state, and nothing was written before it.
      have offered := entitled path other rfl
      cases path with
      | named => exact absurd rfl kept
      | legacy => exact absurd rfl kept
      | durable =>
        have absent : before.durable.isSome = false := by
          simpa [show (before.write .durable other).durable.isSome = true from rfl] using kept
        obtain ⟨implicit, there | missing⟩ := offered
        · rw [absent] at there
          cases there
        · obtain ⟨content, found, _⟩ := holds
          simp [currentPath, implicit, absent, Disk.file, missing] at found
  | rename content durable legacy named renamed =>
    obtain ⟨none, copied⟩ := orderly.1 (by omega)
    cases explicit with
    | true => simpa [currentPath, Disk.file, named] using holds
    | false =>
      have was : before.file (currentPath false before) = before.legacy := by simp [currentPath, none, Disk.file]
      have becomes : after.file (currentPath false after) = after.durable := by simp [currentPath, durable, Disk.file]
      rw [was] at holds
      rw [becomes, copied]
      exact holds

private theorem holds_committed (orderly : Orderly (.committed pid before after))
    (entitled : Entitled explicit (.committed pid before after)) {path : Path} (written : after = before.write path write) :
    Holds (current explicit after) write := by
  have offered := entitled path write written
  subst written
  have here : currentPath explicit (before.write path write) = path := by
    cases path with
    | named => simp [currentPath, show explicit = true from offered]
    | durable => simp [currentPath, offered.1, show (before.write .durable write).durable.isSome = true from rfl]
    | legacy =>
      have none : before.durable = none := orderly.2 (written_ne before.legacy write)
      simp [currentPath, offered.1, show (before.write .legacy write).durable = before.durable from rfl, none]
  rw [current, here]
  exact holds_new before path write

private theorem DiskStep.legacy (step : DiskStep before after) (holds : Holds before.legacy write) :
    Holds after.legacy write := by
  cases step with
  | quiet files same =>
    have kept := files .legacy
    rw [show after.legacy = before.legacy from kept]
    exact holds
  | write path other => exact @holds_write before write path .legacy holds other
  | rename content durable legacy named renamed => rwa [legacy]

end Commits

/-- What the run has written is in the present registry. -/
theorem written_current {explicit : Bool} {start store : Disk} {log : List (Event Disk Answer Path)}
    (linked : Linked start log store)
    (steps : ∀ pid before after, .committed pid before after ∈ log → DiskStep before after)
    (orderly : ∀ event ∈ log, Orderly event) (entitled : ∀ event ∈ log, Entitled explicit event) :
    ∀ pid before after path write, .committed pid before after ∈ log → after = before.write path write →
      Holds (current explicit store) write := by
  induction log generalizing store with
  | nil => simp
  | cons event log ih =>
    have earlier {middle : Disk} (rest : Linked start log middle) :=
      ih rest (fun pid before after member => steps pid before after (List.mem_cons_of_mem _ member))
        (fun event member => orderly event (List.mem_cons_of_mem _ member))
        (fun event member => entitled event (List.mem_cons_of_mem _ member))
    intro pid before after path write member written
    cases event with
    | committed other found left =>
      obtain ⟨rfl, rest⟩ := linked
      have step := steps other found store List.mem_cons_self
      have ordered := (List.forall_mem_cons.mp orderly).1
      have allowed := (List.forall_mem_cons.mp entitled).1
      rcases List.mem_cons.mp member with same | old
      · cases same
        exact holds_committed ordered allowed written
      · exact step.keeps ordered allowed (earlier rest pid before after path write old written)
    | issued other request found =>
      have old : .committed pid before after ∈ log := by simpa using member
      exact earlier linked.2 pid before after path write old written
    | answered other request answer =>
      have old : .committed pid before after ∈ log := by simpa using member
      exact earlier linked pid before after path write old written
    | returned other value =>
      have old : .committed pid before after ∈ log := by simpa using member
      exact earlier linked pid before after path write old written

/-- In a run whose renames and older-path writes are orderly, an established durable
registry is only appended to, and everything written before a process started is in
the registry whose path it returns. -/
theorem relocation_keeps_writes (explicit : Bool) (start : Disk) (moves : List (Move Answer Session))
    (orderly : ∀ event ∈ (run (relocation explicit).move { store := start, log := [] } moves).log, Orderly event) :
    let world := run (relocation explicit).move { store := start, log := [] } moves
    (∀ pid before after old, .committed pid before after ∈ world.log → before.durable = some old →
      after.installs = before.installs ∧ ∃ new, after.durable = some new ∧ old.writes <+: new.writes) ∧
    ∀ earlier later, moves = earlier ++ later →
      let first := run (relocation explicit).move { store := start, log := [] } earlier
      ∀ writer before after path write, .committed writer before after ∈ first.log → after = before.write path write →
      ∀ pid given, first.processes.length ≤ pid → .returned pid given ∈ world.log →
        Holds (world.store.file given) write := by
  intro world
  have steps (pid : Nat) (before after : Disk) (member : .committed pid before after ∈ world.log) :
      DiskStep before after := run_effects (session_steps explicit) member
  have linked : Linked start world.log world.store := run_linked (relocation explicit) start moves
  obtain ⟨entitled, reasons⟩ := sessions_valid explicit start moves
  refine ⟨fun pid before after old member established => ?_, ?_⟩
  · have step := steps pid before after member
    cases step with
    | quiet files same => exact ⟨same, old, (files .durable).trans established, List.prefix_refl _⟩
    | write path other =>
      refine ⟨by cases path <;> rfl, ?_⟩
      have file := file_write before path .durable other
      split at file
      next own =>
        subst own
        refine ⟨_, file, ?_⟩
        rw [show before.file .durable = some old from established]
        exact List.prefix_append ..
      next => exact ⟨old, file.trans established, List.prefix_refl _⟩
    | rename content durable legacy named renamed =>
      have free := ((orderly _ member).1 (by omega)).1
      rw [established] at free
      cases free
  · intro earlier later cut first writer before after path write member written pid given started returned
    have extends_ : first.log <:+ world.log := by
      have grown := @run_extends _ _ _ _ _ (relocation explicit) first later
      rwa [← run_append, ← cut] at grown
    have present := written_current linked steps orderly entitled writer before after path write
      (extends_.subset member) written
    have reason := reasons pid given returned
    cases given with
    | named => simpa [current, currentPath, show explicit = true from reason] using present
    | durable =>
      obtain ⟨implicit, reached⟩ := reason
      by_cases there : world.store.durable.isSome = true
      · simpa [current, currentPath, implicit, there] using present
      · -- Without both files nothing has been written.
        have missing : world.store.legacy = none := reached.resolve_left there
        obtain ⟨content, found, _⟩ := present
        simp [current, currentPath, implicit, there, Disk.file, missing] at found
    | legacy =>
      obtain ⟨implicit, _, newer, found, left, older, split, fresh, none⟩ := reason
      have unseen : .committed pid found left ∉ first.log := by
        intro logged
        obtain ⟨call, running, _⟩ := @run_call_effects _ _ _ _ _ (fun _ => DiskStep) _ (session_steps explicit) _ _ _ _ _
          logged
        obtain ⟨process, inside, _⟩ := Option.map_eq_some_iff.mp running
        exact absurd (List.getElem?_eq_some_iff.mp inside).choose (not_lt.mpr started)
      have before_ : first.log <:+ older := by
        have cutOff : .committed pid found left :: older <:+ world.log := ⟨newer, split.symm⟩
        rcases List.suffix_or_suffix_of_suffix extends_ cutOff with shorter | longer
        · rcases List.suffix_cons_iff.mp shorter with same | inside
          · exact absurd (same ▸ List.mem_cons_self) unseen
          · exact inside
        · exact absurd (longer.subset List.mem_cons_self) unseen
      have inside {event : Event Disk Answer Path} (old : event ∈ older) : event ∈ world.log := by
        rw [split]
        exact List.mem_append_right _ (List.mem_cons_of_mem _ old)
      have reading : .committed pid found left ∈ world.log := by
        rw [split]
        exact List.mem_append_right _ List.mem_cons_self
      rw [split] at linked
      obtain ⟨middle, ⟨rfl, started⟩, rest⟩ := linked.split
      have held : Holds found.legacy write := by
        have then_ := written_current started (fun pid before after old => steps pid before after (inside old))
          (fun event old => orderly event (inside old)) (fun event old => entitled event (inside old))
          writer before after path write (before_.subset member) written
        simpa [current, currentPath, implicit, none, Disk.file] using then_
      have grows (other : Nat) (sooner later : Disk) (logged : .committed other sooner later ∈ newer) :
          Holds sooner.legacy write → Holds later.legacy write := by
        have inRun : .committed other sooner later ∈ world.log := by
          rw [split]
          exact List.mem_append_left _ logged
        exact (steps other sooner later inRun).legacy
      exact @Linked.stays _ _ _ _ _ _ _ (fun disk => Holds disk.legacy write) rest
        ((steps pid found middle reading).legacy held) grows

/-- An older registry without a lease. -/
def olderRegistry : Disk := { legacy := some { writes := [⟨"old", none⟩] } }

private def grant (pid : Nat) : Move Answer Session := .answer pid (fun _ => true)

/-- A process looks at both files, inspects the lease, looks again, copies the older
registry, checks the copy, looks once more and is about to rename. -/
def untilRename (pid : Nat) : List (Move Answer Session) :=
  List.replicate 3 (.step pid) ++ [grant pid] ++ List.replicate 3 (.step pid) ++ [grant pid] ++
    List.replicate 2 (.step pid) ++ [grant pid] ++ List.replicate 2 (.step pid) ++ [grant pid]

/-- The event commits this write to this path. -/
def Event.wrote (path : Path) (write : Write) : Event Disk Answer Path → Bool
  | .committed _ before after => decide (after = before.write path write)
  | _ => false

def Event.gave (pid : Nat) (path : Path) : Event Disk Answer Path → Bool
  | .returned other given => decide (other = pid ∧ given = path)
  | _ => false

/-- One process migrates and writes, and the next one finds both writes. -/
theorem relocation_keeps_writes_migrated :
    let moves : List (Move Answer Session) :=
      .start ⟨1, "a", [⟨"new", none⟩]⟩ :: untilRename 0 ++ List.replicate 3 (.step 0)
    let later : List (Move Answer Session) := .start ⟨2, "b", []⟩ :: List.replicate 2 (.step 1)
    let world := run (relocation false).move { store := olderRegistry, log := [] } (moves ++ later)
    Holds (world.store.file .durable) ⟨"new", none⟩ := by
  intro moves later world
  have orderly : ∀ event ∈ world.log, Orderly event := by decide +kernel
  refine (relocation_keeps_writes false olderRegistry (moves ++ later) orderly).2 moves later rfl 0 _ _ .durable _
    List.mem_cons_self rfl 1 .durable ?_ List.mem_cons_self
  decide +kernel

/-- Two processes copy the older registry; one renames, a third writes, and the
second rename takes the write away. In another run a process whose copy failed
writes to the older registry after it was migrated. -/
theorem relocation_keeps_writes_lost :
    (let moves : List (Move Answer Session) :=
        [.start ⟨1, "a", []⟩, .start ⟨1, "b", []⟩] ++ untilRename 0 ++ untilRename 1 ++ List.replicate 3 (.step 0) ++
          .start ⟨2, "c", [⟨"new", none⟩]⟩ :: List.replicate 3 (.step 2) ++ List.replicate 3 (.step 1)
      let later : List (Move Answer Session) := .start ⟨3, "d", []⟩ :: List.replicate 2 (.step 3)
      let world := run (relocation false).move { store := olderRegistry, log := [] } (moves ++ later)
      (run (relocation false).move { store := olderRegistry, log := [] } moves).log.any
        (Event.wrote .durable ⟨"new", none⟩) = true ∧
      world.log.any (Event.gave 3 .durable) = true ∧ world.store.installs = 2 ∧
      world.store.durable = some { writes := [⟨"old", none⟩] }) ∧
    (let moves : List (Move Answer Session) :=
        .start ⟨1, "a", [⟨"new", none⟩]⟩ :: List.replicate 3 (.step 0) ++ [grant 0] ++ List.replicate 3 (.step 0) ++
          [.answer 0 (fun _ => false), .step 0] ++
          .start ⟨2, "b", []⟩ :: untilRename 1 ++ List.replicate 3 (.step 1) ++ [.step 0]
      let later : List (Move Answer Session) := .start ⟨3, "c", []⟩ :: List.replicate 2 (.step 2)
      let world := run (relocation false).move { store := olderRegistry, log := [] } (moves ++ later)
      (run (relocation false).move { store := olderRegistry, log := [] } moves).log.any
        (Event.wrote .legacy ⟨"new", none⟩) = true ∧
      world.log.any (Event.gave 2 .durable) = true ∧
      world.store.durable = some { writes := [⟨"old", none⟩] }) := by
  decide +kernel

end WebSupervisor.RuntimeState.Proofs
