import WebSupervisor.Registry.Tasks

/-! Replays of a child contract. The metadata that a call gives are compared with what
has been decoded from their text, so that a contract is repeated only by metadata that
equal what is decoded from theirs. -/

namespace WebSupervisor.Registry.Proofs
open Library Library.Program WorkerProtocol WorkerPersistence

/-- The record and the task of the child hold the contract, and of its metadata what is
decoded from their text. -/
structure Holds (args : DispatchArgs) (record : ChildDispatchRecord) (child : Option TaskRecord) : Prop where
  child : ∃ task, child = some task ∧ task.project = args.project ∧ task.objective = args.objective ∧ task.cwd = args.cwd
  digest : record.promptSha256 = sha256 args.promptText
  branch : record.expectedBranch = args.expectedBranch
  base : record.baseRef = args.baseRef
  url : record.webProjectUrl = args.webProjectUrl
  metadata : ∃ kept, args.metadata.decoded = some kept ∧ kept.entries.normal = record.metadata.entries.normal
  chosen : args.chosenId = record.childTaskId

/-- The registry has the dispatch of the contract, with the task of its child and
the protocol state of its parent. -/
structure Stands (args : DispatchArgs) (record : ChildDispatchRecord) (db : Database) : Prop where
  parent : db.tasks.find? args.cleaned.parentTaskId ≠ none
  protocol : protocolStateExists db args.cleaned.parentTaskId = true
  dispatch : dispatchByKey db args.cleaned.parentTaskId args.cleaned.childKey = some record
  contract : Holds args.cleaned record (db.tasks.find? record.childTaskId)

def ParentOpen (args : DispatchArgs) (db : Database) : Prop :=
  ∃ row, db.protocolTasks.find? args.cleaned.parentTaskId = some row ∧ row.taskStatus = .opened

/-- A non-empty id of the child was given. -/
def Explicit (args : DispatchArgs) : Prop := args.childTaskId.getD "" ≠ ""

/-- The same arguments in another call, which draws its own ids. -/
def Repeats (args again : DispatchArgs) : Prop :=
  ∃ generatedTaskId dispatchId now, again = { args with generatedTaskId, dispatchId, now }

/-- A call for the same parent and child key asks for another contract. -/
structure Conflicts (args other : DispatchArgs) : Prop where
  parent : other.cleaned.parentTaskId = args.cleaned.parentTaskId
  key : other.cleaned.childKey = args.cleaned.childKey
  differs : other.cleaned.project ≠ args.cleaned.project ∨ other.cleaned.objective ≠ args.cleaned.objective ∨
    other.cleaned.cwd ≠ args.cleaned.cwd ∨ other.promptText ≠ args.promptText ∨
    other.cleaned.expectedBranch ≠ args.cleaned.expectedBranch ∨ other.cleaned.baseRef ≠ args.cleaned.baseRef ∨
    other.cleaned.webProjectUrl ≠ args.cleaned.webProjectUrl ∨
    other.metadata.normal ≠ args.metadata.normal ∨
    Explicit other ∧ other.chosenId ≠ args.chosenId

section Replay
variable {args other : DispatchArgs} {record : ChildDispatchRecord} {db after : Database}

private theorem standing_write (stands : Stands args record db)
    (parent : other.cleaned.parentTaskId = args.cleaned.parentTaskId)
    (key : other.cleaned.childKey = args.cleaned.childKey) (found : Option ChildDispatchRecord) :
    createChildDispatchWrite other.cleaned db = .ok (found, after) ↔
      ParentOpen args db ∧ other.cleaned.sameContract record (db.tasks.find? record.childTaskId) = true ∧
        found = some record ∧ after = db := by
  obtain ⟨row, present⟩ := Option.isSome_iff_exists.mp stands.protocol
  unfold createChildDispatchWrite ParentOpen
  rw [parent, key, present, stands.dispatch]
  simp only [bind_eq_ok, refuse_eq_ok, stands.parent, not_false_eq_true, exists_const, true_and, not_not,
    Bool.not_eq_false, Option.some.injEq, exists_eq_left']
  constructor
  · rintro ⟨opened, same, made⟩
    cases made
    exact ⟨opened, same, rfl, rfl⟩
  · rintro ⟨opened, same, rfl, rfl⟩
    exact ⟨opened, same, rfl⟩

private theorem requireParentProtocol_known {parentTaskId : String}
    (known : protocolStateExists db parentTaskId = true) :
    ((requireParentProtocol parentTaskId : ExceptT SupervisorError (Program Database NoAnswer) Unit).run.alone db) =
      (.ok (), db) := by
  have read := alone_check (fun db => .ok (protocolStateExists db parentTaskId) : Database → Except SupervisorError Bool) db
  rw [known] at read
  exact alone_bind_ok read

private theorem createChildDispatch_standing (stands : Stands args record db)
    (parent : other.cleaned.parentTaskId = args.cleaned.parentTaskId)
    (key : other.cleaned.childKey = args.cleaned.childKey) :
    (other.cleaned.accept = .ok () ∧ ParentOpen args db ∧
        other.cleaned.sameContract record (db.tasks.find? record.childTaskId) = true ∧
        (createChildDispatch other).run.alone db = (.ok record, db)) ∨
      (¬ (other.cleaned.accept = .ok () ∧ ParentOpen args db ∧
          other.cleaned.sameContract record (db.tasks.find? record.childTaskId) = true) ∧
        ∃ error, (createChildDispatch other).run.alone db = (.error error, db)) := by
  unfold createChildDispatch
  dsimp only
  cases accepted : other.cleaned.accept with
  | error error =>
    refine .inr ⟨fun impossible => (nomatch impossible.1), error, ?_⟩
    exact alone_bind_error rfl
  | ok =>
    rw [alone_bind_ok (alone_ensure (.ok ()) db), parent, alone_bind_ok (requireParentProtocol_known stands.protocol)]
    cases written : createChildDispatchWrite other.cleaned db with
    | error error =>
      refine .inr ⟨fun ⟨_, opened, same⟩ => ?_, error, alone_bind_error (alone_transaction_error written)⟩
      have done := (standing_write stands parent key (some record)).mpr ⟨opened, same, rfl, rfl⟩
      rw [written] at done
      cases done
    | ok pair =>
      obtain ⟨found, later⟩ := pair
      obtain ⟨opened, same, rfl, rfl⟩ := (standing_write stands parent key found).mp written
      exact .inl ⟨rfl, opened, same, alone_bind_ok (alone_transaction_ok written)⟩

private theorem Repeats.sameKey {again : DispatchArgs} (repeated : Repeats args again) :
    again.cleaned.parentTaskId = args.cleaned.parentTaskId ∧ again.cleaned.childKey = args.cleaned.childKey := by
  obtain ⟨_, _, _, rfl⟩ := repeated
  exact ⟨rfl, rfl⟩

private theorem sameContract_iff {child : Option TaskRecord} : args.sameContract record child = true ↔
    (∃ task, child = some task ∧ task.project = args.project ∧ task.objective = args.objective ∧ task.cwd = args.cwd) ∧
    record.promptSha256 = sha256 args.promptText ∧ record.expectedBranch = args.expectedBranch ∧
    record.baseRef = args.baseRef ∧ record.webProjectUrl = args.webProjectUrl ∧
    record.metadata.entries.normal = args.metadata.normal ∧ args.chosenId = record.childTaskId := by
  unfold DispatchArgs.sameContract
  simp only [decide_eq_true_eq, Prod.mk.injEq, Option.map_eq_some_iff]
  constructor
  · rintro ⟨⟨⟨task, found, project⟩, ⟨_, again, objective⟩, ⟨_, last, cwd⟩⟩, ⟨digest, branch, base, url⟩, metadata, chosen⟩
    obtain rfl := Option.some.inj (found.symm.trans again)
    obtain rfl := Option.some.inj (found.symm.trans last)
    exact ⟨⟨task, found, project, objective, cwd⟩, digest, branch, base, url, metadata, chosen⟩
  · rintro ⟨⟨task, found, project, objective, cwd⟩, digest, branch, base, url, metadata, chosen⟩
    exact ⟨⟨⟨task, found, project⟩, ⟨task, found, objective⟩, task, found, cwd⟩, ⟨digest, branch, base, url⟩,
      metadata, chosen⟩

private theorem Holds.of_same {child : Option TaskRecord} (same : args.sameContract record child = true) :
    Holds args record child := by
  obtain ⟨task, digest, branch, base, url, metadata, chosen⟩ := sameContract_iff.mp same
  obtain ⟨kept, decoded, equal⟩ := record.metadata.roundTrips metadata
  exact ⟨task, digest, branch, base, url, ⟨kept, decoded, equal.trans metadata.symm⟩, chosen⟩

private theorem Holds.metadata_iff {child : Option TaskRecord} (holds : Holds args record child) :
    record.metadata.entries.normal = args.metadata.normal ↔ args.metadata.RoundTrips := by
  constructor
  · exact record.metadata.roundTrips
  · rintro ⟨decoded, made, equal⟩
    obtain ⟨kept, stored, same⟩ := holds.metadata
    cases made.symm.trans stored
    exact same.symm.trans equal

private theorem accept_iff : args.accept = .ok () ↔
    ¬ (args.parentTaskId = "" ∨ args.childKey = "" ∨ args.project = "" ∨ args.objective = "" ∨ args.cwd = "") ∧
    strip args.promptText ≠ "" ∧ ¬ args.promptText.utf8ByteSize > 256 * 1024 ∧
    ¬ (args.chosenId = "" ∨ args.chosenId = args.parentTaskId) := by
  simp only [DispatchArgs.accept, bind_eq_ok, refuse_eq_ok, exists_const]

private theorem repeated_contract {again : DispatchArgs} (repeated : Repeats args again)
    (accepted : args.cleaned.accept = .ok ()) (stands : Stands args record db) :
    (again.cleaned.accept = .ok () ∧
        again.cleaned.sameContract record (db.tasks.find? record.childTaskId) = true) ↔
      again.chosenId = record.childTaskId ∧ args.metadata.RoundTrips := by
  have holds := stands.contract
  have metadata : record.metadata.entries.normal = args.metadata.normal ↔ args.metadata.RoundTrips := holds.metadata_iff
  have chosen := holds.chosen
  obtain ⟨generated, dispatchId, now, rfl⟩ := repeated
  rw [accept_iff] at accepted ⊢
  rw [sameContract_iff]
  constructor
  · rintro ⟨_, _, _, _, _, _, equal, same⟩
    exact ⟨same, metadata.mp equal⟩
  · rintro ⟨same, trips⟩
    obtain ⟨present, prompt, short, apart⟩ := accepted
    rw [chosen, ← same] at apart
    exact ⟨⟨present, prompt, short, apart⟩, holds.child, holds.digest, holds.branch, holds.base, holds.url,
      metadata.mpr trips, same⟩

private theorem conflict_contract (conflict : Conflicts args other) (stands : Stands args record db)
    (distinct : sha256 other.promptText = sha256 args.promptText → other.promptText = args.promptText)
    (trips : args.metadata.RoundTrips) :
    ¬ other.cleaned.sameContract record (db.tasks.find? record.childTaskId) = true := by
  intro same
  have holds := stands.contract
  have metadata : record.metadata.entries.normal = args.metadata.normal := holds.metadata_iff.mpr trips
  obtain ⟨task, found, project, objective, cwd⟩ := holds.child
  obtain ⟨⟨_, again, otherProject, otherObjective, otherCwd⟩, otherDigest, otherBranch, otherBase, otherUrl,
    otherMetadata, otherChosen⟩ := sameContract_iff.mp same
  obtain rfl := Option.some.inj (found.symm.trans again)
  rcases conflict.differs with different | different | different | different | different | different | different |
    different | ⟨_, different⟩
  · exact different (otherProject.symm.trans project)
  · exact different (otherObjective.symm.trans objective)
  · exact different (otherCwd.symm.trans cwd)
  · exact different (distinct (otherDigest.symm.trans holds.digest))
  · exact different (otherBranch.symm.trans holds.branch)
  · exact different (otherBase.symm.trans holds.base)
  · exact different (otherUrl.symm.trans holds.url)
  · exact different (otherMetadata.symm.trans metadata)
  · exact different (otherChosen.trans holds.chosen.symm)

/-- The contract with the metadata that are kept, and with the id that was chosen. -/
def DispatchArgs.asKept (args : DispatchArgs) (record : ChildDispatchRecord) : DispatchArgs :=
  { args with childTaskId := some record.childTaskId, metadata := record.metadata.entries }

private theorem asKept_conflicts (stands : Stands args record db) (lost : ¬ args.metadata.RoundTrips) :
    Conflicts args (DispatchArgs.asKept args record) := by
  have kept : record.metadata.entries.normal ≠ args.metadata.normal := fun same => lost (stands.contract.metadata_iff.mp same)
  exact ⟨rfl, rfl, .inr (.inr (.inr (.inr (.inr (.inr (.inr (.inl kept)))))))⟩

private theorem asKept_contract (accepted : args.cleaned.accept = .ok ()) (stands : Stands args record db) :
    (DispatchArgs.asKept args record).cleaned.accept = .ok () ∧
      (DispatchArgs.asKept args record).cleaned.sameContract record (db.tasks.find? record.childTaskId) = true := by
  have holds := stands.contract
  have chosen : args.chosenId = record.childTaskId := holds.chosen
  rw [accept_iff] at accepted ⊢
  obtain ⟨present, prompt, short, apart⟩ := accepted
  have stripped : strip record.childTaskId = record.childTaskId := by
    rw [← chosen]
    exact strip_strip _
  have same : (DispatchArgs.asKept args record).cleaned.chosenId = record.childTaskId := by
    have given : record.childTaskId ≠ "" := fun empty => apart (.inl (chosen.trans empty))
    change strip (if record.childTaskId = "" then _ else record.childTaskId) = _
    rw [if_neg given, stripped]
  refine ⟨⟨present, prompt, short, ?_⟩, sameContract_iff.mpr ⟨holds.child, holds.digest, holds.branch, holds.base,
    holds.url, rfl, same⟩⟩
  rw [same, ← chosen]
  exact apart

private theorem repeated_chosen {again : DispatchArgs} (repeated : Repeats args again)
    (stands : Stands args record db) :
    again.chosenId = record.childTaskId ↔ Explicit args ∨ strip again.generatedTaskId = record.childTaskId := by
  have chosen : args.chosenId = record.childTaskId := stands.contract.chosen
  obtain ⟨generated, dispatchId, now, rfl⟩ := repeated
  unfold DispatchArgs.chosenId at chosen ⊢
  unfold Explicit
  by_cases given : args.childTaskId.getD "" = ""
  · rw [if_pos given]
    simp [given]
  · rw [if_neg given] at chosen ⊢
    simp [given, chosen]

end Replay

section Created
variable {args : DispatchArgs} {record : ChildDispatchRecord} {db after : Database}

private theorem insertChild_stands {parent : ProtocolTask}
    (missing : dispatchByKey db args.cleaned.parentTaskId args.cleaned.childKey = none)
    (known : db.tasks.find? args.cleaned.parentTaskId ≠ none)
    (stored : db.protocolTasks.find? args.cleaned.parentTaskId = some parent) (opened : parent.taskStatus = .opened)
    (inserted : insertChild args.cleaned parent.rootTaskId db = .ok after) :
    ∃ metadata, Stands args (args.cleaned.record metadata) after ∧ ParentOpen args after := by
  obtain ⟨middle, protocolTasks, metadata, childDispatches, first, grown, decoded, listed, rfl⟩ := insertChild_ok inserted
  unfold insertTask at first
  split at first
  next => cases first
  next tasks added =>
    cases first
    have child : tasks.find? args.cleaned.chosenId = some args.cleaned.task :=
      Table.find?_some.mpr ⟨(Table.mem_insert? added).mpr (.inr rfl), rfl⟩
    have above : protocolTasks.find? args.cleaned.parentTaskId = some parent := by
      rw [Table.find?_insert? grown, stored]
      rfl
    refine ⟨metadata, ⟨?_, ?_, ?_, ⟨⟨_, child, rfl, rfl, rfl⟩, rfl, rfl, rfl, rfl, ⟨metadata, decoded, rfl⟩, rfl⟩⟩,
      parent, above, opened⟩
    · rw [Table.find?_insert? added]
      cases present : db.tasks.find? args.cleaned.parentTaskId with
      | none => exact absurd present known
      | some task => simp
    · rw [protocolStateExists, above]
      rfl
    · unfold dispatchByKey at missing ⊢
      rw [(Table.insert?_some.mp listed).2, List.find?_append, missing]
      simp [DispatchArgs.record]

private theorem createChildDispatchWrite_stands {found : Option ChildDispatchRecord}
    (written : createChildDispatchWrite args.cleaned db = .ok (found, after)) :
    ∃ record, Stands args record after ∧ ParentOpen args after ∧ record.childTaskId = args.cleaned.chosenId ∧
      ∀ old ∈ found, old = record := by
  unfold createChildDispatchWrite at written
  simp only [bind_eq_ok, refuse_eq_ok] at written
  obtain ⟨_, known, rest⟩ := written
  split at rest
  next => cases rest
  next parent stored =>
    simp only [bind_eq_ok, refuse_eq_ok, not_not] at rest
    obtain ⟨_, opened, rest⟩ := rest
    split at rest
    next old present =>
      simp only [bind_eq_ok, refuse_eq_ok, Bool.not_eq_false] at rest
      obtain ⟨_, same, made⟩ := rest
      cases made
      have holds := Holds.of_same same
      refine ⟨old, ⟨known, by rw [protocolStateExists, stored]; rfl, present, holds⟩, ⟨parent, stored, opened⟩,
        holds.chosen.symm, fun other same => ?_⟩
      exact (Option.mem_some_iff.mp same).symm
    next missing =>
      simp only [bind_eq_ok, refuse_eq_ok, not_not] at rest
      obtain ⟨_, free, next, inserted, made⟩ := rest
      cases made
      obtain ⟨metadata, stands, stillOpen⟩ := insertChild_stands missing known stored opened inserted
      exact ⟨_, stands, stillOpen, rfl, fun _ absent => absurd absent (Option.not_mem_none _)⟩

private theorem createChildDispatch_stands (created : (createChildDispatch args).run.alone db = (.ok record, after)) :
    args.cleaned.accept = .ok () ∧ Stands args record after ∧ ParentOpen args after := by
  unfold createChildDispatch at created
  dsimp only at created
  cases accepted : args.cleaned.accept with
  | error error =>
    have raised := alone_ensure (.error error : Except SupervisorError Unit) db
    rw [accepted, alone_bind_error raised] at created
    cases created
  | ok =>
    refine ⟨rfl, ?_⟩
    rw [accepted, alone_bind_ok (alone_ensure (.ok ()) db)] at created
    generalize start : (requireParentProtocol args.cleaned.parentTaskId : ExceptT SupervisorError
      (Program Database NoAnswer) Unit).run.alone db = ready at created
    obtain ⟨error | _, middle⟩ := ready
    · rw [alone_bind_error start] at created
      cases created
    · rw [alone_bind_ok start] at created
      cases written : createChildDispatchWrite args.cleaned middle with
      | error error =>
        rw [alone_bind_error (alone_transaction_error written)] at created
        cases created
      | ok pair =>
        obtain ⟨found, later⟩ := pair
        rw [alone_bind_ok (alone_transaction_ok written)] at created
        obtain ⟨standing, stands, opened, chosen, kept⟩ := createChildDispatchWrite_stands written
        cases found with
        | some old =>
          cases created
          obtain rfl := kept record rfl
          exact ⟨stands, opened⟩
        | none =>
          have member := List.mem_of_find?_eq_some stands.dispatch
          have listed : later.childDispatches.find? args.cleaned.chosenId = some standing :=
            Table.find?_some.mpr ⟨member, chosen⟩
          have read := alone_check (fun db => getChildDispatch db args.cleaned.chosenId) later
          rw [getChildDispatch, listed] at read
          cases read.symm.trans created
          exact ⟨stands, opened⟩

private theorem repeated_refused {again : DispatchArgs}
    (created : (createChildDispatch args).run.alone db = (.ok record, after)) (repeated : Repeats args again)
    (other : ¬ (again.chosenId = record.childTaskId ∧ args.metadata.RoundTrips)) :
    ∃ error, (createChildDispatch again).run.alone after = (.error error, after) := by
  obtain ⟨accepted, stands, _⟩ := createChildDispatch_stands created
  obtain ⟨parent, key⟩ := repeated.sameKey
  rcases createChildDispatch_standing stands parent key with ⟨first, _, second, _⟩ | ⟨_, raised⟩
  · exact absurd ((repeated_contract repeated accepted stands).mp ⟨first, second⟩) other
  · exact raised

private theorem repeated_iff {again : DispatchArgs} (accepted : args.cleaned.accept = .ok ())
    (stands : Stands args record db) (opened : ParentOpen args db) (repeated : Repeats args again) :
    (createChildDispatch again).run.alone db = (.ok record, db) ↔
      (Explicit args ∨ strip again.generatedTaskId = record.childTaskId) ∧ args.metadata.RoundTrips := by
  rw [← repeated_chosen repeated stands, ← repeated_contract repeated accepted stands]
  obtain ⟨parent, key⟩ := repeated.sameKey
  rcases createChildDispatch_standing stands parent key with ⟨first, _, second, result⟩ | ⟨refused, error, result⟩
  · exact iff_of_true result ⟨first, second⟩
  · refine iff_of_false (fun returned => ?_) (fun both => refused ⟨both.1, opened, both.2⟩)
    rw [result] at returned
    cases returned

private theorem conflicts_iff (accepted : args.cleaned.accept = .ok ()) (stands : Stands args record db) :
    (∀ other, Conflicts args other →
        (sha256 other.promptText = sha256 args.promptText → other.promptText = args.promptText) →
        ∃ error, (createChildDispatch other).run.alone db = (.error error, db)) ↔
      (ParentOpen args db → args.metadata.RoundTrips) := by
  constructor
  · intro refuses opened
    by_contra lost
    obtain ⟨error, raised⟩ := refuses _ (asKept_conflicts stands lost) (fun _ => rfl)
    obtain ⟨first, second⟩ := asKept_contract accepted stands
    rcases @createChildDispatch_standing args (DispatchArgs.asKept args record) record db stands rfl rfl with
      ⟨_, _, _, returned⟩ | ⟨refused, _⟩
    · rw [returned] at raised
      cases raised
    · exact refused ⟨first, opened, second⟩
  · intro trips other conflict distinct
    rcases createChildDispatch_standing stands conflict.parent conflict.key with ⟨_, opened, same, _⟩ | ⟨_, raised⟩
    · exact absurd same (conflict_contract conflict stands distinct (trips opened))
    · exact raised

/-- After a call has returned, its dispatch stands. While it does, the same call
returns it once more exactly when it chooses the id of the child again and its
metadata equal what is decoded from their text; and with such metadata every call for
another contract raises. None of them changes the registry. -/
theorem create_child_dispatch_replay (args : DispatchArgs) (record : ChildDispatchRecord) (db after : Database)
    (created : (createChildDispatch args).run.alone db = (.ok record, after)) :
    Stands args record after ∧ ParentOpen args after ∧
      ∀ later, Stands args record later →
        (∀ again, Repeats args again → ParentOpen args later →
          ((createChildDispatch again).run.alone later = (.ok record, later) ↔
            (Explicit args ∨ strip again.generatedTaskId = record.childTaskId) ∧ args.metadata.RoundTrips)) ∧
        ((∀ other, Conflicts args other →
            (sha256 other.promptText = sha256 args.promptText → other.promptText = args.promptText) →
            ∃ error, (createChildDispatch other).run.alone later = (.error error, later)) ↔
          (ParentOpen args later → args.metadata.RoundTrips)) := by
  obtain ⟨accepted, stands, opened⟩ := createChildDispatch_stands created
  exact ⟨stands, opened, fun later standing =>
    ⟨fun again repeated stillOpen => repeated_iff accepted standing stillOpen repeated, conflicts_iff accepted standing⟩⟩

end Created

private def parentTask : TaskRecord := { taskId := "parent", state := .running }

private def parentDatabase : Database := { tasks := .single parentTask }

private def contract (childTaskId : Option String) (metadata : Json.Entries) (generatedTaskId : String) : DispatchArgs :=
  { parentTaskId := "parent"
    childKey := "worker-a"
    project := "lws"
    objective := "implement isolated feature A"
    cwd := "D:/repo-wt-a"
    promptText := "Read bootstrap."
    childTaskId
    metadata
    generatedTaskId
    dispatchId := "dispatch_" ++ generatedTaskId
    now := 10 }

/-- What the first call leaves. -/
private def registryAfter (childTaskId : Option String) (metadata : Json.Entries) : Database :=
  ((createChildDispatch (contract childTaskId metadata "task_1")).run.alone parentDatabase).2

/-- The record that the first call returns. -/
private def recordOf (childTaskId : Option String) (metadata : Json.Entries) (kept : Json.Object) : ChildDispatchRecord :=
  (contract childTaskId metadata "task_1").cleaned.record kept

private def attempts : Json.Object := ⟨.cons (.text "attempt") (.int 1) .nil, ⟨_, rfl⟩, List.not_mem_nil, trivial, trivial⟩

/-- A replay with a given id and metadata that JSON keeps. -/
theorem create_child_dispatch_replay_explicit :
    (createChildDispatch (contract (some "child-a") attempts.entries "task_2")).run.alone
        (registryAfter (some "child-a") attempts.entries) =
      (.ok (recordOf (some "child-a") attempts.entries attempts), registryAfter (some "child-a") attempts.entries) := by
  obtain ⟨stands, opened, replay⟩ := create_child_dispatch_replay (contract (some "child-a") attempts.entries "task_1")
    (recordOf (some "child-a") attempts.entries attempts) parentDatabase (registryAfter (some "child-a") attempts.entries)
    (Prod.ext rfl rfl)
  exact ((replay (registryAfter (some "child-a") attempts.entries) stands).1
    (contract (some "child-a") attempts.entries "task_2") ⟨_, _, _, rfl⟩ opened).mpr
    ⟨.inl (show "child-a" ≠ "" by decide), attempts.roundTrips rfl⟩

private def span : Json.Entries := .cons (.text "span") (.tuple (.cons (.int 1) .nil)) .nil

private def listed : Json.Object :=
  ⟨.cons (.text "span") (.list (.cons (.int 1) .nil)) .nil, ⟨_, rfl⟩, List.not_mem_nil, ⟨trivial, trivial⟩, trivial⟩

/-- A replay of a contract that left the id to the registry, and one with a tuple in its
metadata. -/
theorem create_child_dispatch_refuses_replay :
    ((createChildDispatch (contract none .nil "task_1")).run.alone parentDatabase =
        (.ok (recordOf none .nil .empty), registryAfter none .nil) ∧
      ∃ error, (createChildDispatch (contract none .nil "task_2")).run.alone (registryAfter none .nil) =
        (.error error, registryAfter none .nil)) ∧
    (createChildDispatch (contract (some "child-a") span "task_1")).run.alone parentDatabase =
        (.ok (recordOf (some "child-a") span listed), registryAfter (some "child-a") span) ∧
      ∃ error, (createChildDispatch (contract (some "child-a") span "task_2")).run.alone
        (registryAfter (some "child-a") span) = (.error error, registryAfter (some "child-a") span) := by
  have unnamed : (createChildDispatch (contract none .nil "task_1")).run.alone parentDatabase =
      (.ok (recordOf none .nil .empty), registryAfter none .nil) := Prod.ext rfl rfl
  have spanned : (createChildDispatch (contract (some "child-a") span "task_1")).run.alone parentDatabase =
      (.ok (recordOf (some "child-a") span listed), registryAfter (some "child-a") span) := Prod.ext rfl rfl
  refine ⟨⟨unnamed, repeated_refused unnamed ⟨_, _, _, rfl⟩ (fun both => ?_)⟩,
    spanned, repeated_refused spanned ⟨_, _, _, rfl⟩ (fun both => ?_)⟩
  · have same : strip "task_2" = strip "task_1" := both.1
    revert same
    decide +kernel
  · exact (Json.Entries.roundTrips_iff.mp both.2).2.2.1

end WebSupervisor.Registry.Proofs
