import WebSupervisor.Library.Forest
import WebSupervisor.Registry.Tasks
import WebSupervisor.Proofs.WorkerPersistenceBootstrap

/-! Task lineage. A new protocol row looks at its parent and never at the rows
that already name it as theirs; where these have the root that it gets and do not
lie above it, lineage stays a forest with one root in each tree, and every task
that loads keeps loading. -/

namespace WebSupervisor.Registry.Proofs
open Library Library.Program Relation WorkerProtocol WorkerProtocol.Proofs WorkerPersistence WorkerPersistence.Proofs

abbrev ProtocolRows := Table ProtocolTask ProtocolTask.taskId

/-- The stored parent of a task. -/
def storedParent (rows : ProtocolRows) (taskId : String) : Option String :=
  (rows.find? taskId).bind (·.parentTaskId)

/-- The tasks that are met on the way up from a task with protocol state. -/
def LeadsTo (rows : ProtocolRows) : String → String → Prop := ReflTransGen (ParentOf (storedParent rows))

/-- A task has the root of its parent when both have protocol state. -/
def SameRoots (rows : ProtocolRows) : Prop :=
  ∀ row ∈ rows, ∀ parent ∈ rows, row.parentTaskId = some parent.taskId → parent.rootTaskId = row.rootTaskId

/-- Lineage as it should be. -/
structure LineageSound (db : Database) : Prop where
  forest : Forest (storedParent db.protocolTasks)
  roots : SameRoots db.protocolTasks

/-- The root that a bootstrap asks for, or the one of its parent. -/
def requestedRoot (db : Database) (taskId : String) (parentTaskId rootTaskId : Option String) : Option String :=
  match parentTaskId, rootTaskId with
  | none, _ => some taskId
  | some _, some root => some (strip root)
  | some parent, none => (db.protocolTasks.find? (strip parent)).map (fun row => strip row.rootTaskId)

/-- The children that a task already has get its root, and its parent is not one
of its own descendants. -/
structure FitsBelow (db : Database) (taskId : String) (parentTaskId rootTaskId : Option String) : Prop where
  children : ∀ row ∈ db.protocolTasks, row.parentTaskId = some taskId →
    requestedRoot db taskId parentTaskId rootTaskId = some row.rootTaskId
  above : ∀ parent, parentTaskId = some parent → ¬ LeadsTo db.protocolTasks (strip parent) taskId

/-- The task that a call bootstraps when it has no protocol state, with the
requested parent and root. -/
def bootstrapped : LineageCall → Option (String × Option String × Option String)
  | .registerTask _ => none
  | .bootstrapWorkerProtocol taskId parent root _ => some (taskId, parent, root)
  | .createChildDispatch args => some (strip args.parentTaskId, none, none)

/-- The call finds a lineage that its bootstrap fits into. -/
def Fits (db : Database) (call : LineageCall) : Prop :=
  ∀ taskId parent root, bootstrapped call = some (taskId, parent, root) → db.protocolTasks.find? taskId = none →
    FitsBelow db taskId parent root

/-- Every task that loads in one database loads the same in the other. -/
def KeepsLoading (db after : Database) : Prop :=
  ∀ taskId state, loadWorkerProtocol db taskId = .ok state → loadWorkerProtocol after taskId = .ok state

theorem KeepsLoading.trans {first second third : Database} (start : KeepsLoading first second)
    (rest : KeepsLoading second third) : KeepsLoading first third :=
  fun taskId state loaded => rest taskId state (start taskId state loaded)

/-- Sound lineage over parents that are tasks. -/
structure LineageKept (db : Database) : Prop extends LineageSound db where
  known : ∀ row ∈ db.protocolTasks, ∀ parent, row.parentTaskId = some parent → ∃ task ∈ db.tasks, task.taskId = parent

section Rows
variable {rows after : ProtocolRows} {row : ProtocolTask}

private theorem storedParent_some {taskId parent : String} :
    storedParent rows taskId = some parent ↔ ∃ row ∈ rows, row.taskId = taskId ∧ row.parentTaskId = some parent := by
  simp only [storedParent, Option.bind_eq_some_iff, Table.find?_some, and_assoc]

/-- What a new row has to bring for lineage to stay as it should be. -/
theorem roots_insert (inserted : rows.insert? row = some after) (roots : SameRoots rows)
    (parents : ∀ parent ∈ rows, row.parentTaskId = some parent.taskId → parent.rootTaskId = row.rootTaskId)
    (children : ∀ child ∈ rows, child.parentTaskId = some row.taskId → row.rootTaskId = child.rootTaskId) :
    SameRoots after := by
  intro child childIn parent parentIn named
  rcases (Table.mem_insert? inserted).mp childIn with oldChild | rfl
  · rcases (Table.mem_insert? inserted).mp parentIn with oldParent | rfl
    · exact roots child oldChild parent oldParent named
    · exact children child oldChild named
  · rcases (Table.mem_insert? inserted).mp parentIn with oldParent | rfl
    · exact parents parent oldParent named
    · rfl

theorem forest_insert (inserted : rows.insert? row = some after) (forest : Forest (storedParent rows))
    (apart : ∀ parent, row.parentTaskId = some parent → ¬ LeadsTo rows parent row.taskId) :
    Forest (storedParent after) := by
  have found := fun taskId => Table.find?_insert? inserted taskId
  have fresh : rows.find? row.taskId = none := Table.find?_none.mpr (Table.insert?_some.mp inserted).1
  have others (other : String) (different : other ≠ row.taskId) : storedParent after other = storedParent rows other := by
    rw [storedParent, found, if_neg (Ne.symm different), Option.or_none]
    rfl
  refine forest.grow others (fun above chosen => apart above ?_)
  rw [storedParent, found, fresh, if_pos rfl] at chosen
  exact chosen

end Rows

section Loading
variable {db after : Database}

/-- A snapshot keeps loading when its rows stay and the new rows agree on roots. -/
theorem load_kept {taskId : String} {state : WorkerTaskState} (loaded : loadWorkerProtocol db taskId = .ok state)
    (tasks : ∀ task ∈ db.tasks, ∃ later ∈ after.tasks, later.taskId = task.taskId ∧ (task.taskId = taskId → later = task))
    (workers : ∀ row : WorkerRecord, row.taskId = taskId → (row ∈ after.workers ↔ row ∈ db.workers))
    (leases : ∀ lease : WorkerLease, lease.taskId = taskId → (lease ∈ after.protocolLeases ↔ lease ∈ db.protocolLeases))
    (rows : ∀ row ∈ db.protocolTasks, row ∈ after.protocolTasks) (roots : SameRoots after.protocolTasks) :
    loadWorkerProtocol after taskId = .ok state := by
  obtain ⟨rfl, valid, rooted, consistent, stored, own⟩ := load_consistent loaded
  have storedAfter := rows _ stored
  have found : after.protocolTasks.find? state.taskId = some (taskValues state) :=
    Table.find?_some.mpr ⟨storedAfter, rfl⟩
  have sameLeases : leasesForTask after state.taskId = state.workers := by
    rw [own]
    refine eq_of_sorted ?_ ?_ (pairwise_sortedWorkers _) (pairwise_sortedWorkers _) (fun lease => ?_)
    · exact Distinct.sorted ((List.filter_sublist.map _).nodup after.protocolLeases.distinct)
    · exact Distinct.sorted ((List.filter_sublist.map _).nodup db.protocolLeases.distinct)
    · rw [mem_leasesForTask, mem_leasesForTask]
      exact and_congr_left (leases lease)
  have exists_task {wanted : String} : (∃ task ∈ db.tasks, task.taskId = wanted) →
      ∃ task ∈ after.tasks, task.taskId = wanted := by
    rintro ⟨task, member, rfl⟩
    obtain ⟨later, present, same, _⟩ := tasks task member
    exact ⟨later, present, same⟩
  have rootedAfter : Rooted after state := by
    refine ⟨exists_task rooted.root, fun parent chosen => ?_⟩
    refine ⟨exists_task (rooted.parent parent chosen).1, fun row inside equal => ?_⟩
    exact roots (taskValues state) storedAfter row inside (equal.symm ▸ chosen)
  have consistentAfter : Consistent after state := by
    obtain ⟨task, member, rest⟩ := consistent.task
    obtain ⟨_, present, _, own⟩ := tasks task member
    obtain rfl := own rest.1
    refine ⟨⟨_, present, rest⟩, fun lease inside => ?_, fun row inside owned => ?_, consistent.successor⟩
    · obtain ⟨row, present, agrees⟩ := consistent.workers lease inside
      exact ⟨row, (workers row (agrees.taskId.trans (valid.owned lease inside))).mpr present, agrees⟩
    · exact consistent.canonical row ((workers row owned).mp inside) owned
  simp only [loadWorkerProtocol, found, sameLeases, stateFromRow_taskValues, valid.check, bind_eq_ok]
  exact ⟨(), (validateLineageReferences_iff _ _).mpr rootedAfter, (),
    (validateLegacyConsistency_iff _ valid.owned).mpr consistentAfter, rfl⟩

end Loading

section Bootstrap
variable {db after : Database} {taskId : String} {parent root childKey : Option String} {state : WorkerTaskState}

private theorem resolveLineage_requested {lineage : TaskLineage}
    (resolved : resolveLineage db taskId parent root childKey = .ok lineage) :
    lineage.parentTaskId = parent.map strip ∧ requestedRoot db taskId parent root = some lineage.rootTaskId := by
  simp only [resolveLineage, bind_eq_ok] at resolved
  obtain ⟨key, _, rest⟩ := resolved
  split at rest
  next =>
    simp only [bind_eq_ok] at rest
    obtain ⟨_, _, same⟩ := rest
    cases same
    exact ⟨rfl, rfl⟩
  next named =>
    simp only [bind_eq_ok] at rest
    obtain ⟨_, _, _, _, chosen, picked, _, _, _, _, _, _, same⟩ := rest
    cases same
    refine ⟨rfl, ?_⟩
    unfold childRoot at picked
    split at picked
    next => cases picked; rfl
    next row found => cases picked; rw [requestedRoot, found]; rfl
    next => cases picked

/-- What a first bootstrap adds. -/
structure Booted (db : Database) (taskId : String) (parent root : Option String) (after : Database) : Prop where
  tasks : after.tasks = db.tasks
  workers : after.workers = db.workers
  row : ∃ row, db.protocolTasks.insert? row = some after.protocolTasks ∧ row.taskId = taskId ∧
    row.parentTaskId = parent.map strip ∧ requestedRoot db taskId parent root = some row.rootTaskId ∧
    ∀ parent, row.parentTaskId = some parent → (∃ task ∈ db.tasks, task.taskId = parent) ∧
      ∀ above ∈ db.protocolTasks, above.taskId = parent → above.rootTaskId = row.rootTaskId
  leases : ∃ added : List WorkerLease, Distinct added ∧
    (∀ lease ∈ added, lease.taskId = taskId ∧ ∃ row ∈ db.workers, row.taskId = taskId ∧ row.workerId = lease.workerId) ∧
    after.protocolLeases = added.foldl Table.upsert db.protocolLeases

theorem bootstrap_cases (done : bootstrapWorkerProtocol taskId parent root childKey db = .ok (state, after)) :
    after = db ∨ db.protocolTasks.find? taskId = none ∧ Booted db taskId parent root after := by
  unfold bootstrapWorkerProtocol at done
  split at done
  next =>
    simp only [bind_eq_ok] at done
    obtain ⟨_, _, _, _, same⟩ := done
    cases same
    exact Or.inl rfl
  next missing =>
    split at done
    next => cases done
    next task found =>
      obtain ⟨member, rfl⟩ := Table.find?_some.mp found
      simp only [bind_eq_ok] at done
      obtain ⟨lineage, resolved, built, legacy, next, inserted, same⟩ := done
      cases same
      obtain ⟨valid, sameLineage, _, _, _, _, _, _, backward⟩ := stateFromLegacy_ok legacy
      obtain ⟨sameTask, _, parents⟩ := resolveLineage_ok resolved ⟨task, member, rfl⟩
      obtain ⟨requestedParent, requested⟩ := resolveLineage_requested resolved
      have absent : db.protocolTasks.find? task.taskId = none := by
        simpa [protocolStateExists] using missing
      unfold insertProtocolSnapshot at inserted
      split at inserted
      next => cases inserted
      next protocolTasks added =>
        obtain ⟨_, rfl⟩ := upsert_loop.mp inserted
        subst sameLineage
        refine Or.inr ⟨absent, rfl, rfl, ⟨taskValues state, added, sameTask, requestedParent, requested, ?_⟩,
          state.workers, valid.distinct, fun lease inside => ?_, rfl⟩
        · intro above chosen
          exact (parents above chosen).2
        · obtain ⟨row, present, derived⟩ := backward lease inside
          obtain ⟨stored, owned⟩ := mem_workersForTask.mp present
          exact ⟨derived.taskId, row, stored, owned, derived.workerId.symm⟩

private theorem Booted.leases_kept (booted : Booted db taskId parent root after) {other : String}
    {held : WorkerTaskState} (loaded : loadWorkerProtocol db other = .ok held) (different : other ≠ taskId)
    (lease : WorkerLease) (owned : lease.taskId = other) :
    lease ∈ after.protocolLeases ↔ lease ∈ db.protocolLeases := by
  obtain ⟨rfl, _, _, consistent, _, own⟩ := load_consistent loaded
  obtain ⟨added, distinct, foreign, same⟩ := booted.leases
  rw [same, mem_upsert_loop _ distinct]
  constructor
  · rintro (new | ⟨old, _⟩)
    · exact absurd (owned.symm.trans (foreign lease new).1) different
    · exact old
  · intro old
    refine Or.inr ⟨old, fun later inside clash => ?_⟩
    obtain ⟨_, row, stored, rowOwned, named⟩ := foreign later inside
    obtain ⟨canonical, present, agrees⟩ := consistent.workers lease (own ▸ mem_leasesForTask.mpr ⟨old, owned⟩)
    have equal := Table.eq_of_key stored present ((named.trans clash).trans agrees.workerId.symm)
    exact different (owned.symm.trans (agrees.taskId.symm.trans (equal ▸ rowOwned)))

/-- A first bootstrap that fits keeps lineage and the loads of all tasks. -/
theorem Booted.kept (booted : Booted db taskId parent root after) (kept : LineageKept db)
    (fits : FitsBelow db taskId parent root) : LineageKept after ∧ KeepsLoading db after := by
  obtain ⟨row, inserted, rfl, chosen, requested, parents⟩ := booted.row
  have roots : SameRoots after.protocolTasks := by
    refine roots_insert inserted kept.roots (fun above present named => ?_) (fun child present named => ?_)
    · exact (parents above.taskId named).2 above present rfl
    · exact Option.some.inj (requested.symm.trans (fits.children child present named))
  have forest : Forest (storedParent after.protocolTasks) := by
    refine forest_insert inserted kept.forest (fun above named => ?_)
    rw [chosen, Option.map_eq_some_iff] at named
    obtain ⟨given, asked, rfl⟩ := named
    exact fits.above given asked
  refine ⟨⟨⟨forest, roots⟩, fun other present above named => ?_⟩, fun other held loaded => ?_⟩
  · rw [booted.tasks]
    rcases (Table.mem_insert? inserted).mp present with old | rfl
    · exact kept.known other old above named
    · exact (parents above named).1
  · have different : other ≠ row.taskId := by
      rintro rfl
      obtain ⟨same, _, _, _, stored, _⟩ := load_consistent loaded
      exact (Table.insert?_some.mp inserted).1 _ stored same
    refine load_kept loaded (fun task member => ?_) (fun worker _ => ?_) (booted.leases_kept loaded different)
      (fun old member => (Table.mem_insert? inserted).mpr (Or.inl member)) roots
    · rw [booted.tasks]
      exact ⟨task, member, rfl, fun _ => rfl⟩
    · rw [booted.workers]

theorem KeepsLoading.refl (db : Database) : KeepsLoading db db := fun _ _ loaded => loaded

/-- A bootstrap that returns keeps both when it fits. -/
theorem bootstrap_kept (kept : LineageKept db)
    (fits : db.protocolTasks.find? taskId = none → FitsBelow db taskId parent root)
    (done : bootstrapWorkerProtocol taskId parent root childKey db = .ok (state, after)) :
    LineageKept after ∧ KeepsLoading db after := by
  rcases bootstrap_cases done with rfl | ⟨missing, booted⟩
  · exact ⟨kept, .refl _⟩
  · exact booted.kept kept (fits missing)

end Bootstrap

section Dispatch
variable {db after : Database} {args : DispatchArgs}

/-- A new task changes nothing for the others. -/
theorem insertTask_kept {task : TaskRecord} (kept : LineageKept db) (done : insertTask task db = .ok ((), after)) :
    LineageKept after ∧ KeepsLoading db after ∧ db.tasks.insert? task = some after.tasks ∧
      after = { db with tasks := after.tasks } := by
  unfold insertTask at done
  split at done
  next => cases done
  next tasks inserted =>
    cases done
    have stay : ∀ old ∈ db.tasks, old ∈ tasks := fun old member => (Table.mem_insert? inserted).mpr (Or.inl member)
    refine ⟨⟨⟨kept.forest, kept.roots⟩, fun row member above named => ?_⟩, fun taskId state loaded => ?_, inserted, rfl⟩
    · obtain ⟨old, present, same⟩ := kept.known row member above named
      exact ⟨old, stay old present, same⟩
    · exact load_kept loaded (fun old member => ⟨old, stay old member, rfl, fun _ => rfl⟩) (fun _ _ => Iff.rfl) (fun _ _ => Iff.rfl) (fun _ member => member) kept.roots

theorem insertTask_found {task : TaskRecord} (done : insertTask task db = .ok ((), after)) :
    after.tasks.find? task.taskId = some task := by
  unfold insertTask at done
  split at done
  next => cases done
  next tasks inserted =>
    cases done
    exact Table.find?_some.mpr ⟨(Table.mem_insert? inserted).mpr (Or.inr rfl), rfl⟩

/-- The child is a task that nobody has named before. -/
theorem insertChild_kept {root : String} (kept : LineageKept db)
    (parent : ∃ row ∈ db.protocolTasks, row.taskId = args.parentTaskId ∧ row.rootTaskId = root)
    (known : ∃ task ∈ db.tasks, task.taskId = args.parentTaskId) (different : args.chosenId ≠ args.parentTaskId)
    (done : insertChild args root db = .ok after) : LineageKept after ∧ KeepsLoading db after := by
  obtain ⟨middle, protocolTasks, _, childDispatches, first, added, _, _, rfl⟩ := insertChild_ok done
  obtain ⟨middleKept, loading, inserted, shape⟩ := insertTask_kept kept first
  have unused : ∀ child ∈ middle.protocolTasks, child.parentTaskId ≠ some args.chosenId := by
    intro child member named
    have old : child ∈ db.protocolTasks := by
      rw [shape] at member
      exact member
    obtain ⟨task, present, same⟩ := kept.known child old _ named
    exact (Table.insert?_some.mp inserted).1 task present same
  obtain ⟨above, member, named, sameRoot⟩ := parent
  have present : above ∈ middle.protocolTasks := by
    rw [shape]
    exact member
  have roots : SameRoots protocolTasks := by
    refine roots_insert added middleKept.roots (fun other inside equal => ?_) (fun child inside equal => ?_)
    · have same : other.taskId = args.parentTaskId := (Option.some.inj equal).symm
      rw [Table.eq_of_key inside present (same.trans named.symm)]
      exact sameRoot
    · exact absurd equal (unused child inside)
  have forest : Forest (storedParent protocolTasks) := by
    refine forest_insert added middleKept.forest (fun other chosen => ?_)
    cases chosen
    refine not_above_of_unused (fun child parentOf => ?_) (Ne.symm different)
    obtain ⟨row, inside, _, equal⟩ := storedParent_some.mp parentOf
    exact unused row inside equal
  refine ⟨⟨⟨forest, roots⟩, fun row inside other chosen => ?_⟩, loading.trans fun taskId state loaded => ?_⟩
  · rcases (Table.mem_insert? added).mp inside with old | rfl
    · exact middleKept.known row old other chosen
    · cases chosen
      obtain ⟨task, stored, same⟩ := known
      exact ⟨task, (Table.mem_insert? inserted).mpr (Or.inl stored), same⟩
  · exact load_kept loaded (fun task old => ⟨task, old, rfl, fun _ => rfl⟩) (fun _ _ => Iff.rfl) (fun _ _ => Iff.rfl)
      (fun row old => (Table.mem_insert? added).mpr (Or.inl old)) roots

theorem createChildDispatchWrite_kept {found : Option ChildDispatchRecord} (kept : LineageKept db)
    (different : args.chosenId ≠ args.parentTaskId)
    (done : createChildDispatchWrite args db = .ok (found, after)) : LineageKept after ∧ KeepsLoading db after := by
  simp only [createChildDispatchWrite, bind_eq_ok, refuse_eq_ok, find_task_ne_none] at done
  obtain ⟨_, known, rest⟩ := done
  split at rest
  next => cases rest
  next parent stored =>
    simp only [bind_eq_ok] at rest
    obtain ⟨_, _, rest⟩ := rest
    split at rest
    next =>
      simp only [bind_eq_ok] at rest
      obtain ⟨_, _, same⟩ := rest
      cases same
      exact ⟨kept, .refl _⟩
    next =>
      simp only [bind_eq_ok] at rest
      obtain ⟨_, _, next, inserted, same⟩ := rest
      cases same
      obtain ⟨member, named⟩ := Table.find?_some.mp stored
      exact insertChild_kept kept ⟨parent, member, named, rfl⟩ known different inserted

end Dispatch

section Calls
variable {db : Database}

/-- Lineage and loads from one database to another. -/
def Carries (db after : Database) : Prop := LineageKept db → LineageKept after ∧ KeepsLoading db after

private theorem Carries.refl (db : Database) : Carries db db := fun kept => ⟨kept, .refl db⟩

private theorem Carries.trans {first second third : Database} (start : Carries first second)
    (rest : Carries second third) : Carries first third := by
  intro kept
  obtain ⟨middle, loading⟩ := start kept
  obtain ⟨last, later⟩ := rest middle
  exact ⟨last, loading.trans later⟩

private theorem transaction_carries {α : Type} {work : Transaction α}
    (step : ∀ value after, work db = .ok (value, after) → Carries db after) :
    Carries db ((transaction work : ExceptT SupervisorError (Program Database NoAnswer) α).run.alone db).2 := by
  cases result : work db with
  | ok pair =>
    rw [alone_transaction_ok result]
    exact step pair.1 pair.2 result
  | error error =>
    rw [alone_transaction_error result]
    exact .refl db

private theorem andThen_carries {α β : Type} {program : ExceptT SupervisorError (Program Database NoAnswer) α}
    {next : α → ExceptT SupervisorError (Program Database NoAnswer) β}
    (first : Carries db (program.run.alone db).2)
    (rest : ∀ value, (program.run.alone db).1 = .ok value →
      Carries (program.run.alone db).2 ((next value).run.alone (program.run.alone db).2).2) :
    Carries db ((program >>= next).run.alone db).2 := by
  rcases alone_andThen program next db with ⟨value, returned, same⟩ | ⟨error, _, same⟩
  · rw [same]
    exact first.trans (rest value returned)
  · rw [same]
    exact first

private theorem requireParentProtocol_carries {taskId : String}
    (fits : db.protocolTasks.find? taskId = none → FitsBelow db taskId none none) :
    Carries db ((requireParentProtocol taskId).run.alone db).2 := by
  refine andThen_carries (.refl db) (fun exists? _ => ?_)
  cases exists? with
  | true => exact .refl db
  | false =>
    exact andThen_carries (transaction_carries fun state after done kept => bootstrap_kept kept fits done)
      (fun _ _ => .refl _)

private theorem createChildDispatch_carries (args : DispatchArgs) (fits : Fits db (.createChildDispatch args)) :
    Carries db ((createChildDispatch args).run.alone db).2 := by
  refine andThen_carries (.refl db) (fun _ accepted => ?_)
  have different : args.cleaned.chosenId ≠ args.cleaned.parentTaskId := by
    simp only [alone_ensure, DispatchArgs.accept, bind_eq_ok, refuse_eq_ok] at accepted
    obtain ⟨_, _, _, _, _, _, apart⟩ := accepted
    exact fun same => apart (Or.inr same)
  refine andThen_carries (requireParentProtocol_carries (fits _ none none rfl)) (fun _ _ => ?_)
  refine andThen_carries (transaction_carries fun found after done kept =>
    createChildDispatchWrite_kept kept different done) (fun found _ => ?_)
  cases found with
  | some record => exact .refl _
  | none => exact .refl _

private theorem addWorkerWrite_kept {after : Database} {taskId url workerId : String} {conversationId : Option String}
    {now : Time} (kept : LineageKept db) (missing : protocolStateExists db taskId = false)
    (vacant : ∀ task, db.tasks.find? taskId = some task → task.currentWorkerId = none)
    (done : addWorkerWrite taskId url conversationId true workerId now db = .ok ((), after)) :
    LineageKept after ∧ KeepsLoading db after := by
  unfold addWorkerWrite at done
  split at done
  next => cases done
  next task found =>
    obtain ⟨member, rfl⟩ := Table.find?_some.mp found
    simp only [bind_eq_ok, insertWorker, vacant task found, Option.getD_none, if_true, Bool.not_true,
      Bool.false_eq_true, if_false, updateTask] at done
    obtain ⟨middle, inserted, rest⟩ := done
    split at inserted
    next => cases inserted
    next workers added =>
      cases inserted
      rw [found] at rest
      cases rest
      have stays (old : TaskRecord) (present : old ∈ db.tasks) : ∃ later ∈ db.tasks.replace
          { task with currentWorkerId := some workerId, updatedAt := now }, later.taskId = old.taskId ∧
          (old.taskId ≠ task.taskId → later = old) := by
        by_cases same : old.taskId = task.taskId
        · exact ⟨_, Table.mem_replace.mpr (Or.inl ⟨rfl, task, member, rfl⟩), same.symm, fun other => absurd same other⟩
        · exact ⟨old, Table.mem_replace.mpr (Or.inr ⟨present, same⟩), rfl, fun _ => rfl⟩
      refine ⟨⟨⟨kept.forest, kept.roots⟩, fun row inside above named => ?_⟩, fun other state loaded => ?_⟩
      · obtain ⟨old, present, rfl⟩ := kept.known row inside above named
        obtain ⟨later, new, same, _⟩ := stays old present
        exact ⟨later, new, same⟩
      · have different : other ≠ task.taskId := by
          rintro rfl
          obtain ⟨same, _, _, _, stored, _⟩ := load_consistent loaded
          have present : db.protocolTasks.find? task.taskId = some (taskValues state) :=
            Table.find?_some.mpr ⟨stored, same⟩
          rw [protocolStateExists, present] at missing
          cases missing
        refine load_kept loaded (fun old present => ?_) (fun row owned => ?_) (fun _ _ => Iff.rfl)
          (fun _ old => old) kept.roots
        · obtain ⟨later, new, same, own⟩ := stays old present
          exact ⟨later, new, same, fun equal => own (equal.trans_ne different)⟩
        · rw [Table.mem_insert? added]
          refine or_iff_left fun same => different ?_
          rw [same] at owned
          exact owned.symm

private theorem addWorker_carries {taskId url workerId : String} {conversationId : Option String} {now : Time}
    (vacant : ∀ task, db.tasks.find? taskId = some task → task.currentWorkerId = none) :
    Carries db ((addWorker taskId url conversationId true workerId now).run.alone db).2 := by
  refine andThen_carries (.refl db) (fun _ checked => ?_)
  have missing : protocolStateExists db taskId = false := by
    simp only [alone_check, addWorkerCheck, bind_eq_ok, refuse_eq_ok, Bool.not_eq_true] at checked
    exact checked.choose_spec.2
  exact andThen_carries (transaction_carries fun _ after done kept => addWorkerWrite_kept kept missing vacant done)
    (fun _ _ => .refl _)

private theorem registerTask_carries (args : TaskArgs) : Carries db ((registerTask args).run.alone db).2 := by
  refine andThen_carries (transaction_carries fun _ after done kept => ?_) (fun _ returned => ?_)
  · exact ⟨(insertTask_kept kept done).1, (insertTask_kept kept done).2.1⟩
  · have done := alone_transaction_returned returned
    refine andThen_carries (.refl _) (fun task _ => ?_)
    rw [alone_check]
    split
    next => exact .refl _
    next =>
      refine andThen_carries (addWorker_carries fun task found => ?_) (fun _ _ => .refl _)
      have stored := insertTask_found done
      cases stored.symm.trans found
      rfl

/-- A call keeps lineage and the loads of all tasks when its bootstrap fits. -/
theorem perform_carries (call : LineageCall) (fits : Fits db call) : Carries db (call.perform db) := by
  cases call with
  | registerTask args => exact registerTask_carries args
  | createChildDispatch args => exact createChildDispatch_carries args fits
  | bootstrapWorkerProtocol taskId parent root childKey =>
    intro kept
    simp only [LineageCall.perform, Transaction.after]
    split
    next done => exact bootstrap_kept kept (fits taskId parent root rfl) done
    next => exact ⟨kept, .refl db⟩

end Calls

/-- Every call of the sequence finds a lineage that it fits into. -/
def FittingRun (db : Database) : List LineageCall → Prop
  | [] => True
  | first :: rest => Fits db first ∧ FittingRun (first.perform db) rest

private theorem lineageKept_empty : LineageKept {} := by
  refine ⟨⟨fun taskId cycle => ?_, fun row member => ?_⟩, fun row member => ?_⟩
  · rcases TransGen.head'_iff.mp cycle with ⟨above, parent, _⟩
    obtain ⟨row, member, _⟩ := storedParent_some.mp parent
    exact absurd member List.not_mem_nil
  · exact absurd member List.not_mem_nil
  · exact absurd member List.not_mem_nil

private theorem run_kept {db : Database} {earlier later : List LineageCall} (kept : LineageKept db)
    (fitting : FittingRun db (earlier ++ later)) :
    LineageKept (run LineageCall.perform db earlier) ∧ FittingRun (run LineageCall.perform db earlier) later := by
  induction earlier generalizing db with
  | nil => exact ⟨kept, fitting⟩
  | cons call earlier ih => exact ih (perform_carries call fitting.1 kept).1 fitting.2

/-- Lineage is a forest with consistent roots after every prefix of the calls, and
no call makes the protocol of a task fail to load. -/
theorem lineage_forest (calls : List LineageCall) (fitting : FittingRun {} calls) :
    (∀ earlier later, calls = earlier ++ later → LineageSound (run LineageCall.perform {} earlier)) ∧
    ∀ earlier call later, calls = earlier ++ call :: later →
      KeepsLoading (run LineageCall.perform {} earlier) (run LineageCall.perform {} (earlier ++ [call])) := by
  refine ⟨fun earlier later cut => ?_, fun earlier call later cut => ?_⟩
  · subst cut
    exact (run_kept lineageKept_empty fitting).1.toLineageSound
  · subst cut
    obtain ⟨kept, fits, _⟩ := run_kept lineageKept_empty fitting
    rw [run_append]
    exact (perform_carries call fits kept).2

def newTask (taskId : String) : LineageCall :=
  .registerTask
    { taskId := some taskId, project := "project", objective := "objective", cwd := "cwd", generatedTaskId := "task_1"
      generatedWorkerId := "worker_1", now := 0, workerNow := 0 }

/-- A child of `parent` under the root `root`, when neither has protocol state. -/
def earlyChild : List LineageCall :=
  [newTask "root", newTask "parent", newTask "child",
    .bootstrapWorkerProtocol "child" (some "parent") (some "root") none]

/-- The parent comes later with the root that its child has named. -/
def lateFit : List LineageCall :=
  earlyChild ++ [.bootstrapWorkerProtocol "parent" (some "root") (some "root") none]

/-- The parent comes later as a root of its own, and its child stops loading. -/
def lateParent : List LineageCall := earlyChild ++ [.bootstrapWorkerProtocol "parent" none none none]

/-- The parent comes later as a child of its child. -/
def lateCycle : List LineageCall :=
  earlyChild ++ [.bootstrapWorkerProtocol "parent" (some "child") (some "root") none]

private theorem fits_newTask (db : Database) (taskId : String) : Fits db (newTask taskId) := nofun

theorem lineage_forest_late_fit : FittingRun {} lateFit ∧ LineageSound (run LineageCall.perform {} lateFit) := by
  have fitting : FittingRun {} lateFit := by
    refine ⟨fits_newTask _ _, fits_newTask _ _, fits_newTask _ _, ?_, ?_, trivial⟩
    · rintro _ _ _ ⟨⟩ _
      refine ⟨by decide +kernel, fun parent chosen => ?_⟩
      cases chosen
      exact not_above_of_top (by decide +kernel) (by decide +kernel)
    · rintro _ _ _ ⟨⟩ _
      refine ⟨by decide +kernel, fun parent chosen => ?_⟩
      cases chosen
      exact not_above_of_top (by decide +kernel) (by decide +kernel)
  exact ⟨fitting, (lineage_forest lateFit fitting).1 lateFit [] rfl⟩

theorem lineage_forest_late_parent :
    (∃ state, loadWorkerProtocol (run LineageCall.perform {} earlyChild) "child" = .ok state) ∧
    loadWorkerProtocol (run LineageCall.perform {} lateParent) "child" =
      .error (.persistence "protocol child root disagrees with parent root") ∧
    ¬ SameRoots (run LineageCall.perform {} lateParent).protocolTasks ∧
    ¬ Forest (storedParent (run LineageCall.perform {} lateCycle).protocolTasks) := by
  have loads : (loadWorkerProtocol (run LineageCall.perform {} earlyChild) "child").toBool = true := by decide +kernel
  refine ⟨?_, by decide +kernel, ?_, fun forest => ?_⟩
  · cases result : loadWorkerProtocol (run LineageCall.perform {} earlyChild) "child" with
    | ok state => exact ⟨state, rfl⟩
    | error error =>
      rw [result] at loads
      cases loads
  · unfold SameRoots
    decide +kernel
  · have up : ParentOf (storedParent (run LineageCall.perform {} lateCycle).protocolTasks) "child" "parent" := by
      unfold ParentOf
      decide +kernel
    have down : ParentOf (storedParent (run LineageCall.perform {} lateCycle).protocolTasks) "parent" "child" := by
      unfold ParentOf
      decide +kernel
    exact forest "child" (.head up (.single down))

end WebSupervisor.Registry.Proofs
