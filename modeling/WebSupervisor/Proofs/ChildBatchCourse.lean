import WebSupervisor.Proofs.ChildBatchPool
import WebSupervisor.Proofs.ChildCompletion
import WebSupervisor.Proofs.SpawnRequests

/-! The course of one advancement of a parent's children. What its first look finds
blocked keeps the whole step from the browser; else the step is a chain of parts, each of
which reaches the browser for one purpose, and the chain ends with the first part that
fails. The first look takes the newest unresolved spawn of a child for its only one. -/

namespace WebSupervisor.ChildBatch.Proofs
open Library Library.Program Registry Registry.Proofs ChildSpawn ChildSpawn.Proofs

/-- A request that reaches the browser. -/
def Browser : SpawnRequest → Prop
  | .transport _ | .waitForDelivery .. => True
  | .workspace _ | .clock | .uuid => False

/-- The browser methods of `execute_child_spawn_prompt`. -/
def Sending : SpawnRequest → Prop
  | .transport (.sendAuthorized ..) | .transport (.waitForConversation _)
  | .transport (.invokeExistingDraftAuthorized ..) | .waitForDelivery .. => True
  | _ => False

/-- The browser methods that close a page. -/
def Closing : SpawnRequest → Prop
  | .transport (.closeWorkerBindingAuthorized ..) | .transport (.closeCompletedSpawnAuthorized _) => True
  | _ => False

/-- The call that opens a window, or takes over that of the source. -/
def Opening (source : Option ReusableWindow) (request : SpawnRequest) : Prop :=
  ∃ submitted, request = .transport ((source.elim .fresh ReusableWindow.source).call submitted)

def Quiet (trace : List (Happening Database SpawnAnswer)) : Prop :=
  ∀ store request answer, .asked store request answer ∈ trace → ¬ Browser request

/-- The call has returned an attempt in this state. -/
def EndsIn (outcome : Except SupervisorError ChildSpawnAttempt) (state : ChildSpawnAttemptState) : Prop :=
  ∃ attempt, outcome = .ok attempt ∧ attempt.state = state

/-- What the step does besides its calls to the browser: it reads and counts, and it arms
a child. -/
inductive Looking (args : BatchArgs) (childTaskIds : List String) : {α : Type} → Spawning α → Prop where
  | children : Looking args childTaskIds (check (fun db => .ok (childDispatchesForParent db args.parentTaskId)))
  | probe : Looking args childTaskIds (check (fun db => .ok (unresolvedProbeMutationOperation db)))
  | preflight (report : ChildBatchReport) : Looking args childTaskIds (preflight report childTaskIds)
  | task (childTaskId : String) : Looking args childTaskIds (check (fun db => getTask db childTaskId))
  | unresolved (childTaskId : String) : Looking args childTaskIds (unresolvedChildSpawnAttempt childTaskId)
  | arm (childTaskId : String) : Looking args childTaskIds (armChild args childTaskId)
  | snapshot : Looking args childTaskIds (poolSnapshot childTaskIds)
  | counts (report : ChildBatchReport) : Looking args childTaskIds (refreshCounts childTaskIds report)

/-- The chain of parts between two stores. Every open and every send of the step is a part
of its own, a send that a cooldown keeps from the browser too. A window is opened right
after a snapshot that offers none and has room, or it is one that the snapshot offers and
that is free when it is taken. With the first open that does not end in WINDOW_BOUND and
the first send that does not end in COMPLETED the step is over. -/
inductive Course (args : BatchArgs) (childTaskIds : List String) :
    Database → List (Happening Database SpawnAnswer) → Database → Prop where
  | done {store : Database} : Course args childTaskIds store [] store
  | looks {α : Type} {program : Spawning α} {start middle after : Database}
      {part rest : List (Happening Database SpawnAnswer)} {outcome : Except SupervisorError α}
      (looking : Looking args childTaskIds program) (looked : Solo program.run start part outcome middle)
      (quiet : Quiet part) (later : Course args childTaskIds middle rest after) :
      Course args childTaskIds start (part ++ rest) after
  | opens {childTaskId attemptId : String} {start shot middle after : Database} {pool : Pool}
      {source : Option ReusableWindow} {looking opening rest : List (Happening Database SpawnAnswer)}
      {outcome : Except SupervisorError ChildSpawnAttempt}
      (snapshot : Solo (poolSnapshot childTaskIds).run start looking (.ok pool) shot) (quiet : Quiet looking)
      (chosen : source = pool.reusable.find? (·.childTaskId ≠ childTaskId))
      (room : source = none → pool.reusable = [] ∧ pool.windows.length < args.maxWindows)
      (opened : Solo (openFrom attemptId source).run shot opening outcome middle)
      (calls : ∀ store request answer, .asked store request answer ∈ opening → Browser request →
        Opening source request ∧ ∀ item ∈ source, Released store item)
      (bound : EndsIn outcome .windowBound → Course args childTaskIds middle rest after)
      (stopped : ¬ EndsIn outcome .windowBound → rest = [] ∧ after = middle) :
      Course args childTaskIds start (looking ++ opening ++ rest) after
  | sends {attemptId : String} {settings : PromptSettings} {start middle after : Database}
      {sending rest : List (Happening Database SpawnAnswer)} {outcome : Except SupervisorError ChildSpawnAttempt}
      (sent : Solo (executeChildSpawnPrompt attemptId settings).run start sending outcome middle)
      (calls : ∀ store request answer, .asked store request answer ∈ sending → Browser request → Sending request)
      (completed : EndsIn outcome .completed → Course args childTaskIds middle rest after)
      (stopped : ¬ EndsIn outcome .completed → rest = [] ∧ after = middle) :
      Course args childTaskIds start (sending ++ rest) after
  | closes {start after : Database} {closing : List (Happening Database SpawnAnswer)} {report : ChildBatchReport}
      {outcome : Except SupervisorError ChildBatchReport}
      (closed : Solo (finishBatch args childTaskIds report).run start closing outcome after)
      (calls : ∀ store request answer, .asked store request answer ∈ closing → Browser request → Closing request) :
      Course args childTaskIds start closing after

section Parts
variable {args : BatchArgs} {childTaskIds : List String} {one two trace : List (Happening Database SpawnAnswer)}
  {start store middle after : Database} {goesOn reached : Prop}

/-- A part after which the step goes on, or is over. -/
def Piece (args : BatchArgs) (childTaskIds : List String) (start : Database)
    (trace : List (Happening Database SpawnAnswer)) (middle : Database) (goesOn : Prop) : Prop :=
  ∀ rest after, (goesOn → Course args childTaskIds middle rest after) → (¬ goesOn → rest = [] ∧ after = middle) →
    Course args childTaskIds start (trace ++ rest) after

/-- What follows a part. -/
theorem Course.following {rest : List (Happening Database SpawnAnswer)}
    (go : goesOn → Course args childTaskIds middle rest after) (stop : ¬ goesOn → rest = [] ∧ after = middle) :
    Course args childTaskIds middle rest after := by
  by_cases goes : goesOn
  · exact go goes
  · obtain ⟨rfl, rfl⟩ := stop goes
    exact .done

theorem Piece.nil : Piece args childTaskIds store [] store goesOn := fun _ _ go stop => Course.following go stop

theorem Piece.looks {α : Type} {program : Spawning α} {outcome : Except SupervisorError α}
    (looking : Looking args childTaskIds program) (looked : Solo program.run start trace outcome middle)
    (quiet : Quiet trace) : Piece args childTaskIds start trace middle goesOn :=
  fun _ _ go stop => .looks looking looked quiet (Course.following go stop)

theorem Piece.seq (first : Piece args childTaskIds start one store reached)
    (second : reached → Piece args childTaskIds store two middle goesOn)
    (ended : ¬ reached → two = [] ∧ middle = store ∧ ¬ goesOn) :
    Piece args childTaskIds start (one ++ two) middle goesOn := by
  intro rest after go stop
  rw [List.append_assoc]
  refine first _ _ (fun goes => second goes rest after go stop) (fun stops => ?_)
  obtain ⟨rfl, rfl, halted⟩ := ended stops
  exact stop halted

/-- A part that the step always goes on after. -/
theorem Piece.cons {α : Type} {program : Spawning α} {outcome : Except SupervisorError α}
    (looking : Looking args childTaskIds program) (looked : Solo program.run start one outcome store) (quiet : Quiet one)
    (second : Piece args childTaskIds store two middle goesOn) :
    Piece args childTaskIds start (one ++ two) middle goesOn :=
  (Piece.looks looking looked quiet : Piece args childTaskIds start one store True).seq (fun _ => second)
    (fun stops => absurd trivial stops)

theorem Piece.course (piece : Piece args childTaskIds start trace middle goesOn) :
    Course args childTaskIds start trace middle := by
  have alone := piece [] middle (fun _ => .done) (fun _ => ⟨rfl, rfl⟩)
  rwa [List.append_nil] at alone

theorem quiet_of_silent {α : Type} {program : Program Database SpawnAnswer α} {start after : Database} {value : α}
    (silent : Silent program) (run : Solo program start trace value after) : Quiet trace :=
  fun _ _ _ asked => (silent.solo run asked).elim

end Parts

section Requests
variable {db after : Database} {trace : List (Happening Database SpawnAnswer)} {attemptId childTaskId : String}
  {now : Time}

/-- What may be asked while a prompt is sent. -/
private def Sent (request : SpawnRequest) : Prop := Browser request → Sending request

end Requests

section Loop
variable {args : BatchArgs} {childTaskIds : List String} {db after : Database} {childTaskId attemptId : String}
  {trace : List (Happening Database SpawnAnswer)} {report : ChildBatchReport} {attempt : ChildSpawnAttempt}

end Loop

section Start
variable {db before after : Database} {trace : List (Happening Database SpawnAnswer)} {childTaskIds : List String}
  {childTaskId parentTaskId : String} {report : ChildBatchReport}

/-- The newest unresolved spawn of the child is such a one. -/
def NewestAmbiguous (db : Database) (childTaskId : String) : Prop :=
  ∃ attempt ∈ spawnPayloads db, attempt.childTaskId = childTaskId ∧ Ambiguous attempt.state ∧
    ∀ other ∈ spawnPayloads db, other.childTaskId = childTaskId → other.state.Unresolved → other.place ≤ attempt.place

/-- An external change of the child is unresolved. -/
def BlockedChild (spawn : Database → String → Prop) (db : Database) (childTaskId : String) : Prop :=
  (∃ attempt ∈ db.actionAttempts, attempt.taskId = childTaskId ∧ attempt.state.Unresolved) ∨
    (∃ attempt ∈ db.replacementAttempts, attempt.taskId = childTaskId ∧ attempt.state.Unresolved) ∨
    spawn db childTaskId

/-- The probe window or a child of the parent is blocked. -/
def BlockedBy (spawn : Database → String → Prop) (db : Database) (parentTaskId : String) : Prop :=
  (∃ operation ∈ db.probeMutationOperations, operation.state.Unresolved) ∨
    ∃ dispatch ∈ db.childDispatches, dispatch.parentTaskId = parentTaskId ∧ BlockedChild spawn db dispatch.childTaskId

/-- Something is blocked that a look at the newest unresolved spawns finds. -/
abbrev SeenBlocked : Database → String → Prop := BlockedBy NewestAmbiguous

end Start

section Batch
variable {args : BatchArgs} {start after : Database} {trace : List (Happening Database SpawnAnswer)}
  {outcome : Except SupervisorError ChildBatchReport}

/-- The children that the step walks through, as it has read them. -/
def batchChildren (db : Database) (parentTaskId : String) : List String :=
  (childDispatchesForParent db parentTaskId).map (·.childTaskId)

/-- The step asks nothing and leaves all records but stale state columns alone. -/
structure Idle (start after : Database) (trace : List (Happening Database SpawnAnswer)) : Prop where
  silent : ∀ store request answer, .asked store request answer ∉ trace
  payloads : SamePayloads start after

/-- The loop over the children, and what follows it. -/
def walk (args : BatchArgs) (childTaskIds : List String) (report : ChildBatchReport) : Spawning ChildBatchReport := do
  let advanced ← advanceChildren args childTaskIds report childTaskIds
  match advanced with
  | .ended report => pure report
  | .next report => finishBatch args childTaskIds report

/-- The step has got to its loop with all records as they were. -/
def WalksOn (args : BatchArgs) (start after : Database) (trace : List (Happening Database SpawnAnswer))
    (outcome : Except SupervisorError ChildBatchReport) : Prop :=
  ∃ report looking walking middle, trace = looking ++ walking ∧ SamePayloads start middle ∧
    Solo (walk args (batchChildren start args.parentTaskId) report).run middle walking outcome after

/-- The first look stops the step where it sees that something is blocked, and only there,
unless it raises. -/
structure FirstLook (args : BatchArgs) (start after : Database) (trace : List (Happening Database SpawnAnswer))
    (outcome : Except SupervisorError ChildBatchReport) : Prop where
  stops : SeenBlocked start args.parentTaskId → Idle start after trace
  passes : ¬ SeenBlocked start args.parentTaskId →
    WalksOn args start after trace outcome ∨ (∃ error, outcome = .error error) ∧ Idle start after trace

private theorem Idle.read (idle : Idle start after trace) : Idle start after (.changed start start :: trace) := by
  refine ⟨fun store request answer asked => ?_, idle.payloads⟩
  rcases List.mem_cons.mp asked with wrong | later
  · cases wrong
  · exact idle.silent store request answer later

private theorem FirstLook.raised {error : SupervisorError} (idle : Idle start after trace) :
    FirstLook args start after trace (.error error) :=
  ⟨fun _ => idle, fun _ => .inr ⟨⟨error, rfl⟩, idle⟩⟩

private theorem FirstLook.read (look : FirstLook args start after trace outcome) :
    FirstLook args start after (.changed start start :: trace) outcome := by
  refine ⟨fun seen => (look.stops seen).read, fun unseen => ?_⟩
  rcases look.passes unseen with ⟨report, looking, walking, middle, rfl, same, walks⟩ | ⟨raised, idle⟩
  · exact .inl ⟨report, .changed start start :: looking, walking, middle, rfl, same, walks⟩
  · exact .inr ⟨raised, idle.read⟩

private theorem Course.read {α : Type} {view : Database → Except SupervisorError α} {childTaskIds : List String}
    (looking : Looking args childTaskIds (check view)) (course : Course args childTaskIds start trace after) :
    Course args childTaskIds start (.changed start start :: trace) after := by
  have looked : Solo (check view : Spawning α).run start [.changed start start] (view start) start :=
    solo_check.mpr ⟨rfl, rfl, rfl⟩
  exact .looks looking looked (quiet_of_silent .check looked) course

end Batch

end WebSupervisor.ChildBatch.Proofs
