import WebSupervisor.ChildBatch
import WebSupervisor.Proofs.SpawnScan

/-! The windows that a parent's children share. A snapshot of them writes nothing but
repaired state columns, and every window that it offers for reuse is one of a child that
has finished or has a session. -/

namespace WebSupervisor.ChildBatch.Proofs
open Library Library.Program Registry Registry.Proofs ChildSpawn

/-- Everything but the spawns is the same. -/
def OnlySpawns (before after : Database) : Prop :=
  after = { before with childSpawnAttempts := after.childSpawnAttempts }

/-- The window is named by a record of the task. -/
def Holds (db : Database) (task : TaskRecord) : ReuseSource → Prop
  | .fresh => False
  | .worker worker binding =>
    task.currentWorkerId.getD "" = worker.workerId ∧ worker.workerId ≠ "" ∧ getWorker db worker.workerId = .ok worker ∧
      getWorkerWindowBinding db worker.workerId 0 false = some binding
  | .completedSpawn spawn => task.state = .completed ∧ spawn.state = .completed ∧ spawn.childTaskId = task.taskId

/-- The child whose window it is has finished or has a session. -/
def Released (db : Database) (item : ReusableWindow) : Prop :=
  ∃ task, getTask db item.childTaskId = .ok task ∧ (task.state = .completed ∨ task.lsmSessionId.getD "" ≠ "") ∧
    Holds db task item.source

/-- The child has neither finished nor a worker. -/
def Unstarted (db : Database) (childTaskId : String) : Prop :=
  ∃ task, getTask db childTaskId = .ok task ∧ task.state ≠ .completed ∧ task.currentWorkerId.getD "" = ""

section Facts
variable {db store before middle after : Database} {item : ReusableWindow} {childTaskId : String}

theorem OnlySpawns.refl (db : Database) : OnlySpawns db db := rfl

theorem OnlySpawns.trans (one : OnlySpawns before middle) (two : OnlySpawns middle after) : OnlySpawns before after := by
  rw [OnlySpawns, two, one]

theorem OnlySpawns.getTask (only : OnlySpawns before after) (taskId : String) :
    Registry.getTask after taskId = Registry.getTask before taskId := by rw [only]; rfl

theorem OnlySpawns.getWorker (only : OnlySpawns before after) (workerId : String) :
    Registry.getWorker after workerId = Registry.getWorker before workerId := by rw [only]; rfl

theorem OnlySpawns.getWorkerWindowBinding (only : OnlySpawns before after) (workerId : String) :
    Registry.getWorkerWindowBinding after workerId 0 false = Registry.getWorkerWindowBinding before workerId 0 false := by
  rw [only]
  rfl

theorem OnlySpawns.holds (only : OnlySpawns before after) {task : TaskRecord} {source : ReuseSource} :
    Holds after task source ↔ Holds before task source := by
  cases source with
  | fresh => exact Iff.rfl
  | worker worker binding => rw [Holds, Holds, only.getWorker, only.getWorkerWindowBinding]
  | completedSpawn spawn => exact Iff.rfl

theorem OnlySpawns.released (only : OnlySpawns before after) : Released after item ↔ Released before item := by
  simp only [Released, only.getTask, only.holds]

theorem OnlySpawns.unstarted (only : OnlySpawns before after) :
    Unstarted after childTaskId ↔ Unstarted before childTaskId := by simp only [Unstarted, only.getTask]

/-- A child without a worker has no window to give up. -/
theorem Released.other (released : Released db item) (unstarted : Unstarted db childTaskId) :
    item.childTaskId ≠ childTaskId := by
  rintro rfl
  obtain ⟨task, found, _, holds⟩ := released
  obtain ⟨own, same, working, idle⟩ := unstarted
  cases found.symm.trans same
  cases source : item.source with
  | fresh =>
    rw [source] at holds
    exact holds
  | worker worker binding =>
    rw [source] at holds
    exact holds.2.1 (holds.1.symm.trans idle)
  | completedSpawn spawn =>
    rw [source] at holds
    exact working holds.1

end Facts

section Silence
variable {childTaskIds : List String}

end Silence

section Snapshot
variable {db after : Database} {trace : List (Happening Database SpawnAnswer)} {childTaskIds : List String}

end Snapshot

end WebSupervisor.ChildBatch.Proofs
