import WebSupervisor.Dispatcher
import WebSupervisor.Library.Table

/-! The order in which tasks ask for the attention of an operator, from `scheduler.py`. -/

namespace WebSupervisor.Scheduler
open Library

/-- `_PRIORITY`. -/
def priority : SupervisorState → Int
  | .needsHuman => 0
  | .blocked => 1
  | .reconciling => 2
  | .suspect => 3
  | .recovering => 4
  | .starting => 5
  | .queued => 6
  | .running => 7
  | .completed => 8
  | .abandoned => 9

structure AttentionItem where
  taskId : String
  state : SupervisorState
  priority : Int
  reason : String
  deriving DecidableEq

/-- Membership in `eligible`. -/
def eligible (state : SupervisorState) : Bool := state ∈ [.needsHuman, .blocked, .reconciling, .suspect]

def candidate (entry : TaskRecord × Assessment) : AttentionItem :=
  { taskId := entry.1.taskId, state := entry.2.state, priority := priority entry.2.state, reason := entry.2.reason }

/-- By this key the items of one task are compared. -/
def AttentionItem.urgency (item : AttentionItem) : Int ×ₗ String ×ₗ String :=
  toLex (item.priority, toLex (item.state.value, item.reason))

/-- By this key the queue is sorted. -/
def AttentionItem.place (item : AttentionItem) : Int ×ₗ String := toLex (item.priority, item.taskId)

/-- One round of the loop over the items. -/
def consider (bestByTask : Table AttentionItem AttentionItem.taskId) (entry : TaskRecord × Assessment) :
    Table AttentionItem AttentionItem.taskId :=
  if eligible entry.2.state then
    match bestByTask.find? entry.1.taskId with
    | none => bestByTask.upsert (candidate entry)
    | some current =>
      if (candidate entry).urgency < current.urgency then bestByTask.upsert (candidate entry) else bestByTask
  else bestByTask

def attentionQueue (items : List (TaskRecord × Assessment)) : List AttentionItem :=
  (items.foldl consider .empty).rows.insertionSort (fun first second => first.place ≤ second.place)

end WebSupervisor.Scheduler
