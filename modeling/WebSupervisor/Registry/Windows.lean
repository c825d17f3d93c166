import WebSupervisor.Registry.Actions

/-! The window bindings of `registry.py`. The worker is read in one step, the old
binding in the next, and the row is written in a third. -/

namespace WebSupervisor.Registry
open Library

/-- The arguments of `bind_worker_window`. The clock is read only when the caller
gives no time, so that the time is an argument. -/
structure BindArgs where
  workerId : String
  windowHandle : Int
  browserPid : Int
  chromeExecutable : String
  conversationUrl : String
  source : String := "windows_uia_chrome"
  observedAt : Time
  ttlS : Time := 30

/-- The worker whose window may be bound. -/
def activeWorker (workerId : String) (db : Database) : Except SupervisorError WorkerRecord := do
  let worker ← getWorker db workerId
  refuse (worker.status ≠ .active) (.value "window binding requires an active worker")
  pure worker

/-- The checks on the arguments. -/
def BindArgs.accept (args : BindArgs) (worker : WorkerRecord) : Except SupervisorError Unit := do
  refuse (args.windowHandle ≤ 0 ∨ args.browserPid ≤ 0)
    (SupervisorError.value "window binding requires positive HWND and browser PID")
  refuse (strip args.chromeExecutable = "") (SupervisorError.value "window binding requires a Chrome executable path")
  refuse (strip args.conversationUrl = "") (SupervisorError.value "window binding requires a conversation URL")
  refuse (rstripSlash args.conversationUrl ≠ rstripSlash worker.conversationUrl)
    (SupervisorError.value "window binding URL must exactly match the registered worker URL")

/-- The row of the insert. An earlier binding keeps its `bound_at`. -/
def BindArgs.row (args : BindArgs) (existing : Option WorkerWindowBinding) : WorkerWindowBinding where
  workerId := args.workerId
  windowHandle := args.windowHandle
  browserPid := args.browserPid
  chromeExecutable := args.chromeExecutable
  conversationUrl := args.conversationUrl
  source := args.source
  boundAt := (existing.map (·.boundAt)).getD args.observedAt
  observedAt := args.observedAt
  expiresAt := args.observedAt + max 1 args.ttlS

/-- `INSERT … ON CONFLICT(worker_id) DO UPDATE`, which leaves `bound_at` alone. -/
def writeBinding (row : WorkerWindowBinding) : Transaction Unit := fun db =>
  let boundAt := ((db.windowBindings.find? row.workerId).map (·.boundAt)).getD row.boundAt
  .ok ((), { db with windowBindings := db.windowBindings.upsert { row with boundAt } })

section Programs
open Program
variable {ρ : Type} {ω : ρ → Type}

def bindWorkerWindow (args : BindArgs) : ExceptT SupervisorError (Program Database ω) WorkerWindowBinding := do
  let worker ← check (activeWorker args.workerId)
  ensure (args.accept worker)
  let existing ← check (fun db => .ok (getWorkerWindowBinding db args.workerId 0 false))
  transaction (writeBinding (args.row existing))
  check (fun db => (getWorkerWindowBinding db args.workerId 0 false).elim (.error (.raised "AssertionError" "")) .ok)

/-- It returns whether there was a binding. -/
def clearWorkerWindowBinding (workerId : String) : ExceptT SupervisorError (Program Database ω) Bool :=
  transaction (fun db => .ok ((db.windowBindings.find? workerId).isSome, deleteWindowBinding db workerId))

end Programs

end WebSupervisor.Registry
