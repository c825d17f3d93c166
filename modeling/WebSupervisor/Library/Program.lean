import Mathlib.Tactic.Common
import Mathlib.Data.List.Basic
import WebSupervisor.Library.Runs

/-! Concurrent programs over one shared store. A program is a sequence of atomic
steps on the store and of calls to its environment; between any two of these
another process may run and the process itself may crash. A call that has been
issued and not been answered stays visible in the log. -/

namespace WebSupervisor.Library

/-- `ω request` is what the environment can answer to a request. An atomic step
hands the store it found to the rest of the program. -/
inductive Program (σ : Type) {ρ : Type} (ω : ρ → Type) (α : Type) where
  | pure (value : α)
  | atomic (effect : σ → σ) (next : σ → Program σ ω α)
  | call (request : ρ) (next : ω request → Program σ ω α)

/-- Programs that only use the store. -/
abbrev NoAnswer : Empty → Type := fun _ => Unit

namespace Program
variable {σ ρ : Type} {ω : ρ → Type} {α β ε : Type}

def bind (program : Program σ ω α) (next : α → Program σ ω β) : Program σ ω β :=
  match program with
  | .pure value => next value
  | .atomic effect rest => .atomic effect (fun found => (rest found).bind next)
  | .call request rest => .call request (fun answer => (rest answer).bind next)

instance : Monad (Program σ ω) where
  pure := .pure
  bind := .bind

/-- A statement that only reads. -/
def read (view : σ → α) : Program σ ω α := .atomic id (fun found => .pure (view found))

/-- A transaction, which is rolled back when it raises. -/
def transact (work : σ → Except ε (α × σ)) : Program σ ω (Except ε α) :=
  .atomic
    (fun found => match work found with
      | .ok (_, next) => next
      | .error _ => found)
    (fun found => .pure ((work found).map Prod.fst))

/-- A statement whose result the program may refuse. -/
def check (view : σ → Except ε α) : ExceptT ε (Program σ ω) α := .mk (read view)

def transaction (work : σ → Except ε (α × σ)) : ExceptT ε (Program σ ω) α := .mk (transact work)

/-- A computation of the program alone, which may raise. -/
def ensure (result : Except ε α) : ExceptT ε (Program σ ω) α := .mk (.pure result)

/-- `try`: the outcome of a part, raised or not, becomes a value. -/
def attempt (program : ExceptT ε (Program σ ω) α) : ExceptT ε (Program σ ω) (Except ε α) :=
  .mk (program.run.bind (fun outcome => .pure (.ok outcome)))

/-- A call to the environment whose answer may be an exception. -/
def ask (request : ρ) (receive : ω request → Except ε α) : ExceptT ε (Program σ ω) α :=
  .mk (.call request (fun answer => .pure (receive answer)))

end Program

section Worlds
variable (σ : Type) {ρ : Type} (ω : ρ → Type) (κ α : Type)

/-- What an observer of the store and of the environment has seen. -/
inductive Event where
  | committed (pid : Nat) (before after : σ)
  | issued (pid : Nat) (request : ρ) (store : σ)
  | answered (pid : Nat) (request : ρ) (answer : ω request)
  | returned (pid : Nat) (value : α)

def Event.pid {σ ρ : Type} {ω : ρ → Type} {α : Type} : Event σ ω α → Nat
  | .committed pid .. | .issued pid .. | .answered pid .. | .returned pid .. => pid

section
variable {σ ρ : Type} {ω : ρ → Type} {α : Type} (pid : Nat)

@[simp]
theorem Event.pid_committed (before after : σ) : (Event.committed pid before after : Event σ ω α).pid = pid := rfl

@[simp]
theorem Event.pid_issued (request : ρ) (store : σ) : (Event.issued pid request store : Event σ ω α).pid = pid := rfl

@[simp]
theorem Event.pid_answered (request : ρ) (answer : ω request) :
    (Event.answered pid request answer : Event σ ω α).pid = pid := rfl

@[simp]
theorem Event.pid_returned (value : α) : (Event.returned pid value : Event σ ω α).pid = pid := rfl

end

/-- The store and the events so far, latest first. -/
structure Shared where
  store : σ
  log : List (Event σ ω α)

inductive Phase where
  | running (program : Program σ ω α)
  | waiting (request : ρ) (next : ω request → Program σ ω α)
  | ended

/-- A started call. `seen` is what it left at its last step. -/
structure Process where
  call : κ
  phase : Phase σ ω α
  seen : Shared σ ω α

structure World extends Shared σ ω α where
  processes : List (Process σ ω κ α) := []

/-- The programs of the calls, and which calls may run beside each other. -/
structure Machine where
  body : κ → Program σ ω α
  compatible : κ → κ → Bool := fun _ _ => true

end Worlds

/-- One choice of the scheduler or of the environment. A process is named by its
position. -/
inductive Move {ρ : Type} (ω : ρ → Type) (κ : Type) where
  | start (call : κ)
  | step (pid : Nat)
  | answer (pid : Nat) (reply : ∀ request, ω request)
  | crash (pid : Nat)

variable {σ ρ : Type} {ω : ρ → Type} {κ α : Type}

namespace Shared

def record (shared : Shared σ ω α) (event : Event σ ω α) : Shared σ ω α :=
  { shared with log := event :: shared.log }

/-- The shared state after a step that leaves `after` in the store. -/
def became (shared : Shared σ ω α) (pid : Nat) (after : σ) : Shared σ ω α :=
  { store := after, log := .committed pid shared.store after :: shared.log }

def commit (shared : Shared σ ω α) (pid : Nat) (effect : σ → σ) : Shared σ ω α :=
  shared.became pid (effect shared.store)

def issue (shared : Shared σ ω α) (pid : Nat) (request : ρ) : Shared σ ω α :=
  shared.record (.issued pid request shared.store)

@[simp]
theorem record_store (shared : Shared σ ω α) (event : Event σ ω α) : (shared.record event).store = shared.store := rfl

@[simp]
theorem record_log (shared : Shared σ ω α) (event : Event σ ω α) :
    (shared.record event).log = event :: shared.log := rfl

@[simp]
theorem became_store (shared : Shared σ ω α) (pid : Nat) (after : σ) : (shared.became pid after).store = after := rfl

@[simp]
theorem became_log (shared : Shared σ ω α) (pid : Nat) (after : σ) :
    (shared.became pid after).log = .committed pid shared.store after :: shared.log := rfl

@[simp]
theorem issue_store (shared : Shared σ ω α) (pid : Nat) (request : ρ) :
    (shared.issue pid request).store = shared.store := rfl

@[simp]
theorem issue_log (shared : Shared σ ω α) (pid : Nat) (request : ρ) :
    (shared.issue pid request).log = .issued pid request shared.store :: shared.log := rfl

end Shared

namespace Process

def live (process : Process σ ω κ α) : Bool :=
  match process.phase with
  | .ended => false
  | _ => true

/-- The phase after a step of a running program, and what it leaves. -/
def step (pid : Nat) (shared : Shared σ ω α) : Phase σ ω α → Option (Phase σ ω α × Shared σ ω α)
  | .running (.pure value) => some (.ended, shared.record (.returned pid value))
  | .running (.atomic effect next) => some (.running (next shared.store), shared.commit pid effect)
  | .running (.call request next) => some (.waiting request next, shared.issue pid request)
  | .waiting .. | .ended => none

def receive (pid : Nat) (reply : ∀ request, ω request) (shared : Shared σ ω α) :
    Phase σ ω α → Option (Phase σ ω α × Shared σ ω α)
  | .waiting request next =>
    some (.running (next (reply request)), shared.record (.answered pid request (reply request)))
  | .running _ | .ended => none

end Process

namespace World

def liveCalls (world : World σ ω κ α) : List κ :=
  (world.processes.filter Process.live).map (·.call)

/-- Move one process by a phase change, when it has one. -/
def advance (world : World σ ω κ α) (pid : Nat)
    (change : Shared σ ω α → Phase σ ω α → Option (Phase σ ω α × Shared σ ω α)) : World σ ω κ α :=
  match world.processes[pid]? with
  | none => world
  | some process =>
    match change world.toShared process.phase with
    | none => world
    | some (phase, shared) =>
      { toShared := shared, processes := world.processes.set pid { process with phase, seen := shared } }

end World

namespace Machine

/-- One move. A move that names no such process, or a start beside a call that
does not allow it, changes nothing. -/
def move (machine : Machine σ ω κ α) (world : World σ ω κ α) : Move ω κ → World σ ω κ α
  | .start call =>
    if world.liveCalls.all (machine.compatible · call) then
      { world with
        processes := world.processes ++ [{ call, phase := .running (machine.body call), seen := world.toShared }] }
    else
      world
  | .step pid => world.advance pid (Process.step pid)
  | .answer pid reply => world.advance pid (Process.receive pid reply)
  | .crash pid => world.advance pid (fun shared _ => some (.ended, shared))

end Machine

end WebSupervisor.Library
