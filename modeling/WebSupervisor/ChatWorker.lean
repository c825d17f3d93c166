import WebSupervisor.Library.Runs
import WebSupervisor.ChatEngine

/-! The worker processes of the chat queue and the clients that make sure there is one,
from `chat_dispatch.py`. They share the store and its one lease row, and each statement
is a step of its own, so that any two processes may take turns between statements. A
process identifier may be used again once its process has ended. -/

namespace WebSupervisor.ChatWorker
open Library ChatDispatch

/-- The row of `chat_dispatch_leases`. -/
structure ChatLease where
  ownerId : String
  pid : Int
  heartbeatAt : Time
  expiresAt : Time
  maxWindows : Int
  idleCloseS : Time
  deriving DecidableEq

def defaultLeaseTtlS : Time := 60

section Store

/-- The arguments of `acquire_lease`. -/
structure AcquireArgs where
  ownerId : String
  pid : Int
  maxWindows : Int
  idleCloseS : Time
  ttlS : Time := defaultLeaseTtlS
  now : Time

def AcquireArgs.lease (args : AcquireArgs) : ChatLease :=
  { ownerId := args.ownerId, pid := args.pid, heartbeatAt := args.now, expiresAt := args.now + max 5 args.ttlS
    maxWindows := max 1 args.maxWindows, idleCloseS := max 1 args.idleCloseS }

/-- The lease keeps another owner out: it is fresh, or its process is alive. -/
def ChatLease.fences (lease : ChatLease) (now : Time) (pidExists : Int → Bool) : Bool :=
  decide (now < lease.expiresAt) || (decide (0 < lease.pid) && pidExists lease.pid)

/-- `acquire_lease`: whether the lease was got, and the row after it. -/
def acquireLease (args : AcquireArgs) (pidExists : Int → Bool) (row : Option ChatLease) : Bool × Option ChatLease :=
  match row with
  | none => (true, some args.lease)
  | some lease =>
    if lease.ownerId ≠ args.ownerId ∧ lease.fences args.now pidExists = true then (false, some lease)
    else (true, some args.lease)

def heartbeatLease (ownerId : String) (ttlS now : Time) (row : Option ChatLease) : Bool × Option ChatLease :=
  match row with
  | none => (false, none)
  | some lease =>
    if lease.ownerId = ownerId then
      (true, some { lease with heartbeatAt := now, expiresAt := now + max 5 ttlS })
    else
      (false, some lease)

/-- `DELETE … WHERE owner_id = ?`. -/
def releaseLease (ownerId : String) (row : Option ChatLease) : Option ChatLease :=
  row.filter (fun lease => lease.ownerId ≠ ownerId)

end Store

/-- Where `run_chat_dispatch_worker` stands. `counting` has listed the jobs and `draining`
has found none pending. `leaving` is in the `finally` block, with the exit code or, after
an exception, none. -/
inductive WorkerPhase where
  | starting | looping | engine | listing
  | counting (jobs : List ChatDispatchJob)
  | draining | sleeping
  | leaving (code : Option Int)
  | returned (code : Option Int)
  | dead

/-- A worker process. `missed` are the jobs for which it has not executed `run_once` since
they were committed, and `unseen` those committed since its `should_exit` last listed the
jobs. The program does not have these two: they are the history of the run. -/
structure Worker where
  owner : String
  pid : Int
  maxWindows : Int
  idleCloseS : Time
  phase : WorkerPhase := .starting
  missed : List String := []
  unseen : List String := []

/-- Where a client stands that enqueues a job and calls `ensure_chat_dispatch_worker`,
which may find the lease of an owner, and then clears it or answers with it. -/
inductive ClientPhase where
  | enqueueing (request : Enqueue)
  | reading
  | checking (lease : ChatLease)
  | clearing (ownerId : String)
  | launching
  | started
  | existing (ownerId : String)
  | raised

/-- A client and the job that it has enqueued. One that has enqueued nothing starts at
`reading`. -/
structure Client where
  phase : ClientPhase
  dispatchId : Option String := none

/-- All processes and what they share. `others` are the identifiers of other processes that
run, and `drawn` the owner tokens that have been drawn. -/
structure Room where
  store : ChatStore := {}
  lease : Option ChatLease := none
  workers : List Worker := []
  clients : List Client := []
  others : List Int := []
  drawn : List String := []

def Worker.running (worker : Worker) : Bool :=
  match worker.phase with
  | .returned _ | .dead => false
  | _ => true

/-- `pid_exists`. -/
def Room.pidExists (room : Room) (pid : Int) : Bool :=
  room.workers.any (fun worker => worker.running && worker.pid == pid) || room.others.contains pid

/-- The jobs of a store by their ids. The engine adds and removes none. -/
def jobIds (store : ChatStore) : List String := store.jobs.rows.map (·.dispatchId)

/-- One statement of a process, or something that happens to it. Clocks are arguments. -/
inductive Turn where
  | others (pids : List Int)
  | start (owner : String) (pid maxWindows : Int) (idleCloseS : Time)
  | acquire (index : Nat) (now : Time)
  | heartbeat (index : Nat) (now : Time)
  | engineWrites (index : Nat) (store : ChatStore)
  | engineReturns (index : Nat)
  | list (index : Nat)
  | count (index : Nat) (now : Time)
  | countPages (index : Nat)
  | wake (index : Nat)
  | raise (index : Nat)
  | release (index : Nat)
  | crash (index : Nat)
  | arrive (request : Option Enqueue)
  | enqueue (client : Nat)
  | readLease (client : Nat)
  | checkLease (client : Nat)
  | clearLease (client : Nat)
  | launch (client : Nat)

namespace Room

def setWorker (room : Room) (index : Nat) (worker : Worker) : Room :=
  { room with workers := room.workers.set index worker }

def setClient (room : Room) (index : Nat) (client : Client) : Room :=
  { room with clients := room.clients.set index client }

/-- A job is committed: every worker that is not in its `run_once` has missed it. -/
def commit (room : Room) (dispatchId : String) : Room :=
  { room with
    workers := room.workers.map (fun worker =>
      match worker.phase with
      | .engine => worker
      | _ => { worker with missed := dispatchId :: worker.missed, unseen := dispatchId :: worker.unseen }) }

/-- The phase after `should_exit` has answered. -/
def afterExit (exits : Bool) : WorkerPhase := if exits then .leaving (some 0) else .sleeping

/-- The step of one worker. -/
def workerStep (room : Room) (index : Nat) (worker : Worker) (turn : Turn) : Room :=
  match turn, worker.phase with
  | .acquire _ now, .starting =>
    let (got, lease) := acquireLease
      { ownerId := worker.owner, pid := worker.pid, maxWindows := worker.maxWindows, idleCloseS := worker.idleCloseS, now }
      room.pidExists room.lease
    { room with lease }.setWorker index { worker with phase := if got then .looping else .returned (some 0) }
  | .heartbeat _ now, .looping =>
    let (kept, lease) := heartbeatLease worker.owner defaultLeaseTtlS now room.lease
    { room with lease }.setWorker index
      (if kept then { worker with phase := .engine, missed := [], unseen := [] }
      else { worker with phase := .leaving (some 3) })
  | .engineWrites _ store, .engine => if jobIds store = jobIds room.store then { room with store } else room
  | .engineReturns _, .engine => room.setWorker index { worker with phase := .listing }
  | .list _, .listing =>
    room.setWorker index { worker with phase := .counting (listJobs 500 room.store), unseen := [] }
  | .count _ now, .counting jobs =>
    if 0 < pendingCount room.store then
      room.setWorker index { worker with phase := afterExit (!jobs.any (fun job => job.Holding now)) }
    else
      room.setWorker index { worker with phase := .draining }
  | .countPages _, .draining => room.setWorker index { worker with phase := afterExit (ownedOpenCount room.store = 0) }
  | .wake _, .sleeping => room.setWorker index { worker with phase := .looping }
  | .raise _, .starting => room.setWorker index { worker with phase := .returned none }
  | .raise _, .looping | .raise _, .engine | .raise _, .listing | .raise _, .counting _ | .raise _, .draining
  | .raise _, .sleeping => room.setWorker index { worker with phase := .leaving none }
  | .release _, .leaving code =>
    { room with lease := releaseLease worker.owner room.lease }.setWorker index { worker with phase := .returned code }
  | .crash _, _ => if worker.running then room.setWorker index { worker with phase := .dead } else room
  | _, _ => room

/-- The step of one client. -/
def clientStep (room : Room) (index : Nat) (client : Client) (turn : Turn) : Room :=
  match turn, client.phase with
  | .enqueue _, .enqueueing request =>
    match enqueueTransaction request room.store with
    | .error _ => room.setClient index { client with phase := .raised }
    | .ok (.existing job, store) =>
      { room with store }.setClient index { phase := .reading, dispatchId := some job.dispatchId }
    | .ok (.added dispatchId, store) =>
      ({ room with store }.commit dispatchId).setClient index { phase := .reading, dispatchId := some dispatchId }
  | .readLease _, .reading =>
    room.setClient index { client with phase := room.lease.elim .launching .checking }
  | .checkLease _, .checking lease =>
    let alive := decide (0 < lease.pid) && room.pidExists lease.pid
    room.setClient index { client with phase := if alive then .existing lease.ownerId else .clearing lease.ownerId }
  | .clearLease _, .clearing ownerId =>
    { room with lease := releaseLease ownerId room.lease }.setClient index { client with phase := .launching }
  | .launch _, .launching => room.setClient index { client with phase := .started }
  | _, _ => room

/-- The identifiers of a new process are its own: its token has not been drawn before, and
no process runs under its process identifier. -/
def startStep (room : Room) (owner : String) (pid maxWindows : Int) (idleCloseS : Time) : Room :=
  if owner ∈ room.drawn ∨ pid ≤ 0 ∨ room.pidExists pid = true then room
  else
    { room with
      workers := room.workers ++ [{ owner, pid, maxWindows, idleCloseS, missed := jobIds room.store }]
      drawn := owner :: room.drawn }

/-- One turn. A turn that names no such process, or finds it elsewhere, changes nothing. -/
def step (room : Room) (turn : Turn) : Room :=
  let work (index : Nat) := room.workers[index]?.elim room (fun worker => room.workerStep index worker turn)
  let serve (index : Nat) := room.clients[index]?.elim room (fun client => room.clientStep index client turn)
  match turn with
  | .others pids => { room with others := pids }
  | .start owner pid maxWindows idleCloseS => room.startStep owner pid maxWindows idleCloseS
  | .acquire index _ | .heartbeat index _ | .engineWrites index _ | .engineReturns index | .list index
  | .count index _ | .countPages index | .wake index | .raise index | .release index | .crash index => work index
  | .arrive request =>
    { room with clients := room.clients ++ [{ phase := request.elim .reading .enqueueing }] }
  | .enqueue index | .readLease index | .checkLease index | .clearLease index | .launch index => serve index

/-- A store that earlier processes, of which none runs, have left behind. -/
def opened (store : ChatStore) (lease : Option ChatLease) : Room :=
  { store, lease, drawn := lease.toList.map (·.ownerId) }

end Room

end WebSupervisor.ChatWorker
