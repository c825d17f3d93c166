import WebSupervisor.Errors
import WebSupervisor.Models
import WebSupervisor.Library.Fairness
import WebSupervisor.Library.Table
import Mathlib.Data.Prod.Lex
import Mathlib.Data.String.Basic
import Mathlib.Algebra.Order.Ring.Rat

/-! The ephemeral pool of browser pages and the probe targets, from `browser_pool.py`.
A method gives its result and the pool it leaves; where the source takes a change back
after a refusal, so does the model. Clocks are arguments. -/

namespace WebSupervisor.BrowserPool
open Library

inductive PageRole where
  | active | probe
  deriving DecidableEq

def PageRole.value : PageRole → String
  | .active => "active"
  | .probe => "probe"

structure PageLease where
  pageId : String
  role : PageRole
  workerId : Option String
  openedAt : Time
  lastUsedAt : Time
  deriving DecidableEq

structure ProbeTarget where
  workerId : String
  conversationUrl : String
  lastProbedAt : Option Time := none
  priority : Int := 0
  deriving DecidableEq

structure PagePool where
  maxActivePages : Int
  maxProbePages : Int
  leases : Table PageLease PageLease.pageId := .empty
  probeTargets : Table ProbeTarget ProbeTarget.workerId := .empty

def PagePool.make (maxActivePages maxProbePages : Int) : PagePool :=
  { maxActivePages := max 1 maxActivePages, maxProbePages := max 1 maxProbePages }

/-- The leases of one role. -/
def PagePool.held (pool : PagePool) (role : PageRole) : List PageLease :=
  pool.leases.rows.filter (fun lease => lease.role = role)

def PagePool.capacity (pool : PagePool) : PageRole → Int
  | .active => pool.maxActivePages
  | .probe => pool.maxProbePages

def capacityExceeded (pool : PagePool) (role : PageRole) : SupervisorError :=
  .runtime (role.value ++ " page capacity exceeded: " ++ toString (pool.held role).length ++ " > " ++
    toString (pool.capacity role) ++ "; pool does not evict pages implicitly")

/-- `_enforce_capacity`. -/
def enforceCapacity (pool : PagePool) : Except SupervisorError Unit :=
  if pool.maxActivePages < (pool.held .active).length then
    .error (capacityExceeded pool .active)
  else if pool.maxProbePages < (pool.held .probe).length then
    .error (capacityExceeded pool .probe)
  else .ok ()

def PagePool.setLease (pool : PagePool) (lease : PageLease) : PagePool :=
  { pool with leases := pool.leases.upsert lease }

def registerPage (pageId : String) (role : PageRole) (workerId : Option String) (now : Time) (pool : PagePool) :
    Except SupervisorError PageLease × PagePool :=
  match pool.leases.find? pageId with
  | some existing =>
    let lease := { existing with role, workerId, lastUsedAt := now }
    let changed := pool.setLease lease
    match enforceCapacity changed with
    | .error error =>
      (.error error, changed.setLease
        { lease with role := existing.role, workerId := existing.workerId, lastUsedAt := existing.lastUsedAt })
    | .ok () => (.ok lease, changed)
  | none =>
    let lease := { pageId, role, workerId, openedAt := now, lastUsedAt := now }
    let changed := pool.setLease lease
    match enforceCapacity changed with
    | .error error => (.error error, { changed with leases := changed.leases.delete pageId })
    | .ok () => (.ok lease, changed)

def touch (pageId : String) (now : Time) (pool : PagePool) : Except SupervisorError Unit × PagePool :=
  match pool.leases.find? pageId with
  | none => (.error (.runtime ("unknown page lease: " ++ pageId)), pool)
  | some lease => (.ok (), pool.setLease { lease with lastUsedAt := now })

def releasePage (pageId : String) (pool : PagePool) : Option PageLease × PagePool :=
  (pool.leases.find? pageId, { pool with leases := pool.leases.delete pageId })

def registerProbeTarget (target : ProbeTarget) (pool : PagePool) : ProbeTarget × PagePool :=
  (target, { pool with probeTargets := pool.probeTargets.upsert target })

def removeProbeTarget (workerId : String) (pool : PagePool) : PagePool :=
  { pool with probeTargets := pool.probeTargets.delete workerId }

/-- The key of `next_probe_target`. A target that was never probed comes before every
time. -/
def probeKey (target : ProbeTarget) : Int ×ₗ Bool ×ₗ WithBot Time ×ₗ String :=
  toLex (-target.priority, toLex (target.lastProbedAt.isSome,
    toLex (target.lastProbedAt, target.workerId)))

/-- The target with the least key; keys are distinct. -/
def nextProbeTarget (pool : PagePool) : Option ProbeTarget := (oldest probeKey 1 pool.probeTargets.rows).head?

def markProbed (workerId : String) (now : Time) (pool : PagePool) : Except SupervisorError Unit × PagePool :=
  match pool.probeTargets.find? workerId with
  | none => (.error (.runtime ("unknown probe target: " ++ workerId)), pool)
  | some target =>
    (.ok (), { pool with probeTargets := pool.probeTargets.upsert { target with lastProbedAt := some now } })

inductive PoolCall where
  | registerPage (pageId : String) (role : PageRole) (workerId : Option String) (now : Time)
  | touch (pageId : String) (now : Time)
  | releasePage (pageId : String)
  | registerProbeTarget (target : ProbeTarget)
  | removeProbeTarget (workerId : String)
  | markProbed (workerId : String) (now : Time)

/-- Whether a call raises, and the pool it leaves. -/
def PoolCall.perform (pool : PagePool) : PoolCall → Except SupervisorError Unit × PagePool
  | .registerPage pageId role workerId now =>
    let done := BrowserPool.registerPage pageId role workerId now pool
    (done.1.map (fun _ => ()), done.2)
  | .touch pageId now => BrowserPool.touch pageId now pool
  | .releasePage pageId => (.ok (), (BrowserPool.releasePage pageId pool).2)
  | .registerProbeTarget target => (.ok (), (BrowserPool.registerProbeTarget target pool).2)
  | .removeProbeTarget workerId => (.ok (), BrowserPool.removeProbeTarget workerId pool)
  | .markProbed workerId now => BrowserPool.markProbed workerId now pool

def step (pool : PagePool) (call : PoolCall) : PagePool := (call.perform pool).2

/-- The next target is visited and marked. -/
def probe (pool : PagePool) (now : Time) : PagePool :=
  match nextProbeTarget pool with
  | none => pool
  | some target => (markProbed target.workerId now pool).2

/-- The workers that are visited at the given times. -/
def visited (pool : PagePool) : List Time → List String
  | [] => []
  | now :: rest => ((nextProbeTarget pool).map (·.workerId)).toList ++ visited (probe pool now) rest

end WebSupervisor.BrowserPool
