import WebSupervisor.Registry.Workers

/-! The watchdog lease of `registry.py`. One row per name; its owner is the
running watchdog or, while a stop is asked for, the token of that stop. Every
method is one transaction or one statement. -/

namespace WebSupervisor.Registry
open Library

/-- `owner_id.startswith("stop:")`. -/
def isStopToken (ownerId : String) : Bool := "stop:".toList.isPrefixOf ownerId.toList

/-- The lease that an owner has got, or the one that stands in its way. -/
def acquireWatchdogLease (name ownerId : String) (pid : Int) (host : String) (ttlSeconds now : Time) :
    Transaction (Bool × WatchdogLease) := fun db =>
  let expiresAt := now + max 1 ttlSeconds
  let grant (startedAt : Time) : Except SupervisorError ((Bool × WatchdogLease) × Database) :=
    let lease : WatchdogLease := { name, ownerId, pid, host, startedAt, heartbeatAt := now, expiresAt }
    .ok ((true, lease), { db with watchdogLeases := db.watchdogLeases.upsert lease })
  match db.watchdogLeases.find? name with
  | none => grant now
  | some row =>
    if row.ownerId ≠ ownerId ∧ now < row.expiresAt then .ok ((false, row), db)
    else grant (if row.ownerId = ownerId then row.startedAt else now)

def heartbeatWatchdogLease (name ownerId : String) (ttlSeconds now : Time) : Transaction Bool := fun db =>
  match db.watchdogLeases.find? name with
  | none => .ok (false, db)
  | some row =>
    if row.ownerId = ownerId then
      let lease := { row with heartbeatAt := now, expiresAt := now + max 1 ttlSeconds }
      .ok (true, { db with watchdogLeases := db.watchdogLeases.replace lease })
    else
      .ok (false, db)

/-- `DELETE … WHERE name = ? AND owner_id = ?`. -/
def deleteWatchdogLease (name ownerId : String) : Transaction Bool := fun db =>
  match db.watchdogLeases.find? name with
  | none => .ok (false, db)
  | some row =>
    if row.ownerId = ownerId then .ok (true, { db with watchdogLeases := db.watchdogLeases.delete name })
    else .ok (false, db)

def releaseWatchdogLease (name ownerId : String) : Transaction Bool := deleteWatchdogLease name ownerId

/-- What a stop request returns: nothing to stop, the stop that is already under
way, or the lease that the token has taken over and its previous owner. -/
inductive StopAnswer where
  | absent
  | pending (lease : WatchdogLease)
  | replaced (previousOwnerId : String) (lease : WatchdogLease)
  deriving DecidableEq

/-- The token is drawn by the method and its random part given here. -/
def requestWatchdogStop (name : String) (graceSeconds now : Time) (hex : String) : Transaction StopAnswer := fun db =>
  match db.watchdogLeases.find? name with
  | none => .ok (.absent, db)
  | some previous =>
    if isStopToken previous.ownerId = true ∧ now < previous.expiresAt then
      .ok (.pending previous, db)
    else
      let lease := { previous with ownerId := "stop:" ++ hex, heartbeatAt := now, expiresAt := now + max 5 graceSeconds }
      .ok (.replaced previous.ownerId lease, { db with watchdogLeases := db.watchdogLeases.replace lease })

def clearWatchdogStop (name stopOwnerId : String) : Transaction Bool := fun db => do
  refuse (isStopToken stopOwnerId = false) (SupervisorError.value "stop_owner_id must be a stop: lease token")
  deleteWatchdogLease name stopOwnerId db

/-- One call of a lease method. -/
inductive WatchdogCall where
  | acquire (name ownerId : String) (pid : Int) (host : String) (ttlSeconds now : Time)
  | heartbeat (name ownerId : String) (ttlSeconds now : Time)
  | release (name ownerId : String)
  | requestStop (name : String) (graceSeconds now : Time) (hex : String)
  | clearStop (name stopOwnerId : String)

inductive WatchdogAnswer where
  | lease (acquired : Bool) (lease : WatchdogLease)
  | done (changed : Bool)
  | stop (answer : StopAnswer)
  deriving DecidableEq

namespace WatchdogCall

def answering {α : Type} (answer : α → WatchdogAnswer) (work : Transaction α) : Transaction WatchdogAnswer := fun db =>
  (work db).map (fun (value, next) => (answer value, next))

def transaction : WatchdogCall → Transaction WatchdogAnswer
  | .acquire name ownerId pid host ttl now =>
    answering (fun answer => .lease answer.1 answer.2) (acquireWatchdogLease name ownerId pid host ttl now)
  | .heartbeat name ownerId ttl now => answering .done (heartbeatWatchdogLease name ownerId ttl now)
  | .release name ownerId => answering .done (releaseWatchdogLease name ownerId)
  | .requestStop name grace now hex => answering .stop (requestWatchdogStop name grace now hex)
  | .clearStop name stopOwnerId => answering .done (clearWatchdogStop name stopOwnerId)

/-- The clock of a call that reads it. -/
def time : WatchdogCall → Option Time
  | .acquire _ _ _ _ _ now | .heartbeat _ _ _ now | .requestStop _ _ now _ => some now
  | .release .. | .clearStop .. => none

/-- The owner in whose name a call is made. -/
def owner : WatchdogCall → Option String
  | .acquire _ ownerId .. | .heartbeat _ ownerId .. | .release _ ownerId => some ownerId
  | .requestStop .. | .clearStop .. => none

end WatchdogCall

end WebSupervisor.Registry
