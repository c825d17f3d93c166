import WebSupervisor.Library.Program
import WebSupervisor.Models

/-! The implicit registry path and the migration of an older registry, from
`runtime_state.py`. Each look at the disk and each change of it is one step.
Whether the database library or the file system fails is answered by the
environment. -/

namespace WebSupervisor.RuntimeState
open Library

/-- A committed write, and the `expires_at` values of `watchdog_leases` after it when
it changes that table. -/
structure Write where
  text : String
  leases : Option (List Time) := none
  deriving DecidableEq

/-- A registry as the sequence of its writes. `watchdogLeases` is `none` without the
table. -/
structure Content where
  writes : List Write := []
  watchdogLeases : Option (List Time) := none
  deriving DecidableEq

def Content.write (content : Content) (write : Write) : Content where
  writes := content.writes ++ [write]
  watchdogLeases := write.leases.or content.watchdogLeases

/-- The paths that a process can be given. `named` is the file of `LWS_DB`. -/
inductive Path where
  | durable
  | legacy
  | named
  deriving DecidableEq

/-- `installs` counts the files that a rename has put at the durable path. It stands
for the identity of the file there. -/
structure Disk where
  durable : Option Content := none
  installs : Nat := 0
  legacy : Option Content := none
  named : Option Content := none
  temporaries : List (String × Content) := []
  deriving DecidableEq

namespace Disk

def file (disk : Disk) : Path → Option Content
  | .durable => disk.durable
  | .legacy => disk.legacy
  | .named => disk.named

def setFile (disk : Disk) (path : Path) (content : Content) : Disk :=
  match path with
  | .durable => { disk with durable := some content }
  | .legacy => { disk with legacy := some content }
  | .named => { disk with named := some content }

/-- A process commits a write to its registry, which its connection has created if
there was none. -/
def write (disk : Disk) (path : Path) (write : Write) : Disk :=
  disk.setFile path (((disk.file path).getD {}).write write)

def temporary (disk : Disk) (name : String) : Option Content := disk.temporaries.lookup name

def unlink (disk : Disk) (name : String) : Disk :=
  { disk with temporaries := disk.temporaries.filter (fun entry => entry.1 ≠ name) }

/-- The backup copies the source as it is at one moment. -/
def backup (disk : Disk) (name : String) : Disk :=
  match disk.legacy with
  | none => disk
  | some content => { disk with temporaries := (name, content) :: disk.temporaries }

/-- `temporary.replace(target)`, which overwrites the target. -/
def replaceDurable (disk : Disk) (name : String) : Disk :=
  match disk.temporary name with
  | none => disk
  | some content => { disk.unlink name with durable := some content, installs := disk.installs + 1 }

end Disk

/-- What may fail. -/
inductive Request where
  | inspectLease
  | backup
  | integrityCheck
  | replace
  deriving DecidableEq

/-- Whether it succeeds. -/
abbrev Answer : Request → Type := fun _ => Bool

section Programs
open Program

/-- `_legacy_fresh_watchdog_lease`: `none` when the inspection fails. -/
def legacyFreshWatchdogLease (now : Time) : Program Disk Answer (Option Bool) :=
  .call .inspectLease fun readable =>
    if readable = false then .pure none
    else .atomic id fun tables =>
      match tables.legacy with
      | none => .pure none
      | some content =>
        if content.watchdogLeases = none then .pure (some false)
        else .atomic id fun rows =>
          let leases := (rows.legacy.bind (·.watchdogLeases)).getD []
          .pure (some (decide (∃ expires ∈ leases, now < expires)))

/-- The `finally` block. -/
def cleanUp (name : String) (result : Bool) : Program Disk Answer Bool :=
  .atomic (·.unlink name) fun _ => .pure result

/-- `_migrate_sqlite_registry`. `name` is the fresh name of the temporary copy. -/
def migrateSqliteRegistry (name : String) : Program Disk Answer Bool :=
  .atomic id fun first =>
    if first.durable.isSome then .pure true
    else .call .backup fun copies =>
      if copies = false then cleanUp name false
      else .atomic (·.backup name) fun source =>
        if source.legacy.isNone then cleanUp name false
        else .call .integrityCheck fun sound =>
          if sound = false then cleanUp name false
          -- The durable path may have appeared while the backup was running.
          else .atomic id fun second =>
            if second.durable.isSome then .atomic (·.unlink name) fun _ => cleanUp name true
            else .call .replace fun replaces =>
              if replaces = false then cleanUp name false
              else .atomic (·.replaceDurable name) fun found => cleanUp name (found.temporary name).isSome

/-- `resolve_default_registry_path`. `explicit` tells whether `LWS_DB` is set. -/
def resolveDefaultRegistryPath (explicit : Bool) (now : Time) (name : String) : Program Disk Answer Path :=
  if explicit then .pure .named
  else .atomic id fun disk =>
    if disk.durable.isSome then .pure .durable
    else .atomic id fun old =>
      if old.legacy.isNone then .pure .durable
      else (legacyFreshWatchdogLease now).bind fun lease =>
        -- A fenced registry and a failed inspection both keep the old path.
        if lease ≠ some false then .pure .legacy
        else (migrateSqliteRegistry name).bind fun migrated => .pure (if migrated then .durable else .legacy)

def commitWrites (path : Path) : List Write → Program Disk Answer Path
  | [] => .pure path
  | write :: writes => .atomic (·.write path write) fun _ => commitWrites path writes

/-- A process resolves the path once and commits its writes there. -/
structure Session where
  now : Time
  temporaryName : String
  writes : List Write

def Session.body (explicit : Bool) (session : Session) : Program Disk Answer Path :=
  (resolveDefaultRegistryPath explicit session.now session.temporaryName).bind (commitWrites · session.writes)

end Programs

def relocation (explicit : Bool) : Machine Disk Answer Session Path := { body := Session.body explicit }

end WebSupervisor.RuntimeState
