import WebSupervisor.Library.Program
import WebSupervisor.Database

/-! The runtime cooldowns of `registry.py`. The model keeps no metadata of them. -/

namespace WebSupervisor.Registry
open Library

def getRuntimeCooldown (name : String) (db : Database) : Except SupervisorError (Option RuntimeCooldown) := do
  let key := strip name
  refuse (key = "") (SupervisorError.value "runtime cooldown name is required")
  pure (db.runtimeCooldowns.find? key)

/-- The checks and the upsert of `set_runtime_cooldown`. -/
def writeRuntimeCooldown (name : String) (untilAt : Time) (reason : String) (now : Time) : Transaction String := fun db => do
  let key := strip name
  let note := strip reason
  refuse (key = "" ∨ note = "") (SupervisorError.value "runtime cooldown name and reason are required")
  refuse (untilAt ≤ now) (SupervisorError.value "runtime cooldown must end in the future")
  let row : RuntimeCooldown := { name := key, untilAt, reason := note, updatedAt := now }
  pure (key, { db with runtimeCooldowns := db.runtimeCooldowns.upsert row })

section Programs
open Program
variable {ρ : Type} {ω : ρ → Type}

def setRuntimeCooldown (name : String) (untilAt : Time) (reason : String) (now : Time) :
    ExceptT SupervisorError (Program Database ω) (Option RuntimeCooldown) := do
  let key ← transaction (writeRuntimeCooldown name untilAt reason now)
  check (getRuntimeCooldown key)

end Programs

end WebSupervisor.Registry
