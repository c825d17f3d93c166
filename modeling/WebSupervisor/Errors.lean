import WebSupervisor.WorkerProtocol

namespace WebSupervisor
open WorkerProtocol

/-- An exception as its text shows it: the name of its type and its message. -/
structure Raised where
  kind : String
  message : String
  deriving DecidableEq

/-- `f"{type(exc).__name__}: {exc}"`. -/
def Raised.text (exception : Raised) : String := exception.kind ++ ": " ++ exception.message

/-- What the registry and the runtime over it raise. `integrity` is the database's
own refusal of a repeated key; `lineage` carries the two tuples that the message
prints; `raised` is an exception of the environment with the name of its type. -/
inductive SupervisorError where
  | key (message : String)
  | value (message : String)
  | runtime (message : String)
  | persistence (message : String)
  | lineage (actual expected : Option String × Option String × Option String)
  | integrity (constraint : String)
  | protocol (error : ProtocolError)
  | blocked (message : String)
  | dispatchDisabled (message : String)
  | transportDisabled (message : String)
  | replacementBlocked (blockers : List String)
  | childSpawnBlocked (blockers : List String)
  | raised (kind message : String)
  deriving DecidableEq

end WebSupervisor
