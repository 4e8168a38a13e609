import VirtualMocap.Json.Value

/-!
# Log events

A session reports what it does as structured events: a level, an event name, and named
values. A component's events also carry the component's name.
-/

namespace VirtualMocap

namespace Session

/-- How much an event matters. -/
inductive Level where
  | debug
  | info
  | warning
  | error
  deriving DecidableEq, Repr

def Level.name : Level → String
  | .debug => "debug"
  | .info => "info"
  | .warning => "warning"
  | .error => "error"

/-- A structured log event. -/
structure LogEvent where
  level : Level
  event : String
  fields : List (String × Json) := []

namespace LogEvent

def toJson (e : LogEvent) : Json :=
  .obj ([("level", .str e.level.name), ("event", .str e.event)] ++ e.fields)

def under (component : String) (e : LogEvent) : LogEvent :=
  { e with fields := ("component", .str component) :: e.fields }

end LogEvent

end Session

end VirtualMocap
