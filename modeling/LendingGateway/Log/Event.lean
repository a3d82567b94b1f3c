namespace LendingGateway
namespace Log

/-!
# Events

The gateway tells what it does as events.  An event has a level and a target, by which
a log filter decides whether it is shown.
-/

/-- How much an event matters. -/
inductive Level where
  | trace
  | debug
  | info
  | warn
  | error
deriving DecidableEq, Repr

def Level.weight : Level → Nat
  | .trace => 1
  | .debug => 2
  | .info => 3
  | .warn => 4
  | .error => 5

def Level.name : Level → String
  | .trace => "TRACE"
  | .debug => "DEBUG"
  | .info => "INFO"
  | .warn => "WARN"
  | .error => "ERROR"

/-- Something that the gateway did. -/
structure Event where
  level : Level
  /-- The part of the gateway that did it. -/
  target : String
  message : String
deriving DecidableEq, Repr

/-- The names of the fields of an event: it has nothing but its message. -/
def Event.fields (_event : Event) : List String :=
  ["message"]

/-- An event as one line of text. -/
def Event.line (event : Event) : String :=
  event.level.name ++ " " ++ event.message

end Log
end LendingGateway
