/-!
# Events for the log

## Main definitions

* `HttpStub.Event` — a line of the log with its level.
* `HttpStub.Event.line` — the text of an event.
-/

namespace HttpStub

/-- How much an event matters. -/
inductive Level where
  | error
  | warn
  | info
  | debug
  deriving DecidableEq, Repr

/-- The name of a level. -/
def Level.name : Level → String
  | .error => "ERROR"
  | .warn => "WARN"
  | .info => "INFO"
  | .debug => "DEBUG"

/-- A line of the log. -/
structure Event where
  level : Level
  text : String
  deriving DecidableEq, Repr

/-- The level and the text. -/
def Event.line (e : Event) : String :=
  e.level.name ++ " " ++ e.text

end HttpStub
