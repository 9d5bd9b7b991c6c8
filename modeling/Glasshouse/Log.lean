/-!
# Log events

What the program tells its operators: a level, a message and named values.
-/

namespace Glasshouse

/-- How grave an event is, from the least to the most. -/
inductive LogLevel where
  | trace
  | debug
  | info
  | warn
  | error
deriving DecidableEq, Repr

namespace LogLevel

/-- The place of a level in the order of gravity. -/
def rank : LogLevel → Nat
  | trace => 0
  | debug => 1
  | info => 2
  | warn => 3
  | error => 4

/-- The name of a level in the log. -/
def name : LogLevel → String
  | trace => "TRACE"
  | debug => "DEBUG"
  | info => "INFO"
  | warn => "WARN"
  | error => "ERROR"

end LogLevel

/-- One event. -/
structure LogEvent where
  level : LogLevel
  message : String
  fields : List (String × String)
deriving DecidableEq, Repr

namespace LogEvent

/-- The event is at least as grave as a level. -/
def atLeast (level : LogLevel) (event : LogEvent) : Bool :=
  level.rank ≤ event.level.rank

/-- An event for developers. -/
def debug (message : String) : LogEvent :=
  ⟨.debug, message, []⟩

/-- An event of normal operation. -/
def info (message : String) : LogEvent :=
  ⟨.info, message, []⟩

/-- An event that needs attention. -/
def warn (message : String) (fields : List (String × String)) : LogEvent :=
  ⟨.warn, message, fields⟩

/-- An event that needs action. -/
def error (message : String) (fields : List (String × String)) : LogEvent :=
  ⟨.error, message, fields⟩

end LogEvent

end Glasshouse
