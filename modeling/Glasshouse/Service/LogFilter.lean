import Glasshouse.Log
import Glasshouse.Text.Decimal

/-!
# Which events are logged

The log level is a list of pieces between commas. A piece that is a level, by its name in any case
or by its number, sets the least gravity that is logged, and the last such piece counts. Other
pieces name parts of a program that are none of this one's, so that they let no event through.
-/

namespace Glasshouse.Service

open Text

/-- The least gravity of the events that are logged, or that none is. -/
abbrev LogFilter := Option LogLevel

namespace LogFilter

/-- The levels by name and by number. -/
def levels : List (String × Nat × LogFilter) :=
  [("off", 0, none), ("error", 1, some .error), ("warn", 2, some .warn), ("info", 3, some .info),
    ("debug", 4, some .debug), ("trace", 5, some .trace)]

/-- The level that a piece stands for. -/
def ofPiece? (piece : String) : Option LogFilter :=
  let word := String.ofList (piece.toList.map Char.toLower)
  let matching := levels.find? fun (name, number, _) =>
    name == word || unsigned? 64 piece == some number
  matching.map fun (_, _, filter) => filter

/-- The filter of a log level. Without a piece only errors are logged. -/
def ofText (text : String) : LogFilter :=
  let pieces := (text.splitOn ",").filter fun piece => !piece.isEmpty
  if pieces.isEmpty then some .error
  else ((pieces.filterMap ofPiece?).getLast?).getD none

/-- The events that are logged. -/
def select (filter : LogFilter) (events : List LogEvent) : List LogEvent :=
  match filter with
  | none => []
  | some level => events.filter (LogEvent.atLeast level)

end LogFilter

end Glasshouse.Service
