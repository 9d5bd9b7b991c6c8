import Glasshouse.Service.Run

/-!
# The command

Reads the settings from the environment, starts the service and writes its log, one event a line.
The command opens no connection of its own, so that it shows how the service starts when none of its
servers can be reached.
-/

namespace Glasshouse.Command

open Service

/-- The variable of a setting. -/
def variableName (setting : Setting) : String :=
  String.ofList ((variablePrefix ++ setting.name).toList.map Char.toUpper)

/-- The variables of the settings that are set. -/
def readEnvironment : List Setting → IO Environment
  | [] => return []
  | setting :: settings => do
      let name := variableName setting
      let rest ← readEnvironment settings
      match ← IO.getEnv name with
      | some value => return (name, value) :: rest
      | none => return rest

/-- Servers that cannot be reached. -/
def absentServers : Servers where
  snapshots := .fresh .noRoute
  analytics := .fresh .noRoute
  broker := ⟨.noRoute, false, none, none, [], []⟩

/-- An event as a line. -/
def eventLine (event : LogEvent) : String :=
  event.level.name ++ " " ++ event.message
    ++ String.join (event.fields.map fun (name, value) => " " ++ name ++ "=" ++ value)

end Glasshouse.Command

/-- Runs the service once. -/
def main : IO UInt32 := do
  let environment ← Glasshouse.Command.readEnvironment Glasshouse.Service.Setting.all
  let (report, _) :=
    Glasshouse.Service.run environment Glasshouse.Command.absentServers .terminate
  for line in report.errorLines do
    IO.eprintln line
  for event in report.log do
    IO.println (Glasshouse.Command.eventLine event)
  return UInt32.ofNat report.exitCode
