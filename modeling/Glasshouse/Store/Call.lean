import Glasshouse.Failure
import Glasshouse.Log
import Glasshouse.Store.Path
import Glasshouse.Wire.Fault

/-!
# Calls to the stores

There are two stores: one for snapshots, which holds documents, and one for analytics, which holds
rows. Ingestion knows three calls, each of which takes effect as a whole and answers with success or
a failure.
-/

namespace Glasshouse.Store

open Status Time Wire

/-- The table of the analytics store that rows go to. -/
structure Target where
  dataset : String
  table : String
deriving DecidableEq, Repr

/-- The table with its dataset, as failures name it. -/
def Target.qualified (target : Target) : String :=
  target.dataset ++ "." ++ target.table

/-- A report of the latest state of one kind, in the bytes it was delivered in. -/
structure StateReport where
  device : String
  kind : Kind
  time : Instant
  data : Bytes
deriving DecidableEq, Repr

/-- The document that a state report goes to. -/
def StateReport.path (report : StateReport) : String :=
  statePath report.device report.kind

/-- The document that a sample goes to. -/
def samplePath (sample : Sample) : String :=
  telemetryPath sample.device sample.second

/-- One call to a store. -/
inductive Call where
  /-- Create the telemetry document of a sample. -/
  | create (sample : Sample)
  /-- Merge a report into its state document. -/
  | merge (report : StateReport)
  /-- Append the row of a sample to a table. -/
  | insert (target : Target) (sample : Sample)
deriving DecidableEq, Repr

/-- How a store answers a call. -/
abbrev Answer := Except Failure Unit

/-- What a call does to stores whose state is of type `σ`: its answer, the state after it and the
events it logs. -/
abbrev Behaviour (σ : Type) := Call → σ → Answer × σ × List LogEvent

end Glasshouse.Store
