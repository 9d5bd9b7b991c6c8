import Glasshouse.Snapshot.Database

/-!
# The tables of the snapshot database

What the statements do to the tables of a database that is up: a plain insert fails on a key that
exists, and an insert with an update clause changes three columns of the row that has the key. The
tables together with the statements are a snapshot store.
-/

namespace Glasshouse.Snapshot

open Number Status Store Time Wire

/-- A row of the telemetry table. -/
structure TelemetryRow where
  device : String
  second : Int
  path : String
  ingestedAt : Instant
  values : Measurements Binary64
deriving DecidableEq, Repr

/-- A row of the state table; the label is written by others. -/
structure StateRow where
  device : String
  kind : String
  path : String
  ingestedAt : Instant
  data : Bytes
  label : Option String
  createdAt : Instant
  updatedAt : Instant
deriving DecidableEq, Repr

/-- Both tables. -/
structure Tables where
  telemetry : List TelemetryRow
  states : List StateRow

namespace Tables

/-- Tables without rows. -/
def empty : Tables :=
  ⟨[], []⟩

/-- The telemetry row of a device and a second. -/
def telemetryRow? (tables : Tables) (device : String) (second : Int) : Option TelemetryRow :=
  tables.telemetry.find? fun row => row.device = device ∧ row.second = second

/-- The state row of a device and a kind. -/
def stateRow? (tables : Tables) (device kind : String) : Option StateRow :=
  tables.states.find? fun row => row.device = device ∧ row.kind = kind

/-- Carries out a statement that is sent at the time `now`. -/
def execute (tables : Tables) (now : Instant) : Statement → Response × Tables
  | .probe | .schema => (.done, tables)
  | .create sample =>
      match tables.telemetryRow? sample.device sample.second with
      | some _ => (.refused DatabaseFault.uniqueViolation "duplicate key value", tables)
      | none =>
          let row : TelemetryRow :=
            ⟨sample.device, sample.second, samplePath sample, sample.time, sample.values⟩
          (.done, { tables with telemetry := tables.telemetry ++ [row] })
  | .merge report =>
      let kind := report.kind.name
      match tables.stateRow? report.device kind with
      | some _ =>
          let update (row : StateRow) : StateRow :=
            if row.device = report.device ∧ row.kind = kind then
              { row with ingestedAt := report.time, data := report.data, updatedAt := now }
            else row
          (.done, { tables with states := tables.states.map update })
      | none =>
          let row : StateRow :=
            ⟨report.device, kind, report.path, report.time, report.data, none, now, now⟩
          (.done, { tables with states := tables.states ++ [row] })

/-- What a response means for the document at a path. -/
def answer (path : String) (mayConflict : Bool) : Response → Answer
  | .done => .ok ()
  | .refused code message =>
      .error (DatabaseFault.toFailure path mayConflict (.serverError code message))
  | .lost => .error (DatabaseFault.toFailure path mayConflict .connectionLost)

/-- Creates the telemetry document of a sample in the tables. -/
def create (tables : Tables) (now : Instant) (sample : Sample) : Answer × Tables :=
  let (response, tables) := tables.execute now (.create sample)
  (answer (samplePath sample) true response, tables)

/-- Merges a report into its state document in the tables. -/
def merge (tables : Tables) (now : Instant) (report : StateReport) : Answer × Tables :=
  let (response, tables) := tables.execute now (.merge report)
  (answer report.path false response, tables)

end Tables

end Glasshouse.Snapshot
