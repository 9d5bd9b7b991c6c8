import Glasshouse.Store.Call

/-!
# Statements of the snapshot database

The snapshot store can be kept in a relational database, with one table for telemetry documents and
one for state documents. Four statements are sent: a probe, the schema, a plain insert for a new
telemetry document, and an insert for a state document that updates the row if there is one.
-/

namespace Glasshouse.Snapshot

open Number Status Store Time Wire

/-- The value of a parameter. -/
inductive Parameter where
  | text (value : String)
  | integer (value : Int)
  | double (value : Binary64)
  | bytes (value : Bytes)
  /-- A time in microseconds since the Unix epoch. -/
  | timestamp (micros : Int)
  /-- The time at which the statement is sent. -/
  | now
deriving DecidableEq, Repr

/-- One statement to the database. -/
inductive Statement where
  /-- Finds out whether the database answers. -/
  | probe
  /-- Creates the tables that do not exist yet. -/
  | schema
  /-- Adds the row of a telemetry document. -/
  | create (sample : Sample)
  /-- Adds or updates the row of a state document. -/
  | merge (report : StateReport)
deriving DecidableEq, Repr

/-- The second from which the database counts time. -/
def databaseEpoch : Int := 946684800

/-- A time as the database keeps it. -/
def storedTime (time : Instant) : Int :=
  time.microsFrom databaseEpoch

/-- The columns of the telemetry table. -/
def telemetryColumns : List String :=
  ["device_id", "unix_ts", "document_path", "ingested_at"] ++ Measurements.names

/-- The columns of the state table that a merge sets, without the time of the last update, which
gets the value of the time of creation. -/
def stateColumns : List String :=
  ["device_id", "kind", "document_path", "ingested_at", "data", "created_at"]

/-- Placeholders for the parameters from the first to the last. -/
def placeholders (first last : Nat) : String :=
  ", ".intercalate ((List.range' first (last + 1 - first)).map fun i => "$" ++ toString i)

/-- The definition of a column. -/
def columnText (type name : String) : String :=
  name ++ " " ++ type

/-- The statement that creates the telemetry table. -/
def telemetrySchema : String :=
  let double := "DOUBLE PRECISION NOT NULL"
  let definitions :=
    [columnText "TEXT NOT NULL" "device_id", columnText "BIGINT NOT NULL" "unix_ts",
      columnText "TEXT NOT NULL" "document_path", columnText "TIMESTAMPTZ NOT NULL" "ingested_at"]
      ++ Measurements.names.map (columnText double) ++ ["PRIMARY KEY (device_id, unix_ts)"]
  "CREATE TABLE IF NOT EXISTS device_telemetry_snapshots ( " ++ ", ".intercalate definitions
    ++ " );"

/-- The statement that creates the state table. -/
def stateSchema : String :=
  let definitions :=
    [columnText "TEXT NOT NULL" "device_id", columnText "TEXT NOT NULL" "kind",
      columnText "TEXT NOT NULL" "document_path", columnText "TIMESTAMPTZ NOT NULL" "ingested_at",
      columnText "BYTEA NOT NULL" "data", columnText "TEXT" "label",
      columnText "TIMESTAMPTZ NOT NULL" "created_at",
      columnText "TIMESTAMPTZ NOT NULL" "updated_at", "PRIMARY KEY (device_id, kind)"]
  "CREATE TABLE IF NOT EXISTS device_state_snapshots ( " ++ ", ".intercalate definitions ++ " );"

namespace Statement

/-- The text of a statement. -/
def sql : Statement → String
  | probe => "SELECT 1"
  | schema => telemetrySchema ++ " " ++ stateSchema
  | create _ =>
      "INSERT INTO device_telemetry_snapshots (" ++ ", ".intercalate telemetryColumns
        ++ ") VALUES (" ++ placeholders 1 14 ++ ")"
  | merge _ =>
      "INSERT INTO device_state_snapshots (" ++ ", ".intercalate stateColumns
        ++ ", updated_at) VALUES (" ++ placeholders 1 6 ++ ", $6)"
        ++ " ON CONFLICT (device_id, kind) DO UPDATE SET ingested_at = EXCLUDED.ingested_at,"
        ++ " data = EXCLUDED.data, updated_at = EXCLUDED.updated_at"

/-- The parameters of a statement with the columns that they fill, in order. -/
def parameters : Statement → List (String × Parameter)
  | probe | schema => []
  | create sample => telemetryColumns.zip
      ([.text sample.device, .integer sample.second, .text (samplePath sample),
        .timestamp (storedTime sample.time)] ++ sample.values.toList.map .double)
  | merge report => stateColumns.zip
      [.text report.device, .text report.kind.name, .text report.path,
        .timestamp (storedTime report.time), .bytes report.data, .now]

end Statement

end Glasshouse.Snapshot
