import Glasshouse.Snapshot.Tables
import Glasshouse.Store.Memory

/-!
# A server that keeps the tables

The snapshot store of a database together with the server that it talks to: every statement that
the link sends is carried out on the tables, and the server's response goes back over the link. The
same requests can be made of the store in memory.
-/

namespace Glasshouse.Snapshot

open Status Store Time

/-- What can be asked of a snapshot store. -/
inductive Request where
  /-- To create the telemetry document of a sample. -/
  | create (sample : Sample)
  /-- To merge a report into its state document. -/
  | merge (report : StateReport)
deriving DecidableEq, Repr

namespace Request

/-- The statement that is sent for a request. -/
def statement : Request → Statement
  | create sample => .create sample
  | merge report => .merge report

/-- The call to the stores that a request is. -/
def call : Request → Call
  | create sample => .create sample
  | merge report => .merge report

/-- Asks for it over a link. -/
def ofLink (link : Link) : Request → Answer × Link × List LogEvent
  | create sample => link.create sample
  | merge report => link.merge report

/-- Asks for what tables make of the request at the time `now`. -/
def ofTables (tables : Tables) (now : Instant) : Request → Answer × Tables
  | create sample => tables.create now sample
  | merge report => tables.merge now report

/-- Asks the store in memory. -/
def ofMemory (store : SnapshotMemory) : Request → Answer × SnapshotMemory
  | create sample => store.create sample
  | merge report => store.merge report

end Request

/-- A server that keeps tables, and the link over which it is asked. -/
structure Server where
  link : Link
  tables : Tables

/-- A link on which the next statement gets a response. -/
def Link.awaiting (link : Link) (response : Response) : Link :=
  { link with responses := [response] }

namespace Server

/-- A server that takes connections, with tables that are empty. -/
def fresh : Server :=
  ⟨.fresh .answering, .empty⟩

/-- The answer to a request that the server carries out at the time `now`, and the server after
it. -/
def ask (server : Server) (now : Instant) (request : Request) : Answer × Server :=
  let (response, tables) := server.tables.execute now request.statement
  let (answer, link, _) := request.ofLink (server.link.awaiting response)
  (answer, ⟨link, tables⟩)

/-- The answers to requests at their times, one after the other, and the server after them. -/
def askAll (server : Server) : List (Instant × Request) → List Answer × Server
  | [] => ([], server)
  | (now, request) :: requests =>
      let (answer, server) := server.ask now request
      let (answers, server) := server.askAll requests
      (answer :: answers, server)

end Server

/-- The answers of the store in memory to requests, one after the other, and the store after
them. -/
def askMemory (store : SnapshotMemory) : List Request → List Answer × SnapshotMemory
  | [] => ([], store)
  | request :: requests =>
      let (answer, store) := request.ofMemory store
      let (answers, store) := askMemory store requests
      (answer :: answers, store)

namespace TelemetryRow

/-- The document that a telemetry row stands for. -/
def document (row : TelemetryRow) : Document :=
  .ofSample ⟨row.device, row.ingestedAt, row.values⟩

/-- What a telemetry row holds under the name of each column. -/
def cells (row : TelemetryRow) : List (String × Parameter) :=
  [("device_id", .text row.device), ("unix_ts", .integer row.second),
    ("document_path", .text row.path), ("ingested_at", .timestamp (storedTime row.ingestedAt)),
    ("temp_indoor", .double row.values.tempIndoor), ("temp_probe", .double row.values.tempProbe),
    ("humidity", .double row.values.humidity), ("pressure", .double row.values.pressure),
    ("ec_a", .double row.values.ecA), ("ec_b", .double row.values.ecB),
    ("ph_a", .double row.values.phA), ("ph_b", .double row.values.phB),
    ("tank_a", .double row.values.tankA), ("tank_b", .double row.values.tankB)]

end TelemetryRow

namespace StateRow

/-- The document that a state row stands for. -/
def document (row : StateRow) : Document :=
  ((∅ : Document).insert timestampField (.timestamp row.ingestedAt)).insert dataField
    (.bytes row.data)

/-- What a state row holds under the name of each column that is not empty. -/
def cells (row : StateRow) : List (String × Parameter) :=
  [("device_id", .text row.device), ("kind", .text row.kind), ("document_path", .text row.path),
    ("ingested_at", .timestamp (storedTime row.ingestedAt)), ("data", .bytes row.data),
    ("created_at", .timestamp (storedTime row.createdAt)),
    ("updated_at", .timestamp (storedTime row.updatedAt))] ++
    row.label.toList.map fun label => ("label", .text label)

end StateRow

end Glasshouse.Snapshot
