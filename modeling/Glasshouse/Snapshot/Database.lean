import Glasshouse.Network.Reach
import Glasshouse.Snapshot.Statement

/-!
# The snapshot store in a database

Statements go over a connection that is opened when it is first needed and opened again after it was
lost. A row whose key exists already is a conflict of documents; every other failure means that the
store is not available.
-/

namespace Glasshouse.Snapshot

open Network Store

/-- Where the database is, who asks, and how many connections there may be at a time. -/
structure DatabaseSettings where
  host : String
  port : UInt16
  database : String
  username : String
  password : String
  poolSize : UInt64
deriving DecidableEq, Repr

/-- What the server makes of one statement. -/
inductive Response where
  /-- The statement is carried out. -/
  | done
  /-- The server refuses the statement, with a code and a text. -/
  | refused (code message : String)
  /-- The connection is lost. -/
  | lost
deriving DecidableEq, Repr

/-- Why a statement was not carried out. -/
inductive DatabaseFault where
  /-- There is no connection; `system` is the operating system's text. -/
  | noConnection (system : String)
  /-- The connection was lost. -/
  | connectionLost
  /-- The server refused the statement. -/
  | serverError (code message : String)
  /-- The server does not answer. -/
  | noAnswer
deriving DecidableEq, Repr

namespace DatabaseFault

/-- The text for a connection that cannot be made. -/
def connectingText : String :=
  "error connecting to server"

/-- The texts of a fault, from the outermost to its deepest cause. -/
def causes : DatabaseFault → List String
  | noConnection system =>
      ["Error occurred while creating a new object: " ++ connectingText, connectingText, system]
  | connectionLost => ["connection closed"]
  | serverError _ message => ["db error", "ERROR: " ++ message]
  | noAnswer => []

/-- The code of a row whose key exists already. -/
def uniqueViolation : String := "23505"

/-- The failure that a fault means for the document at a path. -/
def toFailure (path : String) (mayConflict : Bool) : DatabaseFault → Failure
  | serverError code message =>
      if mayConflict && code == uniqueViolation then .snapshotConflict path
      else .snapshotUnavailable ((serverError code message).causes.headD "")
  | fault => .snapshotUnavailable (fault.causes.headD "")

end DatabaseFault

/-- The way to a database: the server's responses to come, whether a connection is open, and what
was sent. A statement past the planned responses is carried out. -/
structure Link where
  reach : Reach
  responses : List Response
  connected : Bool
  connections : Nat
  sent : List Statement

namespace Link

/-- A link on which nothing was sent. -/
def fresh (reach : Reach) : Link :=
  ⟨reach, [], false, 0, []⟩

/-- The link with a connection, if the server can be reached. -/
def connect (link : Link) : Except DatabaseFault Link :=
  if link.connected then .ok link
  else match link.reach.systemError? with
    | some system => .error (.noConnection system)
    | none =>
        if link.reach = .silent then .error .noAnswer
        else .ok { link with connected := true, connections := link.connections + 1 }

/-- Sends a statement. -/
def execute (link : Link) (statement : Statement) : Except DatabaseFault Unit × Link :=
  match link.connect with
  | .error fault => (.error fault, link)
  | .ok link =>
      let link := { link with sent := link.sent ++ [statement] }
      match link.responses with
      | [] => (.ok (), link)
      | .done :: rest => (.ok (), { link with responses := rest })
      | .refused code message :: rest =>
          (.error (.serverError code message), { link with responses := rest })
      | .lost :: rest =>
          (.error .connectionLost, { link with responses := rest, connected := false })

/-- The failure to report and the outer texts of a fault of the schema. -/
def schemaContext : DatabaseFault → List String
  | .noConnection _ | .noAnswer => []
  | .connectionLost | .serverError .. => ["failed to create snapshot tables"]

/-- Finds out whether the database answers; a failure is a list of causes. -/
def probe (link : Link) : Except (List String) Unit × Link × List LogEvent :=
  match link.execute .probe with
  | (.error fault, link) => (.error fault.causes, link, [])
  | (.ok (), link) => (.ok (), link, [.debug "postgres connection successful"])

/-- Creates the tables; a failure is a list of causes. -/
def ensureSchema (link : Link) : Except (List String) Unit × Link × List LogEvent :=
  match link.execute .schema with
  | (.error fault, link) => (.error (schemaContext fault ++ fault.causes), link, [])
  | (.ok (), link) => (.ok (), link, [.info "snapshot schema ready"])

/-- Creates the telemetry document of a sample. -/
def create (link : Link) (sample : Status.Sample) : Answer × Link × List LogEvent :=
  match link.execute (.create sample) with
  | (.error fault, link) => (.error (fault.toFailure (samplePath sample) true), link, [])
  | (.ok (), link) => (.ok (), link, [.debug "created telemetry document"])

/-- Merges a report into its state document. -/
def merge (link : Link) (report : StateReport) : Answer × Link × List LogEvent :=
  match link.execute (.merge report) with
  | (.error fault, link) => (.error (fault.toFailure report.path false), link, [])
  | (.ok (), link) => (.ok (), link, [.debug "merged state document"])

end Link

end Glasshouse.Snapshot
