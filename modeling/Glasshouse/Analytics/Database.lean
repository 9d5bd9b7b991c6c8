import Glasshouse.Analytics.Statement
import Glasshouse.Network.HttpStatus
import Glasshouse.Network.Reach
import Glasshouse.Store.Memory
import Glasshouse.Text.Blank

/-!
# The analytics store in a database

Each statement is one request to a web server. A failure of the network means that the store is not
available; anything that the server says against a row is a rejection of that row.
-/

namespace Glasshouse.Analytics

open Network Status Store Text

/-- Where the database is and who asks. -/
structure ServerSettings where
  url : String
  username : String
  password : String
deriving DecidableEq, Repr

/-- What the server makes of one request. -/
inductive Reply where
  /-- A response; the code of an exception can come with any status. -/
  | response (status : Nat) (body : String) (exception : Option String)
  /-- The connection is closed without a response. -/
  | closed
deriving DecidableEq, Repr

/-- The reply to a request that is carried out. -/
def Reply.success : Reply :=
  .response 200 "" none

/-- Why a statement was not carried out. -/
inductive ServerFault where
  /-- The text of the statement has a placeholder to which nothing is bound. -/
  | unbound (placeholder : Placeholder)
  /-- The server was not reached, or the connection was lost. -/
  | network
  /-- The server refused the statement for a reason. -/
  | refused (reason : String)
  /-- A row cannot be written in the format of the table. -/
  | unwritable (reason : String)
deriving DecidableEq, Repr

/-- The text of a fault. -/
def ServerFault.text : ServerFault → String
  | unbound placeholder => "invalid params: " ++ placeholder.complaint
  | network => "network error"
  | refused reason => "bad response: " ++ reason
  | unwritable reason => "a custom error message from serde: " ++ reason

/-- The text of a fault and those of its causes. -/
def ServerFault.causes (fault : ServerFault) : List String :=
  match fault with
  | unbound placeholder => [fault.text, placeholder.complaint]
  | other => [other.text]

/-- What a reply means. A refusal is explained by its body, and a body without a byte by the code of
the exception or the status. -/
def Reply.outcome : Reply → Except ServerFault Unit
  | closed => .error .network
  | response status body exception =>
      if status = 200 && exception.isNone then .ok ()
      else if body.isEmpty then
        .error (.refused ((exception.map fun code => "Code: " ++ code).getD (statusText status)))
      else .error (.refused (trim body))

/-- A fault together with the words for what was attempted. -/
structure AttemptFault where
  attempt : List String
  fault : ServerFault
deriving DecidableEq, Repr

/-- A statement with the text that was sent for it. -/
structure Request where
  statement : Statement
  text : String
deriving DecidableEq, Repr

/-- The way to the database: the server's replies to come, and what was sent. A statement past the
planned replies is carried out. -/
structure Link where
  reach : Reach
  replies : List Reply
  sent : List Request

namespace Link

/-- A link on which nothing was sent. -/
def fresh (reach : Reach) : Link :=
  ⟨reach, [], []⟩

/-- Sends a statement. One with a placeholder fails before the server is reached. -/
def execute (link : Link) (statement : Statement) : Except ServerFault Unit × Link :=
  match statement.sentText with
  | .error placeholder => (.error (.unbound placeholder), link)
  | .ok text =>
      if link.reach = .answering then
        let request : Request := ⟨statement, text⟩
        let link := { link with sent := link.sent ++ [request] }
        match link.replies with
        | [] => (.ok (), link)
        | reply :: rest => (reply.outcome, { link with replies := rest })
      else (.error .network, link)

/-- Sends a statement for a purpose. -/
def attempt (link : Link) (purpose : List String) (statement : Statement) :
    Except AttemptFault Unit × Link :=
  match link.execute statement with
  | (.error fault, link) => (.error ⟨purpose, fault⟩, link)
  | (.ok (), link) => (.ok (), link)

/-- Finds out whether the database answers. -/
def probe (link : Link) : Except AttemptFault Unit × Link :=
  link.attempt [] .probe

/-- Creates the dataset and the table of a target. -/
def ensureTable (link : Link) (target : Target) :
    Except AttemptFault Unit × Link × List LogEvent :=
  match link.attempt ["failed to create analytics dataset"] (.createDataset target) with
  | (.error fault, link) => (.error fault, link, [])
  | (.ok (), link) =>
      match link.attempt ["failed to create analytics telemetry table"] (.createTable target) with
      | (.error fault, link) => (.error fault, link, [])
      | (.ok (), link) => (.ok (), link, [.info "analytics table ready"])

/-- The failure that a fault means for the row of a sample. -/
def insertFailure (target : Target) (sample : Sample) : ServerFault → Failure
  | .network => .analyticsUnavailable ServerFault.network.text
  | fault => AnalyticsMemory.rejection target sample fault.text

/-- Appends the row of a sample: the columns of the table are asked for first. -/
def insert (link : Link) (target : Target) (sample : Sample) : Answer × Link × List LogEvent :=
  match link.execute (.describe target) with
  | (.error fault, link) =>
      (.error (insertFailure target sample fault), link,
        [.error ("failed to create ClickHouse insert: " ++ fault.text) []])
  | (.ok (), link) =>
      match Row.ofSample sample with
      | .error reason => (.error (insertFailure target sample (.unwritable reason)), link, [])
      | .ok row =>
          match link.execute (.insert target row) with
          | (.error fault, link) => (.error (insertFailure target sample fault), link, [])
          | (.ok (), link) => (.ok (), link, [.debug "inserted telemetry row"])

end Link

end Glasshouse.Analytics
