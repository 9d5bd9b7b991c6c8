import Glasshouse.Ingest.Envelope
import Glasshouse.Text.Decimal

/-!
# Delivered messages

A message comes with headers, which name its device and project, and with a reply subject, which
tells when the transport took it in and where its settlement goes.
-/

namespace Glasshouse.Delivery

open Ingest Text Time Wire

/-- The headers of a message, in order; a message may have none at all. -/
abbrev Headers := List (String × String)

/-- One message as delivered. -/
structure Message where
  subject : String
  reply : Option String
  headers : Option Headers
  payload : Bytes
deriving DecidableEq, Repr

/-- The header that names the device. -/
def deviceHeader : String := "Device-Id"

/-- The header that names the project. -/
def projectHeader : String := "Project-Id"

/-- Why a message cannot be made into an envelope. -/
inductive MessageFault where
  | missingDevice
  | missingMetadata
deriving DecidableEq, Repr

/-- The text of a fault. -/
def MessageFault.text : MessageFault → String
  | missingDevice => "missing " ++ deviceHeader ++ " header"
  | missingMetadata => "missing delivery metadata"

/-- The first value of a header; names are compared letter by letter. -/
def header? (headers : Option Headers) (name : String) : Option String :=
  headers.bind (·.lookup name)

/-- The envelope of a message that has these headers, publishing time and payload. -/
def envelopeOfParts (headers : Option Headers) (published : Option Instant) (payload : Bytes) :
    Except MessageFault Envelope :=
  match header? headers deviceHeader with
  | none => .error .missingDevice
  | some device =>
    match published with
    | none => .error .missingMetadata
    | some instant => .ok ⟨device, (header? headers projectHeader).getD "", instant, payload⟩

/-! ## Publishing time -/

/-- What every reply subject of the transport starts with. -/
def replyStart : String := "$JS.ACK."

/-- The first and the last second of the years -9999 to 9999. -/
def publishedRange : Int × Int := (-377705116800, 253402300799)

/-- The publishing time of the tokens from the delivery count on: the count, two sequence numbers,
the nanoseconds and the number of pending messages, all of which must be numbers. -/
def publishedOfTokens : List String → Option Instant
  | delivered :: stream :: consumer :: published :: pending :: _ => do
      let _ ← signed? 64 delivered
      let _ ← unsigned? 64 stream
      let _ ← unsigned? 64 consumer
      let instant := Instant.mk (← signed? 128 published)
      let _ ← unsigned? 64 pending
      if publishedRange.1 ≤ instant.seconds ∧ instant.seconds ≤ publishedRange.2 then some instant
      else none
  | _ => none

/-- The publishing time that a reply subject tells. There is an older form of seven tokens and a
newer one of at least ten, which has two more in front. -/
def publishedOfReply (reply : String) : Option Instant :=
  if replyStart.toList.isPrefixOf reply.toList then
    let tokens := ((reply.toList.drop replyStart.length).splitOn '.').map String.ofList
    if 10 ≤ tokens.length then publishedOfTokens (tokens.drop 4)
    else if tokens.length = 7 then publishedOfTokens (tokens.drop 2)
    else none
  else none

namespace Message

/-- When the transport took the message in. -/
def published (message : Message) : Option Instant :=
  message.reply.bind publishedOfReply

/-- The envelope of a message. -/
def envelope (message : Message) : Except MessageFault Envelope :=
  envelopeOfParts message.headers message.published message.payload

end Message

end Glasshouse.Delivery
