import Glasshouse.Delivery.Message
import Glasshouse.Ingest.Settlement

/-!
# Processing a batch of messages

The messages of a batch are ingested one after the other. The verdicts list the places of messages
by what is to become of them; every message gets exactly one.
-/

namespace Glasshouse.Delivery

open Ingest

/-- The places of a batch's messages by their verdict, with reasons. -/
structure Verdicts where
  ack : List Nat
  nak : List (Nat × Option String)
  term : List (Nat × Option String)
deriving DecidableEq, Repr

namespace Verdicts

/-- No verdict. -/
def none : Verdicts :=
  ⟨[], [], []⟩

/-- All of `count` messages are to be delivered again. -/
def nakAll (count : Nat) (reason : Option String) : Verdicts :=
  ⟨[], (List.range count).map fun place => (place, reason), []⟩

/-- The verdicts with a settlement in front of them. -/
def cons (place : Nat) (settlement : Settlement) (verdicts : Verdicts) : Verdicts :=
  match settlement with
  | .ack => { verdicts with ack := place :: verdicts.ack }
  | .nak reason => { verdicts with nak := (place, some reason) :: verdicts.nak }
  | .term reason => { verdicts with term := (place, some reason) :: verdicts.term }

end Verdicts

/-- Logs what is unusual about a settlement. -/
def logSettlement (device : String) : Settlement → Program Unit
  | .ack => return ()
  | .nak reason =>
      Program.log (.warn "status dispatch failed, requesting redelivery"
        [("device_id", device), ("error", reason)])
  | .term reason =>
      Program.log (.error "status message can never be ingested"
        [("device_id", device), ("error", reason)])

/-- Handles one message: one that cannot be made into an envelope is ended, any other ingested. -/
def handle (settings : Settings) (message : Message) : Program Settlement := do
  match message.envelope with
  | .error fault =>
      Program.log (.error "malformed status message"
        [("error", fault.text), ("subject", message.subject)])
      return .term fault.text
  | .ok envelope =>
      let settlement ← ingest settings envelope
      logSettlement envelope.device settlement
      return settlement

/-- Handles messages in order, the first of which is at `place`. -/
def processFrom (settings : Settings) : (place : Nat) → List Message → Program Verdicts
  | _, [] => return .none
  | place, message :: messages => do
      let settlement ← handle settings message
      let verdicts ← processFrom settings (place + 1) messages
      return verdicts.cons place settlement

/-- Handles the messages of a batch in order. -/
def process (settings : Settings) (messages : List Message) : Program Verdicts :=
  processFrom settings 0 messages

end Glasshouse.Delivery
