import Glasshouse.Delivery.Verdicts
import Glasshouse.Text.Quoted

/-!
# Consuming batches

Messages are fetched in batches. Each batch goes to a processor as a whole, and its verdicts are
then sent to the reply subjects of the messages: first all acknowledgements, then all requests for
another delivery, then all endings.
-/

namespace Glasshouse.Delivery

open Ingest Wire

/-- The ways to settle a message. -/
inductive Signal where
  | ack
  | nak
  | term
deriving DecidableEq, Repr

/-- The body of a settlement. -/
def Signal.body : Signal → String
  | ack => ""
  | nak => "-NAK"
  | term => "+TERM"

/-- The signals that verdicts stand for, by place and in the order in which they are sent. -/
def Verdicts.signals (verdicts : Verdicts) : List (Nat × Signal) :=
  verdicts.ack.map (fun place => (place, .ack)) ++ verdicts.nak.map (fun item => (item.1, .nak))
    ++ verdicts.term.map (fun item => (item.1, .term))

/-- One settlement as sent. -/
structure Settled where
  reply : String
  signal : Signal
deriving DecidableEq, Repr

/-- The settlement of the message at a place; there is none without a message or a reply subject. -/
def settledAt? (messages : List Message) (place : Nat) (signal : Signal) : Option Settled :=
  (messages[place]?.bind (·.reply)).map fun reply => ⟨reply, signal⟩

/-- What is sent for verdicts on messages. -/
def settlements (messages : List Message) (verdicts : Verdicts) : List Settled :=
  verdicts.signals.filterMap fun (place, signal) => settledAt? messages place signal

/-! ## Events -/

/-- The name of a signal in the event about a place without a message. -/
def Signal.name : Signal → String
  | ack => "ack"
  | nak => "nak"
  | term => "term"

/-- The event about a settlement that cannot be sent. -/
def Signal.failureText : Signal → String
  | ack => "Failed to acknowledge message"
  | nak => "Failed to nak message"
  | term => "Failed to terminate message"

/-- The event about a message that is not acknowledged. -/
def rejectionEvents (message : Message) (reason : Option String) : Signal → List LogEvent
  | .ack => []
  | .nak =>
      [.warn "Rejecting message for redelivery"
        [("subject", message.subject), ("error", reason.getD "")]]
  | .term =>
      [.error "Terminating message that cannot be processed"
        [("subject", message.subject), ("error", reason.getD "")]]

/-- The events about the settlement of one place. -/
def settlementEvents (messages : List Message) (signal : Signal) (place : Nat)
    (reason : Option String) : List LogEvent :=
  match messages[place]? with
  | none =>
      [.warn ("Invalid " ++ signal.name ++ " index in ProcessingResult")
        [("message_index", toString place)]]
  | some message =>
      rejectionEvents message reason signal
        ++ if message.reply.isSome then []
          else [.error signal.failureText [("message_index", toString place)]]

/-- The events about the settlement of a batch. -/
def settlingEvents (messages : List Message) (verdicts : Verdicts) : List LogEvent :=
  verdicts.ack.flatMap (settlementEvents messages .ack · none)
    ++ verdicts.nak.flatMap (fun item => settlementEvents messages .nak item.1 item.2)
    ++ verdicts.term.flatMap (fun item => settlementEvents messages .term item.1 item.2)

/-! ## Batches -/

/-- What the transport can say instead of sending a message: a code, and a description of it. -/
structure FetchStatus where
  code : Nat
  description : Option String
deriving DecidableEq, Repr

namespace FetchStatus

/-- There are no more messages, or the time for the batch is over. -/
def isEnd (status : FetchStatus) : Bool :=
  status.code == 404 || status.code == 408

/-- The text about a status that is not the end of a batch. -/
def text (status : FetchStatus) : String :=
  let description := status.description.elim "None" fun text => "Some(" ++ Text.quoted text ++ ")"
  "error while processing messages from the stream: " ++ toString status.code ++ ", " ++ description

end FetchStatus

/-- What the transport sends in answer to a fetch. -/
inductive Item where
  | message (message : Message)
  /-- A status instead of a message: the batch is over. -/
  | status (status : FetchStatus)
deriving DecidableEq, Repr

/-- The messages of a batch of at most `size`, up to the first status. -/
def received : (size : Nat) → List Item → List Message
  | size + 1, .message message :: items => message :: received size items
  | _, _ => []

/-- The events about how a batch ended. -/
def endEvents : (size : Nat) → List Item → List LogEvent
  | size + 1, .message _ :: items => endEvents size items
  | _ + 1, .status status :: _ =>
      if status.isEnd then []
      else [.warn "Error receiving message from batch" [("error", status.text)]]
  | _, _ => []

/-- Decides about the messages of a batch, given how many batches came before it, or fails as a
whole. -/
abbrev Processor := Nat → List Message → Program (Except String Verdicts)

/-- The processor that ingests every message. -/
def ingestProcessor (settings : Settings) : Processor := fun _ messages => do
  return .ok (← process settings messages)

/-- Verdicts on a batch; if the processor fails, all messages are to be delivered again. -/
def decide (processor : Processor) (number : Nat) (messages : List Message) :
    Program Verdicts := do
  match ← processor number messages with
  | .ok verdicts => return verdicts
  | .error error =>
      Program.log (.error "Processor returned error, rejecting all messages" [("error", error)])
      return .nakAll messages.length (some error)

/-- What came of a number of batches: the messages of each batch that was processed, and all
settlements. -/
structure Consumption where
  batches : List (List Message)
  settled : List Settled
deriving DecidableEq, Repr

/-- Processes and settles batches of at most `size` messages, of which `number` were processed
before. A batch without a message is not processed. -/
def consumeFrom (processor : Processor) (size : Nat) : (number : Nat) → List (List Item) →
    Program Consumption
  | _, [] => return ⟨[], []⟩
  | number, items :: batches => do
      let messages := received size items
      logAll (endEvents size items)
      if messages.isEmpty then
        Program.log (.debug "No messages in batch")
        consumeFrom processor size number batches
      else
        Program.log (.debug "Received message batch")
        let verdicts ← decide processor number messages
        logAll (settlingEvents messages verdicts)
        let rest ← consumeFrom processor size (number + 1) batches
        return ⟨messages :: rest.batches, settlements messages verdicts ++ rest.settled⟩

/-- Processes and settles batches of at most `size` messages. -/
def consume (processor : Processor) (size : Nat) (batches : List (List Item)) :
    Program Consumption :=
  consumeFrom processor size 0 batches

end Glasshouse.Delivery
