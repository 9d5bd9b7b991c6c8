import Glasshouse.Delivery.Consumer
import Glasshouse.Network.Reach

/-!
# The message broker

Messages are kept in a stream, which is created if it does not exist, and fetched through a durable
consumer. The broker sees every step as a request.
-/

namespace Glasshouse.Delivery

open Ingest Network

/-- How a consumer fetches messages. -/
structure ConsumerSettings where
  stream : String
  consumer : String
  /-- The subjects of the messages, or empty for all of the stream. -/
  filter : String
  batchSize : Nat
  /-- How long a fetch may wait, in nanoseconds. -/
  maxWait : Nat
deriving DecidableEq, Repr

/-- One request to the broker. -/
inductive Request where
  | streamInfo (stream : String)
  | createStream (stream : String) (subjects : List String)
  | createConsumer (settings : ConsumerSettings)
  | fetch (settings : ConsumerSettings)
deriving DecidableEq, Repr

/-- The description of the stream. -/
def streamDescription : String := "Device status reports"

/-- The subject of a request. -/
def Request.subject : Request → String
  | streamInfo stream => "$JS.API.STREAM.INFO." ++ stream
  | createStream stream _ => "$JS.API.STREAM.CREATE." ++ stream
  | createConsumer settings =>
      "$JS.API.CONSUMER.CREATE." ++ settings.stream ++ "." ++ settings.consumer
        ++ if settings.filter.isEmpty then "" else "." ++ settings.filter
  | fetch settings => "$JS.API.CONSUMER.MSG.NEXT." ++ settings.stream ++ "." ++ settings.consumer

/-- Why the broker cannot be used. -/
inductive BrokerFault where
  /-- There is no connection; `system` is the operating system's text, if there is one. -/
  | notConnected (system : Option String)
  | streamNotCreated (reason : String)
  | consumerNotCreated (reason : String)
deriving DecidableEq, Repr

/-- The texts of a fault, from the outermost to its deepest cause. -/
def BrokerFault.causes : BrokerFault → List String
  | notConnected system => "Failed to connect to NATS" :: system.toList
  | streamNotCreated reason => ["Failed to create stream", reason]
  | consumerNotCreated reason => ["Failed to create consumer", reason]

/-- The outermost text of a fault. -/
def BrokerFault.message (fault : BrokerFault) : String :=
  fault.causes.headD ""

/-- The broker: how it can be reached, whether the stream exists, what it refuses and why, the
batches to come, and the requests it got. -/
structure Broker where
  reach : Reach
  streamExists : Bool
  streamRefusal : Option String
  consumerRefusal : Option String
  batches : List (List Item)
  requests : List Request

/-- A stream's name is not empty and has no blank, point or wildcard. -/
def isStreamName (name : String) : Bool :=
  !name.isEmpty && name.toList.all fun c =>
    !(c == ' ' || c == '\t' || c == '\n' || c == '\r' || c == '\x0c' || c == '.' || c == '*'
      || c == '>')

namespace Broker

/-- The broker after a request. -/
def ask (broker : Broker) (request : Request) : Broker :=
  { broker with requests := broker.requests ++ [request] }

/-- Connects to the broker. -/
def connect (broker : Broker) : Except BrokerFault Unit × List LogEvent :=
  if broker.reach = .answering then
    (.ok (), [.info "Connecting to NATS", .info "Successfully connected to NATS"])
  else (.error (.notConnected broker.reach.systemError?), [.info "Connecting to NATS"])

/-- Creates the stream unless it exists. -/
def ensureStream (broker : Broker) (stream : String) (subjects : List String) :
    Except BrokerFault Unit × Broker × List LogEvent :=
  if !isStreamName stream then (.error (.streamNotCreated "invalid stream name"), broker, [])
  else
    let broker := broker.ask (.streamInfo stream)
    if broker.streamExists then (.ok (), broker, [.info "Stream already exists"])
    else
      let broker := broker.ask (.createStream stream subjects)
      match broker.streamRefusal with
      | some reason => (.error (.streamNotCreated reason), broker, [])
      | none => (.ok (), { broker with streamExists := true }, [.info "Created stream"])

/-- Creates the durable consumer. -/
def createConsumer (broker : Broker) (settings : ConsumerSettings) :
    Except BrokerFault Unit × Broker × List LogEvent :=
  let broker := broker.ask (.createConsumer settings)
  match broker.consumerRefusal with
  | some reason =>
      (.error (.consumerNotCreated reason), broker, [.debug "Creating JetStream consumer"])
  | none =>
      (.ok (), broker,
        [.debug "Creating JetStream consumer", .info "Consumer created successfully"])

/-- The broker after all batches were fetched: one fetch for each, and one more that finds
nothing. -/
def drained (broker : Broker) (settings : ConsumerSettings) : Broker :=
  { broker with
    batches := []
    requests :=
      broker.requests ++ List.replicate (broker.batches.length + 1) (.fetch settings) }

/-- Fetches, processes and settles batches until there are none left. -/
def drain (broker : Broker) (settings : ConsumerSettings) (processor : Processor) :
    Program (Consumption × Broker) := do
  Program.log (.info "Starting consumer loop")
  let consumption ← consume processor settings.batchSize broker.batches
  Program.log (.debug "No messages in batch")
  return (consumption, broker.drained settings)

/-- The whole work of an ingester: connects, creates stream and consumer, and drains the
broker. -/
def serve (broker : Broker) (subjects : List String) (settings : ConsumerSettings)
    (processor : Processor) : Program (Except BrokerFault Consumption × Broker) := do
  match broker.connect with
  | (.error fault, events) =>
      logAll events
      return (.error fault, broker)
  | (.ok (), events) =>
      logAll events
      match broker.ensureStream settings.stream subjects with
      | (.error fault, broker, events) =>
          logAll events
          return (.error fault, broker)
      | (.ok (), broker, events) =>
          logAll events
          match broker.createConsumer settings with
          | (.error fault, broker, events) =>
              logAll events
              return (.error fault, broker)
          | (.ok (), broker, events) =>
              logAll events
              let (consumption, broker) ← broker.drain settings processor
              return (.ok consumption, broker)

end Broker

end Glasshouse.Delivery
