import Glasshouse.Network.Uri
import Glasshouse.Service.LogFilter
import Glasshouse.Service.Sections

/-!
# Starting the service

The service depends on three servers, which are prepared one after the other: the snapshot database,
the analytics database and the broker. The first failure ends the start, and so does a server that
does not answer in time.
-/

namespace Glasshouse.Service

open Ingest Network Store

/-- The servers that the service depends on. -/
structure Servers where
  snapshots : Snapshot.Link
  analytics : Analytics.Link
  broker : Delivery.Broker

/-- The behaviour of the stores in their databases. -/
def Servers.behaviour : Behaviour Servers := fun call servers =>
  match call with
  | .create sample =>
      let (answer, link, events) := servers.snapshots.create sample
      (answer, { servers with snapshots := link }, events)
  | .merge report =>
      let (answer, link, events) := servers.snapshots.merge report
      (answer, { servers with snapshots := link }, events)
  | .insert target sample =>
      let (answer, link, events) := servers.analytics.insert target sample
      (answer, { servers with analytics := link }, events)

/-- Why the service does not start. -/
inductive StartFault where
  /-- A server failed, with the texts of the causes from the outermost on. -/
  | failed (causes : List String)
  /-- The time for starting is over. -/
  | timedOut
deriving DecidableEq, Repr

/-- A step of the start: it may fail, changes the servers and logs events. -/
abbrev Step := Servers → Except StartFault Unit × Servers × List LogEvent

/-- One step after another, which is taken only if the first one succeeds. -/
def Step.andThen (first second : Step) : Step := fun servers =>
  match first servers with
  | (.error fault, servers, events) => (.error fault, servers, events)
  | (.ok (), servers, events) =>
      match second servers with
      | (result, servers, later) => (result, servers, events ++ later)

/-- The step that only logs an event. -/
def Step.log (event : LogEvent) : Step := fun servers =>
  (.ok (), servers, [event])

/-- A failure with causes; one without a cause means that nothing was answered. -/
def StartFault.ofCauses : List String → StartFault
  | [] => timedOut
  | causes => failed causes

/-- The causes of a database without a name, which no connection can be configured for. -/
def missingDatabase : List String :=
  let text := "configuration property \"dbname\" not found"
  ["failed to create postgres pool", "Config: " ++ text, text]

/-- A pool of connections for the snapshot database can be made. A pool without a connection never
gives one away. -/
def Step.pool (settings : Snapshot.DatabaseSettings) : Step := fun servers =>
  if settings.database.isEmpty then (.error (.failed missingDatabase), servers, [])
  else if settings.poolSize = 0 then (.error .timedOut, servers, [])
  else (.ok (), servers, [])

/-- A step on the link to the snapshot database. -/
def Step.onSnapshots
    (act : Snapshot.Link → Except (List String) Unit × Snapshot.Link × List LogEvent) : Step :=
  fun servers =>
    match act servers.snapshots with
    | (result, link, events) =>
        (result.mapError StartFault.ofCauses, { servers with snapshots := link }, events)

/-- The causes of a failed attempt at the analytics database. -/
def attemptCauses (attempted : Analytics.AttemptFault) : List String :=
  attempted.attempt ++ attempted.fault.causes

/-- A step on the link to the analytics database. -/
def Step.onAnalytics
    (act : Analytics.Link → Except Analytics.AttemptFault Unit × Analytics.Link × List LogEvent) :
    Step :=
  fun servers =>
    if servers.analytics.reach = .silent then (.error .timedOut, servers, [])
    else match act servers.analytics with
      | (result, link, events) =>
          (result.mapError (StartFault.failed ∘ attemptCauses), { servers with analytics := link },
            events)

/-- A step on the broker. -/
def Step.onBroker (act : Delivery.Broker →
    Except Delivery.BrokerFault Unit × Delivery.Broker × List LogEvent) : Step :=
  fun servers =>
    if servers.broker.reach = .silent then (.error .timedOut, servers, [])
    else match act servers.broker with
      | (result, broker, events) =>
          (result.mapError (StartFault.failed ∘ Delivery.BrokerFault.causes),
            { servers with broker := broker }, events)

/-- Connects to the broker. -/
def connectBroker (broker : Delivery.Broker) :
    Except Delivery.BrokerFault Unit × Delivery.Broker × List LogEvent :=
  (broker.connect.1, broker, broker.connect.2)

/-- Prepares all servers. -/
def prepare (settings : Settings) : Step :=
  (Step.log (.info "Initializing PostgreSQL...")).andThen <|
  (Step.pool settings.snapshots).andThen <|
  (Step.onSnapshots Snapshot.Link.probe).andThen <|
  (Step.onSnapshots Snapshot.Link.ensureSchema).andThen <|
  (Step.log (.info "Initializing ClickHouse...")).andThen <|
  (Step.onAnalytics fun link => (link.probe.1, link.probe.2, [])).andThen <|
  (Step.onAnalytics fun link => link.ensureTable settings.ingest.target).andThen <|
  (Step.log (.info "Initializing NATS...")).andThen <|
  (Step.onBroker connectBroker).andThen <|
  Step.onBroker fun broker =>
    broker.ensureStream settings.consumer.stream [settings.consumer.filter]

/-- Creates the consumer. -/
def createConsumer (settings : Settings) : Step :=
  (Step.log (.info "Initializing status ingester")).andThen <|
  (Step.onBroker fun broker => broker.createConsumer settings.consumer).andThen <|
  Step.log (.info "Status ingester initialized")

/-- The fault of an address to which events are to be reported. -/
def reportingFault? (settings : ReportingSettings) : Option UriFault :=
  if settings.enabled then
    match Uri.check settings.endpoint with
    | .ok () => none
    | .error fault => some fault
  else none

end Glasshouse.Service
