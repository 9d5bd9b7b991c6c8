import Glasshouse.Service.Startup

/-!
# Running the service

A run of the service: its settings are read, its servers prepared, and the broker's batches ingested
until a signal ends the work. What the run shows is its exit code, its error output and its log.
-/

namespace Glasshouse.Service

open Ingest

/-- The signals that end the service. -/
inductive StopSignal where
  | interrupt
  | terminate
deriving DecidableEq, Repr

/-- The event about a signal. -/
def StopSignal.event : StopSignal → LogEvent
  | interrupt => .info "Received shutdown signal"
  | terminate => .info "Received SIGTERM signal"

/-- What a run shows. -/
structure Report where
  exitCode : Nat
  errorLines : List String
  log : List LogEvent
  settled : List Delivery.Settled

/-- The start of the text about the settings in the log. -/
def settingsText : String := "Configuration: "

/-- A message about a failure with its causes. -/
def causesText (what : String) (causes : List String) : String :=
  what ++ ": " ++ ": ".intercalate causes

/-- The event about a start that failed. -/
def startEvent (what : String) : StartFault → LogEvent
  | .failed causes => .error (causesText what causes) []
  | .timedOut => .error "Startup timed out" []

/-- The events of a start before any server is prepared. -/
def openingEvents (settings : Settings) : List LogEvent :=
  [.info "Starting hydroponics-all-in-one service", .debug (settingsText ++ settings.description)]

/-- The events of an orderly end. -/
def closingEvents (signal : StopSignal) : List LogEvent :=
  [signal.event, .info "Received shutdown signal, stopping consumer",
    .info "Consumer stopped gracefully", .info "Running cleanup tasks...",
    .info "Closing NATS connection", .info "Cleanup complete"]

/-- Ingests what the broker has, with all servers prepared. -/
def work (settings : Settings) (servers : Servers) :
    Program.Run Servers Delivery.Consumption :=
  let program : Program Delivery.Consumption := do
    let (consumption, _) ← servers.broker.drain settings.consumer
      (Delivery.ingestProcessor settings.ingest)
    return consumption
  program.run Servers.behaviour
    { servers with broker := servers.broker.drained settings.consumer }

/-- Runs the service with its settings; `signal` ends the work. -/
def runWith (settings : Settings) (servers : Servers) (signal : StopSignal) : Report × Servers :=
  let filter := LogFilter.ofText (settings .logLevel)
  let opening := openingEvents settings
  match prepare settings servers with
  | (.error fault, servers, events) =>
      let log := opening ++ events ++ [startEvent "Failed to initialize dependencies" fault]
      (⟨1, [], filter.select log, []⟩, servers)
  | (.ok (), servers, prepared) =>
      match createConsumer settings servers with
      | (.error fault, servers, events) =>
          let log := opening ++ prepared ++ events
            ++ [startEvent "Failed to initialize status ingester" fault]
          (⟨1, [], filter.select log, []⟩, servers)
      | (.ok (), servers, events) =>
          let run := work settings servers
          let log := opening ++ prepared ++ events ++ run.log ++ closingEvents signal
          (⟨0, [], filter.select log, run.value.settled⟩, run.state)

/-- Runs the service in an environment. -/
def run (environment : Environment) (servers : Servers) (signal : StopSignal) : Report × Servers :=
  match environment.settings with
  | .error fault => (⟨1, ["Failed to load configuration: " ++ fault.message], [], []⟩, servers)
  | .ok settings =>
      match reportingFault? settings.reporting with
      | some fault =>
          let text := "Failed to initialize telemetry: Exporter otlp encountered the following "
            ++ "error(s): invalid URI " ++ fault.text
          (⟨1, [text], [], []⟩, servers)
      | none => runWith settings servers signal

end Glasshouse.Service
