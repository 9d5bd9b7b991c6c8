import Glasshouse.Analytics.Database
import Glasshouse.Delivery.Broker
import Glasshouse.Service.Environment
import Glasshouse.Snapshot.Database

/-!
# Sections of the settings

Each part of the service gets the settings that concern it. For the log, settings are shown with
their names, and secrets are not shown.
-/

namespace Glasshouse.Service

open Text Time

/-- What the reporting of events needs to know. -/
structure ReportingSettings where
  serviceName : String
  endpoint : String
  enabled : Bool
  logLevel : String
deriving DecidableEq, Repr

namespace Settings

/-- The settings of ingestion. -/
def ingest (settings : Settings) : Ingest.Settings :=
  ⟨settings .ignoreSuffix, ⟨settings .analyticsDataset, settings .analyticsTable⟩⟩

/-- A number of seconds in nanoseconds. -/
def nanosOfSeconds (count : UInt64) : Nat :=
  count.toNat * Instant.nanosPerSecond

/-- The settings of the consumer. -/
def consumer (settings : Settings) : Delivery.ConsumerSettings where
  stream := settings .natsStream
  consumer := settings .natsConsumerName
  filter := settings .natsSubject
  batchSize := UInt64.toNat (settings .natsBatchSize)
  maxWait := nanosOfSeconds (settings .natsBatchWaitSecs)

/-- The settings of the snapshot database. -/
def snapshots (settings : Settings) : Snapshot.DatabaseSettings where
  host := settings .postgresHost
  port := settings .postgresPort
  database := settings .postgresDatabase
  username := settings .postgresUsername
  password := settings .postgresPassword
  poolSize := settings .postgresMaxPoolSize

/-- The settings of the analytics database. -/
def analytics (settings : Settings) : Analytics.ServerSettings where
  url := settings .clickhouseUrl
  username := settings .clickhouseUsername
  password := settings .clickhousePassword

/-- The settings of the reporting of events. -/
def reporting (settings : Settings) : ReportingSettings where
  serviceName := settings .otelServiceName
  endpoint := settings .otelEndpoint
  enabled := settings .otelEnabled
  logLevel := settings .logLevel

end Settings

/-! ## Descriptions -/

/-- What is shown for a secret. -/
def redacted : String :=
  quoted "<redacted>"

/-- The words for a truth value. -/
def flagText (flag : Bool) : String :=
  if flag then "true" else "false"

/-- A value as it is shown: texts between quotes, numbers in decimal. -/
def Form.describe : (form : Form) → form.Value → String
  | .text, value => quoted value
  | .count, value => toString (UInt64.toNat value)
  | .port, value => toString (UInt16.toNat value)
  | .flag, value => flagText value

/-- All settings as they are shown. -/
def Settings.description (settings : Settings) : String :=
  recordText "ServiceConfig" (Setting.all.map fun setting =>
    (setting.name,
      if setting.isSecret then redacted else setting.form.describe (settings setting)))

/-- The settings of the snapshot database as they are shown. -/
def describeSnapshots (settings : Snapshot.DatabaseSettings) : String :=
  recordText "PostgresConfig"
    [("host", quoted settings.host), ("port", toString settings.port.toNat),
      ("database", quoted settings.database), ("username", quoted settings.username),
      ("password", redacted), ("max_pool_size", toString settings.poolSize.toNat)]

/-- The settings of the analytics database as they are shown. -/
def describeAnalytics (settings : Analytics.ServerSettings) : String :=
  recordText "ClickHouseConfig"
    [("url", quoted settings.url), ("username", quoted settings.username), ("password", redacted)]

end Glasshouse.Service
