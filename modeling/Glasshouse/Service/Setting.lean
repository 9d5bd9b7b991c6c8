/-!
# The settings of the service

The service has 23 settings. Each has a name, a form of value and a value that it takes if nothing
else is said. A configuration gives every setting a value of its form.
-/

namespace Glasshouse.Service

/-- The form of a setting's value. -/
inductive Form where
  | text
  /-- A number of 64 bits. -/
  | count
  /-- A number of 16 bits. -/
  | port
  | flag
deriving DecidableEq, Repr

/-- The values of a form. -/
abbrev Form.Value : Form → Type
  | text => String
  | count => UInt64
  | port => UInt16
  | flag => Bool

/-- One of the settings. -/
inductive Setting where
  | logLevel
  | natsUrl
  | natsStream
  | natsSubject
  | natsConsumerName
  | natsBatchSize
  | natsBatchWaitSecs
  | startupTimeoutSecs
  | postgresHost
  | postgresPort
  | postgresDatabase
  | postgresUsername
  | postgresPassword
  | postgresMaxPoolSize
  | clickhouseUrl
  | clickhouseUsername
  | clickhousePassword
  | analyticsDataset
  | analyticsTable
  | ignoreSuffix
  | otelEndpoint
  | otelEnabled
  | otelServiceName
deriving DecidableEq, Repr

namespace Setting

/-- All settings in the order in which they are shown. -/
def all : List Setting :=
  [logLevel, natsUrl, natsStream, natsSubject, natsConsumerName, natsBatchSize, natsBatchWaitSecs,
    startupTimeoutSecs, postgresHost, postgresPort, postgresDatabase, postgresUsername,
    postgresPassword, postgresMaxPoolSize, clickhouseUrl, clickhouseUsername, clickhousePassword,
    analyticsDataset, analyticsTable, ignoreSuffix, otelEndpoint, otelEnabled, otelServiceName]

/-- No setting is missing from the list of all. -/
theorem mem_all (setting : Setting) : setting ∈ all := by
  cases setting <;> decide

/-- The name of a setting. -/
def name : Setting → String
  | logLevel => "log_level"
  | natsUrl => "nats_url"
  | natsStream => "nats_stream"
  | natsSubject => "nats_subject"
  | natsConsumerName => "nats_consumer_name"
  | natsBatchSize => "nats_batch_size"
  | natsBatchWaitSecs => "nats_batch_wait_secs"
  | startupTimeoutSecs => "startup_timeout_secs"
  | postgresHost => "postgres_host"
  | postgresPort => "postgres_port"
  | postgresDatabase => "postgres_database"
  | postgresUsername => "postgres_username"
  | postgresPassword => "postgres_password"
  | postgresMaxPoolSize => "postgres_max_pool_size"
  | clickhouseUrl => "clickhouse_url"
  | clickhouseUsername => "clickhouse_username"
  | clickhousePassword => "clickhouse_password"
  | analyticsDataset => "analytics_dataset"
  | analyticsTable => "analytics_table"
  | ignoreSuffix => "ignore_suffix"
  | otelEndpoint => "otel_endpoint"
  | otelEnabled => "otel_enabled"
  | otelServiceName => "otel_service_name"

/-- The form of a setting's value. -/
def form : Setting → Form
  | natsBatchSize | natsBatchWaitSecs | startupTimeoutSecs | postgresMaxPoolSize => .count
  | postgresPort => .port
  | otelEnabled => .flag
  | _ => .text

/-- The value of a setting if nothing else is said. -/
def initial : (setting : Setting) → setting.form.Value
  | logLevel => "info"
  | natsUrl => "nats://localhost:4222"
  | natsStream => "device_status"
  | natsSubject => "device_status.>"
  | natsConsumerName => "status-ingester"
  | natsBatchSize => (30 : UInt64)
  | natsBatchWaitSecs => (5 : UInt64)
  | startupTimeoutSecs => (30 : UInt64)
  | postgresHost => "localhost"
  | postgresPort => (5432 : UInt16)
  | postgresDatabase => "hydroponics"
  | postgresUsername => "hydroponics"
  | postgresPassword => "hydroponics"
  | postgresMaxPoolSize => (10 : UInt64)
  | clickhouseUrl => "http://localhost:8123"
  | clickhouseUsername => "default"
  | clickhousePassword => ""
  | analyticsDataset => "hydroponics"
  | analyticsTable => "telemetry"
  | ignoreSuffix => ""
  | otelEndpoint => "http://localhost:4317"
  | otelEnabled => false
  | otelServiceName => "hydroponics-all-in-one"

/-- The value of a setting is never shown. -/
def isSecret : Setting → Bool
  | postgresPassword | clickhousePassword => true
  | _ => false

end Setting

/-- A value for every setting. -/
def Settings : Type :=
  (setting : Setting) → setting.form.Value

end Glasshouse.Service
