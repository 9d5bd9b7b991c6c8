import Glasshouse.Analytics.Database
import Glasshouse.Analytics.Identifier
import Glasshouse.Analytics.Row
import Glasshouse.Analytics.Statement
import Glasshouse.Analytics.Template
import Glasshouse.Delivery.Broker
import Glasshouse.Delivery.Consumer
import Glasshouse.Delivery.Message
import Glasshouse.Delivery.Verdicts
import Glasshouse.Failure
import Glasshouse.Ingest.Dispatch
import Glasshouse.Ingest.Envelope
import Glasshouse.Ingest.History
import Glasshouse.Ingest.Program
import Glasshouse.Ingest.Schedule
import Glasshouse.Ingest.Settlement
import Glasshouse.Ingest.SinglePass
import Glasshouse.Log
import Glasshouse.Main
import Glasshouse.Network.HttpStatus
import Glasshouse.Network.Reach
import Glasshouse.Network.Uri
import Glasshouse.Number.Binary
import Glasshouse.Proofs.Silence
import Glasshouse.Service.Environment
import Glasshouse.Service.LogFilter
import Glasshouse.Service.Rendering
import Glasshouse.Service.Run
import Glasshouse.Service.Sections
import Glasshouse.Service.Setting
import Glasshouse.Service.Startup
import Glasshouse.Snapshot.Database
import Glasshouse.Snapshot.Server
import Glasshouse.Snapshot.Statement
import Glasshouse.Snapshot.Tables
import Glasshouse.Status.Batch
import Glasshouse.Status.Combine
import Glasshouse.Status.Measurements
import Glasshouse.Status.Message
import Glasshouse.Status.Record
import Glasshouse.Status.Sample
import Glasshouse.Store.Call
import Glasshouse.Store.Document
import Glasshouse.Store.Memory
import Glasshouse.Store.Path
import Glasshouse.Store.Scripted
import Glasshouse.Text.Blank
import Glasshouse.Text.CaseTable
import Glasshouse.Text.Decimal
import Glasshouse.Text.LowerCase
import Glasshouse.Text.PrintableTable
import Glasshouse.Text.Quoted
import Glasshouse.Time.Calendar
import Glasshouse.Time.Instant
import Glasshouse.Wire.Fault
import Glasshouse.Wire.Grammar
import Glasshouse.Wire.Key
import Glasshouse.Wire.Message
import Glasshouse.Wire.Scalar
import Glasshouse.Wire.Skip
import Glasshouse.Wire.Varint
import Glasshouse.Proofs.Resumption
import Glasshouse.Proofs.BatchWrites
import Glasshouse.Proofs.SinglePass
import Glasshouse.Proofs.Documents
import Glasshouse.Proofs.Memory
import Glasshouse.Proofs.Pass
import Glasshouse.Proofs.AcknowledgedRows
import Glasshouse.Proofs.Redelivery
import Glasshouse.Proofs.Owed
import Glasshouse.Proofs.ConcurrentDelivery
import Glasshouse.Proofs.BatchViews
import Glasshouse.Proofs.RoundTrip
import Glasshouse.Proofs.ReachableStores
import Glasshouse.Proofs.SettledOnce
import Glasshouse.Proofs.JoinedBatches
import Glasshouse.Proofs.AcknowledgedDocuments
import Glasshouse.Proofs.Conflicts
import Glasshouse.Proofs.DeviceShares
import Glasshouse.Proofs.DifferentDevices
import Glasshouse.Proofs.CompleteIngestion
import Glasshouse.Proofs.Hopeless
import Glasshouse.Proofs.SuffixWalks
import Glasshouse.Proofs.SnapshotStores
import Glasshouse.Proofs.Replay
import Glasshouse.Proofs.WriteOnce
import Glasshouse.Proofs.LastWrites
import Glasshouse.Proofs.WriteOrder
import Glasshouse.Proofs.WrittenBatches
import Glasshouse.Proofs.DeviceClocks
import Glasshouse.Proofs.CompleteFields
import Glasshouse.Proofs.Splitting
import Glasshouse.Proofs.UnknownFields
import Glasshouse.Proofs.CombinedStates
import Glasshouse.Proofs.BoundedWalks
import Glasshouse.Proofs.Paths
import Glasshouse.Proofs.QuotedNames
import Glasshouse.Proofs.Numerals
import Glasshouse.Proofs.LoadedSettings
