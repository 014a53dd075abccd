import SensorRouter.Command.Basic
import SensorRouter.Command.Wire
import SensorRouter.CommandLine.Arguments
import SensorRouter.CommandLine.Run
import SensorRouter.Dict
import SensorRouter.Directory.Basic
import SensorRouter.Directory.Report
import SensorRouter.Directory.Update
import SensorRouter.Entity.Basic
import SensorRouter.Entity.Wire
import SensorRouter.Expiry.Cache
import SensorRouter.Expiry.Entry
import SensorRouter.Gzip.Crc32
import SensorRouter.Gzip.Inflate
import SensorRouter.Gzip.Member
import SensorRouter.Health
import SensorRouter.Http.Endpoint
import SensorRouter.Instant.Basic
import SensorRouter.Instant.Text
import SensorRouter.Json.Document
import SensorRouter.Json.Number
import SensorRouter.Json.Printer
import SensorRouter.Json.Record
import SensorRouter.Json.Token
import SensorRouter.Json.Value
import SensorRouter.Live.Index
import SensorRouter.Live.RouteSet
import SensorRouter.Main
import SensorRouter.Message.Basic
import SensorRouter.Message.Intake
import SensorRouter.Message.Wire
import SensorRouter.NetworkEvent
import SensorRouter.Number.Double
import SensorRouter.Number.Form
import SensorRouter.Number.Shortest
import SensorRouter.Outbound.Batch
import SensorRouter.Outbound.Publisher
import SensorRouter.Outbound.Queues
import SensorRouter.Outbound.TopicQueue
import SensorRouter.Outbound.Topics
import SensorRouter.Proofs.Directory.Agreement
import SensorRouter.Proofs.Directory.Failure
import SensorRouter.Proofs.Directory.InPlace
import SensorRouter.Proofs.Directory.Loading
import SensorRouter.Proofs.Directory.Lookup
import SensorRouter.Proofs.Directory.Reload
import SensorRouter.Proofs.Directory.Replay
import SensorRouter.Proofs.Directory.Resync
import SensorRouter.Proofs.Expiry.Lifecycle
import SensorRouter.Proofs.Expiry.Lookup
import SensorRouter.Proofs.Expiry.Run
import SensorRouter.Proofs.Installation.Basic
import SensorRouter.Proofs.Installation.Provenance
import SensorRouter.Proofs.Installation.Withdrawal
import SensorRouter.Proofs.Live.Refinement
import SensorRouter.Proofs.Live.Routes
import SensorRouter.Proofs.Outbound.Additions
import SensorRouter.Proofs.Outbound.Handover
import SensorRouter.Proofs.Outbound.Outbox
import SensorRouter.Proofs.Outbound.Outcomes
import SensorRouter.Proofs.Repository.Served
import SensorRouter.Proofs.Ring.Contents
import SensorRouter.Proofs.Ring.Removal
import SensorRouter.Proofs.Routing.Acceptance
import SensorRouter.Proofs.Routing.Authorization
import SensorRouter.Proofs.Routing.Decision
import SensorRouter.Proofs.Routing.FanOut
import SensorRouter.Proofs.Routing.Isolation
import SensorRouter.Repository.Basic
import SensorRouter.Repository.Registry
import SensorRouter.Ring
import SensorRouter.Router
import SensorRouter.Routing.Authorization
import SensorRouter.Routing.Pipeline
import SensorRouter.Routing.Rejection
import SensorRouter.Routing.Stages
import SensorRouter.Routing.Stats
import SensorRouter.Routing.Validation
import SensorRouter.Service.Agenda
import SensorRouter.Service.Basic
import SensorRouter.Service.Engine
import SensorRouter.Service.Status
import SensorRouter.Settings.Basic
import SensorRouter.Settings.Wire
import SensorRouter.SocketAddress
import SensorRouter.Text.Blank
import SensorRouter.Text.Template
import SensorRouter.Text.Utf8
import SensorRouter.TextSet
import SensorRouter.Toml.Node
import SensorRouter.Toml.Printer
import SensorRouter.Toml.Scalar
import SensorRouter.Toml.Text
import SensorRouter.Proofs.Expiry.Accounting
import SensorRouter.Proofs.Expiry.PlainMap
import SensorRouter.Proofs.Ring.Window
import SensorRouter.Proofs.Ring.Sequence
import SensorRouter.Proofs.Ring.Checked
import SensorRouter.Proofs.Routing.Credentials
import SensorRouter.Proofs.Directory.Retention
import SensorRouter.Proofs.Installation.Traffic
import SensorRouter.Proofs.Routing.Passes
import SensorRouter.Proofs.Json.Scanning
import SensorRouter.Proofs.Json.RoundTrip
import SensorRouter.Proofs.Command.Payload
import SensorRouter.Proofs.Directory.Flush
import SensorRouter.Proofs.Command.SyncText
import SensorRouter.Proofs.Directory.SyncForms
import SensorRouter.Proofs.Json.Integers
import SensorRouter.Proofs.Json.FieldOrder
import SensorRouter.Proofs.Json.Readers
import SensorRouter.Proofs.Command.Arguments
import SensorRouter.Proofs.Gzip.Limit
import SensorRouter.Proofs.Gzip.Stored
import SensorRouter.Proofs.Outbound.Codec
import SensorRouter.Proofs.Outbound.Grouping
import SensorRouter.Proofs.Routing.Drain
import SensorRouter.Proofs.Service.Run
import SensorRouter.Proofs.Service.Shutdown
import SensorRouter.Proofs.Text.Substitution
import SensorRouter.Proofs.Outbound.Destinations
import SensorRouter.Proofs.Expiry.Insertion
import SensorRouter.Proofs.Message.Intake
import SensorRouter.Proofs.Json.Doubles
import SensorRouter.Proofs.Json.Decoding
import SensorRouter.Proofs.Message.RoundTrip
import SensorRouter.Proofs.Ring.Growth
import SensorRouter.Proofs.Routing.Settlement
