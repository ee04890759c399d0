import VenueGateway.Address
import VenueGateway.Amount
import VenueGateway.Config.Basic
import VenueGateway.Config.Document
import VenueGateway.Config.Encoding
import VenueGateway.Config.Environment
import VenueGateway.Config.Exchange
import VenueGateway.Config.Observability
import VenueGateway.Config.Validation
import VenueGateway.Coordinator.Basic
import VenueGateway.Coordinator.Instruction
import VenueGateway.Coordinator.Reconciliation
import VenueGateway.Credentials
import VenueGateway.Decimal.Binary
import VenueGateway.Decimal.Fixed
import VenueGateway.Decimal.Reading
import VenueGateway.Decimal.Shortest
import VenueGateway.Dialect.Basic
import VenueGateway.Dialect.Inbound
import VenueGateway.Dialect.Instruction
import VenueGateway.Dialect.Login
import VenueGateway.Dialect.Settings
import VenueGateway.Dialect.Subscription
import VenueGateway.Digest.Fnv
import VenueGateway.Digest.Hmac
import VenueGateway.Digest.Sha
import VenueGateway.Duration
import VenueGateway.Error
import VenueGateway.Error.Encoding
import VenueGateway.Feed.Binance
import VenueGateway.Feed.Deribit
import VenueGateway.Feed.Field
import VenueGateway.Feed.Grvt
import VenueGateway.Feed.Level
import VenueGateway.Json.Basic
import VenueGateway.Json.Fields
import VenueGateway.Json.Lenient
import VenueGateway.Json.Reader
import VenueGateway.Json.Writer
import VenueGateway.Metrics
import VenueGateway.Order.Encoding
import VenueGateway.Order.Entry
import VenueGateway.Order.Instruction
import VenueGateway.Order.Request
import VenueGateway.Order.State
import VenueGateway.Order.Table
import VenueGateway.Order.Update
import VenueGateway.Record.Basic
import VenueGateway.Record.Bus
import VenueGateway.Record.Encoding
import VenueGateway.Resilience.Backoff
import VenueGateway.Resilience.Breaker
import VenueGateway.Resilience.Call
import VenueGateway.Resilience.DeadLetter
import VenueGateway.Resilience.Encoding
import VenueGateway.Resilience.Limiter
import VenueGateway.Resilience.Registry
import VenueGateway.Rest.Client
import VenueGateway.Rest.Exchange
import VenueGateway.Rest.Query
import VenueGateway.Rest.Response
import VenueGateway.Rest.Signing
import VenueGateway.Rest.Status
import VenueGateway.Rest.Url
import VenueGateway.Session.Basic
import VenueGateway.Session.Config
import VenueGateway.Session.Encoding
import VenueGateway.Session.Heartbeat
import VenueGateway.Session.Inbound
import VenueGateway.Session.Reconnect
import VenueGateway.Session.State
import VenueGateway.Session.Worker
import VenueGateway.Simulation.Connection
import VenueGateway.Simulation.Report
import VenueGateway.Simulation.Run
import VenueGateway.Simulation.Scenario
import VenueGateway.Simulation.Transport
import VenueGateway.Simulation.Venues
import VenueGateway.Simulation.World
import VenueGateway.Text.Base64
import VenueGateway.Text.Blank
import VenueGateway.Text.Hex
import VenueGateway.Text.Integer
import VenueGateway.Text.Percent
import VenueGateway.Text.Utf8
import VenueGateway.Text.Visible
import VenueGateway.Timestamp
import VenueGateway.Venue
import VenueGateway.WebSocket.Codec
import VenueGateway.WebSocket.Encoding
import VenueGateway.WebSocket.Endpoint
import VenueGateway.WebSocket.Error
import VenueGateway.WebSocket.Frame
import VenueGateway.WebSocket.Handshake
import VenueGateway.WebSocket.Message
import VenueGateway.Yaml.Basic
import VenueGateway.Yaml.Block
import VenueGateway.Yaml.Document
import VenueGateway.Yaml.Layout
import VenueGateway.Yaml.Node
import VenueGateway.Yaml.Scalar
import VenueGateway.Yaml.Source
import VenueGateway.Yaml.Stream
import VenueGateway.Yaml.Tag
import VenueGateway.Yaml.Text
import VenueGateway.Yaml.Token
import VenueGateway.Yaml.Value
import VenueGateway.Proofs.Amount
import VenueGateway.Proofs.Config.Acceptance
import VenueGateway.Proofs.Coordinator.Admission
import VenueGateway.Proofs.Coordinator.Announcement
import VenueGateway.Proofs.Coordinator.Apart
import VenueGateway.Proofs.Coordinator.Atomicity
import VenueGateway.Proofs.Coordinator.Attempts
import VenueGateway.Proofs.Coordinator.Completion
import VenueGateway.Proofs.Coordinator.Desk
import VenueGateway.Proofs.Coordinator.Errands
import VenueGateway.Proofs.Coordinator.Invocation
import VenueGateway.Proofs.Coordinator.Lockstep
import VenueGateway.Proofs.Coordinator.Neighbours
import VenueGateway.Proofs.Coordinator.Orders
import VenueGateway.Proofs.Coordinator.Passage
import VenueGateway.Proofs.Coordinator.Reconciliation
import VenueGateway.Proofs.Coordinator.Refusals
import VenueGateway.Proofs.Coordinator.Rejection
import VenueGateway.Proofs.Coordinator.Sending
import VenueGateway.Proofs.Coordinator.Snapshot
import VenueGateway.Proofs.Coordinator.Survey
import VenueGateway.Proofs.Decimal.Numeral
import VenueGateway.Proofs.Decimal.Order
import VenueGateway.Proofs.Dialect.Amounts
import VenueGateway.Proofs.Dialect.Answers
import VenueGateway.Proofs.Dialect.Grouping
import VenueGateway.Proofs.Dialect.Heartbeat
import VenueGateway.Proofs.Dialect.Interference
import VenueGateway.Proofs.Dialect.Numbering
import VenueGateway.Proofs.Dialect.Recognition
import VenueGateway.Proofs.Dialect.Refusal
import VenueGateway.Proofs.Dialect.Rejections
import VenueGateway.Proofs.Feed.Forms
import VenueGateway.Proofs.Feed.Levels
import VenueGateway.Proofs.Feed.Names
import VenueGateway.Proofs.Feed.Parsed
import VenueGateway.Proofs.Feed.Reports
import VenueGateway.Proofs.Json.Fields
import VenueGateway.Proofs.Json.Spelling
import VenueGateway.Proofs.Json.Written
import VenueGateway.Proofs.Order.Accounting
import VenueGateway.Proofs.Order.Averages
import VenueGateway.Proofs.Order.Completion
import VenueGateway.Proofs.Order.Identity
import VenueGateway.Proofs.Order.Lifecycle
import VenueGateway.Proofs.Order.Mean
import VenueGateway.Proofs.Order.Receive
import VenueGateway.Proofs.Order.Revision
import VenueGateway.Proofs.Order.Table
import VenueGateway.Proofs.Order.Totals
import VenueGateway.Proofs.Record.Payload
import VenueGateway.Proofs.Resilience.Allowance
import VenueGateway.Proofs.Resilience.Call
import VenueGateway.Proofs.Resilience.Circuit
import VenueGateway.Proofs.Resilience.Conservation
import VenueGateway.Proofs.Resilience.Contention
import VenueGateway.Proofs.Resilience.Delays
import VenueGateway.Proofs.Resilience.Diagram
import VenueGateway.Proofs.Resilience.Exhaustion
import VenueGateway.Proofs.Resilience.Overlap
import VenueGateway.Proofs.Resilience.Retry
import VenueGateway.Proofs.Resilience.Scripted
import VenueGateway.Proofs.Rest.Parameters
import VenueGateway.Proofs.Rest.Signing
import VenueGateway.Proofs.Rest.Target
import VenueGateway.Proofs.Session.Arrivals
import VenueGateway.Proofs.Session.Books
import VenueGateway.Proofs.Session.Channels
import VenueGateway.Proofs.Session.Hearing
import VenueGateway.Proofs.Session.Holding
import VenueGateway.Proofs.Session.Intake
import VenueGateway.Proofs.Session.Line
import VenueGateway.Proofs.Session.Notices
import VenueGateway.Proofs.Session.Numbers
import VenueGateway.Proofs.Session.Reaction
import VenueGateway.Proofs.Session.Subscriptions
import VenueGateway.Proofs.Text.Base64
import VenueGateway.Proofs.Text.Pieces
import VenueGateway.Proofs.Text.Prefix
import VenueGateway.Proofs.Text.Query
import VenueGateway.Proofs.Text.Spelling
import VenueGateway.Proofs.Text.Utf8
import VenueGateway.Proofs.WebSocket.Assembly
import VenueGateway.Proofs.WebSocket.Bounds
import VenueGateway.Proofs.WebSocket.Checked
import VenueGateway.Proofs.WebSocket.Closing
import VenueGateway.Proofs.WebSocket.Decoding
import VenueGateway.Proofs.WebSocket.EndpointText
import VenueGateway.Proofs.WebSocket.Head
import VenueGateway.Proofs.WebSocket.HeadLimit
import VenueGateway.Proofs.WebSocket.Upgrade
import VenueGateway.Proofs.WebSocket.Wire
