import BridgeWatch.Abi.Decode
import BridgeWatch.Abi.Encode
import BridgeWatch.Abi.ParamType
import BridgeWatch.Abi.Token
import BridgeWatch.Abi.TypeName
import BridgeWatch.AddressText
import BridgeWatch.Assoc
import BridgeWatch.Binary64
import BridgeWatch.Bytes
import BridgeWatch.Chain
import BridgeWatch.CommandLine.Log
import BridgeWatch.CommandLine.Options
import BridgeWatch.CommandLine.Session
import BridgeWatch.Deadline
import BridgeWatch.Event.Basic
import BridgeWatch.Event.Json
import BridgeWatch.Event.Kind
import BridgeWatch.Fault
import BridgeWatch.Http.Exchange
import BridgeWatch.Http.Status
import BridgeWatch.Json.Basic
import BridgeWatch.Json.Reader
import BridgeWatch.Json.Words
import BridgeWatch.Json.Writer
import BridgeWatch.Keccak
import BridgeWatch.Ledger.Gateway
import BridgeWatch.Ledger.Json
import BridgeWatch.Ledger.Submission
import BridgeWatch.Log.Decode
import BridgeWatch.Log.Entry
import BridgeWatch.Log.Json
import BridgeWatch.Main
import BridgeWatch.Metrics
import BridgeWatch.Observer.Basic
import BridgeWatch.Observer.Cadence
import BridgeWatch.Observer.Connection
import BridgeWatch.Observer.Json
import BridgeWatch.Observer.Run
import BridgeWatch.Observer.Status
import BridgeWatch.Observer.Tick
import BridgeWatch.Proofs.Abi.Codec
import BridgeWatch.Proofs.Abi.TypeName
import BridgeWatch.Proofs.Binary64
import BridgeWatch.Proofs.Chain
import BridgeWatch.Proofs.Event.Json
import BridgeWatch.Proofs.Json.RoundTrip
import BridgeWatch.Proofs.Json.Shape
import BridgeWatch.Proofs.Ledger.Notices
import BridgeWatch.Proofs.Ledger.Orders
import BridgeWatch.Proofs.Ledger.Routes
import BridgeWatch.Proofs.Log.Decoding
import BridgeWatch.Proofs.Log.Extension
import BridgeWatch.Proofs.Log.Values
import BridgeWatch.Proofs.Observer.Books
import BridgeWatch.Proofs.Observer.Cadence
import BridgeWatch.Proofs.Observer.CatchUp
import BridgeWatch.Proofs.Observer.Course
import BridgeWatch.Proofs.Observer.Coverage
import BridgeWatch.Proofs.Observer.Delivery
import BridgeWatch.Proofs.Observer.Ending
import BridgeWatch.Proofs.Observer.Fates
import BridgeWatch.Proofs.Observer.Health
import BridgeWatch.Proofs.Observer.History
import BridgeWatch.Proofs.Observer.Override
import BridgeWatch.Proofs.Observer.Progress
import BridgeWatch.Proofs.Observer.Ranges
import BridgeWatch.Proofs.Observer.Relaying
import BridgeWatch.Proofs.Observer.Retries
import BridgeWatch.Proofs.Observer.ScanWindow
import BridgeWatch.Proofs.Observer.Sending
import BridgeWatch.Proofs.Observer.Separation
import BridgeWatch.Proofs.Observer.Watermark
import BridgeWatch.Proofs.Rehearsal.Schedule
import BridgeWatch.Proofs.Relay
import BridgeWatch.Proofs.Rpc.Connector
import BridgeWatch.Proofs.Rpc.Logs
import BridgeWatch.Proofs.Rpc.Rejection
import BridgeWatch.Proofs.Schema.Acceptance
import BridgeWatch.Proofs.Schema.Nesting
import BridgeWatch.Proofs.Schema.Normalization
import BridgeWatch.Proofs.Schema.Tables
import BridgeWatch.Proofs.Schema.TypeNames
import BridgeWatch.Proofs.Settings.Construction
import BridgeWatch.Proofs.Settings.Validation
import BridgeWatch.Proofs.Supervisor.Cadence
import BridgeWatch.Proofs.Supervisor.Cancellation
import BridgeWatch.Proofs.Supervisor.FailedStart
import BridgeWatch.Proofs.Supervisor.InFlight
import BridgeWatch.Proofs.Supervisor.Isolation
import BridgeWatch.Proofs.Supervisor.Schedule
import BridgeWatch.Proofs.Supervisor.Start
import BridgeWatch.Proofs.Text.Blank
import BridgeWatch.Proofs.Text.Decimal
import BridgeWatch.Proofs.Text.Hex
import BridgeWatch.Proofs.Text.Lowercase
import BridgeWatch.Proofs.Text.Utf8
import BridgeWatch.Proofs.Totals
import BridgeWatch.Proofs.Url.Escape
import BridgeWatch.Proofs.Url.Path
import BridgeWatch.Proofs.Watermark.Refinement
import BridgeWatch.Proofs.Window
import BridgeWatch.Proofs.Window.Series
import BridgeWatch.Proofs.Words
import BridgeWatch.Rehearsal.Clock
import BridgeWatch.Rehearsal.World
import BridgeWatch.Relay
import BridgeWatch.Rpc.Connector
import BridgeWatch.Rpc.Logs
import BridgeWatch.Rpc.Rejection
import BridgeWatch.Schema.Basic
import BridgeWatch.Schema.Declaration
import BridgeWatch.Schema.Field
import BridgeWatch.Schema.Signature
import BridgeWatch.Settings.Basic
import BridgeWatch.Settings.Conversion
import BridgeWatch.Settings.Json
import BridgeWatch.Settings.Load
import BridgeWatch.Settings.LoadFault
import BridgeWatch.Settings.Read
import BridgeWatch.Settings.Toml
import BridgeWatch.Settings.Tree
import BridgeWatch.Settings.Validation
import BridgeWatch.Shared
import BridgeWatch.SocketAddress
import BridgeWatch.Supervisor.Basic
import BridgeWatch.Supervisor.Pace
import BridgeWatch.Supervisor.Start
import BridgeWatch.Text.Blank
import BridgeWatch.Text.CaseTable
import BridgeWatch.Text.Decimal
import BridgeWatch.Text.Hex
import BridgeWatch.Text.Lowercase
import BridgeWatch.Text.PrintTable
import BridgeWatch.Text.Quoted
import BridgeWatch.Text.Search
import BridgeWatch.Text.Similarity
import BridgeWatch.Text.Utf8
import BridgeWatch.Url.Basic
import BridgeWatch.Url.Escape
import BridgeWatch.Url.Fault
import BridgeWatch.Url.Host
import BridgeWatch.Url.Path
import BridgeWatch.Watermark.Store
import BridgeWatch.Window
import BridgeWatch.Words
