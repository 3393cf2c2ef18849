import LogIntake.Backoff
import LogIntake.Batch
import LogIntake.Call
import LogIntake.Config.Embedder
import LogIntake.Config.Listener
import LogIntake.Config.Service
import LogIntake.Config.Stage
import LogIntake.Config.Store
import LogIntake.Config.Variables
import LogIntake.Dedup.Basic
import LogIntake.Dedup.Window
import LogIntake.Dialogue
import LogIntake.Embedding.Client
import LogIntake.Embedding.Document
import LogIntake.Embedding.Exchange
import LogIntake.Entry.Basic
import LogIntake.Entry.Document
import LogIntake.Entry.Line
import LogIntake.Entry.Timestamp
import LogIntake.Fault
import LogIntake.Json.Numeral
import LogIntake.Json.Token
import LogIntake.Json.Tree
import LogIntake.Json.Value
import LogIntake.Json.Writer
import LogIntake.Main
import LogIntake.Metrics
import LogIntake.Net.Address
import LogIntake.Net.Header
import LogIntake.Net.Host
import LogIntake.Net.Host.Composite
import LogIntake.Net.Host.Composition
import LogIntake.Net.Host.Direction
import LogIntake.Net.Host.Folding
import LogIntake.Net.Host.Joining
import LogIntake.Net.Host.Mark
import LogIntake.Net.Host.Name
import LogIntake.Net.Host.Permitted
import LogIntake.Net.Host.Punycode
import LogIntake.Net.Status
import LogIntake.Net.Uri
import LogIntake.Net.Url
import LogIntake.Number.Binary
import LogIntake.Number.Decimal
import LogIntake.Number.Double
import LogIntake.Number.Single
import LogIntake.Number.Word
import LogIntake.Pipeline.Schedule
import LogIntake.Pipeline.Settings
import LogIntake.Pipeline.Step
import LogIntake.Pipeline.Turn
import LogIntake.Pipeline.World
import LogIntake.Proofs.Dedup.History
import LogIntake.Proofs.Dedup.Monotone
import LogIntake.Proofs.Dedup.Reference
import LogIntake.Proofs.Dedup.Script
import LogIntake.Proofs.Dedup.Windows
import LogIntake.Proofs.Pipeline.Admission
import LogIntake.Proofs.Pipeline.Conservation
import LogIntake.Proofs.Pipeline.Ledger
import LogIntake.Proofs.Pipeline.Order
import LogIntake.Proofs.Pipeline.Run
import LogIntake.Proofs.Pipeline.Schedule
import LogIntake.Proofs.Pipeline.Work
import LogIntake.Proofs.Service.Requests
import LogIntake.Service.Http
import LogIntake.Service.Ingest
import LogIntake.Service.Instance
import LogIntake.Service.Routes
import LogIntake.Service.Startup
import LogIntake.Similarity
import LogIntake.Store.Connection
import LogIntake.Store.Payload
import LogIntake.Store.Request
import LogIntake.Store.Server
import LogIntake.Text.Blank
import LogIntake.Text.Digits
import LogIntake.Text.Ranges
import LogIntake.Text.Replacement
import LogIntake.Text.SipHash
import LogIntake.Text.Utf8
import LogIntake.Time.Calendar
import LogIntake.Time.Instant
import LogIntake.Time.Sleep
import LogIntake.Time.Steady
import LogIntake.Time.Text
import LogIntake.Proofs.Pipeline.Punctual
import LogIntake.Proofs.Call
import LogIntake.Proofs.Pipeline.Load
import LogIntake.Proofs.Pipeline.Stopping
import LogIntake.Proofs.Pipeline.BatchAge
import LogIntake.Proofs.Service.Waiting
import LogIntake.Proofs.Pipeline.Books
import LogIntake.Proofs.Pipeline.Attempts
import LogIntake.Proofs.Pipeline.Storage
import LogIntake.Proofs.Pipeline.Capacity
import LogIntake.Proofs.Store.Race
import LogIntake.Proofs.Service.Accounting
import LogIntake.Proofs.Dedup.Steady
import LogIntake.Proofs.Pipeline.Reliable
import LogIntake.Proofs.Pipeline.Verdicts
import LogIntake.Proofs.Pipeline.Partition
import LogIntake.Proofs.Net.Port
import LogIntake.Proofs.Config.Variables
import LogIntake.Proofs.Config.Loading
import LogIntake.Proofs.Config.Usable
import LogIntake.Proofs.Pipeline.Limits
import LogIntake.Proofs.Embedding.Attempts
import LogIntake.Proofs.Embedding.Exchanges
import LogIntake.Proofs.Dedup.Compared
import LogIntake.Proofs.Dedup.Bounds
import LogIntake.Proofs.Pipeline.Lengths
import LogIntake.Proofs.Service.Starting
import LogIntake.Proofs.Service.Life
import LogIntake.Proofs.Service.Lengths
import LogIntake.Proofs.Text.Blank
import LogIntake.Proofs.Entry.Lines
import LogIntake.Proofs.Embedding.Outcome
import LogIntake.Proofs.Entry.Acceptance
import LogIntake.Proofs.Entry.Metadata
import LogIntake.Proofs.Store.Payload
import LogIntake.Proofs.Entry.Shapes
import LogIntake.Proofs.Entry.NormalForm
import LogIntake.Proofs.Entry.Encodings
import LogIntake.Proofs.Time.Supported
import LogIntake.Proofs.Time.Truncation
import LogIntake.Proofs.Entry.Precision
import LogIntake.Proofs.Entry.Parts
import LogIntake.Proofs.Dedup.Occurrences
import LogIntake.Proofs.Number.Whole
import LogIntake.Proofs.Metrics
import LogIntake.Proofs.Store.Connecting
import LogIntake.Proofs.Service.Opening
import LogIntake.Proofs.Service.Closing
import LogIntake.Proofs.Batch
import LogIntake.Proofs.Number.Product
import LogIntake.Proofs.Backoff.Delays
import LogIntake.Proofs.Backoff.Repetition
import LogIntake.Proofs.Backoff.Budget
import LogIntake.Proofs.Net.Literal
import LogIntake.Proofs.Config.Hosts
