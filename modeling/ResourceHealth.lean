import ResourceHealth.Files.Tree
import ResourceHealth.Main
import ResourceHealth.Settings.Json
import ResourceHealth.Shared.Schedule
import ResourceHealth.Proofs.Binary64.Order
import ResourceHealth.Proofs.Sampler.Result
import ResourceHealth.Proofs.Monitor.Steps
import ResourceHealth.Proofs.Monitor.Invariant
import ResourceHealth.Proofs.History.Retention
import ResourceHealth.Proofs.Monitor.Trailing
import ResourceHealth.Proofs.Shared.Recovery
import ResourceHealth.Proofs.Shared.Progress
import ResourceHealth.Proofs.Shared.Serial
import ResourceHealth.Proofs.Shared.Completion
import ResourceHealth.Proofs.Shared.Interleaving
import ResourceHealth.Proofs.Counter
import ResourceHealth.Proofs.Source.Overflow
import ResourceHealth.Proofs.Text.Division
import ResourceHealth.Proofs.Source.Ticks
import ResourceHealth.Proofs.Monitor.Queries
import ResourceHealth.Proofs.Binary64.Monotone
import ResourceHealth.Proofs.Source.Meter
import ResourceHealth.Proofs.Source.Range
import ResourceHealth.Proofs.Monitor.Accounting
import ResourceHealth.Proofs.Binary64.Nearest
import ResourceHealth.Proofs.Monitor.Limits
import ResourceHealth.Proofs.Command.Showing
import ResourceHealth.Proofs.Digits
import ResourceHealth.Proofs.Binary64.Decimal
import ResourceHealth.Proofs.Binary64.Text
import ResourceHealth.Proofs.Json.Token
import ResourceHealth.Proofs.Json.Draft
import ResourceHealth.Proofs.Field
import ResourceHealth.Proofs.Json.Records
import ResourceHealth.Proofs.Monitor.Summary
import ResourceHealth.Proofs.Text.Utf8
import ResourceHealth.Proofs.Toml.Strings
import ResourceHealth.Proofs.Toml.Scalar
import ResourceHealth.Proofs.Toml.Document
import ResourceHealth.Proofs.Toml.Read
import ResourceHealth.Proofs.Settings.Toml
import ResourceHealth.Proofs.Source.Kilobytes
import ResourceHealth.Proofs.Source.Share
import ResourceHealth.Proofs.Source.Conservation
import ResourceHealth.Proofs.Sampler.PassTrace
import ResourceHealth.Proofs.Monitor.Load
import ResourceHealth.Proofs.Text.Rows
import ResourceHealth.Proofs.Source.Layout
import ResourceHealth.Proofs.Binary64.Exact
import ResourceHealth.Proofs.Source.Fullness
import ResourceHealth.Proofs.Monitor.Log
import ResourceHealth.Proofs.Command.Bar
import ResourceHealth.Proofs.Toml.WellFormed
import ResourceHealth.Proofs.Toml.Given
import ResourceHealth.Proofs.Settings.Partial
