import GuardedPatch.CommandLine.Grammar
import GuardedPatch.CommandLine.Request
import GuardedPatch.CommandLine.Run
import GuardedPatch.CommandLine.StoreRequest
import GuardedPatch.CommandLine.Summary
import GuardedPatch.Decimal.Binary64
import GuardedPatch.Decimal.Shortest
import GuardedPatch.Error
import GuardedPatch.Files.Fault
import GuardedPatch.Files.Host
import GuardedPatch.Files.Path
import GuardedPatch.Files.World
import GuardedPatch.Hash.Sha256
import GuardedPatch.Json.Fields
import GuardedPatch.Json.Number
import GuardedPatch.Json.Value
import GuardedPatch.Log.Event
import GuardedPatch.Log.Line
import GuardedPatch.Main
import GuardedPatch.Patch.Change
import GuardedPatch.Patch.Document
import GuardedPatch.Patch.Load
import GuardedPatch.Patch.Raw
import GuardedPatch.Patch.Result
import GuardedPatch.Patch.Secret
import GuardedPatch.Proofs.CommandLine.Secrets
import GuardedPatch.Proofs.Credentials
import GuardedPatch.Proofs.Digest
import GuardedPatch.Proofs.Document
import GuardedPatch.Proofs.Faults
import GuardedPatch.Proofs.Json.RoundTrip
import GuardedPatch.Proofs.Json.Unambiguous
import GuardedPatch.Proofs.Keyed
import GuardedPatch.Proofs.Loading
import GuardedPatch.Proofs.Overlay
import GuardedPatch.Proofs.Records
import GuardedPatch.Proofs.Run.Atomicity
import GuardedPatch.Proofs.Run.Boundaries
import GuardedPatch.Proofs.Run.Bracketing
import GuardedPatch.Proofs.Run.Command
import GuardedPatch.Proofs.Run.Concatenation
import GuardedPatch.Proofs.Run.Drift
import GuardedPatch.Proofs.Run.Effects
import GuardedPatch.Proofs.Run.EntryOrder
import GuardedPatch.Proofs.Run.Failures
import GuardedPatch.Proofs.Run.Fallible
import GuardedPatch.Proofs.Run.Forecast
import GuardedPatch.Proofs.Run.ForeignReports
import GuardedPatch.Proofs.Run.Intent
import GuardedPatch.Proofs.Run.Interchange
import GuardedPatch.Proofs.Run.Kept
import GuardedPatch.Proofs.Run.Locks
import GuardedPatch.Proofs.Run.Lockstep
import GuardedPatch.Proofs.Run.Memory
import GuardedPatch.Proofs.Run.Noninterference
import GuardedPatch.Proofs.Run.Overlap
import GuardedPatch.Proofs.Run.Phases
import GuardedPatch.Proofs.Run.Progress
import GuardedPatch.Proofs.Run.Reference
import GuardedPatch.Proofs.Run.Repeat
import GuardedPatch.Proofs.Run.Secrets
import GuardedPatch.Proofs.Run.Shared
import GuardedPatch.Proofs.Run.UnitOfWork
import GuardedPatch.Proofs.Run.Validation
import GuardedPatch.Proofs.Run.Verdicts
import GuardedPatch.Proofs.SameButSecrets
import GuardedPatch.Proofs.Scalars
import GuardedPatch.Proofs.Store.Checksums
import GuardedPatch.Proofs.Store.Contents
import GuardedPatch.Proofs.Store.Held
import GuardedPatch.Proofs.Store.Listing
import GuardedPatch.Proofs.Store.Migrations
import GuardedPatch.Proofs.Store.Outages
import GuardedPatch.Proofs.Store.Recorded
import GuardedPatch.Proofs.Store.Retrieval
import GuardedPatch.Proofs.Store.Rows
import GuardedPatch.Proofs.Store.SameButSecrets
import GuardedPatch.Proofs.Store.Sessions
import GuardedPatch.Proofs.Store.Shown
import GuardedPatch.Proofs.Store.States
import GuardedPatch.Proofs.Store.Transaction
import GuardedPatch.Proofs.TextMap
import GuardedPatch.Run.Apply
import GuardedPatch.Run.Command
import GuardedPatch.Run.Kept
import GuardedPatch.Run.Outcome
import GuardedPatch.Run.Phase
import GuardedPatch.Run.Report
import GuardedPatch.Run.Step
import GuardedPatch.Run.Traced
import GuardedPatch.Run.Validate
import GuardedPatch.Settings.Profile
import GuardedPatch.Settings.Resolve
import GuardedPatch.Settings.Toml
import GuardedPatch.Store.Basic
import GuardedPatch.Store.Database
import GuardedPatch.Store.DatabaseFile
import GuardedPatch.Store.Faulty
import GuardedPatch.Store.Image
import GuardedPatch.Store.Memory
import GuardedPatch.Store.Migration
import GuardedPatch.Store.Outage
import GuardedPatch.Store.Table
import GuardedPatch.Text.Blank
import GuardedPatch.Text.Hex
import GuardedPatch.Text.Invisible
import GuardedPatch.Text.Quoted
import GuardedPatch.TextMap
import GuardedPatch.Yaml.Node
import GuardedPatch.Yaml.Resolution
import GuardedPatch.Yaml.Scalar.Block
import GuardedPatch.Yaml.Scalar.Folding
import GuardedPatch.Yaml.Scalar.Plain
import GuardedPatch.Yaml.Scalar.Quoted
import GuardedPatch.Yaml.Source
import GuardedPatch.Yaml.Token
import GuardedPatch.Yaml.Token.Reader
