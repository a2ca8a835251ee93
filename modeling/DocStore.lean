import DocStore.Blob.File
import DocStore.Blob.Key
import DocStore.Blob.Memory
import DocStore.Blob.Store
import DocStore.Cli.Grammar
import DocStore.Cli.Parse
import DocStore.Cli.Run
import DocStore.Error
import DocStore.Fs.Tree
import DocStore.Json.Cursor
import DocStore.Json.Decode
import DocStore.Json.Error
import DocStore.Json.Read
import DocStore.Json.Scan
import DocStore.Json.Value
import DocStore.Json.Write
import DocStore.Main
import DocStore.Migration.Backfill
import DocStore.Migration.Coordinator
import DocStore.Migration.History
import DocStore.Migration.Progress
import DocStore.Migration.Registry
import DocStore.Migration.Step
import DocStore.Model.Codec
import DocStore.Model.Create
import DocStore.Model.Document
import DocStore.Model.Entity
import DocStore.Repo.Identity
import DocStore.Repo.Message
import DocStore.Repo.Pipeline
import DocStore.Repo.Profile
import DocStore.Repo.Project
import DocStore.Store.Config
import DocStore.Store.Console
import DocStore.Store.Lifecycle
import DocStore.Store.Report
import DocStore.Store.Vault
import DocStore.Text.Blank
import DocStore.Text.Category
import DocStore.Text.Decimal
import DocStore.Text.Lower
import DocStore.Text.RangeTable
import DocStore.Text.Redact
import DocStore.Text.Sha256
import DocStore.Time.Instant
import DocStore.Time.Parse
import DocStore.Validation.Codec
import DocStore.Validation.Document
import DocStore.Validation.Entity
import DocStore.Validation.Field
import DocStore.Validation.Pattern
import DocStore.Validation.Timed
import DocStore.Validation.Transition
import DocStore.Validation.Verdict
import DocStore.Proofs.Registry.Chains
import DocStore.Proofs.Registry.Search
import DocStore.Proofs.Registry.Path
import DocStore.Proofs.Registry.Latest
import DocStore.Proofs.Store.Steps
import DocStore.Proofs.Time.Calendar
import DocStore.Proofs.Time.Text
import DocStore.Proofs.Blob.Snapshots
import DocStore.Proofs.Migration.Run
import DocStore.Proofs.Migration.Rollback
import DocStore.Proofs.Migration.Backfill
import DocStore.Proofs.Migration.Observed
import DocStore.Proofs.Migration.Plan
import DocStore.Proofs.Store.Coherence
import DocStore.Proofs.Store.Calls
import DocStore.Proofs.Validation.WellFormed
import DocStore.Proofs.Repo.Edits
import DocStore.Proofs.Repo.Checks
import DocStore.Proofs.Repo.Changes
import DocStore.Proofs.Repo.Settles
import DocStore.Proofs.Repo.Append
import DocStore.Proofs.Repo.Status
import DocStore.Proofs.Store.Start
import DocStore.Proofs.Json.Layout
import DocStore.Proofs.Json.Reads
import DocStore.Proofs.Migration.History
import DocStore.Proofs.Store.ConfigKeys
import DocStore.Proofs.Validation.Hosts
import DocStore.Proofs.Fs.Nodes
import DocStore.Proofs.Blob.FilePaths
import DocStore.Proofs.Blob.FileSteps
import DocStore.Proofs.Blob.Retention
import DocStore.Proofs.Json.Blanks
import DocStore.Proofs.Blob.Restore
import DocStore.Proofs.Validation.Builders
import DocStore.Proofs.Validation.Combinators
import DocStore.Proofs.Text.Redaction
import DocStore.Proofs.Validation.Repeats
import DocStore.Proofs.Json.Numbers
import DocStore.Proofs.Json.Values
import DocStore.Proofs.Json.Fields
import DocStore.Proofs.Model.ReadBack
import DocStore.Proofs.Json.Yields
import DocStore.Proofs.Model.Decoded
