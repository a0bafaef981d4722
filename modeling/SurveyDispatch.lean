import SurveyDispatch.CommandLine.Arguments
import SurveyDispatch.CommandLine.Commands
import SurveyDispatch.CommandLine.Fault
import SurveyDispatch.CommandLine.Files
import SurveyDispatch.CommandLine.Program
import SurveyDispatch.Dictionary
import SurveyDispatch.Dispatch.Configuration
import SurveyDispatch.Dispatch.Fault
import SurveyDispatch.Dispatch.Listing
import SurveyDispatch.Dispatch.Message
import SurveyDispatch.Dispatch.Pipeline
import SurveyDispatch.Dispatch.Publisher
import SurveyDispatch.Dispatch.Report
import SurveyDispatch.Dispatch.Sync
import SurveyDispatch.Document.Basic
import SurveyDispatch.Document.Fields
import SurveyDispatch.Document.Outline
import SurveyDispatch.Document.Path
import SurveyDispatch.Document.Reader
import SurveyDispatch.Document.Writer
import SurveyDispatch.Location.Address
import SurveyDispatch.Location.Coordinates
import SurveyDispatch.Location.Lookup
import SurveyDispatch.Location.Settings
import SurveyDispatch.Main
import SurveyDispatch.Number.Basic
import SurveyDispatch.Number.Binary64
import SurveyDispatch.Number.Decimal
import SurveyDispatch.Number.Real64
import SurveyDispatch.Number.Shortest
import SurveyDispatch.Pattern.Basic
import SurveyDispatch.Pattern.CharSet
import SurveyDispatch.Pattern.Extent
import SurveyDispatch.Pattern.Program
import SurveyDispatch.Pattern.Reader
import SurveyDispatch.Pattern.Search
import SurveyDispatch.RangePattern
import SurveyDispatch.Rule.Alert
import SurveyDispatch.Rule.Configuration
import SurveyDispatch.Rule.Engine
import SurveyDispatch.Rule.Predicate
import SurveyDispatch.Rule.RuleSet
import SurveyDispatch.Store.Basic
import SurveyDispatch.Store.Directory
import SurveyDispatch.Store.FileSystem
import SurveyDispatch.Store.FileTree
import SurveyDispatch.Store.Memory
import SurveyDispatch.Submission.Basic
import SurveyDispatch.Submission.Settings
import SurveyDispatch.Text.Ascii
import SurveyDispatch.Text.Base64
import SurveyDispatch.Text.Blank
import SurveyDispatch.Text.DecimalDigit
import SurveyDispatch.Text.Digits
import SurveyDispatch.Text.FormEncoding
import SurveyDispatch.Text.Front
import SurveyDispatch.Text.Hexadecimal
import SurveyDispatch.Text.Ranges
import SurveyDispatch.Text.Trim
import SurveyDispatch.Text.Utf8
import SurveyDispatch.Text.Utf8Ranges
import SurveyDispatch.Text.WordCharacter
import SurveyDispatch.Toml.File
import SurveyDispatch.Toml.Number
import SurveyDispatch.Toml.Table
import SurveyDispatch.Toml.Text
import SurveyDispatch.Toml.Value
import SurveyDispatch.Dispatch.Session
import SurveyDispatch.Proofs.Batch.Accounting
import SurveyDispatch.Proofs.Batch.Abort
import SurveyDispatch.Proofs.Document.Nesting
import SurveyDispatch.Proofs.Document.Paths
import SurveyDispatch.Proofs.Submission.Compiled
import SurveyDispatch.Proofs.Document.DistinctNames
import SurveyDispatch.Proofs.Document.Outlines
import SurveyDispatch.Proofs.Message.Delivery
import SurveyDispatch.Proofs.Message.Published
import SurveyDispatch.Proofs.Submission.Idempotence
import SurveyDispatch.Proofs.Sync.Copying
import SurveyDispatch.Proofs.Submission.Attachments
import SurveyDispatch.Proofs.Sync.Visit
import SurveyDispatch.Proofs.Sync.Stored
import SurveyDispatch.Proofs.Sync.Sequence
import SurveyDispatch.Proofs.Sync.Repetition
import SurveyDispatch.Proofs.Sync.Counting
import SurveyDispatch.Proofs.Rule.Policies
import SurveyDispatch.Proofs.Store.Scanning
import SurveyDispatch.Proofs.Batch.Isolation
import SurveyDispatch.Proofs.Batch.History
import SurveyDispatch.Proofs.Store.Keys
import SurveyDispatch.Proofs.Store.Trees
import SurveyDispatch.Proofs.Store.Places
import SurveyDispatch.Proofs.Store.Objects
import SurveyDispatch.Proofs.Store.Interchange
import SurveyDispatch.Proofs.Batch.Agreement
import SurveyDispatch.Proofs.Document.KnownFields
import SurveyDispatch.Proofs.Message.RoundTrip
import SurveyDispatch.Proofs.Configuration.Rereading
import SurveyDispatch.Proofs.Document.Places
import SurveyDispatch.Proofs.Submission.Slots
import SurveyDispatch.Proofs.Rule.Templates
import SurveyDispatch.Proofs.RangePattern.Expansion
import SurveyDispatch.Proofs.RangePattern.Segments
import SurveyDispatch.Proofs.RangePattern.Product
import SurveyDispatch.Proofs.Text.Digits
import SurveyDispatch.Proofs.Number.Reading
import SurveyDispatch.Proofs.Number.Texts
import SurveyDispatch.Proofs.Number.Decimals
import SurveyDispatch.Proofs.Document.Equality
import SurveyDispatch.Proofs.Rule.Comparisons
import SurveyDispatch.Proofs.Rule.Denotations
import SurveyDispatch.Proofs.Rule.Acceptance
import SurveyDispatch.Proofs.Pattern.Matching
import SurveyDispatch.Proofs.Pattern.Codes
import SurveyDispatch.Proofs.Pattern.Threads
import SurveyDispatch.Proofs.Location.Keys
import SurveyDispatch.Proofs.Location.Conditions
import SurveyDispatch.Proofs.Pattern.Prospects
import SurveyDispatch.Proofs.Pattern.Finding
import SurveyDispatch.Proofs.Location.Points
import SurveyDispatch.Proofs.Store.Components
import SurveyDispatch.Proofs.Submission.Downloads
import SurveyDispatch.Proofs.Number.Rounding
import SurveyDispatch.Proofs.Number.Spellings
import SurveyDispatch.Proofs.Location.Responses
import SurveyDispatch.Proofs.Document.Resolution
import SurveyDispatch.Proofs.Submission.Readers
import SurveyDispatch.Proofs.Text.FormEncoding
import SurveyDispatch.Proofs.Submission.PublicUrls
import SurveyDispatch.Proofs.Location.Queries
import SurveyDispatch.Proofs.RangePattern.Termination
import SurveyDispatch.Proofs.Text.Ends
import SurveyDispatch.Proofs.Submission.Extensions
