import KeyTrace.CommandLine
import KeyTrace.Discovery
import KeyTrace.Index.FileIndex
import KeyTrace.Main
import KeyTrace.Report
import KeyTrace.Resource
import KeyTrace.Rule.Set
import KeyTrace.Scan.Session
import KeyTrace.Settings.Store
import KeyTrace.Proofs.Scan.History
import KeyTrace.Proofs.Scan.Tasks
import KeyTrace.Proofs.Scan.Invariant
import KeyTrace.Proofs.Scan.Preservation
import KeyTrace.Proofs.Scan.Work
import KeyTrace.Proofs.Scan.Calls
import KeyTrace.Proofs.Scan.Reachable
import KeyTrace.Proofs.Scan.Publication
import KeyTrace.Proofs.Rule.Index
import KeyTrace.Proofs.Scan.Completion
import KeyTrace.Proofs.Pattern.Layout
import KeyTrace.Proofs.Pattern.Found
import KeyTrace.Proofs.Rule.Segments
import KeyTrace.Proofs.Ascending
import KeyTrace.Proofs.Index.Lookup
import KeyTrace.Proofs.Text.Token
import KeyTrace.Proofs.Rule.Reference
import KeyTrace.Proofs.Scan.LineSearch
import KeyTrace.Proofs.Pattern.Language
import KeyTrace.Proofs.Pattern.Reading
import KeyTrace.Proofs.Rule.Builtin
import KeyTrace.Proofs.Scan.BruteForce
import KeyTrace.Proofs.Text.Offset
import KeyTrace.Proofs.Rule.Slicing
import KeyTrace.Proofs.Scan.Candidacy
import KeyTrace.Proofs.Text.Folding
import KeyTrace.Proofs.Pattern.Folded
import KeyTrace.Proofs.Scan.FoldedCandidacy
import KeyTrace.Proofs.Path
import KeyTrace.Proofs.Scan.Independence
import KeyTrace.Proofs.Rule.Insertion
import KeyTrace.Proofs.Rule.Failing
import KeyTrace.Proofs.Scan.TemplateErrors
import KeyTrace.Proofs.Scan.OneScan
import KeyTrace.Proofs.Scan.Failures
import KeyTrace.Proofs.Scan.AddedRule
import KeyTrace.Proofs.Scan.State
import KeyTrace.Proofs.Text.Utf8
import KeyTrace.Proofs.FileTree
import KeyTrace.Proofs.Toml.Strings
import KeyTrace.Proofs.Toml.Values
import KeyTrace.Proofs.Toml.Lines
import KeyTrace.Proofs.Settings.RoundTrip
import KeyTrace.Proofs.Resource.Elements
import KeyTrace.Proofs.Resource.RoundTrip
import KeyTrace.Proofs.Scan.Accounts
import KeyTrace.Proofs.Scan.Counting
import KeyTrace.Proofs.Scan.Wordless
import KeyTrace.Proofs.Pattern.Reaching
import KeyTrace.Proofs.Pattern.Leftmost
import KeyTrace.Proofs.Pattern.Numbering
import KeyTrace.Proofs.Pattern.Occurrences
import KeyTrace.Proofs.Pattern.Size
import KeyTrace.Proofs.Rule.Comment
import KeyTrace.Proofs.Rule.Literal
import KeyTrace.Proofs.Rule.Modes
import KeyTrace.Proofs.Scan.Slot
import KeyTrace.Proofs.Scan.Progress
import KeyTrace.Proofs.Scan.Outcome
import KeyTrace.Proofs.Pattern.Nesting
import KeyTrace.Proofs.Rule.Highlight
import KeyTrace.Proofs.Text.Lossy
import KeyTrace.Proofs.Text.Lines
import KeyTrace.Proofs.Source.Lines
import KeyTrace.Proofs.Resource.Entities
import KeyTrace.Proofs.Json.Members
import KeyTrace.Proofs.Resource.Leaves
import KeyTrace.Proofs.Attempts
import KeyTrace.Proofs.Resource.Load
import KeyTrace.Proofs.Text.Lowercase
import KeyTrace.Proofs.Text.Blank
import KeyTrace.Proofs.Rule.Extension
import KeyTrace.Proofs.Index.Stopping
import KeyTrace.Proofs.Json.RoundTrip
import KeyTrace.Proofs.Report.RoundTrip
import KeyTrace.Proofs.Path.Below
import KeyTrace.Proofs.Report.FileName
import KeyTrace.Proofs.Report.Color
import KeyTrace.Proofs.Pattern.Extent
import KeyTrace.Proofs.Pattern.ClassExtent
import KeyTrace.Proofs.Pattern.Alike
import KeyTrace.Proofs.Rule.Places
import KeyTrace.Proofs.Rule.Check
import KeyTrace.Proofs.Rule.Expansion
