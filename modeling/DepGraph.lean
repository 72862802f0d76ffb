import DepGraph.Acquisition
import DepGraph.Content
import DepGraph.Event
import DepGraph.Fault
import DepGraph.Health
import DepGraph.Http.Failure
import DepGraph.Http.Message
import DepGraph.Http.Routing
import DepGraph.Http.Sharing
import DepGraph.Http.Status
import DepGraph.Ignore.Glob
import DepGraph.Ignore.Pattern
import DepGraph.Ignore.Rules
import DepGraph.Ingestion
import DepGraph.Json.Printer
import DepGraph.Json.Reader
import DepGraph.Json.Token
import DepGraph.Json.Value
import DepGraph.Log.Level
import DepGraph.Log.Line
import DepGraph.Notebook
import DepGraph.Number.Decimal
import DepGraph.Number.Layout
import DepGraph.Number.Shortest
import DepGraph.Path.Basic
import DepGraph.ReadFile
import DepGraph.Rebuild
import DepGraph.Redaction
import DepGraph.Resolution
import DepGraph.Run.Basic
import DepGraph.Run.Directories
import DepGraph.Run.State
import DepGraph.Server
import DepGraph.Settings.Check
import DepGraph.Settings.EnvFile
import DepGraph.Settings.Group
import DepGraph.Settings.Issue
import DepGraph.Settings.Numeral
import DepGraph.Settings.Origin
import DepGraph.Settings.Types
import DepGraph.Snapshot
import DepGraph.SourceFile
import DepGraph.Span
import DepGraph.Store.Basic
import DepGraph.Store.Client
import DepGraph.Store.Graph
import DepGraph.Survey
import DepGraph.Syntax.Extraction
import DepGraph.Syntax.Module.Statement
import DepGraph.Syntax.Module.Token
import DepGraph.Syntax.Node
import DepGraph.Syntax.Pattern
import DepGraph.Syntax.Program.Part
import DepGraph.Syntax.Program.Scanner
import DepGraph.Syntax.Program.Statement
import DepGraph.Syntax.Program.Token
import DepGraph.Syntax.Registry
import DepGraph.Text.Blank
import DepGraph.Text.Case
import DepGraph.Text.CodePoint
import DepGraph.Text.CodeRange
import DepGraph.Text.Hex
import DepGraph.Text.Printable
import DepGraph.Text.Quoted
import DepGraph.Text.Replace
import DepGraph.Text.Utf8
import DepGraph.Text.Wide
import DepGraph.Tree
import DepGraph.Proofs.FirstOccurrence
import DepGraph.Proofs.Rebuild.Draft
import DepGraph.Proofs.Run.Through
import DepGraph.Proofs.Rebuild.Ending
import DepGraph.Proofs.Rebuild.Lifecycle
import DepGraph.Proofs.Rebuild.Contents
import DepGraph.Proofs.Rebuild.Account
import DepGraph.Proofs.Rebuild.Redirection
import DepGraph.Proofs.Ingestion.Ending
import DepGraph.Proofs.Ingestion.Discipline
import DepGraph.Proofs.Ingestion.Report
import DepGraph.Proofs.Survey.Place
import DepGraph.Proofs.Ingestion.History
import DepGraph.Proofs.Survey.Listing
import DepGraph.Proofs.Snapshot.Window
import DepGraph.Proofs.Snapshot.Stored
import DepGraph.Proofs.Server.Answers
import DepGraph.Proofs.Run.Calls
import DepGraph.Proofs.Path.Normal
import DepGraph.Proofs.Path.Route
import DepGraph.Proofs.Resolution.Denotation
import DepGraph.Proofs.Text.Encoding
import DepGraph.Proofs.Ignore.Below
import DepGraph.Proofs.Ignore.Verdict
import DepGraph.Proofs.Ignore.Extent
import DepGraph.Proofs.Ignore.Segment
import DepGraph.Proofs.Ignore.Swallowed
import DepGraph.Proofs.Ignore.Fixed
import DepGraph.Proofs.Rebuild.Unicode
import DepGraph.Proofs.Survey.Pruning
import DepGraph.Proofs.Survey.Filtering
import DepGraph.Proofs.Survey.Narrowing
import DepGraph.Proofs.Resolution.Route
import DepGraph.Proofs.Resolution.Separators
import DepGraph.Proofs.Json.Grammar
import DepGraph.Proofs.Json.Reading
import DepGraph.Proofs.Text.Decoding
import DepGraph.Proofs.Json.Nesting
import DepGraph.Proofs.Notebook.Recovery
import DepGraph.Proofs.Notebook.Code
import DepGraph.Proofs.Text.WellFormed
import DepGraph.Proofs.Rebuild.Verbatim
import DepGraph.Proofs.Syntax.Lineage
import DepGraph.Proofs.Syntax.Outline
import DepGraph.Proofs.Syntax.Traversal
import DepGraph.Proofs.Syntax.Spelling
import DepGraph.Proofs.Log.Logins
import DepGraph.Proofs.Run.Directories
import DepGraph.Proofs.Health
import DepGraph.Proofs.Redaction.Logins
import DepGraph.Proofs.Store.Usage
import DepGraph.Proofs.Redaction.Redacted
import DepGraph.Proofs.Syntax.QuoteMarks
import DepGraph.Proofs.Number.NotANumber
import DepGraph.Proofs.Settings.Numeral
import DepGraph.Proofs.Settings.Origin
import DepGraph.Proofs.Settings.Positive
import DepGraph.Proofs.Text.SmallForm
import DepGraph.Proofs.SourceFile
