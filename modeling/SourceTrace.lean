import SourceTrace.Artifact
import SourceTrace.Base64
import SourceTrace.Build.Command
import SourceTrace.Build.Concat
import SourceTrace.Build.Request
import SourceTrace.Build.Scripted
import SourceTrace.Check.Associativity
import SourceTrace.Check.Coverage
import SourceTrace.Check.Failure
import SourceTrace.Check.Markers
import SourceTrace.Check.Names
import SourceTrace.Check.Sources
import SourceTrace.CommandLine.Arguments
import SourceTrace.CommandLine.Lookup
import SourceTrace.CommandLine.Run
import SourceTrace.CommandLine.Usage
import SourceTrace.Compose.Composer
import SourceTrace.Compose.Layered
import SourceTrace.Compose.Resolver
import SourceTrace.Content
import SourceTrace.DataUrl
import SourceTrace.Decimal.Double
import SourceTrace.Decimal.Shortest
import SourceTrace.Document.Basic
import SourceTrace.Document.Builder
import SourceTrace.Document.Decode
import SourceTrace.Document.Encode
import SourceTrace.Document.Index
import SourceTrace.Document.Mappings
import SourceTrace.Domain.Composition
import SourceTrace.Domain.CompositionTable
import SourceTrace.Domain.Direction
import SourceTrace.Domain.DirectionTable
import SourceTrace.Domain.Joining
import SourceTrace.Domain.JoiningTable
import SourceTrace.Domain.Mapping
import SourceTrace.Domain.MappingTable
import SourceTrace.Domain.Name
import SourceTrace.Domain.Punycode
import SourceTrace.Domain.ReplacementTable
import SourceTrace.Domain.Table
import SourceTrace.Error
import SourceTrace.FileAction
import SourceTrace.FileTree
import SourceTrace.Fixture.Basic
import SourceTrace.Fixture.Flags
import SourceTrace.Fixture.Manifest
import SourceTrace.Fixture.Written
import SourceTrace.Json.Parser
import SourceTrace.Json.Pretty
import SourceTrace.Json.Printer
import SourceTrace.Json.Reader
import SourceTrace.Json.Tree
import SourceTrace.Main
import SourceTrace.Path
import SourceTrace.Percent
import SourceTrace.Process
import SourceTrace.Proofs.Artifact.Comment
import SourceTrace.Proofs.Artifact.Embedding
import SourceTrace.Proofs.Build.Concat
import SourceTrace.Proofs.Check.Associativity
import SourceTrace.Proofs.Check.Comments
import SourceTrace.Proofs.Check.Coverage
import SourceTrace.Proofs.Check.Markers
import SourceTrace.Proofs.Check.Sampling
import SourceTrace.Proofs.Compose.Assembly
import SourceTrace.Proofs.Compose.Cycles
import SourceTrace.Proofs.Compose.Embedded
import SourceTrace.Proofs.Compose.Following
import SourceTrace.Proofs.Compose.Layers
import SourceTrace.Proofs.Compose.NormalForm
import SourceTrace.Proofs.Compose.OwnSource
import SourceTrace.Proofs.Compose.Passes
import SourceTrace.Proofs.Compose.Reuse
import SourceTrace.Proofs.Compose.Semantics
import SourceTrace.Proofs.Compose.Spelling
import SourceTrace.Proofs.Compose.Texts
import SourceTrace.Proofs.Compose.Tracked
import SourceTrace.Proofs.Content.Keeping
import SourceTrace.Proofs.Content.Stability
import SourceTrace.Proofs.DataUrl.Pairs
import SourceTrace.Proofs.DataUrl.RoundTrip
import SourceTrace.Proofs.Document.Building
import SourceTrace.Proofs.Document.Directions
import SourceTrace.Proofs.Document.Index
import SourceTrace.Proofs.Document.Interning
import SourceTrace.Proofs.Document.Lookup
import SourceTrace.Proofs.Document.RoundTrip
import SourceTrace.Proofs.Document.Scan
import SourceTrace.Proofs.Document.WellFormed
import SourceTrace.Proofs.FileTree.Directories
import SourceTrace.Proofs.FileTree.Frame
import SourceTrace.Proofs.FileTree.Writing
import SourceTrace.Proofs.Fixture.Matching
import SourceTrace.Proofs.Json.RoundTrip
import SourceTrace.Proofs.Json.Text
import SourceTrace.Proofs.Mappings.Pieces
import SourceTrace.Proofs.Mappings.Range
import SourceTrace.Proofs.Mappings.RoundTrip
import SourceTrace.Proofs.Mappings.Sums
import SourceTrace.Proofs.Path.Below
import SourceTrace.Proofs.Path.Normal
import SourceTrace.Proofs.Path.Parent
import SourceTrace.Proofs.Path.Relative
import SourceTrace.Proofs.Reference.Carried
import SourceTrace.Proofs.Reference.Lines
import SourceTrace.Proofs.Reference.Scanning
import SourceTrace.Proofs.Registers.Basic
import SourceTrace.Proofs.Registers.Mappings
import SourceTrace.Proofs.Registers.Quantities
import SourceTrace.Proofs.Shell.Arithmetic
import SourceTrace.Proofs.Shell.Pattern
import SourceTrace.Proofs.Shell.Regex
import SourceTrace.Proofs.Shell.Search
import SourceTrace.Proofs.Shell.Subshell
import SourceTrace.Proofs.Source.Rebase
import SourceTrace.Proofs.Source.Relative
import SourceTrace.Proofs.Text.Lines
import SourceTrace.Proofs.Text.Occurrences
import SourceTrace.Proofs.Text.Offsets
import SourceTrace.Proofs.Text.Split
import SourceTrace.Proofs.Text.Terminators
import SourceTrace.Proofs.Text.Trim
import SourceTrace.Proofs.Verify.Attribution
import SourceTrace.Proofs.Verify.Confinement
import SourceTrace.Proofs.Verify.Isolation
import SourceTrace.Proofs.Verify.Rebuilds
import SourceTrace.Proofs.Verify.Steps
import SourceTrace.Proofs.Vlq.Canonical
import SourceTrace.Proofs.Vlq.Grammar
import SourceTrace.Proofs.Vlq.RoundTrip
import SourceTrace.Reference
import SourceTrace.Report
import SourceTrace.Shell.Arithmetic
import SourceTrace.Shell.Builtin
import SourceTrace.Shell.Command
import SourceTrace.Shell.Condition
import SourceTrace.Shell.Expansion
import SourceTrace.Shell.Format
import SourceTrace.Shell.Lines
import SourceTrace.Shell.Machine
import SourceTrace.Shell.Pattern
import SourceTrace.Shell.Program
import SourceTrace.Shell.Program.Files
import SourceTrace.Shell.Program.Filters
import SourceTrace.Shell.Program.Grep
import SourceTrace.Shell.Program.Numbers
import SourceTrace.Shell.Program.Options
import SourceTrace.Shell.Program.Sed
import SourceTrace.Shell.Regex
import SourceTrace.Shell.Run
import SourceTrace.Shell.Signal
import SourceTrace.Shell.Token
import SourceTrace.Shell.Word
import SourceTrace.Sorting
import SourceTrace.Source
import SourceTrace.Text.Basic
import SourceTrace.Text.Blank
import SourceTrace.Text.Identifier
import SourceTrace.Text.IdentifierRanges
import SourceTrace.Text.PrintableRanges
import SourceTrace.Text.Quoted
import SourceTrace.Text.Utf16
import SourceTrace.Text.Utf8
import SourceTrace.Text.View
import SourceTrace.Url
import SourceTrace.Url.Address
import SourceTrace.Url.FilePath
import SourceTrace.Url.Host
import SourceTrace.Verify
import SourceTrace.Vlq
import SourceTrace.Proofs.Shell.Arithmetic
import SourceTrace.Proofs.Shell.Pattern
import SourceTrace.Proofs.Shell.Regex
import SourceTrace.Proofs.Shell.Search
import SourceTrace.Proofs.Shell.Subshell
