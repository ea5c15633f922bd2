import SpecCatalog.Archive.Builder
import SpecCatalog.Archive.Checksum
import SpecCatalog.Archive.CodePage437
import SpecCatalog.Archive.Compressor
import SpecCatalog.Archive.Directory
import SpecCatalog.Archive.Entry
import SpecCatalog.Archive.Fault
import SpecCatalog.Archive.Fields
import SpecCatalog.Archive.Inflate
import SpecCatalog.Archive.Storing
import SpecCatalog.Closure
import SpecCatalog.Codec
import SpecCatalog.CommandLine.Arguments
import SpecCatalog.CommandLine.Report
import SpecCatalog.CommandLine.Run
import SpecCatalog.Config
import SpecCatalog.Decimal.Shortest
import SpecCatalog.Discovery
import SpecCatalog.Error
import SpecCatalog.FileTree.Answers
import SpecCatalog.FileTree.Basic
import SpecCatalog.FileTree.IoError
import SpecCatalog.FileTree.Operations
import SpecCatalog.FileTree.PathText
import SpecCatalog.FileTree.Walk
import SpecCatalog.Json.Cursor
import SpecCatalog.Json.Fault
import SpecCatalog.Json.Printer
import SpecCatalog.Json.Record
import SpecCatalog.Json.Scalar
import SpecCatalog.Json.Stream
import SpecCatalog.Layout
import SpecCatalog.Location
import SpecCatalog.LogFilter
import SpecCatalog.Lookup
import SpecCatalog.Main
import SpecCatalog.Name.Map
import SpecCatalog.Name.Rules
import SpecCatalog.Name.Set
import SpecCatalog.Pattern.CharClass
import SpecCatalog.Pattern.Expr
import SpecCatalog.Pattern.Reader
import SpecCatalog.Pattern.Refusal
import SpecCatalog.SearchPath
import SpecCatalog.Sink.Archive
import SpecCatalog.Sink.Basic
import SpecCatalog.Sink.Directory
import SpecCatalog.Sink.Limited
import SpecCatalog.Sink.Memory
import SpecCatalog.Specification.Basic
import SpecCatalog.Specification.Valid
import SpecCatalog.Text.Bytes
import SpecCatalog.Text.Lossy
import SpecCatalog.Text.Quoted
import SpecCatalog.Unicode.Age
import SpecCatalog.Unicode.Breaks
import SpecCatalog.Unicode.CaseFolding
import SpecCatalog.Unicode.Category
import SpecCatalog.Unicode.Property
import SpecCatalog.Unicode.Ranges
import SpecCatalog.Unicode.Script
import SpecCatalog.Proofs.Archive.Building
import SpecCatalog.Proofs.Archive.Ends
import SpecCatalog.Proofs.Archive.Entries
import SpecCatalog.Proofs.Archive.Records
import SpecCatalog.Proofs.Closure.DepthFirst
import SpecCatalog.Proofs.Closure.Exactness
import SpecCatalog.Proofs.Closure.LoadBound
import SpecCatalog.Proofs.Closure.Loads
import SpecCatalog.Proofs.Closure.Naming
import SpecCatalog.Proofs.Closure.Termination
import SpecCatalog.Proofs.Closure.Turns
import SpecCatalog.Proofs.Closure.Walk
import SpecCatalog.Proofs.Codec.Filling
import SpecCatalog.Proofs.Codec.Grammar
import SpecCatalog.Proofs.Codec.RoundTrip
import SpecCatalog.Proofs.Codec.Streams
import SpecCatalog.Proofs.CommandLine.Listings
import SpecCatalog.Proofs.CommandLine.Loading
import SpecCatalog.Proofs.CommandLine.Options
import SpecCatalog.Proofs.CommandLine.Running
import SpecCatalog.Proofs.Config.Acceptance
import SpecCatalog.Proofs.Config.Reading
import SpecCatalog.Proofs.Discovery.Outcome
import SpecCatalog.Proofs.Discovery.Registry
import SpecCatalog.Proofs.Error.Taxonomy
import SpecCatalog.Proofs.FileTree.Ancestors
import SpecCatalog.Proofs.FileTree.Below
import SpecCatalog.Proofs.FileTree.Descent
import SpecCatalog.Proofs.FileTree.Dots
import SpecCatalog.Proofs.FileTree.Growth
import SpecCatalog.Proofs.FileTree.Items
import SpecCatalog.Proofs.FileTree.Listing
import SpecCatalog.Proofs.FileTree.Making
import SpecCatalog.Proofs.FileTree.NewFile
import SpecCatalog.Proofs.FileTree.Passage
import SpecCatalog.Proofs.FileTree.Roots
import SpecCatalog.Proofs.FileTree.Spellings
import SpecCatalog.Proofs.FileTree.Walks
import SpecCatalog.Proofs.Json.Acceptance
import SpecCatalog.Proofs.Json.Counts
import SpecCatalog.Proofs.Json.Cursors
import SpecCatalog.Proofs.Json.Derivation
import SpecCatalog.Proofs.Json.FrontEnds
import SpecCatalog.Proofs.Json.Grammar
import SpecCatalog.Proofs.Json.Printing
import SpecCatalog.Proofs.Json.Records
import SpecCatalog.Proofs.Json.Steps
import SpecCatalog.Proofs.Layout.Paths
import SpecCatalog.Proofs.Location.Order
import SpecCatalog.Proofs.Lookup.Answers
import SpecCatalog.Proofs.Lookup.Outcome
import SpecCatalog.Proofs.Name.Characters
import SpecCatalog.Proofs.Name.Standard
import SpecCatalog.Proofs.SearchPath.Batches
import SpecCatalog.Proofs.SearchPath.Bystanders
import SpecCatalog.Proofs.SearchPath.Extension
import SpecCatalog.Proofs.SearchPath.Findings
import SpecCatalog.Proofs.SearchPath.Holdings
import SpecCatalog.Proofs.SearchPath.Mirrors
import SpecCatalog.Proofs.SearchPath.Packed
import SpecCatalog.Proofs.SearchPath.Rearrangement
import SpecCatalog.Proofs.SearchPath.Scans
import SpecCatalog.Proofs.SearchPath.Shelf
import SpecCatalog.Proofs.SearchPath.Tables
import SpecCatalog.Proofs.SearchPath.Telling
import SpecCatalog.Proofs.SearchPath.Visibility
import SpecCatalog.Proofs.Sink.Archiving
import SpecCatalog.Proofs.Sink.Batch
import SpecCatalog.Proofs.Sink.BrokenBatch
import SpecCatalog.Proofs.Sink.Directory
import SpecCatalog.Proofs.Sink.Entries
import SpecCatalog.Proofs.Sink.FirstWrite
import SpecCatalog.Proofs.Sink.LastWrite
import SpecCatalog.Proofs.Sink.OneFile
import SpecCatalog.Proofs.Sink.ReadBack
import SpecCatalog.Proofs.Specification.Judging
import SpecCatalog.Proofs.Specification.Refusals
import SpecCatalog.Proofs.Stateful
import SpecCatalog.Proofs.Text.Lossless
import SpecCatalog.Proofs.Text.Order
