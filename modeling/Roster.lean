import Roster.Agent.Template
import Roster.Command.Template
import Roster.Registry.Builtin
import Roster.Agent.Listing
import Roster.Command.Listing
import Roster.Definition.Invalid
import Roster.Similarity
import Roster.Pattern.Matching
import Roster.Command.Reading
import Roster.Command.Validation
import Roster.Command.Plan
import Roster.Command.Context
import Roster.Agent.Reading
import Roster.Agent.Validation
import Roster.Agent.Team
import Roster.Agent.Context
import Roster.Unicode.Case
import Roster.Unicode.Width
import Roster.Unicode.Category
import Roster.Unicode.Property
import Roster.Unicode.Script
import Roster.Yaml.Event
import Roster.Document.Basic
import Roster.Yaml.Token.Stream
import Roster.Yaml.Token.Scalar
import Roster.Json.Reader
import Roster.Json.Printer
import Roster.Number.Decimal
import Roster.Number.Shortest
import Roster.Text.Blank
import Roster.Text.Lines
import Roster.Text.Quoted
import Roster.Text.Slice
import Roster.Text.Utf8
import Roster.Timestamp.Reading
import Roster.Scope
import Roster.Definition.Heading
import Roster.Definition.Report
import Roster.Definition.Security
import Roster.Definition.Sorting
import Roster.FilePath
import Roster.NameMap
import Roster.Main
import Roster.CommandLine.Run
import Roster.CommandLine.Invocation
import Roster.Settings.Layers
import Roster.Registry.Directory
import Roster.FileTree.Workspace
import Roster.Proofs.Counting
import Roster.Proofs.NameMap
import Roster.Proofs.PathOrder
import Roster.Proofs.Text.Lines
import Roster.Proofs.Text.Returns
import Roster.Proofs.Number.Exact
import Roster.Proofs.Number.Decimal
import Roster.Proofs.Json.Record
import Roster.Proofs.Json.Neutral
import Roster.Proofs.Json.Place
import Roster.Proofs.Json.RoundTrip
import Roster.Proofs.Yaml.Node
import Roster.Proofs.Document.Division
import Roster.Proofs.Document.RoundTrip
import Roster.Proofs.Document.Placement
import Roster.Proofs.Document.Body
import Roster.Proofs.Document.Lenient
import Roster.Proofs.Yaml.Value
import Roster.Proofs.Document.LineEnds
import Roster.Proofs.Definition.Layout
import Roster.Proofs.Definition.Meaning
import Roster.Proofs.Agent.Reading
import Roster.Proofs.Agent.Meaning
import Roster.Proofs.Command.Coercion
import Roster.Proofs.Command.ExactNumbers
import Roster.Proofs.Command.Text
import Roster.Proofs.Command.Parameters
import Roster.Proofs.Command.Conditions
import Roster.Proofs.Command.Conformance
import Roster.Proofs.Command.Normalized
import Roster.Proofs.Command.Schema
import Roster.Proofs.Command.Layouts
import Roster.Proofs.Command.Declarations
import Roster.Proofs.Command.Reading
import Roster.Proofs.Command.Account
import Roster.Proofs.Command.Entries
import Roster.Proofs.Command.Meaning
import Roster.Proofs.Definition.Defaults
import Roster.Proofs.Command.Repeated
import Roster.Proofs.Command.Plan
import Roster.Proofs.Registry.Reading
import Roster.Proofs.Registry.Run
import Roster.Proofs.Registry.Policy
import Roster.Proofs.Registry.Precedence
import Roster.Proofs.Registry.Account
import Roster.Proofs.Registry.Isolation
import Roster.Proofs.Registry.SourceOrder
import Roster.Proofs.Registry.Listing
import Roster.Proofs.Registry.Single
import Roster.Proofs.Registry.Starting
import Roster.Proofs.Agent.Team
import Roster.Proofs.Agent.Capabilities
import Roster.Proofs.Command.Contradictions
import Roster.Proofs.Definition.Validation
import Roster.Proofs.Agent.Template
import Roster.Proofs.Command.Template
import Roster.Proofs.Definition.Template
import Roster.Proofs.Command.Integers
import Roster.Proofs.StableOrder
import Roster.Proofs.Text.ByteOrder
import Roster.Proofs.Definition.Sorting
import Roster.Proofs.Registry.Filtering
import Roster.Proofs.Registry.Names
import Roster.Proofs.CommandLine.Assignment
import Roster.Proofs.Text.Parts
import Roster.Proofs.Json.StringList
import Roster.Proofs.Command.Suggestion
import Roster.Proofs.CommandLine.Spelling
import Roster.Proofs.CommandLine.Selection
import Roster.Proofs.CommandLine.Checks
import Roster.Proofs.CommandLine.Truncation
