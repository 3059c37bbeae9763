import Conform.Coercion.Basic
import Conform.Coercion.Email
import Conform.Coercion.Loose
import Conform.Command.Arguments
import Conform.Command.Basic
import Conform.Command.Run
import Conform.Config.Basic
import Conform.Config.Reader
import Conform.Config.Search
import Conform.Config.Source
import Conform.Document.Format
import Conform.Document.Store
import Conform.Failure
import Conform.Files.Host
import Conform.Files.Path
import Conform.Files.Workspace
import Conform.Json.Basic
import Conform.Json.Number
import Conform.Json.Parser
import Conform.Json.Printer
import Conform.Leaf.Basic
import Conform.Leaf.Reader
import Conform.Logging
import Conform.Main
import Conform.Number.Binary64
import Conform.Number.Decimal
import Conform.Number.Shortest
import Conform.Output.Columns
import Conform.Output.Format
import Conform.Output.Style
import Conform.Output.Writer
import Conform.Registry.Basic
import Conform.Registry.Builtin
import Conform.Registry.Name
import Conform.Registry.Outline
import Conform.Registry.Registration
import Conform.Registry.Table
import Conform.Registry.Transform
import Conform.Report.Basic
import Conform.Report.Encoding
import Conform.Schema.Node
import Conform.Schema.Rule
import Conform.Schema.Validator
import Conform.Text.Blank
import Conform.Text.Case
import Conform.Text.CaseTable
import Conform.Text.Split
import Conform.Time.Calendar
import Conform.Time.Reader
import Conform.Toml.Basic
import Conform.Toml.Printer
import Conform.Toml.Reader
import Conform.Toml.Scan
import Conform.Toml.Tree
import Conform.Url.Address
import Conform.Url.Basic
import Conform.Url.Domain
import Conform.Url.LetterTable
import Conform.Url.Punycode
import Conform.Url.Reader
import Conform.Yaml.Basic
import Conform.Yaml.Printer
import Conform.Yaml.Reader
import Conform.Yaml.Scan
import Conform.Proofs.Json.Structure
import Conform.Proofs.Leaf.Grammar
import Conform.Proofs.Leaf.Reading
import Conform.Proofs.Schema.Outcomes
import Conform.Proofs.Schema.Level
import Conform.Proofs.Schema.Walk
import Conform.Proofs.Schema.Reports
import Conform.Proofs.Schema.Canonical
import Conform.Proofs.Coercion.Canonical
import Conform.Proofs.Schema.Construction
import Conform.Proofs.Registry.Builtin
import Conform.Proofs.Registry.Run
import Conform.Proofs.Schema.Mention
import Conform.Proofs.Schema.Leaf
import Conform.Proofs.Schema.Spelling
import Conform.Proofs.Schema.FixedPoint
import Conform.Proofs.Schema.Chain
import Conform.Proofs.Schema.Matching
import Conform.Proofs.Output.Run
import Conform.Proofs.Command.FrontEnd
import Conform.Proofs.Registry.History
import Conform.Proofs.Schema.Order
import Conform.Proofs.Number.Shortest
import Conform.Proofs.Number.Text
import Conform.Proofs.Leaf.Faults
import Conform.Proofs.Number.Rounding
import Conform.Proofs.Number.Decimal
import Conform.Proofs.Registry.Range
import Conform.Proofs.Coercion.Spelling
import Conform.Proofs.Registry.Length
import Conform.Proofs.Schema.Nullable
import Conform.Proofs.Coercion.Email
import Conform.Proofs.Text.Title
import Conform.Proofs.Report.Encoding
import Conform.Proofs.Report.Moves
import Conform.Proofs.Command.Saving
import Conform.Proofs.Config.Search
import Conform.Proofs.Document.RoundTrip
