import DeclRules.Command.Args
import DeclRules.Command.Run
import DeclRules.Complaint
import DeclRules.ConfigError
import DeclRules.Decimal.Binary64
import DeclRules.Decimal.Shortest
import DeclRules.Declaration.Basic
import DeclRules.Declaration.Form
import DeclRules.Declaration.Kind
import DeclRules.Declaration.Lines
import DeclRules.Declaration.PerKind
import DeclRules.Declaration.Record
import DeclRules.Files.View
import DeclRules.Files.Tree
import DeclRules.Json.Decode
import DeclRules.Json.Document
import DeclRules.Json.Numeral
import DeclRules.Json.Printer
import DeclRules.Json.Value
import DeclRules.Keyed
import DeclRules.Loader
import DeclRules.Main
import DeclRules.Pass.Item
import DeclRules.Pass.Run
import DeclRules.Pattern.Bracket
import DeclRules.Pattern.Elaborate
import DeclRules.Pattern.Expr
import DeclRules.Pattern.FieldPattern
import DeclRules.Pattern.Footprint
import DeclRules.Pattern.Machine
import DeclRules.Pattern.Program
import DeclRules.Pattern.Reader
import DeclRules.Pattern.Scan
import DeclRules.Pattern.Syntax
import DeclRules.Pattern.Template
import DeclRules.Proofs.Command.Checked
import DeclRules.Proofs.Command.Listing
import DeclRules.Proofs.Command.Stages
import DeclRules.Proofs.Declaration.Attributes
import DeclRules.Proofs.Declaration.Canonical
import DeclRules.Proofs.Declaration.Changes
import DeclRules.Proofs.Declaration.Differences
import DeclRules.Proofs.Declaration.Input
import DeclRules.Proofs.Declaration.Lines
import DeclRules.Proofs.Declaration.Meaning
import DeclRules.Proofs.Declaration.Pushes
import DeclRules.Proofs.Declaration.Record
import DeclRules.Proofs.Declaration.Signature
import DeclRules.Proofs.FirstFault
import DeclRules.Proofs.Json.Decoding
import DeclRules.Proofs.Json.Equality
import DeclRules.Proofs.Json.Grammar
import DeclRules.Proofs.Json.Integers
import DeclRules.Proofs.Json.Meaning
import DeclRules.Proofs.Json.Numerals
import DeclRules.Proofs.Json.Printing
import DeclRules.Proofs.Json.Reading
import DeclRules.Proofs.Json.Strings
import DeclRules.Proofs.Keyed
import DeclRules.Proofs.Loader.Cache
import DeclRules.Proofs.Loader.Cycles
import DeclRules.Proofs.Loader.Depth
import DeclRules.Proofs.Loader.Growth
import DeclRules.Proofs.Loader.Lineage
import DeclRules.Proofs.Loader.Session
import DeclRules.Proofs.Loader.Unchanged
import DeclRules.Proofs.Loader.Unfolding
import DeclRules.Proofs.Pass.Accounting
import DeclRules.Proofs.Pass.Counting
import DeclRules.Proofs.Pass.Effect
import DeclRules.Proofs.Pass.Failing
import DeclRules.Proofs.Pass.Order
import DeclRules.Proofs.Pass.Usage
import DeclRules.Proofs.Pattern.Bracket
import DeclRules.Proofs.Pattern.Captures
import DeclRules.Proofs.Pattern.Closure
import DeclRules.Proofs.Pattern.FullMatch
import DeclRules.Proofs.Pattern.Layout
import DeclRules.Proofs.Pattern.Meaning
import DeclRules.Proofs.Pattern.Repetition
import DeclRules.Proofs.Pattern.Scan
import DeclRules.Proofs.Pattern.Simplify
import DeclRules.Proofs.Pattern.Template
import DeclRules.Proofs.Pattern.Token
import DeclRules.Proofs.Pattern.Tree
import DeclRules.Proofs.Pattern.Ways
import DeclRules.Proofs.Pattern.Wildcard
import DeclRules.Proofs.Pattern.Wrapping
import DeclRules.Proofs.Report.HumanLines
import DeclRules.Proofs.Report.ReadBack
import DeclRules.Proofs.Report.Rows
import DeclRules.Proofs.Rule.Acceptance
import DeclRules.Proofs.Rule.Captures
import DeclRules.Proofs.Rule.Compile
import DeclRules.Proofs.Rule.Refusal
import DeclRules.Proofs.Rule.StandardActions
import DeclRules.Proofs.RuleFile.Conversion
import DeclRules.Proofs.RuleFile.OmittedFields
import DeclRules.Proofs.RuleFile.ShortForm
import DeclRules.Proofs.Ruleset.Layering
import DeclRules.Proofs.Ruleset.Repeats
import DeclRules.Proofs.Ruleset.Validation
import DeclRules.Proofs.Ruleset.Visits
import DeclRules.Proofs.Text.Collapse
import DeclRules.Proofs.Text.Feeds
import DeclRules.Proofs.Text.FirstPlace
import DeclRules.Proofs.Text.Lines
import DeclRules.Proofs.Text.Splitting
import DeclRules.Proofs.Unicode.CharSet
import DeclRules.Proofs.Unicode.Letters
import DeclRules.Proofs.Unicode.Named
import DeclRules.Report.Human
import DeclRules.Report.Jsonl
import DeclRules.Rule.Basic
import DeclRules.Rule.Database
import DeclRules.Rule.StandardAction
import DeclRules.Rule.StandardActionJson
import DeclRules.Rule.StandardActionToml
import DeclRules.Rule.Table
import DeclRules.RuleFile.Basic
import DeclRules.RuleFile.Decode
import DeclRules.Ruleset.Basic
import DeclRules.Ruleset.Compiled
import DeclRules.Text.Blank
import DeclRules.Toml.Datetime
import DeclRules.Toml.Value
import DeclRules.Toml.Document
import DeclRules.Toml.Scan
import DeclRules.Toml.Table
import DeclRules.Unicode.Age
import DeclRules.Unicode.CharSet
import DeclRules.Unicode.Folding
import DeclRules.Unicode.GeneralCategory
import DeclRules.Unicode.Property
import DeclRules.Unicode.Script
import DeclRules.Unicode.Segmentation
