import PromptTemplate.Assignment
import PromptTemplate.Assoc
import PromptTemplate.Calendar
import PromptTemplate.Command.Arguments
import PromptTemplate.Command.Disk
import PromptTemplate.Command.Outline
import PromptTemplate.Command.Run
import PromptTemplate.Command.Table
import PromptTemplate.Data.Json
import PromptTemplate.Data.Toml
import PromptTemplate.Data.Toml.Lexeme
import PromptTemplate.Data.Yaml
import PromptTemplate.Data.Yaml.Kind
import PromptTemplate.Data.Yaml.Mark
import PromptTemplate.Data.Yaml.Node
import PromptTemplate.Data.Yaml.Scalar
import PromptTemplate.Data.Yaml.Tag
import PromptTemplate.Data.Yaml.Token
import PromptTemplate.Definition
import PromptTemplate.Definition.Export
import PromptTemplate.Definition.Validation
import PromptTemplate.Engine
import PromptTemplate.Escape
import PromptTemplate.Evaluation
import PromptTemplate.Journal
import PromptTemplate.Main
import PromptTemplate.Number.Binary64
import PromptTemplate.Number.Decimal
import PromptTemplate.Number.Shortest
import PromptTemplate.Operator
import PromptTemplate.Path
import PromptTemplate.Preview
import PromptTemplate.PromptFile
import PromptTemplate.PromptFile.FrontMatter
import PromptTemplate.Proofs.Data.Toml
import PromptTemplate.Proofs.Definition.Choice
import PromptTemplate.Proofs.Definition.Defaults
import PromptTemplate.Proofs.Definition.Discovery
import PromptTemplate.Proofs.Definition.Entries
import PromptTemplate.Proofs.Definition.Key
import PromptTemplate.Proofs.Definition.Reference
import PromptTemplate.Proofs.Definition.Repetition
import PromptTemplate.Proofs.Definition.RoundTrip
import PromptTemplate.Proofs.Definition.Rules
import PromptTemplate.Proofs.Definition.Sync
import PromptTemplate.Proofs.Escape.Inverse
import PromptTemplate.Proofs.Escape.Joined
import PromptTemplate.Proofs.Escape.Pairs
import PromptTemplate.Proofs.Escape.Quoted
import PromptTemplate.Proofs.Evaluation.Agreement
import PromptTemplate.Proofs.Evaluation.Emission
import PromptTemplate.Proofs.Evaluation.Fault
import PromptTemplate.Proofs.Evaluation.Hole
import PromptTemplate.Proofs.Evaluation.Independence
import PromptTemplate.Proofs.Evaluation.Injection
import PromptTemplate.Proofs.Evaluation.Mirror
import PromptTemplate.Proofs.Evaluation.Reports
import PromptTemplate.Proofs.Evaluation.Seam
import PromptTemplate.Proofs.Evaluation.Shown
import PromptTemplate.Proofs.Evaluation.Source
import PromptTemplate.Proofs.Evaluation.Uncached
import PromptTemplate.Proofs.Evaluation.Vacancy
import PromptTemplate.Proofs.Evaluation.Visibility
import PromptTemplate.Proofs.Number.Braceless
import PromptTemplate.Proofs.Number.Digits
import PromptTemplate.Proofs.Number.Nearest
import PromptTemplate.Proofs.Number.Numeral
import PromptTemplate.Proofs.Number.Range
import PromptTemplate.Proofs.Operator.Answer
import PromptTemplate.Proofs.Operator.Builtin
import PromptTemplate.Proofs.Operator.Order
import PromptTemplate.Proofs.Resolution.Display
import PromptTemplate.Proofs.Resolution.Nesting
import PromptTemplate.Proofs.SequenceFormat.Split
import PromptTemplate.Proofs.Settings.Precedence
import PromptTemplate.Proofs.Settings.Written
import PromptTemplate.Proofs.Tag.Reading
import PromptTemplate.Proofs.Tag.Spelling
import PromptTemplate.Proofs.Template.Composition
import PromptTemplate.Proofs.Template.Desugaring
import PromptTemplate.Proofs.Template.Filling
import PromptTemplate.Proofs.Template.Joining
import PromptTemplate.Proofs.Template.Printing
import PromptTemplate.Proofs.Template.RoundTrip
import PromptTemplate.Proofs.Template.Stages
import PromptTemplate.Proofs.Text.Utf8
import PromptTemplate.Proofs.Token.Content
import PromptTemplate.Proofs.Token.Literal
import PromptTemplate.Proofs.Token.Loop
import PromptTemplate.Proofs.Token.Position
import PromptTemplate.Proofs.Token.Quote
import PromptTemplate.Proofs.Token.Scan
import PromptTemplate.Proofs.Token.Tiling
import PromptTemplate.Proofs.Token.Walk
import PromptTemplate.Proofs.Tree.Acceptance
import PromptTemplate.Proofs.Tree.Arena
import PromptTemplate.Proofs.Tree.Construction
import PromptTemplate.Proofs.Tree.Draft
import PromptTemplate.Proofs.Tree.Flatten
import PromptTemplate.Proofs.Tree.Grammar
import PromptTemplate.Proofs.Tree.Layout
import PromptTemplate.Proofs.Tree.Nodes
import PromptTemplate.Proofs.Tree.Numbering
import PromptTemplate.Proofs.Tree.Opened
import PromptTemplate.Proofs.Tree.Shape
import PromptTemplate.Proofs.Tree.Slots
import PromptTemplate.Proofs.Tree.Stack
import PromptTemplate.Resolution
import PromptTemplate.SequenceFormat
import PromptTemplate.Session
import PromptTemplate.Settings
import PromptTemplate.Settings.File
import PromptTemplate.Tag
import PromptTemplate.TemplateError
import PromptTemplate.Text.Base64
import PromptTemplate.Text.Basic
import PromptTemplate.Text.Case
import PromptTemplate.Text.Cased
import PromptTemplate.Text.Digit
import PromptTemplate.Text.Hex
import PromptTemplate.Text.LineEnd
import PromptTemplate.Text.Printable
import PromptTemplate.Text.Quoted
import PromptTemplate.Text.Terminal
import PromptTemplate.Text.Utf8
import PromptTemplate.Text.Width
import PromptTemplate.Token
import PromptTemplate.Tree
import PromptTemplate.Value
import PromptTemplate.Variables
import PromptTemplate.Version
