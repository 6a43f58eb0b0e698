import Outline.CommandLine.Form
import Outline.CommandLine.Parse
import Outline.CommandLine.Refusal
import Outline.CommandLine.Run
import Outline.CommandLine.Usage
import Outline.Decimal.Nearest
import Outline.Decimal.Shortest
import Outline.Declaration.Collect
import Outline.Declaration.Kind
import Outline.Declaration.Node
import Outline.Declaration.Search
import Outline.FileSystem.Basic
import Outline.Grammar.Automaton
import Outline.Grammar.Basic
import Outline.Grammar.Item
import Outline.Grammar.Pattern
import Outline.Grammar.Rule
import Outline.Grammar.Table
import Outline.Grammar.TokenSet
import Outline.Main
import Outline.Parse.Lookahead
import Outline.Parse.Recovery
import Outline.Parse.Reduction
import Outline.Parse.Run
import Outline.Parse.Stack
import Outline.Parse.Tree
import Outline.Path
import Outline.Proofs.CommandLine.Status
import Outline.Proofs.Declaration.Laminar
import Outline.Proofs.Declaration.Places
import Outline.Proofs.Declaration.Recorded
import Outline.Proofs.Declaration.Search
import Outline.Proofs.Declaration.Shape
import Outline.Proofs.FileSystem.Contents
import Outline.Proofs.FileSystem.Resolution
import Outline.Proofs.FileSystem.Tree
import Outline.Proofs.Path.Order
import Outline.Proofs.Scan.Decomposition
import Outline.Proofs.Scan.Enumeration
import Outline.Proofs.Scan.Provenance
import Outline.Proofs.Scan.Relocation
import Outline.Proofs.Scan.Walk
import Outline.Proofs.Settings.Validation
import Outline.Proofs.Text.Position
import Outline.Proofs.Text.Utf8
import Outline.Regex.Basic
import Outline.Regex.Expr
import Outline.Regex.Flaw
import Outline.Regex.Reader
import Outline.Regex.Resolve
import Outline.Regex.Size
import Outline.Regex.Written
import Outline.Report.Json
import Outline.Report.JsonReader
import Outline.Report.Listing
import Outline.Report.Tree
import Outline.Ruby.Grammar
import Outline.Ruby.Lexer
import Outline.Ruby.Mark
import Outline.Ruby.Opened
import Outline.Ruby.Rules.Control
import Outline.Ruby.Rules.Expressions
import Outline.Ruby.Rules.Literals
import Outline.Ruby.Rules.Prec
import Outline.Ruby.Rules.Statements
import Outline.Ruby.Surroundings
import Outline.Ruby.Table
import Outline.Ruby.Table.Lookaheads
import Outline.Ruby.Table.Modes
import Outline.Ruby.Table.States
import Outline.Ruby.Tokens
import Outline.Scan.Candidates
import Outline.Scan.Event
import Outline.Scan.Failure
import Outline.Scan.Survey
import Outline.Settings.Basic
import Outline.Settings.Document
import Outline.Settings.Load
import Outline.Source.Extent
import Outline.Source.File
import Outline.Source.Map
import Outline.Syntax.Fault
import Outline.Syntax.OfText
import Outline.Syntax.Tree
import Outline.Terminal.Style
import Outline.Text.Blank
import Outline.Text.Cursor
import Outline.Text.Offset
import Outline.Text.Pieces
import Outline.Text.Quoted
import Outline.Text.Similar
import Outline.Toml.Document
import Outline.Toml.Flaw
import Outline.Toml.Layout
import Outline.Toml.Moment
import Outline.Toml.Quoted
import Outline.Toml.Scalar
import Outline.Toml.Token
import Outline.Unicode.Categories
import Outline.Unicode.CodeSet
import Outline.Unicode.Folding
import Outline.Unicode.Lookup
import Outline.Unicode.Properties
import Outline.Unicode.Scripts
import Outline.Unicode.Shared
import Outline.Proofs.Declaration.Touched
import Outline.Proofs.Syntax.Faults
import Outline.Proofs.Source.Slices
import Outline.Proofs.Report.Faithful
import Outline.Proofs.Declaration.Traversal
import Outline.Proofs.Report.Listing
import Outline.Proofs.Toml.Tables
import Outline.Proofs.Settings.Schema
import Outline.Proofs.Settings.Issues
import Outline.Proofs.Regex.Matching
import Outline.Proofs.Scan.Exclusion
import Outline.Proofs.Report.Matches
import Outline.Proofs.Text.Reach
import Outline.Proofs.Ruby.Reading
import Outline.Proofs.Parse.Fit
import Outline.Proofs.Parse.Stack
import Outline.Proofs.Parse.Slices
import Outline.Proofs.Parse.Reduction
import Outline.Proofs.Parse.Lookahead
import Outline.Proofs.Parse.Recovery
import Outline.Proofs.Parse.Run
import Outline.Proofs.Scan.Diagnostics
