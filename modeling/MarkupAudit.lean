import MarkupAudit.Audit.Amend
import MarkupAudit.Audit.Corrector
import MarkupAudit.Audit.Engine
import MarkupAudit.Audit.Finding
import MarkupAudit.Audit.Round
import MarkupAudit.Audit.Worker
import MarkupAudit.Cli.Options
import MarkupAudit.Cli.Screen
import MarkupAudit.Cli.Session
import MarkupAudit.Counter.Directive
import MarkupAudit.Counter.Outcome
import MarkupAudit.Decimal.Shortest
import MarkupAudit.Digest.Sha256
import MarkupAudit.Expr.Basic
import MarkupAudit.Expr.Escape
import MarkupAudit.Expr.Format
import MarkupAudit.Expr.Parser
import MarkupAudit.Expr.Token
import MarkupAudit.FileTree.Basic
import MarkupAudit.FileTree.Collection
import MarkupAudit.FileTree.Location
import MarkupAudit.Log.Hierarchy
import MarkupAudit.Log.Level
import MarkupAudit.Log.Setup
import MarkupAudit.Log.Severity
import MarkupAudit.Main
import MarkupAudit.Markup.Reading
import MarkupAudit.Markup.Reference
import MarkupAudit.Markup.ReferenceTable
import MarkupAudit.Markup.StartTag
import MarkupAudit.Markup.Tag
import MarkupAudit.Markup.ValueSet
import MarkupAudit.Proofs.Audit.Ambiguity
import MarkupAudit.Proofs.Audit.Convergence
import MarkupAudit.Proofs.Audit.DirectiveLines
import MarkupAudit.Proofs.Audit.Displacement
import MarkupAudit.Proofs.Audit.FileSafety
import MarkupAudit.Proofs.Audit.Interleaving
import MarkupAudit.Proofs.Audit.Isolation
import MarkupAudit.Proofs.Audit.Ledger
import MarkupAudit.Proofs.Audit.Merging
import MarkupAudit.Proofs.Audit.Pool
import MarkupAudit.Proofs.Audit.Readings
import MarkupAudit.Proofs.Audit.Reconciliation
import MarkupAudit.Proofs.Audit.Rewriting
import MarkupAudit.Proofs.Audit.Rounds
import MarkupAudit.Proofs.Audit.Selection
import MarkupAudit.Proofs.Audit.Structure
import MarkupAudit.Proofs.Audit.Substitution
import MarkupAudit.Proofs.Counter.Search
import MarkupAudit.Proofs.Counter.Spelling
import MarkupAudit.Proofs.Expr.Levels
import MarkupAudit.Proofs.FileTree.Collecting
import MarkupAudit.Proofs.FileTree.Naming
import MarkupAudit.Proofs.FileTree.Writing
import MarkupAudit.Proofs.Markup.Masking
import MarkupAudit.Proofs.Markup.Reassembly
import MarkupAudit.Proofs.Markup.Rendering
import MarkupAudit.Proofs.Markup.Resolution
import MarkupAudit.Proofs.Markup.Writing
import MarkupAudit.Proofs.Report.Consistency
import MarkupAudit.Proofs.Report.Places
import MarkupAudit.Proofs.Report.Sums
import MarkupAudit.Proofs.Rule.CallOptions
import MarkupAudit.Proofs.Rule.Findings
import MarkupAudit.Proofs.Rule.Motion
import MarkupAudit.Proofs.Rule.Registration
import MarkupAudit.Proofs.Rule.Sites
import MarkupAudit.Proofs.Settings.Addressing
import MarkupAudit.Proofs.Settings.Grammar
import MarkupAudit.Proofs.Settings.Keys
import MarkupAudit.Proofs.Settings.Loading
import MarkupAudit.Proofs.Settings.Merging
import MarkupAudit.Proofs.Settings.RuleSection
import MarkupAudit.Proofs.Settings.Scalars
import MarkupAudit.Proofs.Template.Gluing
import MarkupAudit.Proofs.Template.Grammar
import MarkupAudit.Proofs.Template.Lossless
import MarkupAudit.Proofs.Template.Nesting
import MarkupAudit.Proofs.Template.Respelling
import MarkupAudit.Proofs.Template.Tokenization
import MarkupAudit.Proofs.Template.Traversal
import MarkupAudit.Proofs.Text.Encoding
import MarkupAudit.Proofs.Text.Lines
import MarkupAudit.Proofs.Text.Splitting
import MarkupAudit.Report.Auditor
import MarkupAudit.Report.Basic
import MarkupAudit.Report.Export
import MarkupAudit.Rule.Basic
import MarkupAudit.Rule.Config
import MarkupAudit.Rule.FrameTitle
import MarkupAudit.Rule.LinkText
import MarkupAudit.Rule.Registry
import MarkupAudit.Rule.TitleAttribute
import MarkupAudit.Settings.Convert
import MarkupAudit.Settings.Display
import MarkupAudit.Settings.Json
import MarkupAudit.Settings.KeyPath
import MarkupAudit.Settings.Merge
import MarkupAudit.Settings.Packaged
import MarkupAudit.Settings.Store
import MarkupAudit.Settings.Value
import MarkupAudit.Table.Basic
import MarkupAudit.Table.Workbook
import MarkupAudit.Template.Document
import MarkupAudit.Template.Node
import MarkupAudit.Template.Piece
import MarkupAudit.Template.Source
import MarkupAudit.Template.Span
import MarkupAudit.Text.Basic
import MarkupAudit.Text.Case
import MarkupAudit.Text.CharacterName.Alphabets
import MarkupAudit.Text.CharacterName.EastAsian
import MarkupAudit.Text.CharacterName.Further
import MarkupAudit.Text.CharacterName.Historic
import MarkupAudit.Text.CharacterName.Lookup
import MarkupAudit.Text.CharacterName.Pictographs
import MarkupAudit.Text.CharacterName.Symbols
import MarkupAudit.Text.CodePoint
import MarkupAudit.Text.Compatibility
import MarkupAudit.Text.Digit
import MarkupAudit.Text.Identifier
import MarkupAudit.Text.Printable
import MarkupAudit.Text.Quoted
import MarkupAudit.Text.Ranges
import MarkupAudit.Text.Utf8
