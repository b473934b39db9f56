import HouseStyle.Calendar.Moment
import HouseStyle.Calendar.Reading
import HouseStyle.CommandLine.Command
import HouseStyle.CommandLine.Option
import HouseStyle.CommandLine.Program
import HouseStyle.Configuration.Basic
import HouseStyle.Configuration.Fault
import HouseStyle.Configuration.Inheritance
import HouseStyle.Configuration.Packaged
import HouseStyle.Configuration.Resolution
import HouseStyle.Configuration.RuleSet
import HouseStyle.Configuration.Sheet
import HouseStyle.Document.Basic
import HouseStyle.Document.Order
import HouseStyle.Document.Render
import HouseStyle.Files.Collection
import HouseStyle.Files.Glob
import HouseStyle.Files.Tree
import HouseStyle.Json.Basic
import HouseStyle.Language.Basic
import HouseStyle.Language.Catalogue
import HouseStyle.Language.Detection
import HouseStyle.Language.Profile
import HouseStyle.Main
import HouseStyle.Number.Binary64
import HouseStyle.Number.Numeral
import HouseStyle.Number.Shortest
import HouseStyle.Pattern.Basic
import HouseStyle.Pattern.Escape
import HouseStyle.Pattern.Fault
import HouseStyle.Pattern.Flags
import HouseStyle.Pattern.Matching
import HouseStyle.Pattern.Reading
import HouseStyle.Pattern.Sign
import HouseStyle.Proofs.Source.BraceReading
import HouseStyle.Proofs.Source.BraceSpelling
import HouseStyle.Proofs.Source.IndentReading
import HouseStyle.Proofs.Source.IndentSpelling
import HouseStyle.Proofs.Source.Layout
import HouseStyle.Proofs.Source.Spelling
import HouseStyle.Report.Basic
import HouseStyle.Report.Rendering
import HouseStyle.Rule.Basic
import HouseStyle.Rule.BlankLinePlacement
import HouseStyle.Rule.BlockDelimiter
import HouseStyle.Rule.DeclarationOrder
import HouseStyle.Rule.Evaluation
import HouseStyle.Rule.ExplanatoryComment
import HouseStyle.Rule.Finding
import HouseStyle.Rule.Limits
import HouseStyle.Rule.Lookup
import HouseStyle.Rule.MagicLiteral
import HouseStyle.Rule.MethodSeparation
import HouseStyle.Rule.NamingConvention
import HouseStyle.Rule.Registry
import HouseStyle.Rule.VerbNamedMethod
import HouseStyle.Run.Check
import HouseStyle.Run.Checker
import HouseStyle.Run.Schedule
import HouseStyle.Run.Settings
import HouseStyle.Screen.CellTable
import HouseStyle.Screen.Color
import HouseStyle.Screen.Glyph
import HouseStyle.Screen.Markup
import HouseStyle.Screen.PictographTable
import HouseStyle.Screen.Style
import HouseStyle.Screen.Table
import HouseStyle.Screen.Wrapping
import HouseStyle.Source.Brace
import HouseStyle.Source.Declaration
import HouseStyle.Source.Fault
import HouseStyle.Source.Indent
import HouseStyle.Source.LogicalLine
import HouseStyle.Source.Model
import HouseStyle.Source.Outline
import HouseStyle.Source.Signature
import HouseStyle.Source.Tree
import HouseStyle.Text.Base64
import HouseStyle.Text.Blank
import HouseStyle.Text.Digit
import HouseStyle.Text.Letter
import HouseStyle.Text.Lowercase
import HouseStyle.Text.Line
import HouseStyle.Text.Path
import HouseStyle.Text.Position
import HouseStyle.Text.Printable
import HouseStyle.Text.Quoted
import HouseStyle.Text.Utf8
import HouseStyle.Text.Word
import HouseStyle.Token.Basic
import HouseStyle.Token.Lexeme
import HouseStyle.Token.Lexer
import HouseStyle.Yaml.Cursor
import HouseStyle.Yaml.Fault
import HouseStyle.Yaml.Node
import HouseStyle.Yaml.Reading
import HouseStyle.Yaml.Resolution
import HouseStyle.Yaml.ScalarText
import HouseStyle.Yaml.Sign
import HouseStyle.Yaml.Tag
import HouseStyle.Proofs.Source.Consistency
import HouseStyle.Proofs.Source.ForestOutline
import HouseStyle.Proofs.Source.BlockParts
import HouseStyle.Proofs.Source.Reading
import HouseStyle.Proofs.Source.Nesting
import HouseStyle.Proofs.Source.Coverage
import HouseStyle.Proofs.Run.Accounting
import HouseStyle.Proofs.Run.Reporting
import HouseStyle.Proofs.Text.Offset
import HouseStyle.Proofs.Token.Fitting
import HouseStyle.Proofs.Token.Tiling
import HouseStyle.Proofs.Run.InTurn
import HouseStyle.Proofs.Token.Punctuation
import HouseStyle.Proofs.Source.Brackets
import HouseStyle.Proofs.Source.BraceNesting
import HouseStyle.Proofs.Source.BraceMatching
import HouseStyle.Proofs.Source.IndentStack
import HouseStyle.Proofs.Source.IndentAcceptance
import HouseStyle.Proofs.Source.Family
import HouseStyle.Proofs.Source.SuiteLineage
import HouseStyle.Proofs.Source.IndentPlacement
import HouseStyle.Proofs.Source.FaultLine
import HouseStyle.Proofs.Source.BlockName
import HouseStyle.Proofs.Source.Lookup
import HouseStyle.Proofs.Rule.ReportOrder
import HouseStyle.Proofs.Run.Uncancelled
import HouseStyle.Proofs.Run.FileByFile
import HouseStyle.Proofs.Answer
import HouseStyle.Proofs.Configuration.Layering
import HouseStyle.Proofs.Run.Outcome
import HouseStyle.Proofs.Files.Trail
import HouseStyle.Proofs.Configuration.Circle
import HouseStyle.Proofs.Configuration.Anchoring
import HouseStyle.Proofs.Configuration.AnchoringOnce
import HouseStyle.Proofs.Configuration.Fitting
import HouseStyle.Proofs.Configuration.Listing
import HouseStyle.Proofs.Rule.Answering
import HouseStyle.Proofs.Rule.Resolved
import HouseStyle.Proofs.Source.BodyOpener
import HouseStyle.Proofs.Rule.RegistrationOrder
import HouseStyle.Proofs.Source.Confinement
import HouseStyle.Proofs.Document.LastValue
import HouseStyle.Proofs.Configuration.AcceptedLayers
import HouseStyle.Proofs.Configuration.FollowLast
import HouseStyle.Proofs.Configuration.Remembering
import HouseStyle.Proofs.Configuration.FiveLayers
import HouseStyle.Proofs.Configuration.ReadingDefects
import HouseStyle.Proofs.Configuration.InheritanceDefects
import HouseStyle.Proofs.Configuration.LoadedTrees
import HouseStyle.Proofs.Configuration.SettlingDefects
import HouseStyle.Proofs.Configuration.OnlyRefused
import HouseStyle.Proofs.Rule.MemberOrder
import HouseStyle.Proofs.Source.BraceEquations
import HouseStyle.Proofs.Source.Renumbering
import HouseStyle.Proofs.Source.RenumberedDeclarations
import HouseStyle.Proofs.Source.Remarks
import HouseStyle.Proofs.Source.Surplus
import HouseStyle.Proofs.Source.Standalone
import HouseStyle.Proofs.Source.StatementPlace
import HouseStyle.Proofs.Source.ControlHeader
import HouseStyle.Proofs.Token.LineBreaks
import HouseStyle.Proofs.Text.OneLine
import HouseStyle.Proofs.Source.Naming
import HouseStyle.Proofs.Rule.Wording
import HouseStyle.Proofs.Rule.ShownNames
import HouseStyle.Proofs.Report.TextLines
import HouseStyle.Proofs.Run.LineByLine
import HouseStyle.Proofs.Number.Numeral
import HouseStyle.Proofs.Token.Place
import HouseStyle.Proofs.Rule.StringBody
import HouseStyle.Proofs.Rule.IntegerLiteral
import HouseStyle.Proofs.Source.OwnTokens
import HouseStyle.Proofs.Source.RowDeclarations
import HouseStyle.Proofs.Source.NamingToken
import HouseStyle.Proofs.Source.DeclaredOnce
import HouseStyle.Proofs.Rule.SetApart
import HouseStyle.Proofs.Rule.LiteralContext
import HouseStyle.Proofs.Rule.FindingPlace
import HouseStyle.Proofs.Token.StringLiteral
import HouseStyle.Proofs.Text.PathSpelling
import HouseStyle.Proofs.Files.Walk
import HouseStyle.Proofs.Files.Collecting
import HouseStyle.Proofs.Files.DistinctPaths
import HouseStyle.Proofs.Configuration.AbsoluteWordLists
import HouseStyle.Proofs.Document.MergeLaws
import HouseStyle.Proofs.Rule.ExplainedCondition
import HouseStyle.Proofs.Text.LeadingWord
