import PureLint.Accessor
import PureLint.Config
import PureLint.Config.Reader
import PureLint.Diagnostic
import PureLint.Fixer
import PureLint.Grammar.Binding
import PureLint.Grammar.Classes
import PureLint.Grammar.Declarations
import PureLint.Grammar.Expressions
import PureLint.Grammar.Functions
import PureLint.Grammar.Markup
import PureLint.Grammar.Modifier
import PureLint.Grammar.Parser
import PureLint.Grammar.Program
import PureLint.Grammar.Statements
import PureLint.Grammar.Target
import PureLint.Grammar.Template
import PureLint.Grammar.Types
import PureLint.Ignore
import PureLint.Json.Basic
import PureLint.Json.Reader
import PureLint.Json.Shape
import PureLint.Lint
import PureLint.Number.Double
import PureLint.Number.Shortest
import PureLint.Options
import PureLint.Proofs.AccessPath
import PureLint.Proofs.BorrowedTexts
import PureLint.Proofs.ByteCut
import PureLint.Proofs.CalledFunctions
import PureLint.Proofs.ConcealedMembers
import PureLint.Proofs.DeclaredShapes
import PureLint.Proofs.EquivalentSpellings
import PureLint.Proofs.FirstFault
import PureLint.Proofs.FixRearrangement
import PureLint.Proofs.FixSelection
import PureLint.Proofs.FixTurns
import PureLint.Proofs.GlobMeaning
import PureLint.Proofs.HiddenSubtrees
import PureLint.Proofs.KeyBrackets
import PureLint.Proofs.LastAddition
import PureLint.Proofs.LaxerRules
import PureLint.Proofs.LayoutMeaning
import PureLint.Proofs.MendedTree
import PureLint.Proofs.MendedWalk
import PureLint.Proofs.MendingSettles
import PureLint.Proofs.OptionShapes
import PureLint.Proofs.PassVerdicts
import PureLint.Proofs.PathConsumption
import PureLint.Proofs.PathsBelow
import PureLint.Proofs.PrunedWalk
import PureLint.Proofs.RegexMeaning
import PureLint.Proofs.RegisteredRules
import PureLint.Proofs.RelaxedOptions
import PureLint.Proofs.ReportedSpans
import PureLint.Proofs.RetriedBeginnings
import PureLint.Proofs.RetriedObjects
import PureLint.Proofs.ReturnTypes
import PureLint.Proofs.RuleIndependence
import PureLint.Proofs.SiteTable
import PureLint.Proofs.Splice
import PureLint.Proofs.TargetTexts
import PureLint.Proofs.TextPieces
import PureLint.Proofs.TypeSyntaxInTexts
import PureLint.Regex.Basic
import PureLint.Regex.Bracket
import PureLint.Regex.CharClass
import PureLint.Regex.Escape
import PureLint.Regex.Layout
import PureLint.Regex.Property
import PureLint.Regex.Reader
import PureLint.Regex.Size
import PureLint.Regex.Utf8
import PureLint.Registry
import PureLint.Rule
import PureLint.Rule.Definition
import PureLint.Rule.Marker
import PureLint.Rules.Exceptions
import PureLint.Rules.Mutation
import PureLint.Rules.Objects
import PureLint.Rules.Parameters
import PureLint.Rules.ReadonlyTypes
import PureLint.Rules.Statements
import PureLint.Runner
import PureLint.SourceFile
import PureLint.Surroundings
import PureLint.Survey
import PureLint.Text.Basic
import PureLint.Text.Pattern
import PureLint.Token.Basic
import PureLint.Token.Scan
import PureLint.Tree.Basic
import PureLint.Tree.Inspect
import PureLint.Tree.Label
import PureLint.Tree.Render
import PureLint.Tree.Site
import PureLint.Unicode.Age
import PureLint.Unicode.CaseFold
import PureLint.Unicode.Category
import PureLint.Unicode.Identifier
import PureLint.Unicode.Property
import PureLint.Unicode.Ranges
import PureLint.Unicode.Recent
import PureLint.Unicode.Script
import PureLint.Unicode.Segmentation
