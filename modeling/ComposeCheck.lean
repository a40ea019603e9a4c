import ComposeCheck.Allowance
import ComposeCheck.Catalogue
import ComposeCheck.Checker
import ComposeCheck.CommandLine.Arguments
import ComposeCheck.CommandLine.Display
import ComposeCheck.CommandLine.Program
import ComposeCheck.Decimal.Binary64
import ComposeCheck.Decimal.Bounds
import ComposeCheck.Decimal.Shortest
import ComposeCheck.Dispatch
import ComposeCheck.Emission
import ComposeCheck.FilePath
import ComposeCheck.Files.Exclusion
import ComposeCheck.Files.IgnoreFile
import ComposeCheck.Files.Tree
import ComposeCheck.Files.Walk
import ComposeCheck.Json.Exchange
import ComposeCheck.Json.Reader
import ComposeCheck.Json.Value
import ComposeCheck.Kotlin.AnnotationEntry
import ComposeCheck.Kotlin.Call
import ComposeCheck.Kotlin.CompositionLocal
import ComposeCheck.Kotlin.FunctionDecl
import ComposeCheck.Kotlin.LambdaTypes
import ComposeCheck.Kotlin.ModifierChain
import ComposeCheck.Kotlin.ModifierUsage
import ComposeCheck.Kotlin.Parameter
import ComposeCheck.Kotlin.Property
import ComposeCheck.Kotlin.Reference
import ComposeCheck.Kotlin.Shadowing
import ComposeCheck.Kotlin.TypeName
import ComposeCheck.Main
import ComposeCheck.NamePattern.Basic
import ComposeCheck.NamePattern.Brackets
import ComposeCheck.NamePattern.Escape
import ComposeCheck.NamePattern.Listed
import ComposeCheck.NamePattern.Meaning
import ComposeCheck.NamePattern.Reader
import ComposeCheck.NamePattern.Size
import ComposeCheck.NamePattern.Written
import ComposeCheck.Options.EditorConfig
import ComposeCheck.Options.Reading
import ComposeCheck.Options.Source
import ComposeCheck.Project
import ComposeCheck.Proofs.Advice
import ComposeCheck.Proofs.Aliases
import ComposeCheck.Proofs.Answers
import ComposeCheck.Proofs.Arena
import ComposeCheck.Proofs.ArrayOptions
import ComposeCheck.Proofs.Backwards
import ComposeCheck.Proofs.Bindings
import ComposeCheck.Proofs.Branches
import ComposeCheck.Proofs.Buried
import ComposeCheck.Proofs.Carried
import ComposeCheck.Proofs.ChainEnds
import ComposeCheck.Proofs.Clashes
import ComposeCheck.Proofs.CommandLines
import ComposeCheck.Proofs.Comments
import ComposeCheck.Proofs.Compact
import ComposeCheck.Proofs.Coverage
import ComposeCheck.Proofs.DefaultsObjects
import ComposeCheck.Proofs.Denied
import ComposeCheck.Proofs.Derivations
import ComposeCheck.Proofs.Directives
import ComposeCheck.Proofs.DirectoryPatterns
import ComposeCheck.Proofs.EditPlaces
import ComposeCheck.Proofs.EffectiveSettings
import ComposeCheck.Proofs.Exclusions
import ComposeCheck.Proofs.Exclusive
import ComposeCheck.Proofs.Family
import ComposeCheck.Proofs.FilePaths
import ComposeCheck.Proofs.FileTrees
import ComposeCheck.Proofs.FirstAnswers
import ComposeCheck.Proofs.Fixes
import ComposeCheck.Proofs.Growth
import ComposeCheck.Proofs.Halves
import ComposeCheck.Proofs.Handing
import ComposeCheck.Proofs.Hoisting
import ComposeCheck.Proofs.Independence
import ComposeCheck.Proofs.Insertion
import ComposeCheck.Proofs.Levels
import ComposeCheck.Proofs.Licence
import ComposeCheck.Proofs.Lines
import ComposeCheck.Proofs.Literals
import ComposeCheck.Proofs.Markers
import ComposeCheck.Proofs.Messages
import ComposeCheck.Proofs.Nodes
import ComposeCheck.Proofs.Numbering
import ComposeCheck.Proofs.Open
import ComposeCheck.Proofs.Order
import ComposeCheck.Proofs.ParameterLists
import ComposeCheck.Proofs.Passes
import ComposeCheck.Proofs.Pieces
import ComposeCheck.Proofs.Placement
import ComposeCheck.Proofs.Plans
import ComposeCheck.Proofs.Preparing
import ComposeCheck.Proofs.ProjectRuns
import ComposeCheck.Proofs.PropertyFiles
import ComposeCheck.Proofs.Reading
import ComposeCheck.Proofs.Remaining
import ComposeCheck.Proofs.Rendering
import ComposeCheck.Proofs.ScanDefaults
import ComposeCheck.Proofs.Scopes
import ComposeCheck.Proofs.Settling
import ComposeCheck.Proofs.Shadows
import ComposeCheck.Proofs.Silence
import ComposeCheck.Proofs.SingleReport
import ComposeCheck.Proofs.Sources
import ComposeCheck.Proofs.Spans
import ComposeCheck.Proofs.ValueReads
import ComposeCheck.Proofs.Visits
import ComposeCheck.Proofs.Weaving
import ComposeCheck.Rule
import ComposeCheck.Rules.ComposableNaming
import ComposeCheck.Rules.CompositionLocalAllowlist
import ComposeCheck.Rules.CompositionLocalNaming
import ComposeCheck.Rules.ContentEmitterReturningValues
import ComposeCheck.Rules.ContentSlotReused
import ComposeCheck.Rules.ContentTrailingLambda
import ComposeCheck.Rules.DefaultsVisibility
import ComposeCheck.Rules.LambdaParamInEffect
import ComposeCheck.Rules.Material2
import ComposeCheck.Rules.ModifierClickableOrder
import ComposeCheck.Rules.ModifierComposable
import ComposeCheck.Rules.ModifierComposed
import ComposeCheck.Rules.ModifierMissing
import ComposeCheck.Rules.ModifierNaming
import ComposeCheck.Rules.ModifierNotUsedAtRoot
import ComposeCheck.Rules.ModifierReused
import ComposeCheck.Rules.ModifierWithoutDefault
import ComposeCheck.Rules.MultipleContentEmitters
import ComposeCheck.Rules.MutableParams
import ComposeCheck.Rules.MutableStateAutoboxing
import ComposeCheck.Rules.ParameterNaming
import ComposeCheck.Rules.ParameterOrder
import ComposeCheck.Rules.PreviewPublic
import ComposeCheck.Rules.RememberMissing
import ComposeCheck.Rules.UnstableCollections
import ComposeCheck.Rules.ViewModelForwarding
import ComposeCheck.Rules.ViewModelInjection
import ComposeCheck.Settings.Basic
import ComposeCheck.Settings.Reader
import ComposeCheck.Suppression
import ComposeCheck.Text.AgeTable
import ComposeCheck.Text.BreakTable
import ComposeCheck.Text.CaseTable
import ComposeCheck.Text.CategoryTable
import ComposeCheck.Text.CharSet
import ComposeCheck.Text.Chars
import ComposeCheck.Text.FoldTable
import ComposeCheck.Text.Folding
import ComposeCheck.Text.Letters
import ComposeCheck.Text.Naming
import ComposeCheck.Text.Places
import ComposeCheck.Text.Property
import ComposeCheck.Text.PropertyTable
import ComposeCheck.Text.ScriptTable
import ComposeCheck.Toml.Date
import ComposeCheck.Toml.Document
import ComposeCheck.Toml.Scalar
import ComposeCheck.Toml.Table
import ComposeCheck.Toml.Value
import ComposeCheck.Tree.Basic
import ComposeCheck.Tree.Exchange
import ComposeCheck.Tree.Node
import ComposeCheck.Tree.Parse
import ComposeCheck.Tree.Recovery
import ComposeCheck.Tree.Rewrites
import ComposeCheck.Tree.Source
import ComposeCheck.Tree.Syntax
import ComposeCheck.Violation
