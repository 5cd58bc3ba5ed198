import RouteMigration.Console.Arguments
import RouteMigration.Console.Command
import RouteMigration.Console.Excerpt
import RouteMigration.Console.Run
import RouteMigration.Grammar.Class
import RouteMigration.Grammar.Cursor
import RouteMigration.Grammar.Element
import RouteMigration.Grammar.Expression
import RouteMigration.Grammar.Function
import RouteMigration.Grammar.Item
import RouteMigration.Grammar.Name
import RouteMigration.Grammar.Pattern
import RouteMigration.Grammar.Read
import RouteMigration.Grammar.Statement
import RouteMigration.Grammar.Template
import RouteMigration.Grammar.Type
import RouteMigration.Json.Error
import RouteMigration.Json.Reader
import RouteMigration.Json.Value
import RouteMigration.Json.Writer
import RouteMigration.Layout.Node
import RouteMigration.Layout.Piece
import RouteMigration.Layout.Type
import RouteMigration.Main
import RouteMigration.Migration.Component
import RouteMigration.Migration.Font
import RouteMigration.Migration.Handler
import RouteMigration.Migration.Hook
import RouteMigration.Migration.Imports
import RouteMigration.Migration.Page
import RouteMigration.Migration.Pipeline
import RouteMigration.Migration.Prologue
import RouteMigration.Migration.Register
import RouteMigration.Migration.Shell
import RouteMigration.Migration.Source
import RouteMigration.Migration.State
import RouteMigration.Module.Constant
import RouteMigration.Module.ImportSource
import RouteMigration.Module.Options
import RouteMigration.Module.Outline
import RouteMigration.Module.Reference
import RouteMigration.Module.Shape
import RouteMigration.Path
import RouteMigration.Project.Config
import RouteMigration.Project.Discovery
import RouteMigration.Project.Error
import RouteMigration.Project.FileTree
import RouteMigration.Project.Installation
import RouteMigration.Project.Manifest
import RouteMigration.Project.Migration
import RouteMigration.Project.Packages
import RouteMigration.Project.Settings
import RouteMigration.Project.Workspace
import RouteMigration.Route.File
import RouteMigration.Route.Segment
import RouteMigration.Router.Registration
import RouteMigration.Router.Symbol
import RouteMigration.Source.Comment
import RouteMigration.Source.Dialect
import RouteMigration.Source.Lexer
import RouteMigration.Source.SyntaxError
import RouteMigration.Source.Token
import RouteMigration.Text.Letter
import RouteMigration.Text.NameSet
import RouteMigration.Text.Quoted
import RouteMigration.Text.Shortest
import RouteMigration.Text.Shown
import RouteMigration.Text.Span
import RouteMigration.Text.Words
import RouteMigration.Tree.Build
import RouteMigration.Tree.Form
import RouteMigration.Tree.Node
import RouteMigration.Proofs.NameSet
import RouteMigration.Proofs.Reference
import RouteMigration.Proofs.ClassNames
import RouteMigration.Proofs.FontElimination
import RouteMigration.Proofs.Bindings
import RouteMigration.Proofs.Placement
import RouteMigration.Proofs.Steps
import RouteMigration.Proofs.Registration
import RouteMigration.Proofs.Handlers
import RouteMigration.Proofs.FileTree
import RouteMigration.Proofs.Path
import RouteMigration.Proofs.Workspace
import RouteMigration.Proofs.Discovery
import RouteMigration.Proofs.Retention
import RouteMigration.Proofs.Unchanged
import RouteMigration.Proofs.ImportSources
import RouteMigration.Proofs.FrontMatter
import RouteMigration.Proofs.HookRenames
import RouteMigration.Proofs.PassThrough
import RouteMigration.Proofs.DefaultExports
import RouteMigration.Proofs.ComponentExport
import RouteMigration.Proofs.FailedRun
import RouteMigration.Proofs.ImportDeclarations
import RouteMigration.Proofs.Uses
import RouteMigration.Proofs.HookUses
import RouteMigration.Proofs.LayoutParameters
import RouteMigration.Proofs.MadeModules
import RouteMigration.Proofs.IntroducedImports
import RouteMigration.Proofs.FrameworkImports
import RouteMigration.Proofs.DryRun
import RouteMigration.Proofs.FlatTargets
import RouteMigration.Proofs.Bare
import RouteMigration.Proofs.NormalElements
import RouteMigration.Proofs.ShellPlaces
import RouteMigration.Proofs.ModifiedFlag
import RouteMigration.Proofs.Repetition
import RouteMigration.Proofs.Reaches
import RouteMigration.Proofs.Rerun
import RouteMigration.Proofs.ByteOrder
import RouteMigration.Proofs.Walk
import RouteMigration.Proofs.ClassText
import RouteMigration.Proofs.ShellCounts
import RouteMigration.Proofs.RegistrationPlace
import RouteMigration.Proofs.MigratedRegistration
import RouteMigration.Proofs.MetadataEntries
import RouteMigration.Proofs.Stylesheets
import RouteMigration.Proofs.ModuleNames
import RouteMigration.Proofs.NormalizedElements
import RouteMigration.Proofs.NormalPages
import RouteMigration.Proofs.RedirectedElements
import RouteMigration.Proofs.AsyncComponents
import RouteMigration.Proofs.LayoutComponents
import RouteMigration.Proofs.MetadataUses
import RouteMigration.Proofs.FailedFiles
import RouteMigration.Proofs.CollectedHandlers
import RouteMigration.Proofs.RootLayout
import RouteMigration.Proofs.PathConversion
import RouteMigration.Proofs.DependencyPlan
import RouteMigration.Proofs.ReferenceAnalysis
import RouteMigration.Proofs.ReportedRanges
import RouteMigration.Proofs.MadeNames
import RouteMigration.Proofs.TaggedModules
