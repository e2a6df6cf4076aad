import Overlay.Command.Arguments
import Overlay.Command.Filter
import Overlay.Command.Run
import Overlay.Decimal.Double
import Overlay.Decimal.Layout
import Overlay.Decimal.Numeral
import Overlay.Decimal.Shortest
import Overlay.Event
import Overlay.Files.Access
import Overlay.Files.Entry
import Overlay.Files.Error
import Overlay.Files.Path
import Overlay.Files.Place
import Overlay.Generate.Crate
import Overlay.Generate.CrateGraph
import Overlay.Generate.Discovery
import Overlay.Generate.Failure
import Overlay.Generate.Generation
import Overlay.Generate.Import
import Overlay.Generate.ImportTable
import Overlay.Generate.LocalModule
import Overlay.Generate.Manifest
import Overlay.Generate.Module
import Overlay.Generate.Render
import Overlay.Generate.Report
import Overlay.Generate.Resolution
import Overlay.Generate.Script
import Overlay.Generate.Section
import Overlay.Generate.Workspace
import Overlay.Json.Reader
import Overlay.Json.Writer
import Overlay.Layer.Configuration
import Overlay.Layer.Environment
import Overlay.Layer.Failure
import Overlay.Layer.File
import Overlay.Layer.Format
import Overlay.Layer.Mismatch
import Overlay.Layer.Prefix
import Overlay.Layer.Preset
import Overlay.Layer.Schema
import Overlay.Main
import Overlay.Proofs.AliasTable
import Overlay.Proofs.Arguments
import Overlay.Proofs.Binding
import Overlay.Proofs.CallForms
import Overlay.Proofs.CrateNames
import Overlay.Proofs.Documents
import Overlay.Proofs.EchoedFile
import Overlay.Proofs.EchoedLines
import Overlay.Proofs.EntryPoint
import Overlay.Proofs.FieldNames
import Overlay.Proofs.FileTrees
import Overlay.Proofs.FollowedPaths
import Overlay.Proofs.FoundScripts
import Overlay.Proofs.GeneratedSections
import Overlay.Proofs.Histories
import Overlay.Proofs.ImportTrees
import Overlay.Proofs.ImportedPaths
import Overlay.Proofs.JsonText
import Overlay.Proofs.KeyNames
import Overlay.Proofs.LineOrder
import Overlay.Proofs.LocalPaths
import Overlay.Proofs.LocalSources
import Overlay.Proofs.LowerCase
import Overlay.Proofs.Merging
import Overlay.Proofs.ModuleTree
import Overlay.Proofs.NameTokens
import Overlay.Proofs.NameVariants
import Overlay.Proofs.Parsing.Alike
import Overlay.Proofs.Parsing.AlikeGrammar
import Overlay.Proofs.Parsing.BareTokens
import Overlay.Proofs.Parsing.CallStatements
import Overlay.Proofs.Parsing.Forward
import Overlay.Proofs.Parsing.ForwardGrammar
import Overlay.Proofs.Parsing.Lexemes
import Overlay.Proofs.Parsing.Likeness
import Overlay.Proofs.Parsing.Offsets
import Overlay.Proofs.Parsing.Places
import Overlay.Proofs.Parsing.Runs
import Overlay.Proofs.PathParts
import Overlay.Proofs.Paths
import Overlay.Proofs.PlainValues
import Overlay.Proofs.Precedence
import Overlay.Proofs.ReadBack
import Overlay.Proofs.Regeneration
import Overlay.Proofs.RepeatedLayering
import Overlay.Proofs.RoundTrip
import Overlay.Proofs.SectionKeys
import Overlay.Proofs.SectionLayout
import Overlay.Proofs.SectionVariables
import Overlay.Proofs.Sessions
import Overlay.Proofs.Settings
import Overlay.Proofs.SnakeCase
import Overlay.Proofs.Snippets
import Overlay.Proofs.Spelling
import Overlay.Proofs.SteadyCrates
import Overlay.Proofs.SteadySources
import Overlay.Proofs.TidyTrees
import Overlay.Proofs.WordBoundaries
import Overlay.Proofs.WrittenFile
import Overlay.Source.Grammar
import Overlay.Source.Grammar.Expr
import Overlay.Source.Grammar.Item
import Overlay.Source.Grammar.Path
import Overlay.Source.Grammar.Pattern
import Overlay.Source.Grammar.Type
import Overlay.Source.Lexer
import Overlay.Source.Parser
import Overlay.Source.SourceFile
import Overlay.Source.Syntax
import Overlay.Source.Token
import Overlay.Text.Blank
import Overlay.Text.Case
import Overlay.Text.Digit
import Overlay.Text.Identifier
import Overlay.Text.LowerCase
import Overlay.Text.Printable
import Overlay.Text.Quoted
import Overlay.Text.Similarity
import Overlay.Text.Ticked
import Overlay.Toml.Moment
import Overlay.Toml.Reader
import Overlay.Toml.Table
import Overlay.Tree
import Overlay.Tree.Found
import Overlay.Tree.Plain
import Overlay.Yaml.Char
import Overlay.Yaml.Cursor
import Overlay.Yaml.Node
import Overlay.Yaml.Reader
import Overlay.Yaml.Scalar
import Overlay.Yaml.Style
import Overlay.Yaml.Token
import Overlay.Yaml.Tokens
import Overlay.Yaml.Writer
