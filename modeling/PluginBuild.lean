import PluginBuild.Text.Identifier
import PluginBuild.Text.Word
import PluginBuild.Text.Printable
import PluginBuild.Text.Blank
import PluginBuild.Text.Similar
import PluginBuild.Text.Upper
import PluginBuild.Text.Compatibility
import PluginBuild.Text.Utf8
import PluginBuild.Text.Lines
import PluginBuild.Text.Name
import PluginBuild.Text.Quoted
import PluginBuild.Script.Node
import PluginBuild.Script.Walk
import PluginBuild.Script.Lexer
import PluginBuild.Decimal.Numeral
import PluginBuild.Script.Format
import PluginBuild.Script.Grammar.Basic
import PluginBuild.Script.Grammar.Expr
import PluginBuild.Script.Grammar.Pattern
import PluginBuild.Script.Grammar.Stmt
import PluginBuild.Script.Parse
import PluginBuild.Script.Encoding
import PluginBuild.Json.Reader
import PluginBuild.Json.Comments
import PluginBuild.PluginClass
import PluginBuild.Template
import PluginBuild.Script.Package
import PluginBuild.Files.Access
import PluginBuild.Archive
import PluginBuild.Diagnostic
import PluginBuild.Workspace
import PluginBuild.Symbols
import PluginBuild.Outputs
import PluginBuild.Checks.Builtin
import PluginBuild.Assembly
import PluginBuild.CommandLine.Run
import PluginBuild.CommandLine.Usage
import PluginBuild.Compiler
import PluginBuild.Discovery
import PluginBuild.Batch
import PluginBuild.Settings
import PluginBuild.Proofs.EventHandlers
import PluginBuild.Template.Catalogue
import PluginBuild.Main
import PluginBuild.Proofs.Manifest
import PluginBuild.Proofs.Clashes
import PluginBuild.Proofs.Diagnostics
import PluginBuild.Proofs.Verdict
import PluginBuild.Proofs.Declarations
import PluginBuild.Proofs.Scopes
import PluginBuild.Proofs.Assembly
import PluginBuild.Proofs.Admission
import PluginBuild.Proofs.Failures
import PluginBuild.Proofs.PackageStores
import PluginBuild.Proofs.ClassNames
import PluginBuild.Proofs.SourceLines
import PluginBuild.Proofs.Reruns
import PluginBuild.Proofs.Orders
import PluginBuild.Proofs.Abandonment
import PluginBuild.Proofs.CommandLine
import PluginBuild.Proofs.Unpacking
import PluginBuild.Proofs.SearchOrder
import PluginBuild.Proofs.ImportFaults
import PluginBuild.Proofs.Json.Layout
import PluginBuild.Proofs.Json.Reading
import PluginBuild.Proofs.Json.Decoration
import PluginBuild.Proofs.Json.Acceptance
import PluginBuild.Proofs.Settings
import PluginBuild.Proofs.FileUrls
import PluginBuild.Proofs.Lifetimes
import PluginBuild.Proofs.ArtifactPaths
import PluginBuild.Proofs.Registration
