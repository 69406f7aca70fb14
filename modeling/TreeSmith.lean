import TreeSmith.Artifact
import TreeSmith.Bench.Run
import TreeSmith.Bench.Stats
import TreeSmith.Checksum
import TreeSmith.CommandLine.Arguments
import TreeSmith.CommandLine.Generate
import TreeSmith.CommandLine.Harness
import TreeSmith.Decimal.Layout
import TreeSmith.Decimal.Reading
import TreeSmith.Decimal.Shortest
import TreeSmith.Definition.Basic
import TreeSmith.Definition.Bindings
import TreeSmith.Definition.Family
import TreeSmith.Definition.Template
import TreeSmith.Diff.Compact
import TreeSmith.Diff.Edit
import TreeSmith.Diff.Lines
import TreeSmith.Diff.Shortest
import TreeSmith.Files.Tree
import TreeSmith.Generator
import TreeSmith.Json.Basic
import TreeSmith.Json.Reader
import TreeSmith.Main
import TreeSmith.Name
import TreeSmith.Pattern.Automaton
import TreeSmith.Pattern.Basic
import TreeSmith.Pattern.CharSet
import TreeSmith.Pattern.Reader
import TreeSmith.Proofs.Fallible
import TreeSmith.Proofs.Registration
import TreeSmith.Proofs.Resolution
import TreeSmith.Registry.Basic
import TreeSmith.Registry.BuiltIn
import TreeSmith.Registry.Lookup
import TreeSmith.Resolution
import TreeSmith.Schema
import TreeSmith.Schema.Json
import TreeSmith.SchemaFault
import TreeSmith.Settings.Basic
import TreeSmith.Settings.Json
import TreeSmith.Settings.Layer
import TreeSmith.Settings.Load
import TreeSmith.Settings.Save
import TreeSmith.Sha256
import TreeSmith.Similarity
import TreeSmith.Suite.Execution
import TreeSmith.Suite.Header
import TreeSmith.Suite.Report
import TreeSmith.Suite.Sample
import TreeSmith.Suite.Walk
import TreeSmith.Template.Expr
import TreeSmith.Template.Filter
import TreeSmith.Template.Node
import TreeSmith.Template.Number
import TreeSmith.Template.Operation
import TreeSmith.Template.Render
import TreeSmith.Template.Token
import TreeSmith.Template.Value
import TreeSmith.Text.Blank
import TreeSmith.Text.ByteRange
import TreeSmith.Text.Cased
import TreeSmith.Text.Folding
import TreeSmith.Text.LetterCase
import TreeSmith.Text.Lines
import TreeSmith.Text.Quoted
import TreeSmith.Text.Range
import TreeSmith.Text.Unprintable
import TreeSmith.Text.Utf8
import TreeSmith.Text.Word
import TreeSmith.Toml.Reader
import TreeSmith.Toml.Scalar
import TreeSmith.Toml.Table
import TreeSmith.Toml.Text
import TreeSmith.Toml.Writer
import TreeSmith.Tree.Inspect
import TreeSmith.Tree.Node
import TreeSmith.Tree.Printer
import TreeSmith.Tree.Token
import TreeSmith.Proofs.Imports
import TreeSmith.Proofs.FileTree
import TreeSmith.Proofs.Paths
import TreeSmith.Proofs.ArtifactFiles
import TreeSmith.Proofs.Persist
import TreeSmith.Proofs.TargetMeaning
import TreeSmith.Proofs.TargetSyntax
import TreeSmith.Proofs.Targets
import TreeSmith.Proofs.Drift
import TreeSmith.Proofs.Printing
import TreeSmith.Proofs.DerivedNames
import TreeSmith.Proofs.TemplateLayout
import TreeSmith.Proofs.ModuleText
import TreeSmith.Proofs.FieldAccess
import TreeSmith.Proofs.Growth
import TreeSmith.Proofs.JsonText
import TreeSmith.Proofs.Documents
import TreeSmith.Proofs.Headers
import TreeSmith.Proofs.Policies
import TreeSmith.Proofs.Visibility
import TreeSmith.Proofs.Admission
import TreeSmith.Proofs.MadeFolders
import TreeSmith.Proofs.PersistEffect
import TreeSmith.Proofs.TomlText
import TreeSmith.Proofs.TomlDocument
import TreeSmith.Proofs.Layers
import TreeSmith.Proofs.SavedSettings
import TreeSmith.Proofs.HeaderGrammar
import TreeSmith.Proofs.PolicyIndependence
import TreeSmith.Proofs.CollectedLines
import TreeSmith.Proofs.EditScripts
import TreeSmith.Proofs.LineDiff
import TreeSmith.Proofs.Brackets
import TreeSmith.Proofs.Discovery
import TreeSmith.Proofs.SuiteAccounts
import TreeSmith.Proofs.Statistics
import TreeSmith.Proofs.Alignment
import TreeSmith.Proofs.TypeNames
import TreeSmith.Proofs.Overrides
import TreeSmith.Proofs.LayeredSettings
import TreeSmith.Proofs.SnakeCase
