import WorkflowGraph.Analysis
import WorkflowGraph.Body.Arguments
import WorkflowGraph.Body.Extract
import WorkflowGraph.Body.Options
import WorkflowGraph.Command.Arguments
import WorkflowGraph.Command.Basic
import WorkflowGraph.Command.Execute
import WorkflowGraph.Declaration.Basic
import WorkflowGraph.Declaration.Classify
import WorkflowGraph.Declaration.Filter
import WorkflowGraph.Declaration.Walk
import WorkflowGraph.Discovery
import WorkflowGraph.Failure
import WorkflowGraph.Files.Basic
import WorkflowGraph.Files.Path
import WorkflowGraph.Files.Tree
import WorkflowGraph.Go.Cursor
import WorkflowGraph.Go.Grammar.Basic
import WorkflowGraph.Go.Grammar.Expressions
import WorkflowGraph.Go.Grammar.Statements
import WorkflowGraph.Go.Grammar.Types
import WorkflowGraph.Go.Literal
import WorkflowGraph.Go.Locals
import WorkflowGraph.Go.Node
import WorkflowGraph.Go.Parse
import WorkflowGraph.Go.Query
import WorkflowGraph.Go.Quoted
import WorkflowGraph.Go.Scan
import WorkflowGraph.Go.Summary
import WorkflowGraph.Go.TypeName
import WorkflowGraph.Go.Visit
import WorkflowGraph.Graph.Basic
import WorkflowGraph.Graph.Build
import WorkflowGraph.Graph.Cycles
import WorkflowGraph.Graph.Depth
import WorkflowGraph.Graph.Document
import WorkflowGraph.Graph.Resolve
import WorkflowGraph.Graph.Stats
import WorkflowGraph.Graph.Store
import WorkflowGraph.Json.Reader
import WorkflowGraph.Json.Record
import WorkflowGraph.Json.Value
import WorkflowGraph.Json.Writer
import WorkflowGraph.Main
import WorkflowGraph.Number.Binary64
import WorkflowGraph.Number.Digits
import WorkflowGraph.Pattern.Basic
import WorkflowGraph.Pattern.Class
import WorkflowGraph.Pattern.Reader
import WorkflowGraph.Proofs.AnalysedGraphs
import WorkflowGraph.Proofs.Assembly
import WorkflowGraph.Proofs.CallPaths
import WorkflowGraph.Proofs.Conservation
import WorkflowGraph.Proofs.CycleSearch
import WorkflowGraph.Proofs.Declared
import WorkflowGraph.Proofs.Digits
import WorkflowGraph.Proofs.Edges
import WorkflowGraph.Proofs.Extraction
import WorkflowGraph.Proofs.GraphNumbers
import WorkflowGraph.Proofs.Issues
import WorkflowGraph.Proofs.JsonNumbers
import WorkflowGraph.Proofs.JsonText
import WorkflowGraph.Proofs.Names
import WorkflowGraph.Proofs.Parents
import WorkflowGraph.Proofs.Persistence
import WorkflowGraph.Proofs.RecordedNumbers
import WorkflowGraph.Proofs.Records
import WorkflowGraph.Proofs.Resolution
import WorkflowGraph.Proofs.Rounding
import WorkflowGraph.Proofs.Runs
import WorkflowGraph.Proofs.Settling
import WorkflowGraph.Proofs.Shells
import WorkflowGraph.Proofs.ShortestDecimal
import WorkflowGraph.Proofs.Tables
import WorkflowGraph.Proofs.Tally
import WorkflowGraph.Proofs.Verdict
import WorkflowGraph.Proofs.Visits
import WorkflowGraph.Proofs.WalkOrder
import WorkflowGraph.Proofs.WorkflowCalls
import WorkflowGraph.Proofs.WrittenFiles
import WorkflowGraph.Registry.Basic
import WorkflowGraph.Registry.Scan
import WorkflowGraph.Run
import WorkflowGraph.Sdk.Action
import WorkflowGraph.Settings.Basic
import WorkflowGraph.Settings.Document
import WorkflowGraph.Settings.Shown
import WorkflowGraph.Settings.Store
import WorkflowGraph.Shell
import WorkflowGraph.Source.File
import WorkflowGraph.Source.Imports
import WorkflowGraph.Table
import WorkflowGraph.Text.Blank
import WorkflowGraph.Text.CaseFold
import WorkflowGraph.Text.Category
import WorkflowGraph.Text.Identifier
import WorkflowGraph.Text.Property
import WorkflowGraph.Text.Ranges
import WorkflowGraph.Text.Script
import WorkflowGraph.Text.Shown
import WorkflowGraph.Text.Split
import WorkflowGraph.Text.Uppercase
import WorkflowGraph.Toml.Reader
import WorkflowGraph.Toml.Value
import WorkflowGraph.Toml.Writer
import WorkflowGraph.Validation
import WorkflowGraph.Proofs.Cancellation
import WorkflowGraph.Proofs.SourceTrees
import WorkflowGraph.Proofs.IrrelevantFiles
import WorkflowGraph.Proofs.RegistrationOrder
import WorkflowGraph.Proofs.RegisteredNames
import WorkflowGraph.Proofs.LongestPaths
import WorkflowGraph.Proofs.NodeOrder
import WorkflowGraph.Proofs.ReportedCycles
import WorkflowGraph.Proofs.SavedSettings
import WorkflowGraph.Proofs.SynthesizedNodes
import WorkflowGraph.Proofs.StubTags
import WorkflowGraph.Proofs.SearchForest
import WorkflowGraph.Proofs.NamedOnCycles
import WorkflowGraph.Proofs.OrderlyTrees
import WorkflowGraph.Proofs.OrderlyGrammar
import WorkflowGraph.Proofs.CallOrder
import WorkflowGraph.Proofs.ExecuteCalls
import WorkflowGraph.Proofs.Warnings
import WorkflowGraph.Proofs.Roots
import WorkflowGraph.Proofs.RegistryHistory
import WorkflowGraph.Proofs.BodyRecords
import WorkflowGraph.Proofs.PartitionedCalls
import WorkflowGraph.Proofs.ArgumentWarnings
import WorkflowGraph.Proofs.FilteredWalks
import WorkflowGraph.Proofs.DiscoveredFiles
import WorkflowGraph.Proofs.IntegerLiterals
import WorkflowGraph.Proofs.RecordedIntegers
import WorkflowGraph.Proofs.Tours
import WorkflowGraph.Proofs.CallVisits
import WorkflowGraph.Proofs.QuotedTexts
