import GodotAtlas.Text.Matcher
import GodotAtlas.Text.Utf8
import GodotAtlas.Text.Quoted
import GodotAtlas.Script.Terminal
import GodotAtlas.Script.Tree
import GodotAtlas.Script.Parser
import GodotAtlas.Script.Lowering
import GodotAtlas.Script.Parse
import GodotAtlas.Symbols.Extract
import GodotAtlas.SortedMap
import GodotAtlas.Format.Scene
import GodotAtlas.Format.Project
import GodotAtlas.Files.Listing
import GodotAtlas.Files.Glob
import GodotAtlas.Report.Scan
import GodotAtlas.Render.ReportJson
import GodotAtlas.Render.Summary
import GodotAtlas.Yaml.Node
import GodotAtlas.CommandLine.Run
import GodotAtlas.Main
import GodotAtlas.Proofs.Text.ByteOrder
import GodotAtlas.Proofs.SortedMap
import GodotAtlas.Proofs.Files.Names
import GodotAtlas.Proofs.Files.Listing
import GodotAtlas.Proofs.Report.Runs
import GodotAtlas.Proofs.Report.Coverage
import GodotAtlas.Proofs.Report.ClassRegistry
import GodotAtlas.Proofs.Report.MergeOrder
import GodotAtlas.Proofs.Report.Signals
import GodotAtlas.Proofs.Report.Dependencies
import GodotAtlas.Proofs.Format.HeaderText
import GodotAtlas.Proofs.Format.SceneText
import GodotAtlas.Proofs.Symbols.LineRules
import GodotAtlas.Proofs.Symbols.Pieces
import GodotAtlas.Proofs.Symbols.Agreement
import GodotAtlas.Proofs.Symbols.Shapes
import GodotAtlas.Proofs.Symbols.Names
import GodotAtlas.Proofs.Symbols.Invention
import GodotAtlas.Proofs.Render.JsonText
import GodotAtlas.Proofs.Render.ReportJson
import GodotAtlas.Proofs.Files.Places
import GodotAtlas.Proofs.Files.Writing
import GodotAtlas.Proofs.CommandLine.Outcome
import GodotAtlas.Proofs.Report.Independence
import GodotAtlas.Proofs.CommandLine.Rerun
import GodotAtlas.Proofs.Report.Totals
import GodotAtlas.Proofs.Symbols.Routing
import GodotAtlas.Proofs.Symbols.WellFormed
import GodotAtlas.Proofs.Symbols.LoadReferences
import GodotAtlas.Proofs.Text.LineStart
import GodotAtlas.Proofs.Format.ProjectText
import GodotAtlas.Proofs.Symbols.Scopes
import GodotAtlas.Proofs.Symbols.StaticFunctions
import GodotAtlas.Proofs.Report.Assets
import GodotAtlas.Proofs.Format.Escaping
import GodotAtlas.Proofs.Format.Sections
import GodotAtlas.Proofs.Format.References
import GodotAtlas.Proofs.Format.SceneOrder
import GodotAtlas.Proofs.Format.Resolution
import GodotAtlas.Proofs.Text.Decoding
import GodotAtlas.Proofs.Format.HeaderRegion
import GodotAtlas.Proofs.Format.ResourceText
import GodotAtlas.Proofs.Format.SceneTree
import GodotAtlas.Proofs.Render.DirectoryTree
import GodotAtlas.Proofs.Render.NodeTree
import GodotAtlas.Proofs.Render.AssetSummary
import GodotAtlas.Proofs.Script.Lowering
import GodotAtlas.Proofs.Symbols.Boundaries
import GodotAtlas.Proofs.Symbols.LineLocality
import GodotAtlas.Proofs.Script.Comments
import GodotAtlas.Proofs.Format.HeaderValues
import GodotAtlas.Proofs.Symbols.NormalForm
import GodotAtlas.Proofs.Report.SourceCapture
import GodotAtlas.Proofs.Render.FullSource
import GodotAtlas.Proofs.Files.Spelling
import GodotAtlas.Proofs.Report.RootSpelling
import GodotAtlas.Proofs.Script.FaultSearch
