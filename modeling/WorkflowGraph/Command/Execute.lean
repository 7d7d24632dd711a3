import WorkflowGraph.Analysis
import WorkflowGraph.Command.Basic
import WorkflowGraph.Graph.Store
import WorkflowGraph.Settings.Shown
import WorkflowGraph.Settings.Store
import WorkflowGraph.Validation

/-!
# Carrying out commands

Every command starts with the settings and tells what it does in messages.
-/

namespace WorkflowGraph

open Number (natText)

namespace AnalysisRequest

/-- Adds a name that is not there yet. -/
def addName (names : List String) (name : String) : List String :=
  if names.contains name then names else names ++ [name]

/-- The settings of an analysis with what the request says instead. -/
def adjust (request : AnalysisRequest) (settings : AnalysisSettings) : AnalysisSettings where
  rootDir := request.source.getD settings.rootDir
  includeTests := settings.includeTests || request.includeTests
  filterPackage := request.filterPackage.or settings.filterPackage
  filterName := request.filterName.or settings.filterName
  excludeDirs := request.excludeDirs.foldl addName settings.excludeDirs

end AnalysisRequest

namespace Command

/-! ## Reports -/

/-- The counts of a graph. -/
def reportSummary (stats : Stats) : Shell Unit := do
  Shell.info "📊 Analysis complete:"
  Shell.info ("  - " ++ natText stats.totalWorkflows ++ " workflows")
  Shell.info ("  - " ++ natText stats.totalActivities ++ " activities")
  Shell.info ("  - " ++ natText stats.totalCallSites ++ " call sites")
  if stats.totalStubs > 0 then
    Shell.info
      ("  - " ++ natText stats.totalStubs ++ " unresolved targets synthesized as stubs")
  else pure ()

/-- Further counts of a graph. -/
def reportDetails (stats : Stats) : Shell Unit := do
  Shell.info ("  - " ++ natText stats.totalSignals ++ " signals, " ++ natText stats.totalQueries ++
    " queries, " ++ natText stats.totalUpdates ++ " updates")
  Shell.info ("  - " ++ natText stats.totalTimers ++ " timers, " ++
    natText stats.totalVersions ++ " versions, " ++ natText stats.totalSearchAttributes ++
    " search attributes")
  Shell.info ("  - fan-out: max " ++ natText stats.maxFanOut ++ ", avg " ++
    stats.avgFanOut.fixedText 2)
  Shell.info ("  - " ++ natText stats.orphanNodes ++ " orphan nodes, max depth " ++
    natText stats.maxDepth)

/-- An issue as one line. -/
def issueText (issue : Issue) : String :=
  "[" ++ issue.kind.label ++ " " ++ natText issue.severity ++ "] " ++ issue.node.getD "-" ++
    ": " ++ issue.message ++ " (" ++ issue.suggestion ++ ")"

/-- The failure that issues amount to: errors always, warnings where they count. -/
def verdict (strict : Bool) (issues : List Issue) : Option Failure :=
  let errors := (issues.filter Issue.isError).length
  let warnings := (issues.filter Issue.isWarning).length
  if errors > 0 then some (.structuralErrors errors)
  else if strict && warnings > 0 then some (.strictWarnings warnings)
  else none

/-- Tells all issues, and fails if they amount to a failure. -/
def reportIssues (strict : Bool) (issues : List Issue) : Shell Unit := do
  if issues.isEmpty then Shell.info "✅ No structural issues found"
  else
    Shell.each issues fun issue => Shell.warn (issueText issue)
    Shell.info ("Found " ++ natText (issues.filter Issue.isError).length ++ " errors and " ++
      natText (issues.filter Issue.isWarning).length ++ " warnings")
    match verdict strict issues with
    | none => pure ()
    | some failure => Shell.fail (.failure failure)

/-! ## Steps -/

/-- The graph of the files below a root. -/
def analyzed (settings : AnalysisSettings) : Shell Graph :=
  Shell.doing "Analysis failed" do
    let files ← Shell.files
    Shell.ofRun (analyzeDirectory files settings)

/-- The issues of a graph. -/
def validated (settings : ValidationSettings) (graph : Graph) : Shell (List Issue) :=
  Shell.doing "Validation failed" (Shell.ofRun (graph.validate settings))

/-- The saved graph, from the named file or from where the settings say. -/
def loaded (settings : OutputSettings) (path : Option String) : Shell Graph :=
  let path := path.getD settings.graphFile
  Shell.doing ("Failed to load graph from " ++ path) (Graph.load path)

/-! ## Commands -/

/-- Writes default settings into a directory.  A file that is there stays unless it is forced. -/
def runInit (path : Option String) (force : Bool) : Shell Unit := do
  let files ← Shell.files
  let directory := path.getD files.workingPath
  let file := Path.join directory Settings.fileName
  Shell.info ("Initializing temporal-analyzer in: " ++ directory)
  if files.exists file && !force then
    Shell.warn ("⚠️ " ++ file ++ " already exists, use --force to overwrite")
  else
    Shell.doing ("Cannot create " ++ directory) (Shell.makeDirectories directory .fault)
    Settings.save {} file
    Shell.info ("✅ Wrote " ++ file)

/-- How a graph is laid out in its file. -/
def style (settings : OutputSettings) : Json.Style := if settings.pretty then .pretty else .compact

/-- Builds the graph of a source tree, saves it, and validates it if asked to. -/
def runAnalyze (settings : Settings) (request : AnalysisRequest) : Shell Unit := do
  let analysis := request.adjust settings.analysis
  let output := request.output.getD settings.output.graphFile
  Shell.info ("🔍 Analyzing Temporal workflows in " ++ analysis.rootDir)
  let graph ← analyzed analysis
  reportSummary graph.stats
  graph.save (style settings.output) output
  Shell.info ("💾 Graph written to " ++ output)
  if request.validate then
    reportIssues request.strict (← validated settings.validation graph)
  else pure ()

/-- Validates a saved graph, or the graph of a source tree. -/
def runValidate (settings : Settings) (path source : Option String) (strict : Bool) :
    Shell Unit := do
  let graph ← match source with
    | some root => analyzed { settings.analysis with rootDir := root }
    | none => loaded settings.output path
  Shell.info ("✅ Validating " ++ natText graph.size ++ " nodes...")
  reportIssues strict (← validated settings.validation graph)

/-- Tells the statistics of a saved graph. -/
def runStats (settings : Settings) (path : Option String) : Shell Unit := do
  let graph ← loaded settings.output path
  reportSummary graph.stats
  reportDetails graph.stats

/-- Carries out a command with the given settings. -/
def run (settings : Settings) : Command → Shell Unit
  | init path force => runInit path force
  | analyze request => runAnalyze settings request
  | validate path source strict => runValidate settings path source strict
  | stats path => runStats settings path

/-! ## The files of a command -/

/-- The file or directory that a command reads, apart from its settings. -/
def source? (settings : Settings) : Command → Option String
  | init _ _ => none
  | analyze request => some (request.adjust settings.analysis).rootDir
  | validate _ (some root) _ => some root
  | validate path none _ => some (path.getD settings.output.graphFile)
  | stats path => some (path.getD settings.output.graphFile)

/-- The file that a command writes. -/
def target? (files : Files) (settings : Settings) : Command → Option String
  | init path _ => some (Path.join (path.getD files.workingPath) Settings.fileName)
  | analyze request => some (request.output.getD settings.output.graphFile)
  | validate _ _ _ => none
  | stats _ => none

end Command

namespace Invocation

/-- Carries out a command with the settings that belong to it. -/
def run (invocation : Invocation) : Shell Unit := do
  let settings ← Settings.loadOrDefault invocation.config
  Shell.debug ("Loaded configuration: " ++ settings.shown)
  invocation.command.run settings

/-- Whether a message is shown. -/
def isShown (invocation : Invocation) (message : Message) : Bool :=
  invocation.verbose || message.level ≠ .debug

end Invocation

end WorkflowGraph
