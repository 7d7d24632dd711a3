import WorkflowGraph.Declaration.Walk
import WorkflowGraph.Discovery
import WorkflowGraph.Graph.Build
import WorkflowGraph.Pattern.Reader
import WorkflowGraph.Registry.Scan
import WorkflowGraph.Text.Shown

/-!
# Analysis of a directory

From the files below a root to the graph of their workflows and activities: the files are read,
the registrations of workers are collected, the declarations are classified and their bodies are
read, and the graph is built.  A file that cannot be read or does not follow the grammar is
skipped with a warning.
-/

namespace WorkflowGraph

/-- Reads a file that was found. -/
def FoundFile.parse (found : FoundFile) : Except Failure SourceFile :=
  match Files.text? found.content with
  | .error fault => .error (.file fault)
  | .ok text => SourceFile.ofText found.path text

/-- Reads files, and skips those that cannot be read. -/
def parseFiles (found : List FoundFile) : Run (List SourceFile) :=
  Run.fold found [] fun sources file => do
    Run.poll
    match file.parse with
    | .ok source => pure (sources ++ [source])
    | .error failure =>
      Run.warn ("Skipping " ++ file.path ++ ": " ++ failure.message)
      pure sources

/-- The filter of the text of a pattern; a text that is no pattern gives a warning. -/
def openFilter (label : String) (pattern : Option String) : Run Filter := do
  let filter := Filter.ofText Pattern.matcher? pattern
  match filter with
  | .nothing =>
    Run.warn ("Invalid " ++ label ++ " filter " ++ Text.quoted (pattern.getD "") ++
      ", nothing will match")
  | _ => pure ()
  pure filter

/-- The declarations of sources that were read. -/
def classifySources (settings : AnalysisSettings) (sources : List SourceFile) :
    Run (List Declaration) := do
  Run.info ("Parsed " ++ Number.natText sources.length ++ " Go files under " ++ settings.rootDir)
  let registry ← Registry.scan sources
  if registry.isEmpty then
    Run.info "No worker registrations found, classifying by signature only"
  else
    Run.info ("Found " ++ Number.natText registry.registrations.length ++ " worker registrations")
  let package ← openFilter "package" settings.filterPackage
  let name ← openFilter "name" settings.filterName
  let declarations ← walk { rules := Rule.standard, package, name } registry sources
  Run.info ("Classified " ++ Number.natText declarations.length ++ " declarations")
  pure declarations

/-- The declarations of the files below a root. -/
def findDeclarations (files : Files) (settings : AnalysisSettings) : Run (List Declaration) := do
  classifySources settings (← parseFiles (← discover files settings))

/-- Builds the graph of the files below a root. -/
def analyzeDirectory (files : Files) (settings : AnalysisSettings) : Run Graph := do
  Graph.build (← findDeclarations files settings)

end WorkflowGraph
