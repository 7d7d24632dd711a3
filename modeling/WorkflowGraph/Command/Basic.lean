/-!
# Commands

What the program can be asked to do.
-/

namespace WorkflowGraph

/-- What an analysis is asked to do beyond its settings. -/
structure AnalysisRequest where
  /-- The root, instead of the one of the settings. -/
  source : Option String := none
  /-- Where the graph is written, instead of where the settings say. -/
  output : Option String := none
  includeTests : Bool := false
  filterPackage : Option String := none
  filterName : Option String := none
  /-- Names of directories that are left out as well. -/
  excludeDirs : List String := []
  /-- Whether the graph is validated. -/
  validate : Bool := false
  /-- Whether a warning is a failure. -/
  strict : Bool := false
deriving DecidableEq, Repr

/-- What the program can be asked to do. -/
inductive Command where
  /-- Write default settings into a directory. -/
  | init (path : Option String) (force : Bool)
  /-- Build the graph of a source tree and save it. -/
  | analyze (request : AnalysisRequest)
  /-- Check a saved graph, or the graph of a source tree. -/
  | validate (graph source : Option String) (strict : Bool)
  /-- Tell the statistics of a saved graph. -/
  | stats (graph : Option String)
deriving DecidableEq, Repr

/-- A command with what holds for every command. -/
structure Invocation where
  /-- The file with the settings. -/
  config : Option String := none
  /-- Whether messages of little importance are shown. -/
  verbose : Bool := false
  command : Command
deriving DecidableEq, Repr

end WorkflowGraph
