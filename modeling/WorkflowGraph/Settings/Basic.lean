/-!
# Settings

What to analyse, which limits a graph should keep, and how the graph is written.
-/

namespace WorkflowGraph

/-- What to analyse. -/
structure AnalysisSettings where
  rootDir : String := "."
  includeTests : Bool := false
  /-- A pattern for the package. -/
  filterPackage : Option String := none
  /-- A pattern for the bare or qualified name. -/
  filterName : Option String := none
  /-- The names of directories that are left out with all that is below them. -/
  excludeDirs : List String := ["vendor", ".git", "node_modules"]
deriving DecidableEq, Repr

/-- The limits that a graph should keep. -/
structure ValidationSettings where
  maxDepth : Nat := 10
  maxFanOut : Nat := 20
  /-- Whether the arguments of calls are compared with the parameters of their targets. -/
  checkSignatures : Bool := true
deriving DecidableEq, Repr

/-- How a graph is written. -/
structure OutputSettings where
  graphFile : String := "temporal-graph.json"
  pretty : Bool := true
deriving DecidableEq, Repr

/-- All settings. -/
structure Settings where
  analysis : AnalysisSettings := {}
  validation : ValidationSettings := {}
  output : OutputSettings := {}
deriving DecidableEq, Repr

end WorkflowGraph
