import WorkflowGraph.Graph.Depth

/-!
# Counts over a graph

The signals, queries and updates of a graph are its handler nodes of that role together with the
definitions in all nodes, so a handler that is a node of its own counts twice.
-/

namespace WorkflowGraph

namespace Stats

/-- Counts a role. -/
def addRole (stats : Stats) : NodeRole → Stats
  | .workflow => { stats with totalWorkflows := stats.totalWorkflows + 1 }
  | .activity => { stats with totalActivities := stats.totalActivities + 1 }
  | .signalHandler => { stats with totalSignals := stats.totalSignals + 1 }
  | .queryHandler => { stats with totalQueries := stats.totalQueries + 1 }
  | .updateHandler => { stats with totalUpdates := stats.totalUpdates + 1 }

/-- Counts what the body of a node holds. -/
def addBody (stats : Stats) (body : Body) : Stats :=
  { stats with
    totalSignals := stats.totalSignals + body.signals.length
    totalQueries := stats.totalQueries + body.queries.length
    totalUpdates := stats.totalUpdates + body.updates.length
    totalTimers := stats.totalTimers + body.timers.length
    totalVersions := stats.totalVersions + body.versions.length
    totalSearchAttributes := stats.totalSearchAttributes + body.searchAttributes.length
    totalCallSites := stats.totalCallSites + body.callSites.length
    maxFanOut := max stats.maxFanOut body.callSites.length }

/-- Counts a node. -/
def addNode (stats : Stats) (node : GraphNode) : Stats :=
  let stats := (stats.addRole node.role).addBody node.body
  { stats with
    totalStubs := stats.totalStubs + if node.isStub then 1 else 0
    orphanNodes := stats.orphanNodes + if node.isOrphan then 1 else 0 }

end Stats

namespace Graph

/-- Whether a key has a node that nobody calls. -/
def isRootName (graph : Graph) (name : String) : Bool :=
  match graph.get? name with
  | some node => node.isRoot
  | none => false

/-- The keys of the nodes that nobody calls, in the order of their characters. -/
def sortedRoots (graph : Graph) : List String := graph.sortedNames.filter graph.isRootName

/-- The counts over a graph. -/
def computeStats (graph : Graph) : Run Stats := do
  let counted ← Run.fold graph.nodes.values ({} : Stats) fun stats node => do
    Run.poll
    pure (stats.addNode node)
  let average := Number.Binary64.ofQuotient false counted.totalCallSites graph.size
  let deepest ← Run.fold graph.sortedRoots 0 fun deepest name => do
    pure (max deepest (← graph.chainDepth name))
  pure { counted with avgFanOut := average, maxDepth := deepest }

end Graph

end WorkflowGraph
