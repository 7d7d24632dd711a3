import WorkflowGraph.Graph.Basic
import WorkflowGraph.Run

/-!
# Cycles of calls

A search in depth visits every node once, in the order of the keys.  A call that leads back to a
node on the path of the search closes a cycle: the part of the path from that node on.
-/

namespace WorkflowGraph.Graph

/-- What a search has seen. -/
structure CycleSearch where
  visited : List String := []
  /-- The cycles in the order in which they were closed. -/
  cycles : List (List String) := []
deriving DecidableEq, Repr

/-- The part of a path, given with its last node first, from a node to the end. -/
def pathFrom (path : List String) (name : String) : List String :=
  name :: (path.takeWhile (· != name)).reverse

/-- Visits a node and all that it leads to; `fuel` bounds the length of the path. -/
def searchFrom (graph : Graph) : Nat → List String → CycleSearch → String → Run CycleSearch
  | 0, _, search, _ => pure search
  | fuel + 1, path, search, name => do
    Run.poll
    let path := name :: path
    Run.fold (graph.sortedCallees name) { search with visited := name :: search.visited }
      fun search callee =>
        if !search.visited.contains callee then searchFrom graph fuel path search callee
        else if path.contains callee then do
          Run.debug ("Cycle through " ++ callee)
          pure { search with cycles := search.cycles ++ [pathFrom path callee] }
        else pure search

/-- The cycles of a graph. -/
def findCycles (graph : Graph) : Run (List (List String)) := do
  let search ← Run.fold graph.sortedNames ({} : CycleSearch) fun search name =>
    if search.visited.contains name then pure search
    else searchFrom graph graph.size [] search name
  pure search.cycles

end WorkflowGraph.Graph
