import WorkflowGraph.Graph.Basic
import WorkflowGraph.Run

/-!
# Depth of call chains

The depth of a node is the number of nodes on the longest path of calls that starts there and
meets no node twice.
-/

namespace WorkflowGraph.Graph

/-- The number of nodes on the longest path from a node that avoids the nodes of `path`; `fuel`
bounds the length of the path. -/
def longestFrom (graph : Graph) : Nat → List String → String → Run Nat
  | 0, _, _ => pure 0
  | fuel + 1, path, name => do
    Run.poll
    let path := name :: path
    let fresh := (graph.sortedCallees name).filter fun callee => !path.contains callee
    let deepest ← Run.fold fresh 0 fun deepest callee => do
      pure (max deepest (← longestFrom graph fuel path callee))
    pure (deepest + 1)

/-- The depth of a node; a name that is no key has depth zero. -/
def chainDepth (graph : Graph) (name : String) : Run Nat :=
  if graph.contains name then longestFrom graph graph.size [] name else pure 0

end WorkflowGraph.Graph
