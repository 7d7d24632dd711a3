import WorkflowGraph.Graph.Document
import WorkflowGraph.Shell

/-!
# Graphs in files

A graph is saved as a document in a file and loaded from one.
-/

namespace WorkflowGraph.Graph

/-- Saves a graph; directories on the way to the file are made. -/
def save (graph : Graph) (style : Json.Style) (path : String) : Shell Unit := do
  match Path.parent? path with
  | none => pure ()
  | some parent => Shell.makeDirectories parent fun fault => .failure (.file fault)
  Shell.write fun files => files.write path (graph.render style)
  Shell.debug ("Saved " ++ Number.natText graph.size ++ " nodes to " ++ path)

/-- Loads a graph. -/
def load (path : String) : Shell Graph := do
  let text ← Shell.read fun files => files.read path
  match Graph.parse? text with
  | none => Shell.fail (.failure (.document "the text is not a graph"))
  | some graph =>
    Shell.debug ("Loaded " ++ Number.natText graph.size ++ " nodes from " ++ path)
    pure graph

end WorkflowGraph.Graph
