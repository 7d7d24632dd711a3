import WorkflowGraph.Declaration.Basic
import WorkflowGraph.Graph.Resolve
import WorkflowGraph.Graph.Stats

/-!
# Building a graph

First every declaration gets a node, the first one of a name.  Then all call sites are resolved,
and only after them the handlers, so that a handler never stands in for the stub of a call
target.  The counts come last.
-/

namespace WorkflowGraph

/-- The node of a declaration, before its body is attached. -/
def Declaration.node (declaration : Declaration) : GraphNode where
  name := declaration.qualifiedName
  role := declaration.role
  package := declaration.package
  filePath := declaration.filePath
  lineNumber := declaration.line
  description := declaration.description
  parameters := declaration.parameters
  returnTypes := declaration.returnTypes

/-- The bodies of the declared nodes by their keys, in the order of the declarations. -/
abbrev Bodies := List (String × Body)

namespace Graph

/-- Gives a declaration a node, unless it has no name or its name is taken. -/
def declareNode (built : Graph × Bodies) (declaration : Declaration) : Run (Graph × Bodies) := do
  Run.poll
  let (graph, bodies) := built
  let key := declaration.qualifiedName
  if declaration.name = "" then do
    Run.warn ("Skipping unnamed declaration in " ++ declaration.filePath)
    pure built
  else if graph.contains key then do
    Run.warn ("Duplicate declaration " ++ key ++ " in " ++ declaration.filePath ++ ":" ++
      Number.natText declaration.line ++ ", keeping the first one")
    pure built
  else
    pure ({ graph with nodes := graph.nodes.insert key declaration.node },
      bodies ++ [(key, declaration.body)])

/-- Changes the body of a node. -/
def modifyBody (graph : Graph) (key : String) (change : Body → Body) : Graph :=
  { graph with nodes := graph.nodes.modify key fun node => { node with body := change node.body } }

/-- Resolves the call sites of one node. -/
def attachCalls (declared : List String) (graph : Graph) (entry : String × Body) : Run Graph := do
  Run.poll
  let (caller, body) := entry
  let (graph, sites) ← Run.fold body.callSites (graph, []) fun (graph, sites) site => do
    Run.poll
    let (graph, site) ← graph.resolveSite declared caller site
    pure (graph, sites ++ [site])
  pure (graph.modifyBody caller fun body => { body with callSites := sites })

/-- Resolves the handlers of a list of definitions, which `handler` reads and `withHandler`
writes. -/
def resolveHandlers {α : Type} (declared : List String) (caller : String) (role : NodeRole)
    (handler : α → Option String) (withHandler : α → Option String → α) (graph : Graph)
    (items : List α) : Run (Graph × List α) :=
  Run.fold items (graph, []) fun (graph, resolved) item => do
    let (graph, name) ← graph.resolveHandler declared caller role (handler item)
    pure (graph, resolved ++ [withHandler item name])

/-- Resolves the handlers of one node and attaches the rest of its body. -/
def attachMetadata (declared : List String) (graph : Graph) (entry : String × Body) :
    Run Graph := do
  Run.poll
  let (caller, body) := entry
  let (graph, signals) ← resolveHandlers declared caller .signalHandler Signal.handler
    (fun signal handler => { signal with handler }) graph body.signals
  let (graph, queries) ← resolveHandlers declared caller .queryHandler Query.handler
    (fun query handler => { query with handler }) graph body.queries
  let (graph, updates) ← resolveHandlers declared caller .updateHandler Update.handler
    (fun update handler => { update with handler }) graph body.updates
  pure (graph.modifyBody caller fun attached =>
    { body with callSites := attached.callSites, signals, queries, updates })

/-- The graph of a list of declarations. -/
def build (declarations : List Declaration) : Run Graph := do
  let (graph, bodies) ← Run.fold declarations (({} : Graph), []) declareNode
  Run.info ("Created " ++ Number.natText graph.size ++ " nodes")
  let declared := sortTexts (bodies.map Prod.fst)
  let graph ← Run.fold bodies graph (attachCalls declared)
  let graph ← Run.fold bodies graph (attachMetadata declared)
  let stubs := (graph.nodes.values.filter GraphNode.isStub).length
  Run.info ("Resolved call sites (" ++ Number.natText stubs ++ " synthesized nodes)")
  let stats ← graph.computeStats
  pure { graph with stats }

end Graph

end WorkflowGraph
