import WorkflowGraph.Body.Arguments
import WorkflowGraph.Graph.Basic
import WorkflowGraph.Run
import WorkflowGraph.Text.Split

/-!
# Resolving names

A name used as a target or handler stands for the node with that key.  If there is none, the
last part of a dotted name stands for the one declared node that has it as its whole name or as
its last part; if several have it, the name stays open.  A name that nothing fits becomes a
stub.
-/

namespace WorkflowGraph

/-- What a name stands for. -/
inductive Lookup where
  | found (resolution : Resolution) (key : String)
  | ambiguous (candidates : Nat)
  | missing
deriving DecidableEq, Repr

/-- Whether a key is a bare name or ends with it after a point. -/
def hasLastPart (part key : String) : Bool := Text.endsWith ("." ++ part) key || key == part

/-- The part after the last point of a dotted name, if it is not empty. -/
def lastPart? (name : String) : Option String :=
  match Text.cutLast '.' name.toList with
  | some (_, []) => none
  | some (_, part) => some (String.ofList part)
  | none => none

namespace Graph

/-- Looks a name up; `declared` lists the keys of the declared nodes. -/
def lookup (graph : Graph) (declared : List String) (name : String) : Lookup :=
  if graph.contains name then .found .exact name
  else
    match lastPart? name with
    | none => .missing
    | some part =>
      match declared.filter (hasLastPart part) with
      | [] => .missing
      | [key] => .found .suffix key
      | candidates => .ambiguous candidates.length

/-- Adds a caller to a node. -/
def addParent (graph : Graph) (key caller : String) : Graph :=
  { graph with nodes := graph.nodes.modify key fun node => node.addParent caller }

/-- Adds a stub for a name. -/
def addStub (graph : Graph) (name : String) (role : NodeRole) (caller : String) : Graph :=
  { graph with nodes := graph.nodes.insert name (.stub name role caller) }

/-- Resolves the target of a call site. -/
def resolveSite (graph : Graph) (declared : List String) (caller : String) (site : CallSite) :
    Run (Graph × CallSite) :=
  let target := site.targetName
  if target = Go.Node.anonymousTarget then
    pure (graph, { site with resolution := .unresolved })
  else
    match graph.lookup declared target with
    | .found resolution key =>
      pure (graph.addParent key caller, { site with targetName := key, resolution })
    | .ambiguous candidates => do
      Run.debug (caller ++ " -> " ++ target ++ " is ambiguous (" ++ Number.natText candidates ++
        " candidates), leaving unresolved")
      pure (graph, { site with resolution := .unresolved })
    | .missing => do
      let role := site.targetRole.stubRole
      Run.debug ("Synthesizing " ++ role.label ++ " stub " ++ target ++ " for " ++ caller)
      pure (graph.addStub target role caller, { site with resolution := .stub })

/-- Resolves the name of a handler. -/
def resolveHandler (graph : Graph) (declared : List String) (caller : String) (role : NodeRole) :
    Option String → Run (Graph × Option String)
  | none => pure (graph, none)
  | some handler =>
    match graph.lookup declared handler with
    | .found _ key => pure (graph.addParent key caller, some key)
    | .ambiguous _ => pure (graph, some handler)
    | .missing => do
      Run.debug ("Synthesizing " ++ role.label ++ " node " ++ handler ++ " for " ++ caller)
      pure (graph.addStub handler role caller, some handler)

end Graph

end WorkflowGraph
