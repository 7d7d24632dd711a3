import WorkflowGraph.Graph.Cycles
import WorkflowGraph.Graph.Stats
import WorkflowGraph.Settings.Basic
import WorkflowGraph.Text.Split

/-!
# Validation of a graph

Five checks over a finished graph: nodes that stand alone, cycles of calls, chains that are too
deep, nodes that make too many calls, and calls whose arguments do not fit the parameters of
their target.  Only a cycle is an error.
-/

namespace WorkflowGraph

/-- How bad an issue is. -/
inductive IssueKind where
  | warning
  | error
deriving DecidableEq, Repr

def IssueKind.label : IssueKind → String
  | .warning => "warning"
  | .error => "error"

/-- Something that is wrong with a graph. -/
structure Issue where
  kind : IssueKind
  message : String
  /-- The key of the node that the issue is about, if it is about one. -/
  node : Option String
  /-- From 1 to 10, the same for all issues of a check. -/
  severity : Nat
  suggestion : String
deriving DecidableEq, Repr

namespace Issue

open Number (natText)

def orphan (name : String) : Issue where
  kind := .warning
  message := name ++ " is never called and calls nothing"
  node := some name
  severity := 3
  suggestion := "Remove it or wire it into a workflow"

def cycle (path : List String) : Issue where
  kind := .error
  message := "Call cycle detected: " ++ Text.joinWith " -> " (path ++ path.take 1)
  node := path.head?
  severity := 8
  suggestion := "Break the cycle; use continue-as-new for intentional recursion"

def deepChain (name : String) (depth limit : Nat) : Issue where
  kind := .warning
  message := "Call chain from " ++ name ++ " is " ++ natText depth ++ " levels deep (limit " ++
    natText limit ++ ")"
  node := some name
  severity := 5
  suggestion := "Flatten the chain or split it into child workflows"

def highFanOut (name : String) (fanOut limit : Nat) : Issue where
  kind := .warning
  message := name ++ " makes " ++ natText fanOut ++ " calls (limit " ++ natText limit ++ ")"
  node := some name
  severity := 4
  suggestion := "Group related calls into a child workflow"

def argumentMismatch (name : String) (site : CallSite) (target : String) (expected : Nat) :
    Issue where
  kind := .warning
  message := name ++ " passes " ++ natText site.argumentCount ++ " argument(s) to " ++ target ++
    " at line " ++ natText site.line ++ ", which takes " ++ natText expected
  node := some name
  severity := 6
  suggestion := "Match the call's arguments to the target's parameters"

def isError (issue : Issue) : Bool := issue.kind = .error

def isWarning (issue : Issue) : Bool := issue.kind = .warning

end Issue

/-- How many arguments a caller has to give, a leading context left out; none if that is not
known. -/
def GraphNode.payloadArity? (target : GraphNode) : Option Nat :=
  match target.parameters with
  | [] => none
  | first :: others =>
    if target.isStub then none
    else if (first :: others).any fun parameter => Text.startsWith "..." parameter.typeName then
      none
    else some (others.length + if Text.endsWith "Context" first.typeName then 0 else 1)

namespace Graph

/-- The call sites of a key. -/
def sitesOf (graph : Graph) (name : String) : List CallSite :=
  match graph.get? name with
  | some node => node.callSites
  | none => []

/-- Whether a key has a node that stands alone. -/
def isOrphanName (graph : Graph) (name : String) : Bool :=
  match graph.get? name with
  | some node => node.isOrphan
  | none => false

/-- Nodes that nobody calls and that call nobody. -/
def checkOrphans (graph : Graph) : Run (List Issue) :=
  Run.fold graph.sortedNames [] fun issues name => do
    Run.poll
    pure (if graph.isOrphanName name then issues ++ [.orphan name] else issues)

/-- Cycles of calls. -/
def checkCycles (graph : Graph) : Run (List Issue) := do
  pure ((← graph.findCycles).map .cycle)

/-- Chains of calls, from nodes that nobody calls, that are deeper than the limit. -/
def checkDepth (graph : Graph) (limit : Nat) : Run (List Issue) :=
  Run.fold graph.sortedRoots [] fun issues name => do
    let depth ← graph.chainDepth name
    pure (if depth > limit then issues ++ [.deepChain name depth limit] else issues)

/-- Nodes that make more calls than the limit. -/
def checkFanOut (graph : Graph) (limit : Nat) : Run (List Issue) :=
  Run.fold graph.sortedNames [] fun issues name => do
    Run.poll
    let fanOut := (graph.sitesOf name).length
    pure (if fanOut > limit then issues ++ [.highFanOut name fanOut limit] else issues)

/-- The issue of a call whose arguments do not fit. -/
def mismatch? (graph : Graph) (name : String) (site : CallSite) : Option Issue :=
  match graph.get? site.targetName with
  | none => none
  | some target =>
    match target.payloadArity? with
    | none => none
    | some expected =>
      if site.argumentCount = expected then none
      else some (.argumentMismatch name site target.name expected)

/-- Calls whose arguments do not fit the parameters of their target. -/
def checkArguments (graph : Graph) : Run (List Issue) :=
  Run.fold graph.sortedNames [] fun issues name =>
    Run.fold (graph.sitesOf name) issues fun issues site => do
      Run.poll
      pure (issues ++ (graph.mismatch? name site).toList)

/-- All issues of a graph. -/
def validate (graph : Graph) (settings : ValidationSettings) : Run (List Issue) := do
  let orphans ← graph.checkOrphans
  let cycles ← graph.checkCycles
  let deepChains ← graph.checkDepth settings.maxDepth
  let fanOuts ← graph.checkFanOut settings.maxFanOut
  let mismatches ← if settings.checkSignatures then graph.checkArguments else pure []
  pure (orphans ++ cycles ++ deepChains ++ fanOuts ++ mismatches)

end Graph

/-- A graph is valid if none of its issues is an error. -/
def isValid (issues : List Issue) : Bool := !issues.any Issue.isError

end WorkflowGraph
