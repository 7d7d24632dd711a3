import WorkflowGraph.Number.Binary64
import WorkflowGraph.Table

/-!
# The graph of workflows

A node is a workflow, an activity or a handler, with what its body does: the calls that start
activities and child workflows, the signals, queries and updates that it answers, its timers,
versions and search attributes.  A call site names its target; the target knows its callers as
parents.  A node that nothing declares, and that stands only for a name used as a target or
handler, is a stub.
-/

namespace WorkflowGraph

/-- The role of a node. -/
inductive NodeRole where
  | workflow
  | activity
  | signalHandler
  | queryHandler
  | updateHandler
deriving DecidableEq, Repr

/-- The name of a role. -/
def NodeRole.label : NodeRole → String
  | .workflow => "workflow"
  | .activity => "activity"
  | .signalHandler => "signal_handler"
  | .queryHandler => "query_handler"
  | .updateHandler => "update_handler"

/-- What a call site starts. -/
inductive CallRole where
  | activity
  | localActivity
  | childWorkflow
deriving DecidableEq, Repr

/-- The role of the stub that stands for the target of such a call. -/
def CallRole.stubRole : CallRole → NodeRole
  | .activity => .activity
  | .localActivity => .activity
  | .childWorkflow => .workflow

/-- How the target of a call site was found. -/
inductive Resolution where
  /-- Not looked for yet. -/
  | pending
  /-- A node has the name. -/
  | exact
  /-- One declared node has the last part of the name. -/
  | suffix
  /-- A stub was made for the name. -/
  | stub
  /-- The name is nobody's or could be several nodes'. -/
  | unresolved
deriving DecidableEq, Repr

/-- The retry policy that a literal spells out. -/
structure RetryPolicy where
  initialInterval : Option String := none
  backoffCoefficient : Option Number.Binary64 := none
  maximumInterval : Option String := none
  maximumAttempts : Option Int := none
deriving DecidableEq, Repr

/-- The options that a call is given. -/
structure CallOptions where
  /-- Options were given, but not as a literal. -/
  opaqueOptions : Bool := false
  startToCloseTimeout : Option String := none
  scheduleToCloseTimeout : Option String := none
  scheduleToStartTimeout : Option String := none
  heartbeatTimeout : Option String := none
  taskQueue : Option String := none
  workflowId : Option String := none
  workflowExecutionTimeout : Option String := none
  workflowRunTimeout : Option String := none
  retryPolicy : Option RetryPolicy := none
deriving DecidableEq, Repr

/-- A call that starts an activity or a child workflow. -/
structure CallSite where
  /-- The target as written; after resolution the key of its node. -/
  targetName : String
  targetRole : CallRole
  line : Nat
  options : Option CallOptions
  /-- How many arguments the target is given. -/
  argumentCount : Nat
  argumentTypes : List String
  /-- The type that the result is read into. -/
  resultType : Option String
  resolution : Resolution
deriving DecidableEq, Repr

structure Signal where
  name : String
  handler : Option String
  line : Nat
  /-- Read from a channel instead of by a handler. -/
  channel : Bool
deriving DecidableEq, Repr

structure Query where
  name : String
  handler : Option String
  line : Nat
deriving DecidableEq, Repr

structure Update where
  name : String
  handler : Option String
  line : Nat
  hasValidator : Bool
deriving DecidableEq, Repr

structure Timer where
  duration : String
  isSleep : Bool
  line : Nat
deriving DecidableEq, Repr

structure Version where
  changeId : String
  minVersion : Option Int
  maxVersion : Option Int
  line : Nat
deriving DecidableEq, Repr

structure SearchAttribute where
  name : String
  line : Nat
deriving DecidableEq, Repr

structure ContinueAsNew where
  target : Option String
  line : Nat
deriving DecidableEq, Repr

/-- A call that the SDK has no part in. -/
structure InternalCall where
  target : String
  line : Nat
deriving DecidableEq, Repr

structure Parameter where
  name : String
  typeName : String
deriving DecidableEq, Repr

/-- What the body of a function does. -/
structure Body where
  callSites : List CallSite := []
  internalCalls : List InternalCall := []
  signals : List Signal := []
  queries : List Query := []
  updates : List Update := []
  timers : List Timer := []
  searchAttributes : List SearchAttribute := []
  versions : List Version := []
  continueAsNew : List ContinueAsNew := []
deriving DecidableEq, Repr

/-- A node of the graph. -/
structure GraphNode where
  /-- `Type.Method` for a method, the bare name otherwise. -/
  name : String
  role : NodeRole
  package : String := ""
  filePath : String := ""
  lineNumber : Nat := 0
  description : Option String := none
  parameters : List Parameter := []
  returnTypes : List String := []
  body : Body := {}
  /-- The callers, each once. -/
  parents : List String := []
  isStub : Bool := false
deriving DecidableEq, Repr

namespace GraphNode

/-- A node that stands for a name which nothing declares. -/
def stub (name : String) (role : NodeRole) (parent : String) : GraphNode :=
  { name, role, parents := [parent], isStub := true }

/-- Adds a caller, unless it is known already. -/
def addParent (node : GraphNode) (parent : String) : GraphNode :=
  if node.parents.contains parent then node else { node with parents := node.parents ++ [parent] }

/-- The call sites of the node. -/
def callSites (node : GraphNode) : List CallSite := node.body.callSites

/-- How many calls the node makes. -/
def fanOut (node : GraphNode) : Nat := node.callSites.length

/-- A node that nobody calls. -/
def isRoot (node : GraphNode) : Bool := node.parents.isEmpty

/-- A node that nobody calls and that calls nobody. -/
def isOrphan (node : GraphNode) : Bool := node.isRoot && node.callSites.isEmpty

end GraphNode

/-- Counts over a whole graph. -/
structure Stats where
  totalWorkflows : Nat := 0
  totalActivities : Nat := 0
  /-- The handler nodes for signals and all definitions of signals; so for queries and updates. -/
  totalSignals : Nat := 0
  totalQueries : Nat := 0
  totalUpdates : Nat := 0
  totalTimers : Nat := 0
  totalVersions : Nat := 0
  totalSearchAttributes : Nat := 0
  totalStubs : Nat := 0
  totalCallSites : Nat := 0
  maxFanOut : Nat := 0
  avgFanOut : Number.Binary64 := .zero
  orphanNodes : Nat := 0
  maxDepth : Nat := 0
deriving DecidableEq, Repr

/-- Nodes by their keys, and counts over them. -/
structure Graph where
  nodes : Table GraphNode := .empty
  stats : Stats := {}
deriving DecidableEq, Repr

namespace Graph

def get? (graph : Graph) (name : String) : Option GraphNode := graph.nodes.get? name

def contains (graph : Graph) (name : String) : Bool := graph.nodes.contains name

def size (graph : Graph) : Nat := graph.nodes.size

/-- The keys in the order of their characters. -/
def sortedNames (graph : Graph) : List String := graph.nodes.sortedKeys

/-- The targets of the calls of a node that are nodes themselves, call by call. -/
def callees (graph : Graph) (name : String) : List String :=
  match graph.get? name with
  | none => []
  | some node => (node.callSites.map CallSite.targetName).filter graph.contains

/-- The same targets in the order of their characters, each once. -/
def sortedCallees (graph : Graph) (name : String) : List String :=
  dropRepeats (sortTexts (graph.callees name))

/-- The nodes that nobody calls. -/
def roots (graph : Graph) : List GraphNode := graph.nodes.values.filter GraphNode.isRoot

end Graph

end WorkflowGraph
