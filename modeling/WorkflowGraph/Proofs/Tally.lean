import WorkflowGraph.Graph.Stats
import WorkflowGraph.Proofs.Edges
import WorkflowGraph.Proofs.Runs

/-!
# The counts of a graph do not depend on its order

A graph keeps its nodes in the order in which they came.  Its counts forget that order, and they
also forget most of what a node holds: of the callers only whether there are any, of a call site
only its target, of the other lists only their lengths.  Two nodes that agree on what is left are
`GraphNode.Alike`, and graphs that have alike nodes at the same keys have equal counts:
`Graph.tally_eq_of_alike`.

The counts are read off `Graph.tally`, which is what `Graph.computeStats` computes.
-/

namespace WorkflowGraph

/-- Nodes that the counts cannot tell apart. -/
structure GraphNode.Alike (node other : GraphNode) : Prop where
  role : node.role = other.role
  isStub : node.isStub = other.isStub
  isRoot : node.isRoot = other.isRoot
  targets : node.callSites.map CallSite.targetName = other.callSites.map CallSite.targetName
  signals : node.body.signals.length = other.body.signals.length
  queries : node.body.queries.length = other.body.queries.length
  updates : node.body.updates.length = other.body.updates.length
  timers : node.body.timers.length = other.body.timers.length
  versions : node.body.versions.length = other.body.versions.length
  searchAttributes : node.body.searchAttributes.length = other.body.searchAttributes.length

theorem GraphNode.Alike.refl (node : GraphNode) : node.Alike node :=
  ⟨rfl, rfl, rfl, rfl, rfl, rfl, rfl, rfl, rfl, rfl⟩

/-- Alike nodes make equally many calls. -/
theorem GraphNode.Alike.fanOut {node other : GraphNode} (h : node.Alike other) :
    node.body.callSites.length = other.body.callSites.length := by
  have hlength := congrArg List.length h.targets
  simpa [GraphNode.callSites] using hlength

namespace Stats

theorem addNode_eq_of_alike {node other : GraphNode} (h : node.Alike other) (stats : Stats) :
    stats.addNode node = stats.addNode other := by
  have horphan : node.isOrphan = other.isOrphan := by
    have hcalls := h.fanOut
    simp only [GraphNode.isOrphan, h.isRoot, GraphNode.callSites]
    congr 1
    cases hleft : node.body.callSites <;> cases hright : other.body.callSites <;>
      simp [hleft, hright] at hcalls ⊢
  simp only [addNode, addBody, h.role, h.isStub, horphan, h.signals, h.queries, h.updates, h.timers,
    h.versions, h.searchAttributes, h.fanOut]

/-- A role counts in the counter of its own, and in no other. -/
theorem addRole_eq (stats : Stats) (role : NodeRole) :
    stats.addRole role =
      { stats with
        totalWorkflows := stats.totalWorkflows + if role = .workflow then 1 else 0
        totalActivities := stats.totalActivities + if role = .activity then 1 else 0
        totalSignals := stats.totalSignals + if role = .signalHandler then 1 else 0
        totalQueries := stats.totalQueries + if role = .queryHandler then 1 else 0
        totalUpdates := stats.totalUpdates + if role = .updateHandler then 1 else 0 } := by
  cases role <;> rfl

/-- Two nodes can be counted in either order. -/
theorem addNode_comm (stats : Stats) (node other : GraphNode) :
    (stats.addNode node).addNode other = (stats.addNode other).addNode node := by
  simp only [addNode, addBody, addRole_eq, Nat.add_right_comm, Nat.max_right_comm]

end Stats

namespace Graph

variable (graph : Graph)

/-- The depth that a search with `fuel` finds from a node, away from the nodes of `path`. -/
def depthWithin : Nat → List String → String → Nat
  | 0, _, _ => 0
  | fuel + 1, path, name =>
    let fresh := (graph.sortedCallees name).filter fun callee => !(name :: path).contains callee
    fresh.foldl (fun deepest callee => max deepest (depthWithin fuel (name :: path) callee)) 0 + 1

/-- The greatest value over some names is computed name by name. -/
private theorem greatest_computes {run : String → Run Nat} {value : String → Nat}
    (h : ∀ name, (run name).Computes (value name)) (names : List String) :
    (Run.fold names 0 fun deepest name => do pure (max deepest (← run name))).Computes
      (names.foldl (fun deepest name => max deepest (value name)) 0) := by
  apply Run.computes_fold
  intro deepest name
  exact (h name).bind (Run.computes_pure _)

theorem longestFrom_computes (fuel : Nat) (path : List String) (name : String) :
    (graph.longestFrom fuel path name).Computes (graph.depthWithin fuel path name) := by
  induction fuel generalizing path name with
  | zero => exact Run.computes_pure 0
  | succ fuel ih =>
      have hfold := greatest_computes (ih (name :: path))
        ((graph.sortedCallees name).filter fun callee => !(name :: path).contains callee)
      exact (hfold.bind (Run.computes_pure (_ + 1))).after_poll

/-- The depth of a node, as a number. -/
def depth (name : String) : Nat :=
  if graph.contains name then graph.depthWithin graph.size [] name else 0

theorem chainDepth_computes (name : String) :
    (graph.chainDepth name).Computes (graph.depth name) := by
  unfold chainDepth depth
  split
  · exact graph.longestFrom_computes graph.size [] name
  · exact Run.computes_pure 0

/-- The counts of a graph, as a value. -/
def tally : Stats :=
  let counted := graph.nodes.values.foldl Stats.addNode {}
  { counted with
    avgFanOut := Number.Binary64.ofQuotient false counted.totalCallSites graph.size
    maxDepth := graph.sortedRoots.foldl (fun deepest name => max deepest (graph.depth name)) 0 }

theorem computeStats_computes : graph.computeStats.Computes graph.tally := by
  have hcount : ∀ (stats : Stats) (node : GraphNode),
      (Run.poll >>= fun _ => pure (stats.addNode node)).Computes (stats.addNode node) :=
    fun stats node => (Run.computes_pure _).after_poll
  have hdepth := greatest_computes graph.chainDepth_computes graph.sortedRoots
  exact (Run.computes_fold hcount graph.nodes.values {}).bind
    (hdepth.bind (Run.computes_pure _))

/-- Counts the node of a key, if it has one. -/
def countAt (stats : Stats) (name : String) : Stats :=
  match graph.get? name with
  | some node => stats.addNode node
  | none => stats

theorem countAt_comm (stats : Stats) (first second : String) :
    graph.countAt (graph.countAt stats first) second =
      graph.countAt (graph.countAt stats second) first := by
  unfold countAt
  cases graph.get? first with
  | none => rfl
  | some node =>
      cases graph.get? second with
      | none => rfl
      | some later => exact Stats.addNode_comm stats node later

/-- Counting the nodes is counting along the keys. -/
theorem counted_eq_countAt :
    graph.nodes.values.foldl Stats.addNode {} = graph.nodes.keys.foldl graph.countAt {} := by
  rw [Table.values_eq_filterMap, List.foldl_filterMap]
  apply List.foldl_ext
  intro stats name _
  unfold countAt get?
  cases graph.nodes.get? name <;> rfl

/-- Graphs with alike nodes at the same keys. -/
def Alike (other : Graph) : Prop :=
  ∀ name, Option.Rel GraphNode.Alike (graph.get? name) (other.get? name)

namespace Alike

variable {graph other : Graph}

/-- Graphs that read the same are alike, in whichever order they hold their nodes. -/
theorem of_get?_eq (h : ∀ name, graph.get? name = other.get? name) : graph.Alike other := by
  intro name
  rw [h name]
  cases other.get? name with
  | none => exact .none
  | some node => exact .some (GraphNode.Alike.refl node)

theorem isSome_eq (h : graph.Alike other) (name : String) :
    (graph.get? name).isSome = (other.get? name).isSome := by
  have hname := h name
  generalize graph.get? name = node?, other.get? name = other? at hname
  cases hname <;> rfl

theorem contains_eq (h : graph.Alike other) (name : String) :
    graph.contains name = other.contains name := by
  rw [contains_eq_isSome, contains_eq_isSome, h.isSome_eq name]

theorem keys_perm (h : graph.Alike other) : graph.nodes.keys.Perm other.nodes.keys :=
  Table.keys_perm h.isSome_eq

theorem size_eq (h : graph.Alike other) : graph.size = other.size := by
  have hlength := h.keys_perm.length_eq
  simpa [Table.keys, size, Table.size] using hlength

theorem callees_eq (h : graph.Alike other) (name : String) :
    graph.callees name = other.callees name := by
  have hcontains : graph.contains = other.contains := funext h.contains_eq
  have hname := h name
  unfold callees
  generalize graph.get? name = node?, other.get? name = other? at hname
  cases hname with
  | none => rfl
  | some halike => simp only [halike.targets, hcontains]

/-- The search for the deepest path sees nothing of a graph but its callees. -/
theorem depthWithin_eq (h : graph.Alike other) (fuel : Nat) (path : List String)
    (name : String) : graph.depthWithin fuel path name = other.depthWithin fuel path name := by
  induction fuel generalizing path name with
  | zero => rfl
  | succ fuel ih =>
      have hcallees : graph.sortedCallees name = other.sortedCallees name := by
        rw [sortedCallees, sortedCallees, h.callees_eq name]
      simp only [depthWithin, hcallees, ih]

theorem depth_eq (h : graph.Alike other) (name : String) : graph.depth name = other.depth name := by
  rw [depth, depth, h.contains_eq, h.size_eq, h.depthWithin_eq]

theorem sortedRoots_eq (h : graph.Alike other) : graph.sortedRoots = other.sortedRoots := by
  have hnames : graph.sortedNames = other.sortedNames := sortTexts_eq_of_perm h.keys_perm
  have hroots : graph.isRootName = other.isRootName := by
    funext name
    have hname := h name
    unfold isRootName
    generalize graph.get? name = node?, other.get? name = other? at hname
    cases hname with
    | none => rfl
    | some halike => exact halike.isRoot
  rw [sortedRoots, sortedRoots, hnames, hroots]

/-- Counting all nodes gives the same, in whichever order they stand. -/
theorem counted_eq (h : graph.Alike other) :
    graph.nodes.values.foldl Stats.addNode {} = other.nodes.values.foldl Stats.addNode {} := by
  have hcount : graph.countAt = other.countAt := by
    funext stats name
    have hname := h name
    unfold countAt
    generalize graph.get? name = node?, other.get? name = other? at hname
    cases hname with
    | none => rfl
    | some halike => exact Stats.addNode_eq_of_alike halike stats
  rw [counted_eq_countAt, counted_eq_countAt, hcount]
  apply h.keys_perm.foldl_eq'
  intro first _ second _ stats
  exact other.countAt_comm stats first second

end Alike

/-- **The counts forget the order.**  Graphs with alike nodes at the same keys have equal
counts. -/
theorem tally_eq_of_alike {graph other : Graph} (h : graph.Alike other) :
    graph.tally = other.tally := by
  have hdepth : graph.depth = other.depth := funext h.depth_eq
  simp only [tally, h.counted_eq, h.size_eq, h.sortedRoots_eq, hdepth]

end Graph

end WorkflowGraph
