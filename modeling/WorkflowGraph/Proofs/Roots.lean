import WorkflowGraph.Proofs.LongestPaths
import WorkflowGraph.Proofs.Parents
import WorkflowGraph.Proofs.Warnings

/-!
# Roots see every chain

The depth of a graph is measured from its roots only, the nodes without parents.  Where calls go
round in circles, or where parents are written down that do not call, long chains can escape it.
Nothing escapes it in a graph without cycles whose nodes with parents are really called by one of
them (`Graph.ParentsCall`).  For a chain that does not start at a root can be begun one call
earlier; what is gained is again a chain through different keys, of which there are only so many;
so in the end a root is reached (`Graph.exists_root_path`).

Every graph that is built from declarations without named handlers has such parents
(`parentsCall_assembled`), for then all its edges are calls.
-/

namespace WorkflowGraph

namespace Graph

variable (graph : Graph)

/-- Keys of the graph that call each other one after the other. -/
structure CallChain (chain : List String) : Prop where
  calls : chain.IsChain graph.Calls
  keys : ∀ key ∈ chain, graph.contains key = true

/-- Every node with parents has one among them that is a key and calls it. -/
def ParentsCall : Prop :=
  ∀ name node, graph.get? name = some node → node.parents ≠ [] →
    ∃ parent ∈ node.parents, graph.Calls parent name

variable {graph}

/-- Without cycles no chain meets a key twice. -/
theorem CallChain.callPath {chain : List String} (h : graph.CallChain chain)
    (hacyclic : ¬graph.HasCycle) : graph.CallPath chain := by
  refine ⟨h.calls, ?_⟩
  have hcalls := h.calls
  clear h
  induction chain with
  | nil => exact List.nodup_nil
  | cons name rest ih =>
      refine List.nodup_cons.mpr ⟨?_, ih hcalls.of_cons⟩
      intro hagain
      obtain ⟨between, after, rfl⟩ := List.append_of_mem hagain
      have hround : ((name :: (between ++ [name])) ++ after).IsChain graph.Calls := by
        simpa using hcalls
      exact hacyclic ⟨name, transGen_of_isChain hround.left_of_append⟩

theorem CallChain.length_le_size {chain : List String} (h : graph.CallChain chain)
    (hacyclic : ¬graph.HasCycle) : chain.length ≤ graph.size :=
  Graph.length_le_size (h.callPath hacyclic).nodup h.keys

/-- A chain can be begun with a caller of its first key. -/
theorem CallChain.cons {caller name : String} {rest : List String}
    (h : graph.CallChain (name :: rest)) (hcalls : graph.Calls caller name) :
    graph.CallChain (caller :: name :: rest) := by
  refine ⟨List.isChain_cons_cons.mpr ⟨hcalls, h.calls⟩, ?_⟩
  refine List.forall_mem_cons.mpr ⟨?_, h.keys⟩
  obtain ⟨⟨node, hnode, _⟩, _⟩ := hcalls
  exact contains_of_get? hnode

/-- A key is a root or has a caller. -/
theorem ParentsCall.root_or_called (hparents : graph.ParentsCall) {name : String}
    (hname : graph.contains name = true) :
    name ∈ graph.sortedRoots ∨ ∃ caller, graph.Calls caller name := by
  rw [contains_eq_isSome] at hname
  obtain ⟨node, hnode⟩ := Option.isSome_iff_exists.mp hname
  by_cases hroot : node.parents = []
  · exact Or.inl (mem_sortedRoots.mpr ⟨node, hnode, hroot⟩)
  · obtain ⟨caller, _, hcalls⟩ := hparents name node hnode hroot
    exact Or.inr ⟨caller, hcalls⟩

/-- **Every chain is the end of a path from a root.** -/
theorem exists_root_path (hparents : graph.ParentsCall) (hacyclic : ¬graph.HasCycle)
    {name : String} {rest : List String} (h : graph.CallChain (name :: rest)) :
    ∃ root others, root ∈ graph.sortedRoots ∧ graph.CallPath (root :: others) ∧
      (name :: rest) <:+ (root :: others) := by
  rcases hparents.root_or_called (h.keys name List.mem_cons_self) with hroot | ⟨caller, hcalls⟩
  · exact ⟨name, rest, hroot, h.callPath hacyclic, List.suffix_rfl⟩
  · have hlonger := (h.cons hcalls).length_le_size hacyclic
    obtain ⟨root, others, hroot, hpath, hsuffix⟩ :=
      exists_root_path hparents hacyclic (h.cons hcalls)
    exact ⟨root, others, hroot, hpath, (List.suffix_cons caller _).trans hsuffix⟩
-- a chain cannot be begun earlier more often than there are keys left
termination_by graph.size - (name :: rest).length
decreasing_by
  rw [List.length_cons] at hlonger ⊢
  omega

/-- The greatest depth of a root is the length of the longest chain. -/
theorem isGreatest_maxDepth (hparents : graph.ParentsCall) (hacyclic : ¬graph.HasCycle) :
    IsGreatest {count | ∃ chain, graph.CallChain chain ∧ chain.length = count}
      graph.tally.maxDepth := by
  have hgreatest : graph.tally.maxDepth =
      graph.sortedRoots.foldl (fun deepest name => max deepest (graph.depth name)) 0 := rfl
  have hcontains : ∀ root ∈ graph.sortedRoots, graph.contains root = true := by
    intro root hroot
    obtain ⟨node, hnode, _⟩ := mem_sortedRoots.mp hroot
    exact contains_of_get? hnode
  rw [hgreatest]
  constructor
  · rcases foldl_max_eq graph.depth graph.sortedRoots 0 with hzero | ⟨root, hroot, hdepth⟩
    · exact ⟨[], ⟨.nil, by simp⟩, hzero.symm⟩
    · have hname := hcontains root hroot
      obtain ⟨rest, hpath, hlength⟩ := (isGreatest_depth hname).1
      exact ⟨root :: rest, ⟨hpath.calls, contains_of_mem_chain hpath.calls hname⟩,
        hlength.trans hdepth.symm⟩
  · rintro count ⟨chain, hchain, rfl⟩
    cases chain with
    | nil => exact Nat.zero_le _
    | cons name rest =>
        obtain ⟨root, others, hroot, hpath, hsuffix⟩ := exists_root_path hparents hacyclic hchain
        calc (name :: rest).length
            ≤ (root :: others).length := hsuffix.length_le
          _ ≤ graph.depth root := (isGreatest_depth (hcontains root hroot)).2 ⟨others, hpath, rfl⟩
          _ ≤ _ := (le_foldl_max graph.depth graph.sortedRoots 0).2 root hroot

end Graph

/-! ## Graphs that are built -/

/-- No declaration names a handler. -/
def HandlerFree (declarations : List Declaration) : Prop :=
  ∀ declaration ∈ declarations, ∀ reference ∈ declaration.body.handlers, reference.2 = none

instance (declarations : List Declaration) : Decidable (HandlerFree declarations) :=
  inferInstanceAs (Decidable (∀ declaration ∈ declarations, ∀ reference ∈ _, _))

/-- Without named handlers all parents call. -/
theorem parentsCall_assembled {declarations : List Declaration} (hfree : HandlerFree declarations) :
    (assembled declarations).ParentsCall := by
  intro name node hnode hparents
  obtain ⟨parent, hparent⟩ := List.exists_mem_of_ne_nil _ hparents
  refine ⟨parent, hparent, ?_⟩
  rw [parents_assembled hnode, mem_gather, mem_callersOf] at hparent
  obtain ⟨edge, hedge, rfl, rfl⟩ := hparent.resolve_left List.not_mem_nil
  have hkey := Graph.contains_of_get? hnode
  obtain ⟨_, caller, hcaller, hsite | ⟨reference, hreference, hnamed⟩⟩ :=
    references_of_mem_allEdges hedge
  · exact ⟨⟨caller, hcaller, hsite⟩, hkey⟩
  · obtain ⟨declaration, haccepted, _, raw, hraw, rfl⟩ := exists_of_mem_handlers hcaller hreference
    rw [hfree declaration (mem_of_mem_accepted haccepted) raw hraw] at hnamed
    cases hnamed

/-- **Roots see every chain.**  A graph that is built from declarations without named handlers has
for every node with parents one that is a key and calls it.  Take any graph of which this holds and
whose calls have no cycle.  Counting and validating succeed if nobody stops them.  The depth that is
counted is the number of keys on the longest chain of calls, wherever it starts, and there is a
warning about too deep a chain exactly if some chain of calls, wherever it starts, has more keys
than the limit. -/
theorem roots_see_every_chain :
    (∀ declarations, HandlerFree declarations →
      ∃ graph, (Graph.build declarations).outcome = .ok graph ∧ graph.ParentsCall) ∧
    ∀ (graph : Graph) (settings : ValidationSettings), graph.ParentsCall → ¬graph.HasCycle →
      ∃ stats issues, graph.computeStats.outcome = .ok stats ∧
        (graph.validate settings).outcome = .ok issues ∧
        IsGreatest {count | ∃ chain, graph.CallChain chain ∧ chain.length = count} stats.maxDepth ∧
        ((∃ name depth limit, .deepChain name depth limit ∈ issues) ↔
          ∃ chain, graph.CallChain chain ∧ settings.maxDepth < chain.length) := by
  constructor
  · intro declarations hfree
    exact ⟨_, (build_computes declarations).outcome_eq, parentsCall_assembled hfree⟩
  · intro graph settings hparents hacyclic
    have hgreatest := Graph.isGreatest_maxDepth hparents hacyclic
    refine ⟨graph.tally, graph.issuesOf settings, graph.computeStats_computes.outcome_eq,
      (graph.validate_computes settings).outcome_eq, hgreatest, ?_⟩
    rw [Graph.exists_deepChain_iff]
    constructor
    · intro hover
      obtain ⟨chain, hchain, hlength⟩ := hgreatest.1
      exact ⟨chain, hchain, by omega⟩
    · rintro ⟨chain, hchain, hover⟩
      exact Nat.lt_of_lt_of_le hover (hgreatest.2 ⟨chain, hchain, rfl⟩)

section Relay

/-- Three workflows in a row, and a fourth that joins in the middle. -/
def relayDeclarations : List Declaration :=
  [{ name := "Order", role := .workflow
     body := { callSites := [.plain "Ship" .childWorkflow 3, .plain "Ship" .childWorkflow 4] } },
   { name := "Ship", role := .workflow
     body := { callSites := [.plain "Notify" .childWorkflow 9] } },
   { name := "Return", role := .workflow
     body := { callSites := [.plain "Ship" .childWorkflow 15] } },
   { name := "Notify", role := .workflow }]

/-- A graph of such workflows, in which one node has also kept a parent that is gone. -/
def relayGraph : Graph where
  nodes := ⟨
    [("Notify", { name := "Notify", role := .workflow, parents := ["Ship"] }),
     ("Order", { name := "Order", role := .workflow
                 body := { callSites := [.plain "Ship" .childWorkflow 3] } }),
     ("Return", { name := "Return", role := .workflow
                  body := { callSites := [.plain "Ship" .childWorkflow 15] } }),
     ("Ship", { name := "Ship", role := .workflow, parents := ["Refund", "Order", "Return"]
                body := { callSites := [.plain "Notify" .childWorkflow 9] } })], by decide⟩

/-- Calls of the relay lead down the row. -/
theorem relayGraph_calls_iff {caller target : String} : relayGraph.Calls caller target ↔
    (caller, target) ∈ [("Order", "Ship"), ("Return", "Ship"), ("Ship", "Notify")] := by
  have hget : ∀ node, relayGraph.get? caller = some node ↔
      (caller, node) ∈ relayGraph.nodes.entries := fun node => Table.get?_eq_some_iff _
  simp only [Graph.Calls, hget]
  constructor
  · rintro ⟨⟨node, hnode, site, hsite, rfl⟩, _⟩
    simp only [relayGraph, List.mem_cons, Prod.mk.injEq, List.not_mem_nil, or_false] at hnode
    rcases hnode with ⟨rfl, rfl⟩ | ⟨rfl, rfl⟩ | ⟨rfl, rfl⟩ | ⟨rfl, rfl⟩
    · cases hsite
    all_goals
      obtain rfl := List.mem_singleton.mp hsite
      decide
  · intro h
    simp only [List.mem_cons, Prod.mk.injEq, List.not_mem_nil, or_false] at h
    rcases h with ⟨rfl, rfl⟩ | ⟨rfl, rfl⟩ | ⟨rfl, rfl⟩
    all_goals exact ⟨⟨_, by simp [relayGraph]; rfl, _, List.mem_singleton_self _, rfl⟩, by decide⟩

theorem not_hasCycle_relayGraph : ¬relayGraph.HasCycle := by
  let place : String → Nat := ["Order", "Return", "Ship", "Notify"].idxOf
  have hedges : ∀ edge ∈ [("Order", "Ship"), ("Return", "Ship"), ("Ship", "Notify")],
      place edge.1 < place edge.2 := by decide
  have hdown : ∀ {caller target}, Relation.TransGen relayGraph.Calls caller target →
      place caller < place target := by
    intro caller target hleads
    induction hleads with
    | single hcalls => exact hedges _ (relayGraph_calls_iff.mp hcalls)
    | tail _ hcalls ih => exact ih.trans (hedges _ (relayGraph_calls_iff.mp hcalls))
  rintro ⟨name, hcycle⟩
  exact Nat.lt_irrefl _ (hdown hcycle)

theorem parentsCall_relayGraph : relayGraph.ParentsCall := by
  intro name node hnode hparents
  have hentry : (name, node) ∈ relayGraph.nodes.entries := (Table.get?_eq_some_iff _).mp hnode
  simp only [relayGraph, List.mem_cons, Prod.mk.injEq, List.not_mem_nil, or_false] at hentry
  rcases hentry with ⟨rfl, rfl⟩ | ⟨rfl, rfl⟩ | ⟨rfl, rfl⟩ | ⟨rfl, rfl⟩
  · exact ⟨"Ship", by decide, relayGraph_calls_iff.mpr (by decide)⟩
  · exact absurd rfl hparents
  · exact absurd rfl hparents
  · exact ⟨"Order", by decide, relayGraph_calls_iff.mpr (by decide)⟩

/-- The relay is built with parents that call, and with a limit of two its chain of three is too
deep. -/
theorem relay_chain_is_seen :
    (HandlerFree relayDeclarations ∧
      ∃ graph, (Graph.build relayDeclarations).outcome = .ok graph ∧ graph.ParentsCall) ∧
    relayGraph.ParentsCall ∧ ¬relayGraph.HasCycle ∧
      ∃ stats issues, relayGraph.computeStats.outcome = .ok stats ∧
        (relayGraph.validate { maxDepth := 2 }).outcome = .ok issues ∧
        IsGreatest {count | ∃ chain, relayGraph.CallChain chain ∧ chain.length = count}
          stats.maxDepth ∧
        ∃ name depth limit, .deepChain name depth limit ∈ issues := by
  obtain ⟨hbuilt, hdocument⟩ := roots_see_every_chain
  obtain ⟨stats, issues, hstats, hissues, hgreatest, hwarning⟩ :=
    hdocument relayGraph { maxDepth := 2 } parentsCall_relayGraph not_hasCycle_relayGraph
  have hchain : relayGraph.CallChain ["Order", "Ship", "Notify"] := by
    refine ⟨?_, by decide⟩
    simp [relayGraph_calls_iff]
  exact ⟨⟨by decide, hbuilt _ (by decide)⟩, parentsCall_relayGraph, not_hasCycle_relayGraph,
    stats, issues, hstats, hissues, hgreatest, hwarning.mpr ⟨_, hchain, by decide⟩⟩

end Relay

end WorkflowGraph
