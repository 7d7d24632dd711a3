import WorkflowGraph.Proofs.NodeOrder
import WorkflowGraph.Proofs.ReportedCycles
import WorkflowGraph.Proofs.SearchForest

/-!
# Who is named in the reported cycles

A node may lie on a cycle and be named in none of the reported ones.  Let `A` call `B` and `C`, `B` call
`A`, and `C` call `B`.  The search goes from `A` to `B` and reports their cycle.  When it comes to `C`,
the node `B` is done with, and nothing is said of the cycle from `A` through `C` and `B`.

Who is named depends on the order of the visits, and `named_on_cycles_iff` says how.  A node is named
exactly if a call leads from some last node back to some first one, and the first one leads to the
node and the node to the last one, each through nodes that are visited after it.  In the example `C`
leads only to itself in this way, and `B`, which it calls, does not lead to it.  Whatever the order,
two things are certain: every cycle has a node that is named, and a cycle that shares its calls only
with cycles through all its nodes has all of them named.
-/

namespace WorkflowGraph

namespace Graph

variable {graph : Graph}

/-- Some reported cycle goes through the key. -/
def Named (reported : List (List String)) (name : String) : Prop := ∃ path ∈ reported, name ∈ path

instance (reported : List (List String)) (name : String) : Decidable (Named reported name) :=
  inferInstanceAs (Decidable (∃ path ∈ reported, name ∈ path))

/-- A chain of calls leads from its first node to all others, if these are visited later. -/
theorem leadsTo_of_isChain {visited rest : List String} {node caller finish : String}
    (hchain : (caller :: rest).IsChain graph.Calls)
    (hlater : ∀ key ∈ rest, Sooner visited node key) (hfinish : finish ∈ caller :: rest) :
    Relation.ReflTransGen (fun caller target => graph.Calls caller target ∧
      Sooner visited node target) caller finish := by
  induction rest generalizing caller with
  | nil => exact List.mem_singleton.mp hfinish ▸ .refl
  | cons next rest ih =>
      rcases List.mem_cons.mp hfinish with rfl | hfinish
      · exact .refl
      · obtain ⟨hcall, hchain⟩ := List.isChain_cons_cons.mp hchain
        obtain ⟨hnext, hrest⟩ := List.forall_mem_cons.mp hlater
        exact .head ⟨hcall, hnext⟩ (ih hchain hrest hfinish)

/-- The nodes of a reported cycle are visited in its order. -/
theorem sooner_of_cycle {visited rest : List String} {node later : String} (front : List String)
    (h : (front ++ node :: rest).reverse.Sublist visited) (hlater : later ∈ rest) :
    Sooner visited node later := by
  have hpair : [node, later].Sublist (front ++ node :: rest) :=
    ((List.singleton_sublist.mpr hlater).cons_cons node).trans (List.sublist_append_right _ _)
  exact hpair.reverse.trans h

/-- A node of a reported cycle lies between its first node and its last one. -/
theorem leadsTo_of_named {name : String} (h : Named graph.foundCycles name) :
    ∃ first last, graph.Calls last first ∧ graph.LeadsTo graph.searched.visited first name ∧
      graph.LeadsTo graph.searched.visited name last := by
  obtain ⟨path, hpath, hname⟩ := h
  obtain ⟨hend, _⟩ : Underway graph [] graph.searched ∧ _ := searched_complete
  obtain ⟨⟨hnonempty, hcalls⟩, hvisited⟩ := hend.cycles path hpath
  obtain ⟨first, rest, rfl⟩ := List.exists_cons_of_ne_nil hnonempty
  have hchain : (first :: rest).IsChain graph.Calls := hcalls.left_of_append
  refine ⟨first, (first :: rest).getLast hnonempty, ?_, ?_, ?_⟩
  · exact (List.isChain_append.mp hcalls).2.2 _ (List.getLast?_eq_some_getLast hnonempty) _ rfl
  · refine leadsTo_of_isChain hchain ?_ hname
    intro key hkey
    exact sooner_of_cycle [] hvisited hkey
  · obtain ⟨front, back, hsplit⟩ := List.append_of_mem hname
    have hlast : (first :: rest).getLast hnonempty ∈ name :: back := by
      simp only [hsplit]
      rw [List.getLast_append_of_ne_nil _ (List.cons_ne_nil name back)]
      exact List.getLast_mem _
    rw [hsplit] at hchain hvisited
    refine leadsTo_of_isChain hchain.right_of_append ?_ hlast
    intro key hkey
    exact sooner_of_cycle front hvisited hkey

/-- A node that lies between the ends of a call in this way is named. -/
theorem named_of_leadsTo {name first last : String} (hcall : graph.Calls last first)
    (hfirst : graph.LeadsTo graph.searched.visited first name)
    (hlast : graph.LeadsTo graph.searched.visited name last) :
    Named graph.foundCycles name := by
  obtain ⟨⟨trail, hexplored⟩, hall⟩ := searched_explored graph
  obtain ⟨hname, hback⟩ := hexplored.mem_trail (hall first hcall.contains) hfirst
  obtain ⟨hend, hmem⟩ := hexplored.mem_trail hname hlast
  exact hexplored.mem_cycles hend hcall hmem hback

/-- A call that closes a reported cycle is a call of that cycle. -/
theorem infix_of_closes {path : List String} {caller target : String}
    (hhead : path.head? = some target) (hlast : path.getLast? = some caller) :
    [caller, target] <:+: path ++ path.take 1 := by
  obtain ⟨rest, rfl⟩ := List.head?_eq_some_iff.mp hhead
  obtain ⟨front, hfront⟩ := List.getLast?_eq_some_iff.mp hlast
  refine ⟨front, [], ?_⟩
  change front ++ [caller, target] ++ [] = target :: rest ++ [target]
  rw [hfront]
  simp

/-- Of every closed walk some node is named. -/
theorem exists_named_of_closedWalk {walk : List String} (h : graph.ClosedWalk walk) :
    ∃ name ∈ walk, Named graph.foundCycles name := by
  obtain ⟨caller, target, hcall, path, hpath, _, hlast⟩ := exists_closes_of_closedWalk h
  have hcaller : caller ∈ walk ++ walk.take 1 := hcall.subset List.mem_cons_self
  refine ⟨caller, ?_, path, hpath, List.mem_of_getLast? hlast⟩
  rcases List.mem_append.mp hcaller with hmem | hmem
  · exact hmem
  · exact List.mem_of_mem_take hmem

/-- All nodes of a closed walk are named if every simple cycle that shares a call with it goes through
all of them. -/
theorem named_of_closedWalk {walk : List String} (h : graph.ClosedWalk walk)
    (hshared : ∀ cycle, graph.ClosedWalk cycle → cycle.Nodup →
      (∃ caller target, [caller, target] <:+: walk ++ walk.take 1 ∧
        [caller, target] <:+: cycle ++ cycle.take 1) → walk ⊆ cycle) :
    ∀ name ∈ walk, Named graph.foundCycles name := by
  obtain ⟨caller, target, hcall, path, hpath, hhead, hlast⟩ := exists_closes_of_closedWalk h
  obtain ⟨hclosed, hnodup, _⟩ := closedWalk_of_mem_foundCycles hpath
  have hall := hshared path hclosed hnodup ⟨caller, target, hcall, infix_of_closes hhead hlast⟩
  exact fun name hname => ⟨path, hpath, hall hname⟩

end Graph

/-- **Who is named in the reported cycles.**  For every graph, a search that nobody stops ends with a
list of paths, and these are the errors of its validation, one for each.  A key is on one of them
exactly if a call leads back from some last node to some first one, and the first one leads to the key
and the key to the last one, each through nodes that are visited after it; every key is visited, and
none twice.  Of every closed walk some key is named, and all are if every simple cycle that shares a
call with the walk goes through all its nodes. -/
theorem named_on_cycles_iff (graph : Graph) :
    ∃ reported, graph.findCycles.outcome = .ok reported ∧
      (∀ settings, ∃ issues, (graph.validate settings).outcome = .ok issues ∧
        issues.filter Issue.isError = reported.map .cycle) ∧
      (∀ name, Graph.Named reported name ↔ ∃ first last, graph.Calls last first ∧
        graph.LeadsTo graph.searched.visited first name ∧
        graph.LeadsTo graph.searched.visited name last) ∧
      (graph.searched.visited.Nodup ∧
        ∀ name, name ∈ graph.searched.visited ↔ graph.contains name = true) ∧
      (∀ walk, graph.ClosedWalk walk → ∃ name ∈ walk, Graph.Named reported name) ∧
      ∀ walk, graph.ClosedWalk walk →
        (∀ cycle, graph.ClosedWalk cycle → cycle.Nodup →
          (∃ caller target, [caller, target] <:+: walk ++ walk.take 1 ∧
            [caller, target] <:+: cycle ++ cycle.take 1) → walk ⊆ cycle) →
        ∀ name ∈ walk, Graph.Named reported name := by
  obtain ⟨⟨trail, hexplored⟩, hall⟩ := Graph.searched_explored graph
  refine ⟨graph.foundCycles, graph.findCycles_computes.outcome_eq, ?_, ?_, ?_, ?_, ?_⟩
  · intro settings
    exact ⟨_, (graph.validate_computes settings).outcome_eq,
      Graph.filter_isError_issuesOf settings⟩
  · intro name
    refine ⟨Graph.leadsTo_of_named, ?_⟩
    rintro ⟨first, last, hcall, hfirst, hlast⟩
    exact Graph.named_of_leadsTo hcall hfirst hlast
  · exact ⟨hexplored.nodup, fun name => ⟨hexplored.keys name, hall name⟩⟩
  · intro walk hwalk
    exact Graph.exists_named_of_closedWalk hwalk
  · intro walk hwalk hshared
    exact Graph.named_of_closedWalk hwalk hshared

/-- `A` calls `B` and `C`, `B` calls `A`, and `C` calls `B`. -/
def detourGraph : Graph where
  nodes := .ofList
    [("A", { name := "A", role := .workflow, parents := ["B"],
             body := { callSites := [ringCall "B", ringCall "C"] } }),
     ("B", { name := "B", role := .workflow, parents := ["A", "C"],
             body := { callSites := [ringCall "A"] } }),
     ("C", { name := "C", role := .workflow, parents := ["A"],
             body := { callSites := [ringCall "B"] } })]

/-- `C` lies on a cycle and is named in no reported one. -/
theorem detour_is_not_named :
    detourGraph.ClosedWalk ["A", "C", "B"] ∧
      ∃ reported, detourGraph.findCycles.outcome = .ok reported ∧
        reported = [["A", "B"]] ∧ ¬Graph.Named reported "C" := by
  have hnames : detourGraph.sortedNames = ["A", "B", "C"] :=
    List.mergeSort_of_pairwise (by decide)
  have hcallees : detourGraph.sortedCallees "A" = ["B", "C"] ∧
      detourGraph.sortedCallees "B" = ["A"] ∧ detourGraph.sortedCallees "C" = ["B"] :=
    ⟨congrArg dropRepeats (List.mergeSort_of_pairwise (by decide)),
      congrArg dropRepeats (List.mergeSort_singleton _),
      congrArg dropRepeats (List.mergeSort_singleton _)⟩
  have hsize : detourGraph.size = 3 := rfl
  have hfound : detourGraph.foundCycles = [["A", "B"]] := by
    simp [Graph.foundCycles, Graph.searched, Graph.visitWithin, Graph.lookAhead, Graph.pathFrom,
      hnames, hcallees, hsize]
  have hreported : detourGraph.findCycles.outcome = .ok [["A", "B"]] :=
    hfound ▸ detourGraph.findCycles_computes.outcome_eq
  have hcalls : (["A", "C", "B", "A"] : List String).IsChain fun caller target =>
      target ∈ detourGraph.callees caller := by decide
  exact ⟨⟨by decide, hcalls.imp fun _ _ => Graph.mem_callees.mp⟩, _, hreported, rfl, by decide⟩

end WorkflowGraph
