import Mathlib.Data.List.Rotate
import WorkflowGraph.Proofs.Issues

/-!
# Which cycles are reported

Not every cycle of a graph is reported: there can be very many, and the search is over after one
visit to each node.  But every cycle has a call that closes a reported one, so whoever breaks the
reported cycles at these calls has broken them all.

No cycle is reported twice, not even from another start.  The nodes of a reported cycle stand in the
order in which they were visited (`Graph.Underway.cycles`), and of all rotations of a cycle only one
does.
-/

namespace WorkflowGraph

namespace Graph

variable {graph : Graph}

/-- The errors among the issues are the reported cycles, in the order in which they were closed. -/
theorem filter_isError_issuesOf (settings : ValidationSettings) :
    (graph.issuesOf settings).filter Issue.isError = graph.foundCycles.map .cycle := by
  have hwarnings : (graph.warningsOf settings).filter Issue.isError = [] := by
    rw [List.filter_eq_nil_iff]
    intro issue hissue
    simp [Issue.isError, kind_of_mem_warningsOf hissue]
  have hcycles : (graph.foundCycles.map Issue.cycle).filter Issue.isError =
      graph.foundCycles.map .cycle := by
    rw [List.filter_eq_self]
    intro issue hissue
    obtain ⟨cycle, _, rfl⟩ := List.mem_map.mp hissue
    rfl
  simp only [warningsOf, List.filter_append, List.append_eq_nil_iff] at hwarnings
  obtain ⟨⟨⟨horphans, hdeep⟩, hfanOut⟩, harguments⟩ := hwarnings
  simp only [issuesOf, List.filter_append, horphans, hcycles, hdeep, hfanOut, harguments,
    List.nil_append, List.append_nil]

/-- A reported cycle is a closed walk through different keys. -/
theorem closedWalk_of_mem_foundCycles {path : List String} (h : path ∈ graph.foundCycles) :
    graph.ClosedWalk path ∧ path.Nodup ∧ ∀ key ∈ path, graph.contains key = true := by
  obtain ⟨hend, _⟩ : Underway graph [] graph.searched ∧ _ := searched_complete
  obtain ⟨hwalk, hvisited⟩ := hend.cycles path h
  refine ⟨hwalk, List.nodup_reverse.mp (hend.nodup.sublist hvisited), ?_⟩
  intro key hkey
  exact hend.keys key (hvisited.subset (List.mem_reverse.mpr hkey))

/-- Every closed walk takes a call that closes a reported cycle. -/
theorem exists_closes_of_closedWalk {walk : List String} (h : graph.ClosedWalk walk) :
    ∃ caller target, [caller, target] <:+: walk ++ walk.take 1 ∧
      Closes graph.foundCycles caller target := by
  obtain ⟨_, hacc⟩ : Underway graph [] graph.searched ∧ _ := searched_complete
  obtain ⟨first, others, rfl⟩ := List.exists_cons_of_ne_nil h.nonempty
  by_contra hnone
  -- then all calls of the walk are open, and it goes round and round
  have hopen : (first :: others ++ [first]).IsChain
      fun caller target => graph.OpenCall graph.foundCycles target caller := by
    rw [List.isChain_iff_forall_rel_of_append_cons_cons]
    intro caller target before after hsplit
    have hcalls := List.isChain_iff_forall_rel_of_append_cons_cons.mp h.calls hsplit
    have hedge : [caller, target] <:+: first :: others ++ [first] :=
      ⟨before, after, by rw [hsplit, List.append_assoc]; rfl⟩
    exact ⟨hcalls, fun hcloses => hnone ⟨caller, target, hedge, hcloses⟩⟩
  have hround : Relation.TransGen
      (fun caller target => graph.OpenCall graph.foundCycles target caller) first first :=
    transGen_of_isChain hopen
  obtain ⟨_, _, hlast⟩ := Relation.TransGen.tail'_iff.mp hround
  exact not_transGen_of_acc (hacc first hlast.1.contains) hround

/-- No reported cycle is another one, begun elsewhere. -/
theorem pairwise_not_isRotated_foundCycles :
    graph.foundCycles.Pairwise fun path other => ¬path.IsRotated other := by
  obtain ⟨hend, _⟩ : Underway graph [] graph.searched ∧ _ := searched_complete
  refine hend.once.pairwise_of_forall_ne ?_
  intro path hpath other hother hne hrotated
  refine hne (List.reverse_injective ?_)
  -- both list the same nodes in the order of their visits
  have hperm : path.reverse.Perm other.reverse :=
    (List.reverse_perm path).trans (hrotated.perm.trans (List.reverse_perm other).symm)
  exact (hend.nodup.perm_iff_eq_of_sublist (hend.cycles path hpath).2
    (hend.cycles other hother).2).mp hperm

end Graph

/-- **The reported cycles.**  For every graph, a search that nobody stops ends with a list of paths, and
these are the errors of its validation, one for each.  Every reported path is a walk along calls that
ends where it starts, through different keys.  Every closed walk of the graph, simple or not, takes a
call from the end of a reported path to its start; so none is reported exactly if there is no closed
walk.  No two reported paths are rotations of each other. -/
theorem reported_cycles (graph : Graph) :
    ∃ reported, graph.findCycles.outcome = .ok reported ∧
      (∀ settings, ∃ issues, (graph.validate settings).outcome = .ok issues ∧
        issues.filter Issue.isError = reported.map .cycle) ∧
      (∀ path ∈ reported, graph.ClosedWalk path ∧ path.Nodup ∧
        ∀ key ∈ path, graph.contains key = true) ∧
      (∀ walk, graph.ClosedWalk walk → ∃ caller target, [caller, target] <:+: walk ++ walk.take 1 ∧
        ∃ path ∈ reported, path.head? = some target ∧ path.getLast? = some caller) ∧
      (reported = [] ↔ ¬∃ walk, graph.ClosedWalk walk) ∧
      reported.Pairwise fun path other => ¬path.IsRotated other := by
  refine ⟨graph.foundCycles, graph.findCycles_computes.outcome_eq, ?_,
    fun path hpath => Graph.closedWalk_of_mem_foundCycles hpath,
    fun walk hwalk => Graph.exists_closes_of_closedWalk hwalk, ?_,
    Graph.pairwise_not_isRotated_foundCycles⟩
  · intro settings
    exact ⟨_, (graph.validate_computes settings).outcome_eq,
      Graph.filter_isError_issuesOf settings⟩
  · constructor
    · intro hnone hsome
      obtain ⟨walk, hwalk⟩ := hsome
      obtain ⟨_, _, _, cycle, hcycle, _⟩ := Graph.exists_closes_of_closedWalk hwalk
      rw [hnone] at hcycle
      cases hcycle
    · intro hnone
      rw [List.eq_nil_iff_forall_not_mem]
      intro path hpath
      exact hnone ⟨path, (Graph.closedWalk_of_mem_foundCycles hpath).1⟩

end WorkflowGraph
