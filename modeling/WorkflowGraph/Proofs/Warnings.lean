import WorkflowGraph.Proofs.ReportedCycles

/-!
# Counts and warnings agree

The counts of a graph go through its nodes and keep running totals; the checks go through its keys
in order and compare every node with a limit.  Both look at the same three things.  A check warns
of a node that stands alone exactly as often as such a node is counted, and it warns of too many
calls or of too deep a chain exactly if the greatest number of calls or the greatest depth is over
the limit (`warnings_agree_with_counts`).

The issues of a check are recognised among all issues by their severity, which no other check has
(`Graph.reportedBy_eq_filter`).
-/

namespace WorkflowGraph

/-- A greatest value over a list is over a limit exactly if some value is. -/
theorem lt_foldl_max_iff {α : Type} (value : α → Nat) (items : List α) (limit : Nat) :
    limit < items.foldl (fun greatest item => max greatest (value item)) 0 ↔
      ∃ item ∈ items, limit < value item := by
  constructor
  · intro hover
    rcases foldl_max_eq value items 0 with hzero | ⟨item, hitem, hvalue⟩
    · omega
    · exact ⟨item, hitem, by omega⟩
  · rintro ⟨item, hitem, hover⟩
    exact Nat.lt_of_lt_of_le hover ((le_foldl_max value items 0).2 item hitem)

/-- What a list of conditional findings comes to. -/
theorem flatMap_ite_eq_map_filter {α β : Type} (condition : α → Bool) (found : α → β)
    (items : List α) :
    (items.flatMap fun item => if condition item then [found item] else []) =
      (items.filter condition).map found := by
  induction items with
  | nil => rfl
  | cons item items ih =>
      rw [List.flatMap_cons, ih]
      cases hitem : condition item <;> simp [hitem]

namespace Stats

/-- The nodes that stand alone are counted one by one. -/
theorem orphanNodes_foldl (nodes : List GraphNode) (stats : Stats) :
    (nodes.foldl addNode stats).orphanNodes =
      stats.orphanNodes + nodes.countP GraphNode.isOrphan := by
  induction nodes generalizing stats with
  | nil => rfl
  | cons node nodes ih =>
      have hnode : (stats.addNode node).orphanNodes =
          stats.orphanNodes + if node.isOrphan then 1 else 0 := by
        simp only [addNode, addBody, addRole_eq]
      rw [List.foldl_cons, ih, hnode, List.countP_cons, Nat.add_assoc, Nat.add_comm (ite _ _ _)]

/-- The greatest number of calls is kept from node to node. -/
theorem maxFanOut_foldl (nodes : List GraphNode) (stats : Stats) :
    (nodes.foldl addNode stats).maxFanOut =
      nodes.foldl (fun greatest node => max greatest node.fanOut) stats.maxFanOut := by
  induction nodes generalizing stats with
  | nil => rfl
  | cons node nodes ih =>
      have hnode : (stats.addNode node).maxFanOut = max stats.maxFanOut node.fanOut := by
        simp only [addNode, addBody, addRole_eq]
        rfl
      rw [List.foldl_cons, List.foldl_cons, ih, hnode]

end Stats

/-! ## The issues of one check -/

/-- The five checks. -/
inductive Check where
  | orphans
  | cycles
  | depth
  | fanOut
  | arguments

/-- How bad the issues of a check are. -/
def Check.severity : Check → Nat
  | .orphans => 3
  | .cycles => 8
  | .depth => 5
  | .fanOut => 4
  | .arguments => 6

/-- No two checks have one severity. -/
theorem Check.eq_of_severity_eq {check other : Check} (h : check.severity = other.severity) :
    check = other := by
  cases check <;> cases other <;> first | rfl | cases h

namespace Graph

variable {graph : Graph} {settings : ValidationSettings}

/-- What a check reports. -/
def reportedBy (graph : Graph) (settings : ValidationSettings) : Check → List Issue
  | .orphans => graph.sortedNames.flatMap graph.orphansAt
  | .cycles => graph.foundCycles.map .cycle
  | .depth => graph.sortedRoots.flatMap (graph.deepChainsAt settings.maxDepth)
  | .fanOut => graph.sortedNames.flatMap (graph.fanOutsAt settings.maxFanOut)
  | .arguments =>
    if settings.checkSignatures then graph.sortedNames.flatMap graph.mismatchesAt else []

/-- The issues of a graph, check by check. -/
theorem issuesOf_eq_reportedBy : graph.issuesOf settings =
    graph.reportedBy settings .orphans ++ graph.reportedBy settings .cycles ++
      graph.reportedBy settings .depth ++ graph.reportedBy settings .fanOut ++
      graph.reportedBy settings .arguments := rfl

/-- An issue has the severity of its check and is about a key of the graph. -/
theorem of_mem_reportedBy {check : Check} {issue : Issue}
    (h : issue ∈ graph.reportedBy settings check) :
    issue.severity = check.severity ∧ ∃ name ∈ issue.node, graph.contains name = true := by
  have hcontains : ∀ {name}, name ∈ graph.sortedNames → graph.contains name = true := by
    intro name hname
    obtain ⟨node, hnode⟩ := mem_sortedNames.mp hname
    exact contains_of_get? hnode
  cases check with
  | orphans =>
      obtain ⟨name, hname, hissue⟩ := List.mem_flatMap.mp h
      rw [eq_of_mem_ite hissue]
      exact ⟨rfl, name, rfl, hcontains hname⟩
  | cycles =>
      obtain ⟨path, hpath, rfl⟩ := List.mem_map.mp h
      obtain ⟨hwalk, _, hkeys⟩ := closedWalk_of_mem_foundCycles hpath
      obtain ⟨first, others, rfl⟩ := List.exists_cons_of_ne_nil hwalk.nonempty
      exact ⟨rfl, first, rfl, hkeys first List.mem_cons_self⟩
  | depth =>
      obtain ⟨name, hname, hissue⟩ := List.mem_flatMap.mp h
      rw [eq_of_mem_ite hissue]
      exact ⟨rfl, name, rfl, hcontains (List.mem_filter.mp hname).1⟩
  | fanOut =>
      obtain ⟨name, hname, hissue⟩ := List.mem_flatMap.mp h
      rw [eq_of_mem_ite hissue]
      exact ⟨rfl, name, rfl, hcontains hname⟩
  | arguments =>
      rw [reportedBy] at h
      split at h
      · obtain ⟨name, hname, hissue⟩ := List.mem_flatMap.mp h
        obtain ⟨site, target, expected, rfl⟩ := eq_of_mem_mismatchesAt hissue
        exact ⟨rfl, name, rfl, hcontains hname⟩
      · cases h

/-- Every issue is reported by some check. -/
theorem exists_reportedBy {issue : Issue} (h : issue ∈ graph.issuesOf settings) :
    ∃ check, issue ∈ graph.reportedBy settings check := by
  simp only [issuesOf_eq_reportedBy, List.mem_append] at h
  rcases h with (((h | h) | h) | h) | h
  · exact ⟨.orphans, h⟩
  · exact ⟨.cycles, h⟩
  · exact ⟨.depth, h⟩
  · exact ⟨.fanOut, h⟩
  · exact ⟨.arguments, h⟩

/-- **The issues of a check** are those of its severity. -/
theorem reportedBy_eq_filter (check : Check) : graph.reportedBy settings check =
    (graph.issuesOf settings).filter fun issue => issue.severity = check.severity := by
  have hown : ∀ other : Check, other = check →
      ((graph.reportedBy settings other).filter fun issue => issue.severity = check.severity) =
        graph.reportedBy settings other := by
    rintro _ rfl
    rw [List.filter_eq_self]
    intro issue hissue
    exact decide_eq_true (of_mem_reportedBy hissue).1
  have hother : ∀ other : Check, other ≠ check →
      ((graph.reportedBy settings other).filter fun issue => issue.severity = check.severity) =
        [] := by
    intro other hne
    rw [List.filter_eq_nil_iff]
    intro issue hissue hsame
    refine hne (Check.eq_of_severity_eq ?_)
    exact (of_mem_reportedBy hissue).1.symm.trans (of_decide_eq_true hsame)
  simp only [issuesOf_eq_reportedBy, List.filter_append]
  cases check with
  | _ => simp [hown, hother]

/-- An issue with the severity of a check is one of the check. -/
theorem mem_reportedBy_iff (check : Check) {issue : Issue}
    (h : issue.severity = check.severity) :
    issue ∈ graph.issuesOf settings ↔ issue ∈ graph.reportedBy settings check := by
  rw [reportedBy_eq_filter, List.mem_filter]
  simp [h]

/-! ## Each check against its count -/

/-- The nodes that stand alone, counted along the keys. -/
theorem orphanNodes_tally :
    graph.tally.orphanNodes = (graph.sortedNames.filter graph.isOrphanName).length := by
  have hcount : graph.tally.orphanNodes = graph.nodes.values.countP GraphNode.isOrphan := by
    have hfold := Stats.orphanNodes_foldl graph.nodes.values {}
    rw [Nat.zero_add] at hfold
    exact hfold
  have hname : ∀ name node, graph.nodes.get? name = some node →
      node.isOrphan = graph.isOrphanName name := by
    intro name node hnode
    have hget : graph.get? name = some node := hnode
    rw [isOrphanName, hget]
  have hperm : graph.sortedNames.Perm graph.nodes.keys := sortTexts_perm _
  rw [hcount, ← List.countP_eq_length_filter, hperm.countP_eq, Table.values_eq_filterMap,
    List.countP_filterMap]
  apply List.countP_congr
  intro name hkey
  obtain ⟨node, hnode⟩ := (Table.mem_keys_iff _).mp hkey
  simp [hnode, hname name node hnode]

/-- The first check warns as often as a node that stands alone is counted. -/
theorem length_orphans : (graph.reportedBy settings .orphans).length = graph.tally.orphanNodes := by
  have hfound : graph.reportedBy settings .orphans =
      (graph.sortedNames.filter graph.isOrphanName).map .orphan :=
    flatMap_ite_eq_map_filter graph.isOrphanName Issue.orphan graph.sortedNames
  rw [hfound, List.length_map, orphanNodes_tally]

/-- The warnings about nodes that stand alone are those of the first check. -/
theorem filter_orphan_issuesOf :
    ((graph.issuesOf settings).filter fun issue => ∃ name ∈ issue.node, issue = .orphan name) =
      graph.reportedBy settings .orphans := by
  rw [reportedBy_eq_filter]
  apply List.filter_congr
  intro issue hissue
  rw [decide_eq_decide]
  constructor
  · rintro ⟨name, _, rfl⟩
    rfl
  · intro hseverity
    obtain ⟨name, _, hfound⟩ := List.mem_flatMap.mp
      ((mem_reportedBy_iff .orphans hseverity).mp hissue)
    rw [eq_of_mem_ite hfound]
    exact ⟨name, rfl, rfl⟩

/-- The fourth check warns exactly if the greatest number of calls is over the limit. -/
theorem exists_highFanOut_iff :
    (∃ name fanOut limit, .highFanOut name fanOut limit ∈ graph.issuesOf settings) ↔
      settings.maxFanOut < graph.tally.maxFanOut := by
  have hgreatest : graph.tally.maxFanOut =
      graph.nodes.values.foldl (fun greatest node => max greatest node.fanOut) 0 :=
    Stats.maxFanOut_foldl graph.nodes.values {}
  rw [hgreatest, lt_foldl_max_iff]
  constructor
  · rintro ⟨name, fanOut, limit, hissue⟩
    obtain ⟨key, hkey, hfound⟩ := List.mem_flatMap.mp
      ((mem_reportedBy_iff .fanOut rfl).mp hissue)
    obtain ⟨node, hnode⟩ := mem_sortedNames.mp hkey
    have hsites : graph.sitesOf key = node.callSites := by rw [sitesOf, hnode]
    refine ⟨node, (Table.mem_values_iff _).mpr ⟨key, hnode⟩, ?_⟩
    unfold fanOutsAt at hfound
    split at hfound
    · next hover =>
        rw [hsites] at hover
        exact hover
    · cases hfound
  · rintro ⟨node, hmem, hover⟩
    obtain ⟨name, hnode⟩ := (Table.mem_values_iff _).mp hmem
    have hsites : graph.sitesOf name = node.callSites := by
      rw [sitesOf, show graph.get? name = some node from hnode]
    refine ⟨name, node.fanOut, settings.maxFanOut, ?_⟩
    rw [mem_reportedBy_iff .fanOut rfl]
    refine List.mem_flatMap.mpr ⟨name, mem_sortedNames.mpr ⟨node, hnode⟩, ?_⟩
    rw [fanOutsAt, hsites]
    exact (if_pos hover).symm ▸ List.mem_singleton_self _

/-- The third check warns exactly if the greatest depth is over the limit. -/
theorem exists_deepChain_iff :
    (∃ name depth limit, .deepChain name depth limit ∈ graph.issuesOf settings) ↔
      settings.maxDepth < graph.tally.maxDepth := by
  have hgreatest : graph.tally.maxDepth =
      graph.sortedRoots.foldl (fun deepest name => max deepest (graph.depth name)) 0 := rfl
  rw [hgreatest, lt_foldl_max_iff]
  constructor
  · rintro ⟨name, depth, limit, hissue⟩
    obtain ⟨root, hroot, hfound⟩ := List.mem_flatMap.mp
      ((mem_reportedBy_iff .depth rfl).mp hissue)
    refine ⟨root, hroot, ?_⟩
    unfold deepChainsAt at hfound
    split at hfound
    · assumption
    · cases hfound
  · rintro ⟨root, hroot, hover⟩
    refine ⟨root, graph.depth root, settings.maxDepth, ?_⟩
    rw [mem_reportedBy_iff .depth rfl]
    refine List.mem_flatMap.mpr ⟨root, hroot, ?_⟩
    rw [deepChainsAt, if_pos hover]
    exact List.mem_singleton.mpr rfl

end Graph

/-- **Counts and warnings agree.**  For every graph and all settings, counting and validating
succeed if nobody stops them.  There are as many warnings about nodes that stand alone as such nodes
are counted.  There is a warning about too many calls exactly if the greatest number of calls is
over the limit, and one about too deep a chain exactly if the greatest depth is.  Every issue is
about a key of the graph. -/
theorem warnings_agree_with_counts (graph : Graph) (settings : ValidationSettings) :
    ∃ stats issues, graph.computeStats.outcome = .ok stats ∧
      (graph.validate settings).outcome = .ok issues ∧
      (issues.filter fun issue => ∃ name ∈ issue.node, issue = .orphan name).length =
        stats.orphanNodes ∧
      ((∃ name fanOut limit, .highFanOut name fanOut limit ∈ issues) ↔
        settings.maxFanOut < stats.maxFanOut) ∧
      ((∃ name depth limit, .deepChain name depth limit ∈ issues) ↔
        settings.maxDepth < stats.maxDepth) ∧
      ∀ issue ∈ issues, ∃ name ∈ issue.node, graph.contains name = true := by
  refine ⟨graph.tally, graph.issuesOf settings, graph.computeStats_computes.outcome_eq,
    (graph.validate_computes settings).outcome_eq, ?_, Graph.exists_highFanOut_iff,
    Graph.exists_deepChain_iff, ?_⟩
  · rw [Graph.filter_orphan_issuesOf, Graph.length_orphans]
  · intro issue hissue
    obtain ⟨check, hreported⟩ := Graph.exists_reportedBy hissue
    exact (Graph.of_mem_reportedBy hreported).2

end WorkflowGraph
