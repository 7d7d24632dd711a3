import WorkflowGraph.Proofs.Resolution

/-!
# Parents and edges are two views of one thing

A call is stored with its caller and a parent with the node that is called, and the two are
written at different times.  They never drift apart.  The parents of a node are the callers of
the edges to it, each once, and the edges to a key are just the call sites and handlers of the
finished nodes that name this key.  Hence `parents_mirror_edges`: a node has somebody as a parent
exactly if the latter is declared and its finished node names the former.

The one exception would be the target that stands for function literals.  No edge ever leads to
it, so the statement asks that it is neither a declared key nor a handler (`LiteralFree`).
-/

namespace WorkflowGraph

/-- The node of `caller` names the key, as the target of a call site or as a handler. -/
def Graph.References (graph : Graph) (caller name : String) : Prop :=
  ∃ node, graph.get? caller = some node ∧
    ((∃ site ∈ node.callSites, site.targetName = name) ∨
      ∃ reference ∈ node.body.handlers, reference.2 = some name)

/-- No declaration has the target that stands for function literals as its key or as a handler. -/
def LiteralFree (declarations : List Declaration) : Prop :=
  ∀ declaration ∈ declarations, declaration.qualifiedName ≠ Go.Node.anonymousTarget ∧
    ∀ reference ∈ declaration.body.handlers, reference.2 ≠ some Go.Node.anonymousTarget

instance (declarations : List Declaration) : Decidable (LiteralFree declarations) :=
  inferInstanceAs (Decidable (∀ declaration ∈ declarations, _ ∧ ∀ reference ∈ _, _))

/-- Accepted declarations are declarations. -/
theorem mem_of_mem_accepted {declaration : Declaration} {declarations : List Declaration}
    (h : declaration ∈ accepted declarations) : declaration ∈ declarations := by
  induction declarations with
  | nil => cases h
  | cons first others ih =>
      by_cases hname : first.name = ""
      · rw [accepted, if_pos hname] at h
        exact List.mem_cons_of_mem _ (ih h)
      · rw [accepted_cons_of_named others hname] at h
        rcases List.mem_cons.mp h with rfl | hlater
        · exact List.mem_cons_self
        · exact List.mem_cons_of_mem _ (ih (List.mem_filter.mp hlater).1)

section Mirror

variable {declarations : List Declaration} {name : String} {node : GraphNode}

/-- The parents of a node are the callers of the edges to it. -/
theorem parents_assembled (h : (assembled declarations).get? name = some node) :
    node.parents = gather [] (callersOf (allEdges declarations) name) := by
  by_cases hmem : name ∈ declaredKeys declarations
  · obtain ⟨declaration, haccepted, rfl⟩ := (mem_declaredKeys declarations).mp hmem
    obtain ⟨before, after, hsplit⟩ := List.append_of_mem haccepted
    rw [get?_assembled_of_split hsplit] at h
    obtain rfl := Option.some.inj h
    rfl
  · rw [get?_assembled_of_not_mem hmem] at h
    obtain ⟨first, _, rfl⟩ := Option.map_eq_some_iff.mp h
    rfl

/-- A settled name that is a key is not open. -/
theorem not_isOpen_of_contains {raw : String}
    (h : (assembled declarations).contains (settledName (declaredKeys declarations) raw) = true) :
    ¬IsOpen (declaredKeys declarations) raw := by
  intro hopen
  rw [settledName_of_open hopen, not_contains_of_isOpen hopen] at h
  cases h

/-- Every edge can be seen at the finished node of its caller. -/
theorem references_of_mem_allEdges {edge : Edge} (h : edge ∈ allEdges declarations) :
    (∃ declaration ∈ accepted declarations, declaration.qualifiedName = edge.caller) ∧
      (assembled declarations).References edge.caller edge.target := by
  rcases mem_allEdges.mp h with ⟨declaration, haccepted, site, hsite, hedge⟩ |
    ⟨declaration, haccepted, reference, hreference, hedge⟩
  · obtain ⟨hnamed, _, rfl⟩ := mem_siteEdges.mp hedge
    obtain ⟨before, after, hsplit⟩ := List.append_of_mem haccepted
    refine ⟨⟨declaration, haccepted, rfl⟩, _, get?_assembled_of_split hsplit, Or.inl ?_⟩
    obtain ⟨earlier, hsettled⟩ := exists_settledSite_mem _ declaration.qualifiedName hsite
    exact ⟨_, hsettled, targetName_settledSite earlier hnamed⟩
  · obtain ⟨raw, hraw, _, rfl⟩ := mem_handlerEdges.mp hedge
    obtain ⟨before, after, hsplit⟩ := List.append_of_mem haccepted
    refine ⟨⟨declaration, haccepted, rfl⟩, _, get?_assembled_of_split hsplit, Or.inr ?_⟩
    rw [handlers_settledBody]
    refine ⟨_, List.mem_map_of_mem hreference, ?_⟩
    rw [hraw, Option.map_some]

/-- The literal target is no key unless somebody declares it or names it as a handler: no edge
leads from a call site to it. -/
theorem not_contains_anonymousTarget (hfree : LiteralFree declarations) :
    (assembled declarations).contains Go.Node.anonymousTarget = false := by
  have hundeclared : Go.Node.anonymousTarget ∉ declaredKeys declarations := by
    intro hmem
    obtain ⟨declaration, haccepted, hkey⟩ := (mem_declaredKeys declarations).mp hmem
    exact (hfree declaration (mem_of_mem_accepted haccepted)).1 hkey
  -- a settled name is declared or as it was, so it is the literal target only if it was that before
  have hsettled : ∀ raw, raw ≠ Go.Node.anonymousTarget →
      settledName (declaredKeys declarations) raw ≠ Go.Node.anonymousTarget := by
    intro raw hraw heq
    rcases settledName_mem_or_eq (declaredKeys declarations) raw with hmem | hsame
    · exact hundeclared (heq ▸ hmem)
    · exact hraw (hsame ▸ heq)
  have hnot : ¬(assembled declarations).contains Go.Node.anonymousTarget = true := by
    rw [(grown_assembled declarations).contains_iff]
    rintro (hmem | ⟨edge, hedge, htarget⟩)
    · exact hundeclared hmem
    · rcases mem_allEdges.mp hedge with ⟨declaration, _, site, _, hsite⟩ |
        ⟨declaration, haccepted, reference, hreference, hhandler⟩
      · obtain ⟨hnamed, _, rfl⟩ := mem_siteEdges.mp hsite
        exact hsettled site.targetName hnamed htarget
      · obtain ⟨raw, hraw, _, rfl⟩ := mem_handlerEdges.mp hhandler
        refine hsettled raw ?_ htarget
        rintro rfl
        exact (hfree declaration (mem_of_mem_accepted haccepted)).2 reference hreference hraw
  simpa using hnot

/-- The handlers of a node of the finished graph are settled, and a stub has none. -/
theorem exists_of_mem_handlers {reference : NodeRole × Option String}
    (hnode : (assembled declarations).get? name = some node)
    (hreference : reference ∈ node.body.handlers) :
    ∃ declaration ∈ accepted declarations, declaration.qualifiedName = name ∧
      ∃ raw ∈ declaration.body.handlers,
        reference = (raw.1, raw.2.map (settledName (declaredKeys declarations))) := by
  by_cases hmem : name ∈ declaredKeys declarations
  · obtain ⟨declaration, haccepted, rfl⟩ := (mem_declaredKeys declarations).mp hmem
    obtain ⟨before, after, hsplit⟩ := List.append_of_mem haccepted
    rw [get?_assembled_of_split hsplit] at hnode
    obtain rfl := Option.some.inj hnode
    rw [handlers_settledBody] at hreference
    obtain ⟨raw, hraw, rfl⟩ := List.mem_map.mp hreference
    exact ⟨declaration, haccepted, rfl, raw, hraw, rfl⟩
  · rw [get?_assembled_of_not_mem hmem] at hnode
    obtain ⟨first, _, rfl⟩ := Option.map_eq_some_iff.mp hnode
    cases hreference

/-- Whatever a finished node names comes from an edge, if it is a key at all. -/
theorem exists_edge_of_references {caller : String}
    (hanonymous : (assembled declarations).contains Go.Node.anonymousTarget = false)
    (hname : (assembled declarations).contains name = true)
    (h : (assembled declarations).References caller name) :
    ∃ edge ∈ allEdges declarations, edge.target = name ∧ edge.caller = caller := by
  obtain ⟨node, hnode, ⟨site, hsite, rfl⟩ | ⟨reference, hreference, hhandler⟩⟩ := h
  · obtain ⟨declaration, haccepted, rfl, raw, hraw, before, rfl⟩ :=
      exists_of_mem_callSites hnode hsite
    have hnamed : raw.targetName ≠ Go.Node.anonymousTarget := by
      intro hliteral
      rw [settledSite_of_anonymous before hliteral] at hname
      rw [← hliteral] at hanonymous
      exact absurd hname (by rw [hanonymous]; decide)
    rw [targetName_settledSite before hnamed] at hname ⊢
    exact ⟨_, siteEdge_mem_allEdges haccepted hraw hnamed (not_isOpen_of_contains hname),
      rfl, rfl⟩
  · obtain ⟨declaration, haccepted, rfl, raw, hraw, rfl⟩ :=
      exists_of_mem_handlers hnode hreference
    obtain ⟨given, hgiven, rfl⟩ := Option.map_eq_some_iff.mp hhandler
    exact ⟨_, handlerEdge_mem_allEdges haccepted hraw hgiven (not_isOpen_of_contains hname),
      rfl, rfl⟩

/-- A call site of the finished graph leads to a node unless it is unresolved. -/
theorem contains_targetName_iff
    (hanonymous : (assembled declarations).contains Go.Node.anonymousTarget = false)
    (hnode : (assembled declarations).get? name = some node) {site : CallSite}
    (hsite : site ∈ node.callSites) :
    (assembled declarations).contains site.targetName = true ↔ site.resolution ≠ .unresolved := by
  obtain ⟨declaration, haccepted, rfl, raw, hraw, before, rfl⟩ :=
    exists_of_mem_callSites hnode hsite
  rw [Ne, resolution_settledSite_eq_unresolved_iff]
  by_cases hnamed : raw.targetName = Go.Node.anonymousTarget
  · rw [settledSite_of_anonymous before hnamed, hnamed, hanonymous]
    simp
  · rw [targetName_settledSite before hnamed]
    refine ⟨fun hcontains hor => hor.elim hnamed (not_isOpen_of_contains hcontains), ?_⟩
    intro hclosed
    rw [(grown_assembled declarations).contains_iff]
    have hedge := siteEdge_mem_allEdges haccepted hraw hnamed fun hopen => hclosed (Or.inr hopen)
    exact Or.inr ⟨_, hedge, rfl⟩

end Mirror

/-- **Parents mirror edges.**  In the graph that a build ends with when nobody stops it, the
parents of a node are the declared keys whose nodes name it, none of them twice, and the callees of
a node are the targets of its resolved call sites, in order. -/
theorem parents_mirror_edges (declarations : List Declaration)
    (hfree : LiteralFree declarations) :
    ∃ graph, (Graph.build declarations).outcome = .ok graph ∧
      ∀ name node, graph.get? name = some node →
        (∀ parent, parent ∈ node.parents ↔
          (∃ declaration ∈ accepted declarations, declaration.qualifiedName = parent) ∧
            graph.References parent name) ∧
        node.parents.Nodup ∧
        graph.callees name =
          (node.callSites.filter fun site => site.resolution ≠ .unresolved).map
            CallSite.targetName := by
  have hanonymous := not_contains_anonymousTarget hfree
  refine ⟨assembled declarations, (build_computes declarations).outcome_eq, ?_⟩
  intro name node hnode
  have hparents := parents_assembled hnode
  have hname : (assembled declarations).contains name = true := by
    rw [Graph.contains_eq_isSome, hnode]
    rfl
  refine ⟨fun parent => ?_, ?_, ?_⟩
  · rw [hparents, mem_gather, mem_callersOf]
    constructor
    · rintro (hnil | ⟨edge, hedge, rfl, rfl⟩)
      · cases hnil
      · exact references_of_mem_allEdges hedge
    · rintro ⟨_, hreferences⟩
      exact Or.inr (exists_edge_of_references hanonymous hname hreferences)
  · rw [hparents]
    exact nodup_gather _ List.nodup_nil
  · have hcallees : (assembled declarations).callees name =
        (node.callSites.map CallSite.targetName).filter (assembled declarations).contains := by
      rw [Graph.callees, hnode]
    rw [hcallees, List.filter_map]
    congr 1
    refine List.filter_congr fun site hsite => ?_
    rw [Bool.eq_iff_iff, decide_eq_true_iff]
    exact contains_targetName_iff hanonymous hnode hsite

/-- A call that was given nothing and not yet resolved. -/
def CallSite.plain (targetName : String) (targetRole : CallRole) (line : Nat) : CallSite :=
  { targetName, targetRole, line, options := none, argumentCount := 0, argumentTypes := [],
    resultType := none, resolution := .pending }

/-- A workflow that calls itself, a function literal, a name with one fitting key and a name with
two, and that has a stub both as a call target and as the handler of a signal; another workflow
calls the stub too. -/
def shopDeclarations : List Declaration :=
  [{ name := "Order", role := .workflow
     body :=
      { callSites :=
          [.plain "acts.Charge" .activity 4, .plain "Order" .childWorkflow 5,
            .plain "acts.Refund" .activity 6, .plain "Ship" .localActivity 7,
            .plain Go.Node.anonymousTarget .activity 8]
        signals := [{ name := "ship", handler := some "Ship", line := 9, channel := false }]
        queries := [{ name := "status", handler := some "status", line := 10 }] } },
    { name := "Charge", receiverType := some "Payments", role := .activity },
    { name := "Refund", receiverType := some "Payments", role := .activity },
    { name := "Return", role := .workflow
      body := { callSites := [.plain "Ship" .activity 22] } },
    { name := "Refund", receiverType := some "Stock", role := .activity }]

theorem declaredKeys_shop : declaredKeys shopDeclarations =
    ["Order", "Payments.Charge", "Payments.Refund", "Return", "Stock.Refund"] :=
  List.mergeSort_of_pairwise (by decide)

/-- The stub `Ship` has both workflows that call it as parents.  `Order` has the edges to the one
fitting key, to itself and to the stub, and none for the literal and for the name with two keys. -/
theorem parents_mirror_edges_shop :
    LiteralFree shopDeclarations ∧
      ∃ graph, (Graph.build shopDeclarations).outcome = .ok graph ∧
        (∀ name node, graph.get? name = some node →
          (∀ parent, parent ∈ node.parents ↔
            (∃ declaration ∈ accepted shopDeclarations, declaration.qualifiedName = parent) ∧
              graph.References parent name) ∧
          node.parents.Nodup ∧
          graph.callees name =
            (node.callSites.filter fun site => site.resolution ≠ .unresolved).map
              CallSite.targetName) ∧
        graph.nodes.keys = ["Order", "Payments.Charge", "Payments.Refund", "Return",
          "Stock.Refund", "Ship", "status"] ∧
        (graph.get? "Ship").map GraphNode.parents = some ["Order", "Return"] ∧
        graph.callees "Order" = ["Payments.Charge", "Order", "Ship"] := by
  have hfree : LiteralFree shopDeclarations := by decide
  obtain ⟨graph, hgraph, hmirror⟩ := parents_mirror_edges shopDeclarations hfree
  obtain rfl : graph = assembled shopDeclarations :=
    (build_computes shopDeclarations).eq_of_outcome hgraph
  refine ⟨hfree, _, hgraph, hmirror, ?_⟩
  simp only [assembled, joined, allRounds, declaredKeys_shop]
  decide +kernel

end WorkflowGraph
