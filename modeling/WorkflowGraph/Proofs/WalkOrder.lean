import WorkflowGraph.Proofs.Parents

/-!
# The walk order does not matter

The declarations come in the order in which the files were walked, and nobody promises that order.
Two walks over the same declarations give the same keys, and so the same reading of every name and
the same edges, if not in the same order.  What the order does decide is which edge to a
synthesized node comes first.  This shows in two places only: the first call site to reach such a
node is the one that is said to have made it, and the first edge gives it its role.

Hence `build_agrees_of_perm`: two builds agree node by node up to these two things, and a
synthesized node has the same role in both if those who name it ask for one role
(`OneRole`).  Call sites are all asked before any handler is.  If every synthesized node is of
that kind, the two graphs have the same counts.
-/

namespace WorkflowGraph

/-- The roles that the call sites naming a target ask for. -/
def callRoles (declarations : List Declaration) (name : String) : List NodeRole :=
  ((declarations.flatMap fun declaration => declaration.body.callSites).filter
    fun site => site.targetName = name).map fun site => site.targetRole.stubRole

/-- The roles that the handler references naming a target ask for. -/
def handlerRoles (declarations : List Declaration) (name : String) : List NodeRole :=
  ((declarations.flatMap fun declaration => declaration.body.handlers).filter
    fun reference => reference.2 = some name).map Prod.fst

/-- The roles that a synthesized node may get: call sites have the first say, and handlers are
heard if there are none. -/
def askedRoles (declarations : List Declaration) (name : String) : List NodeRole :=
  if callRoles declarations name = [] then handlerRoles declarations name
  else callRoles declarations name

/-- All who have a say ask for one role. -/
def OneRole (declarations : List Declaration) (name : String) : Prop :=
  ∀ role ∈ askedRoles declarations name, ∀ other ∈ askedRoles declarations name, role = other

instance (declarations : List Declaration) (name : String) :
    Decidable (OneRole declarations name) :=
  inferInstanceAs (Decidable (∀ role ∈ askedRoles declarations name, ∀ other ∈ _, role = other))

/-- Two call sites agree: they are the same but for the tag that says whether the node was there
already or was made for the call, and this tag may differ only if the node is a stub. -/
structure SiteAgrees (graph other : Graph) (site twin : CallSite) : Prop where
  fields : twin = { site with resolution := twin.resolution }
  tag : site.resolution = twin.resolution ∨
    (graph.HasStub site.targetName ∧ other.HasStub site.targetName) ∧
      (site.resolution = .exact ∨ site.resolution = .stub) ∧
      (twin.resolution = .exact ∨ twin.resolution = .stub)

/-- Two nodes agree: their parents are the same as a set, their call sites agree in order, the
rest of their bodies with all handlers is the same, and if they are declared all else is too. -/
structure NodeAgrees (graph other : Graph) (node twin : GraphNode) : Prop where
  isStub : node.isStub = twin.isStub
  parents : ∀ caller, caller ∈ node.parents ↔ caller ∈ twin.parents
  callSites : List.Forall₂ (SiteAgrees graph other) node.callSites twin.callSites
  body : twin.body = { node.body with callSites := twin.callSites }
  declared : node.isStub = false →
    twin = { node with parents := twin.parents, body := twin.body }

/-- Two nodes that agree count alike if they have one role. -/
theorem NodeAgrees.alike {graph other : Graph} {node twin : GraphNode}
    (h : NodeAgrees graph other node twin) (hrole : node.role = twin.role) :
    node.Alike twin where
  role := hrole
  isStub := h.isStub
  isRoot := by
    rw [GraphNode.isRoot, GraphNode.isRoot, Bool.eq_iff_iff, List.isEmpty_iff, List.isEmpty_iff,
      List.eq_nil_iff_forall_not_mem, List.eq_nil_iff_forall_not_mem]
    simp only [h.parents]
  targets := by
    have htargets : List.Forall₂ (fun site twin => site.targetName = twin.targetName)
        node.callSites twin.callSites :=
      h.callSites.imp fun site twin hsite => by rw [hsite.fields]
    rwa [← List.forall₂_eq_eq_eq, List.forall₂_map_left_iff, List.forall₂_map_right_iff]
  signals := by rw [h.body]
  queries := by rw [h.body]
  updates := by rw [h.body]
  timers := by rw [h.body]
  versions := by rw [h.body]
  searchAttributes := by rw [h.body]

section Roles

variable {declarations permuted : List Declaration} {name : String} {role : NodeRole}

theorem mem_callRoles : role ∈ callRoles declarations name ↔
    ∃ declaration ∈ declarations, ∃ site ∈ declaration.body.callSites,
      site.targetName = name ∧ site.targetRole.stubRole = role := by
  simp only [callRoles, List.mem_map, List.mem_filter, List.mem_flatMap, decide_eq_true_eq]
  constructor
  · rintro ⟨site, ⟨⟨declaration, hdeclaration, hsite⟩, hname⟩, hrole⟩
    exact ⟨declaration, hdeclaration, site, hsite, hname, hrole⟩
  · rintro ⟨declaration, hdeclaration, site, hsite, hname, hrole⟩
    exact ⟨site, ⟨⟨declaration, hdeclaration, hsite⟩, hname⟩, hrole⟩

theorem mem_handlerRoles : role ∈ handlerRoles declarations name ↔
    ∃ declaration ∈ declarations, ∃ reference ∈ declaration.body.handlers,
      reference.2 = some name ∧ reference.1 = role := by
  simp only [handlerRoles, List.mem_map, List.mem_filter, List.mem_flatMap, decide_eq_true_eq]
  constructor
  · rintro ⟨reference, ⟨⟨declaration, hdeclaration, hreference⟩, hname⟩, hrole⟩
    exact ⟨declaration, hdeclaration, reference, hreference, hname, hrole⟩
  · rintro ⟨declaration, hdeclaration, reference, hreference, hname, hrole⟩
    exact ⟨reference, ⟨⟨declaration, hdeclaration, hreference⟩, hname⟩, hrole⟩

/-- In another order the same roles are asked for. -/
theorem askedRoles_perm (hperm : declarations.Perm permuted) (name : String) :
    (askedRoles declarations name).Perm (askedRoles permuted name) := by
  have hcalls : (callRoles declarations name).Perm (callRoles permuted name) :=
    ((hperm.flatMap_right _).filter _).map _
  have hhandlers : (handlerRoles declarations name).Perm (handlerRoles permuted name) :=
    ((hperm.flatMap_right _).filter _).map _
  unfold askedRoles
  by_cases hnone : callRoles declarations name = []
  · have hnone' : callRoles permuted name = [] := List.perm_nil.mp (hnone ▸ hcalls.symm)
    rw [if_pos hnone, if_pos hnone']
    exact hhandlers
  · have hsome : ¬callRoles permuted name = [] := fun h => hnone (List.perm_nil.mp (h ▸ hcalls))
    rw [if_neg hnone, if_neg hsome]
    exact hcalls

end Roles

/-- Settling the same call sites after different edges gives related sites, one by one. -/
theorem forall₂_settledSites_settledSites {relation : CallSite → CallSite → Prop}
    {declared : List String} {sites : List CallSite} (caller : String) (before earlier : List Edge)
    (h : ∀ site ∈ sites, ∀ before earlier,
      relation (settledSite declared before site) (settledSite declared earlier site)) :
    List.Forall₂ relation (settledSites declared caller before sites)
      (settledSites declared caller earlier sites) := by
  induction sites generalizing before earlier with
  | nil => exact .nil
  | cons site sites ih =>
      exact .cons (h site List.mem_cons_self before earlier)
        (ih _ _ fun other hother => h other (List.mem_cons_of_mem _ hother))

section Finished

variable {declarations : List Declaration} {name : String} {node : GraphNode}

/-- A key that is not declared is read as missing. -/
theorem reading_of_contains (hnot : name ∉ declaredKeys declarations)
    (h : (assembled declarations).contains name = true) :
    reading (declaredKeys declarations) name = .missing := by
  rcases ((grown_assembled declarations).contains_iff name).mp h with hmem | ⟨edge, hedge, rfl⟩
  · exact absurd hmem hnot
  · exact ((grown_assembled declarations).lawful edge hedge).resolve_left hnot

/-- The stubs are the keys that are not declared. -/
theorem isStub_eq_false_iff (hnode : (assembled declarations).get? name = some node) :
    node.isStub = false ↔ name ∈ declaredKeys declarations := by
  by_cases hmem : name ∈ declaredKeys declarations
  · obtain ⟨declaration, haccepted, rfl⟩ := (mem_declaredKeys declarations).mp hmem
    obtain ⟨before, after, hsplit⟩ := List.append_of_mem haccepted
    rw [get?_assembled_of_split hsplit] at hnode
    obtain rfl := Option.some.inj hnode
    exact iff_of_true rfl hmem
  · rw [get?_assembled_of_not_mem hmem] at hnode
    obtain ⟨first, _, rfl⟩ := Option.map_eq_some_iff.mp hnode
    exact iff_of_false (fun hstub => by cases hstub) hmem

/-- A name that is settled as something undeclared was that thing before. -/
theorem eq_of_settledName_eq {raw : String} (hnot : name ∉ declaredKeys declarations)
    (h : settledName (declaredKeys declarations) raw = name) : raw = name := by
  rcases settledName_mem_or_eq (declaredKeys declarations) raw with hmem | hsame
  · exact absurd (h ▸ hmem) hnot
  · exact hsame.symm.trans h

theorem role_mem_callRoles {edge : Edge} (hnot : edge.target ∉ declaredKeys declarations)
    (h : edge ∈ (entries declarations).flatMap (callEdges (declaredKeys declarations))) :
    edge.role ∈ callRoles (accepted declarations) edge.target := by
  obtain ⟨entry, hentry, hedge⟩ := List.mem_flatMap.mp h
  obtain ⟨declaration, haccepted, rfl⟩ := List.mem_map.mp hentry
  obtain ⟨site, hsite, hedge⟩ := List.mem_flatMap.mp hedge
  obtain ⟨_, _, rfl⟩ := mem_siteEdges.mp hedge
  exact mem_callRoles.mpr
    ⟨declaration, haccepted, site, hsite, eq_of_settledName_eq hnot rfl, rfl⟩

theorem role_mem_handlerRoles {edge : Edge} (hnot : edge.target ∉ declaredKeys declarations)
    (h : edge ∈ (entries declarations).flatMap (metadataEdges (declaredKeys declarations))) :
    edge.role ∈ handlerRoles (accepted declarations) edge.target := by
  obtain ⟨entry, hentry, hedge⟩ := List.mem_flatMap.mp h
  obtain ⟨declaration, haccepted, rfl⟩ := List.mem_map.mp hentry
  obtain ⟨reference, hreference, hedge⟩ := mem_metadataEdges.mp hedge
  obtain ⟨raw, hraw, _, rfl⟩ := mem_handlerEdges.mp hedge
  refine mem_handlerRoles.mpr ⟨declaration, haccepted, reference, hreference, ?_, rfl⟩
  exact hraw.trans (congrArg some (eq_of_settledName_eq hnot rfl))

/-- A call site that names a missing target has an edge to it. -/
theorem exists_edge_of_callRoles (hnamed : name ≠ Go.Node.anonymousTarget)
    (hreading : reading (declaredKeys declarations) name = .missing)
    (h : callRoles (accepted declarations) name ≠ []) :
    ∃ edge ∈ (entries declarations).flatMap (callEdges (declaredKeys declarations)),
      edge.target = name := by
  obtain ⟨role, hrole⟩ := List.exists_mem_of_ne_nil _ h
  obtain ⟨declaration, haccepted, site, hsite, rfl, -⟩ := mem_callRoles.mp hrole
  have hclosed := not_isOpen_of_missing hreading
  refine ⟨⟨declaration.qualifiedName, site.targetName, site.targetRole.stubRole⟩, ?_, rfl⟩
  refine List.mem_flatMap.mpr ⟨declaration.entry, List.mem_map_of_mem haccepted, ?_⟩
  refine List.mem_flatMap.mpr ⟨site, hsite, mem_siteEdges.mpr ⟨hnamed, hclosed, ?_⟩⟩
  rw [settledName_of_missing hreading]
  rfl

/-- A synthesized node has a role that is asked for. -/
theorem role_mem_askedRoles
    (hanonymous : (assembled declarations).contains Go.Node.anonymousTarget = false)
    (hnot : name ∉ declaredKeys declarations)
    (hnode : (assembled declarations).get? name = some node) :
    node.role ∈ askedRoles (accepted declarations) name := by
  have hcontains := Graph.contains_of_get? hnode
  have hnamed : name ≠ Go.Node.anonymousTarget := by
    rintro rfl
    rw [hanonymous] at hcontains
    cases hcontains
  rw [get?_assembled_of_not_mem hnot] at hnode
  obtain ⟨first, hfirst, rfl⟩ := Option.map_eq_some_iff.mp hnode
  obtain rfl : first.target = name := by simpa using List.find?_some hfirst
  rw [allEdges, List.find?_append] at hfirst
  -- the edges of call sites all come before those of handlers
  by_cases hcalls : callRoles (accepted declarations) first.target = []
  · have hmiss : ((entries declarations).flatMap (callEdges (declaredKeys declarations))).find?
        (fun edge => edge.target = first.target) = none := by
      rw [List.find?_eq_none]
      intro edge hedge htarget
      have heq : edge.target = first.target := by simpa using htarget
      have hrole := role_mem_callRoles (heq ▸ hnot) hedge
      rw [heq, hcalls] at hrole
      cases hrole
    rw [hmiss, Option.none_or] at hfirst
    rw [askedRoles, if_pos hcalls]
    exact role_mem_handlerRoles hnot (List.mem_of_find?_eq_some hfirst)
  · obtain ⟨edge, hedge, htarget⟩ :=
      exists_edge_of_callRoles hnamed (reading_of_contains hnot hcontains) hcalls
    have hsome : (((entries declarations).flatMap (callEdges (declaredKeys declarations))).find?
        fun edge => edge.target = first.target).isSome := by
      rw [List.find?_isSome]
      exact ⟨edge, hedge, by simpa using htarget⟩
    obtain ⟨winner, hwinner⟩ := Option.isSome_iff_exists.mp hsome
    rw [hwinner, Option.some_or] at hfirst
    obtain rfl := Option.some.inj hfirst
    rw [askedRoles, if_neg hcalls]
    exact role_mem_callRoles hnot (List.mem_of_find?_eq_some hwinner)

end Finished

section Permuted

variable {declarations permuted : List Declaration}
variable (hperm : (accepted declarations).Perm (accepted permuted))

include hperm

theorem declaredKeys_eq_of_perm : declaredKeys declarations = declaredKeys permuted :=
  sortTexts_eq_of_perm (hperm.map _)

/-- The edges are the same, in another order. -/
theorem mem_allEdges_iff_of_perm {edge : Edge} :
    edge ∈ allEdges declarations ↔ edge ∈ allEdges permuted := by
  rw [mem_allEdges, mem_allEdges, declaredKeys_eq_of_perm hperm]
  simp only [hperm.mem_iff]

/-- The keys are the same. -/
theorem contains_eq_of_perm (name : String) :
    (assembled declarations).contains name = (assembled permuted).contains name := by
  rw [Bool.eq_iff_iff, (grown_assembled declarations).contains_iff,
    (grown_assembled permuted).contains_iff, declaredKeys_eq_of_perm hperm]
  simp only [mem_allEdges_iff_of_perm hperm]

/-- A call site comes out the same after different edges, up to the tag of a stub. -/
theorem siteAgrees_of_perm {declaration : Declaration} {site : CallSite}
    (haccepted : declaration ∈ accepted declarations) (hsite : site ∈ declaration.body.callSites)
    (before earlier : List Edge) :
    SiteAgrees (assembled declarations) (assembled permuted)
      (settledSite (declaredKeys declarations) before site)
      (settledSite (declaredKeys declarations) earlier site) := by
  by_cases hnamed : site.targetName = Go.Node.anonymousTarget
  · rw [settledSite_of_anonymous before hnamed, settledSite_of_anonymous earlier hnamed]
    exact ⟨rfl, Or.inl rfl⟩
  cases hreading : reading (declaredKeys declarations) site.targetName with
  | found resolution key =>
      rw [settledSite_of_found before hnamed hreading, settledSite_of_found earlier hnamed hreading]
      exact ⟨rfl, Or.inl rfl⟩
  | ambiguous count =>
      have hopen : IsOpen (declaredKeys declarations) site.targetName := ⟨count, hreading⟩
      rw [settledSite_of_open before hnamed hopen, settledSite_of_open earlier hnamed hopen]
      exact ⟨rfl, Or.inl rfl⟩
  | missing =>
      -- the only row of the table that looks at what came before
      have hnot : site.targetName ∉ declaredKeys declarations := by
        intro hmem
        rw [reading_of_mem hmem] at hreading
        cases hreading
      have hedge := siteEdge_mem_allEdges haccepted hsite hnamed (not_isOpen_of_missing hreading)
      rw [settledName_of_missing hreading] at hedge
      have hstub := hasStub_of_mem_allEdges hedge hnot
      have hstub' := hasStub_of_mem_allEdges ((mem_allEdges_iff_of_perm hperm).mp hedge)
        (declaredKeys_eq_of_perm hperm ▸ hnot)
      rw [settledSite_of_missing before hnamed hreading,
        settledSite_of_missing earlier hnamed hreading]
      refine ⟨rfl, Or.inr ⟨⟨hstub, hstub'⟩, ?_, ?_⟩⟩
      · exact (Decidable.em _).imp (fun h => if_pos h) (fun h => if_neg h)
      · exact (Decidable.em _).imp (fun h => if_pos h) (fun h => if_neg h)

/-- The nodes agree. -/
theorem nodeAgrees_of_perm {name : String} {node twin : GraphNode}
    (hnode : (assembled declarations).get? name = some node)
    (htwin : (assembled permuted).get? name = some twin) :
    NodeAgrees (assembled declarations) (assembled permuted) node twin := by
  have hparents : ∀ caller, caller ∈ node.parents ↔ caller ∈ twin.parents := by
    intro caller
    rw [parents_assembled hnode, parents_assembled htwin, mem_gather, mem_gather, mem_callersOf,
      mem_callersOf]
    simp only [mem_allEdges_iff_of_perm hperm]
  have hkeys := declaredKeys_eq_of_perm hperm
  by_cases hmem : name ∈ declaredKeys declarations
  · obtain ⟨declaration, haccepted, rfl⟩ := (mem_declaredKeys declarations).mp hmem
    obtain ⟨before, after, hsplit⟩ := List.append_of_mem haccepted
    obtain ⟨earlier, later, hsplit'⟩ := List.append_of_mem (hperm.mem_iff.mp haccepted)
    rw [get?_assembled_of_split hsplit] at hnode
    rw [get?_assembled_of_split hsplit', ← hkeys] at htwin
    obtain rfl := Option.some.inj hnode
    obtain rfl := Option.some.inj htwin
    refine ⟨rfl, hparents, ?_, rfl, fun _ => rfl⟩
    exact forall₂_settledSites_settledSites _ _ _ fun site hsite before earlier =>
      siteAgrees_of_perm hperm haccepted hsite before earlier
  · rw [get?_assembled_of_not_mem hmem] at hnode
    rw [get?_assembled_of_not_mem (hkeys ▸ hmem)] at htwin
    obtain ⟨first, _, rfl⟩ := Option.map_eq_some_iff.mp hnode
    obtain ⟨first', _, rfl⟩ := Option.map_eq_some_iff.mp htwin
    exact ⟨rfl, hparents, .nil, rfl, fun hdeclared => by cases hdeclared⟩

/-- The roles agree where all who have a say ask for one. -/
theorem role_eq_of_perm {name : String} {node twin : GraphNode} (hfree : LiteralFree declarations)
    (hfree' : LiteralFree permuted) (hnode : (assembled declarations).get? name = some node)
    (htwin : (assembled permuted).get? name = some twin)
    (hone : node.isStub = true → OneRole (accepted declarations) name) :
    node.role = twin.role := by
  have hagrees := nodeAgrees_of_perm hperm hnode htwin
  cases hstub : node.isStub with
  | false => rw [hagrees.declared hstub]
  | true =>
      have hnot : name ∉ declaredKeys declarations := by
        rw [← isStub_eq_false_iff hnode, hstub]
        decide
      have hrole := role_mem_askedRoles (not_contains_anonymousTarget hfree) hnot hnode
      have hrole' := role_mem_askedRoles (not_contains_anonymousTarget hfree')
        (declaredKeys_eq_of_perm hperm ▸ hnot) htwin
      exact hone hstub _ hrole _ ((askedRoles_perm hperm name).mem_iff.mpr hrole')

/-- Two nodes that agree and have one role count alike. -/
theorem alike_of_perm (hfree : LiteralFree declarations) (hfree' : LiteralFree permuted)
    (hone : ∀ name, (assembled declarations).HasStub name → OneRole (accepted declarations) name) :
    (assembled declarations).Alike (assembled permuted) := by
  intro name
  have hsome := contains_eq_of_perm hperm name
  rw [Graph.contains_eq_isSome, Graph.contains_eq_isSome] at hsome
  cases hnode : (assembled declarations).get? name with
  | none =>
      rw [hnode, Option.isSome_none, eq_comm, Option.isSome_eq_false_iff,
        Option.isNone_iff_eq_none] at hsome
      rw [hsome]
      exact .none
  | some node =>
      rw [hnode, Option.isSome_some] at hsome
      obtain ⟨twin, htwin⟩ := Option.isSome_iff_exists.mp hsome.symm
      rw [htwin]
      have hrole := role_eq_of_perm hperm hfree hfree' hnode htwin
        fun hstub => hone name ⟨node, hnode, hstub⟩
      exact .some ((nodeAgrees_of_perm hperm hnode htwin).alike hrole)

end Permuted

/-- **The walk order does not matter.**  Let the declarations have names and distinct keys.  In
whatever order they come, the two builds that nobody stops have the same keys and agree node by
node.  A synthesized node has the same role in both if those who have a say ask for one role, and
if this is so for all of them the counts are equal. -/
theorem build_agrees_of_perm (declarations permuted : List Declaration)
    (hperm : declarations.Perm permuted)
    (hnamed : ∀ declaration ∈ declarations, declaration.name ≠ "")
    (hdistinct : (declarations.map Declaration.qualifiedName).Nodup)
    (hfree : LiteralFree declarations) :
    ∃ graph other, (Graph.build declarations).outcome = .ok graph ∧
      (Graph.build permuted).outcome = .ok other ∧
      (∀ name, graph.contains name = other.contains name) ∧
      (∀ name node twin, graph.get? name = some node → other.get? name = some twin →
        NodeAgrees graph other node twin ∧
          (node.isStub = true → OneRole declarations name → node.role = twin.role)) ∧
      ((∀ name, graph.HasStub name → OneRole declarations name) → graph.stats = other.stats) := by
  have hnamed' : ∀ declaration ∈ permuted, declaration.name ≠ "" :=
    fun declaration hmem => hnamed declaration (hperm.mem_iff.mpr hmem)
  have hfree' : LiteralFree permuted :=
    fun declaration hmem => hfree declaration (hperm.mem_iff.mpr hmem)
  have hself : accepted declarations = declarations := accepted_eq_self hnamed hdistinct
  have hself' : accepted permuted = permuted :=
    accepted_eq_self hnamed' ((hperm.map _).nodup_iff.mp hdistinct)
  have hperm' : (accepted declarations).Perm (accepted permuted) := by rwa [hself, hself']
  refine ⟨assembled declarations, assembled permuted, (build_computes declarations).outcome_eq,
    (build_computes permuted).outcome_eq, contains_eq_of_perm hperm', ?_, ?_⟩
  · intro name node twin hnode htwin
    refine ⟨nodeAgrees_of_perm hperm' hnode htwin, fun _ hone => ?_⟩
    exact role_eq_of_perm hperm' hfree hfree' hnode htwin fun _ => by rwa [hself]
  · intro hone
    rw [stats_assembled, stats_assembled]
    exact Graph.tally_eq_of_alike (alike_of_perm hperm' hfree hfree' (by rwa [hself]))

/-- Walked backwards, the call that makes the node `Ship` is another one, and its parents come in the
other order; its role and the edges of `Order` are the same. -/
theorem build_agrees_of_perm_shop :
    shopDeclarations.Perm shopDeclarations.reverse ∧
      (∀ declaration ∈ shopDeclarations, declaration.name ≠ "") ∧
      (shopDeclarations.map Declaration.qualifiedName).Nodup ∧
      LiteralFree shopDeclarations ∧ OneRole shopDeclarations "Ship" ∧
      ∃ graph other, (Graph.build shopDeclarations).outcome = .ok graph ∧
        (Graph.build shopDeclarations.reverse).outcome = .ok other ∧
        (∀ name, graph.contains name = other.contains name) ∧
        (∀ name node twin, graph.get? name = some node → other.get? name = some twin →
          NodeAgrees graph other node twin ∧
            (node.isStub = true → OneRole shopDeclarations name → node.role = twin.role)) ∧
        ((∀ name, graph.HasStub name → OneRole shopDeclarations name) →
          graph.stats = other.stats) ∧
        ((graph.get? "Ship").map GraphNode.parents, (other.get? "Ship").map GraphNode.parents) =
          (some ["Order", "Return"], some ["Return", "Order"]) ∧
        (graph.get? "Ship").map GraphNode.role = some .activity ∧
        (other.get? "Ship").map GraphNode.role = some .activity ∧
        (graph.callees "Order", other.callees "Order") =
          (["Payments.Charge", "Order", "Ship"], ["Payments.Charge", "Order", "Ship"]) := by
  have hperm : shopDeclarations.Perm shopDeclarations.reverse := (List.reverse_perm _).symm
  have hnamed : ∀ declaration ∈ shopDeclarations, declaration.name ≠ "" := by decide
  have hdistinct : (shopDeclarations.map Declaration.qualifiedName).Nodup := by decide
  have hfree : LiteralFree shopDeclarations := by decide
  obtain ⟨graph, other, hgraph, hother, hagree⟩ :=
    build_agrees_of_perm shopDeclarations shopDeclarations.reverse hperm hnamed hdistinct hfree
  obtain rfl : graph = assembled shopDeclarations :=
    (build_computes _).eq_of_outcome hgraph
  obtain rfl : other = assembled shopDeclarations.reverse :=
    (build_computes _).eq_of_outcome hother
  have haccepted : accepted shopDeclarations = shopDeclarations := by decide
  have haccepted' : accepted shopDeclarations.reverse = shopDeclarations.reverse := by decide
  have hkeys : declaredKeys shopDeclarations = declaredKeys shopDeclarations.reverse :=
    declaredKeys_eq_of_perm (by rwa [haccepted, haccepted'])
  refine ⟨hperm, hnamed, hdistinct, hfree, by decide, _, _, hgraph, hother, hagree.1, hagree.2.1,
    hagree.2.2, ?_⟩
  simp only [assembled, joined, allRounds, ← hkeys, declaredKeys_shop]
  decide +kernel

end WorkflowGraph
