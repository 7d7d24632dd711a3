import WorkflowGraph.Proofs.WalkOrder

/-!
# Who decides about a synthesized node

A name that nothing declares gets a node when somebody first refers to it, and many may refer to
the same name: as the target of a call, as the handler of a signal, of a query or of an update.
Since all call sites are resolved before any handler, the call sites have the first say.
`call_targets_outrank_handlers` says what follows.  The role of the node is that of the first call
site to name it, and a handler decides only where no call site does; and of its parents the callers
stand before those that only register it.

The references to such a name are counted from the edges to it.  At an undeclared key these are just
the call sites and the handlers that spell the name (`filter_allEdges`), since a name that is settled
as something undeclared is spelled that way.
-/

namespace WorkflowGraph

/-- The roles that only handlers have. -/
def NodeRole.isHandler : NodeRole → Bool
  | .workflow => false
  | .activity => false
  | .signalHandler => true
  | .queryHandler => true
  | .updateHandler => true

/-- A call site of the declaration has the name as its target. -/
def Declaration.Targets (declaration : Declaration) (name : String) : Prop :=
  ∃ site ∈ declaration.body.callSites, site.targetName = name

/-- The declaration registers the name as a handler. -/
def Declaration.Handles (declaration : Declaration) (name : String) : Prop :=
  ∃ reference ∈ declaration.body.handlers, reference.2 = some name

instance (declaration : Declaration) (name : String) : Decidable (declaration.Targets name) :=
  inferInstanceAs (Decidable (∃ site ∈ declaration.body.callSites, site.targetName = name))

instance (declaration : Declaration) (name : String) : Decidable (declaration.Handles name) :=
  inferInstanceAs (Decidable (∃ reference ∈ declaration.body.handlers, reference.2 = some name))

/-- The call sites of several declarations, in their order. -/
def callSitesOf (declarations : List Declaration) : List CallSite :=
  declarations.flatMap fun declaration => declaration.body.callSites

/-- The handlers of several declarations, in their order; within one declaration signals come before
queries and queries before updates. -/
def handlersOf (declarations : List Declaration) : List (NodeRole × Option String) :=
  declarations.flatMap fun declaration => declaration.body.handlers

/-- How the declarations that refer to a name decide about its node. -/
structure DecidedBy (declarations : List Declaration) (name : String) (node : GraphNode) : Prop where
  handler : node.role.isHandler = true ↔ ∀ declaration ∈ declarations, ¬declaration.Targets name
  called : ∀ site, (callSitesOf declarations).find? (fun site => site.targetName = name) = some site →
    node.role = site.targetRole.stubRole
  registered : (∀ declaration ∈ declarations, ¬declaration.Targets name) →
    ∃ reference, (handlersOf declarations).find? (fun reference => reference.2 = some name) =
      some reference ∧ node.role = reference.1
  parents : node.parents =
    (declarations.filter fun declaration => declaration.Targets name).map
        Declaration.qualifiedName ++
      (declarations.filter fun declaration =>
        declaration.Handles name ∧ ¬declaration.Targets name).map Declaration.qualifiedName

/-! ## Callers, each once -/

section Callers

/-- A caller that comes several times in a row is added once. -/
theorem gather_map_const {α : Type} (callers : List String) (caller : String) (items : List α) :
    gather callers (items.map fun _ => caller) =
      if items = [] then callers else addCaller callers caller := by
  induction items generalizing callers with
  | nil => rfl
  | cons item items ih =>
      have hagain : addCaller (addCaller callers caller) caller = addCaller callers caller := by
        rw [addCaller, if_pos (List.contains_iff_mem.mpr (mem_addCaller.mpr (Or.inr rfl)))]
      change gather (addCaller callers caller) (items.map fun _ => caller) = _
      rw [ih, hagain, if_neg (List.cons_ne_nil _ _), ite_self]

/-- Callers with keys of their own, each with what it says, are added in order: those that say
something and are not there yet. -/
theorem gather_flatMap {α β : Type} {key : α → String} {words : α → List β} {speakers : List α}
    (hkeys : (speakers.map key).Nodup) (callers : List String) :
    gather callers (speakers.flatMap fun speaker => (words speaker).map fun _ => key speaker) =
      callers ++ (speakers.filter fun speaker =>
        words speaker ≠ [] ∧ key speaker ∉ callers).map key := by
  induction speakers generalizing callers with
  | nil => simp [gather]
  | cons speaker speakers ih =>
      rw [List.map_cons, List.nodup_cons] at hkeys
      obtain ⟨hfresh, hkeys⟩ := hkeys
      rw [List.flatMap_cons, gather_append, gather_map_const, ih hkeys]
      -- what the first speaker adds is the key of nobody else
      have hothers : ∀ more : List String, (∀ name ∈ more, name = key speaker) →
          (speakers.filter fun other => words other ≠ [] ∧ key other ∉ callers ++ more) =
            speakers.filter fun other => words other ≠ [] ∧ key other ∉ callers := by
        intro more hmore
        refine List.filter_congr fun other hother => ?_
        have hnot : key other ∉ more := by
          intro hmem
          exact hfresh (hmore _ hmem ▸ List.mem_map_of_mem hother)
        simp [hnot]
      by_cases hsilent : words speaker = []
      · rw [if_pos hsilent, List.filter_cons_of_neg (by simp [hsilent])]
      rw [if_neg hsilent]
      by_cases hknown : key speaker ∈ callers
      · rw [addCaller, if_pos (List.contains_iff_mem.mpr hknown),
          List.filter_cons_of_neg (by simp [hknown])]
      · rw [addCaller, if_neg (by simpa using hknown), hothers [key speaker] (by simp),
          List.filter_cons_of_pos (by simp [hsilent, hknown]), List.map_cons, List.append_assoc]
        rfl

end Callers

/-! ## The edges to an undeclared key -/

section UndeclaredKeys

/-- Items that each give one member of a kind or none give those of the items in question. -/
theorem filter_flatMap_eq_map {α β : Type} {kind : β → Bool} {asked : α → Bool} {give : α → β}
    {members : α → List β} {items : List α}
    (h : ∀ item ∈ items, (members item).filter kind = if asked item then [give item] else []) :
    (items.flatMap members).filter kind = (items.filter asked).map give := by
  induction items with
  | nil => rfl
  | cons item items ih =>
      rw [List.flatMap_cons, List.filter_append, h item List.mem_cons_self,
        ih fun other hother => h other (List.mem_cons_of_mem _ hother), List.filter_cons]
      cases asked item <;> rfl

theorem metadataEdges_eq (declared : List String) (entry : String × Body) :
    metadataEdges declared entry = entry.2.handlers.flatMap fun reference =>
      handlerEdges declared entry.1 reference.1 reference.2 := by
  simp only [metadataEdges, Body.handlers, List.flatMap_append, List.flatMap_map]

variable {declarations : List Declaration} {name : String}

/-- A call site has an edge to an undeclared key exactly if it spells it. -/
theorem filter_siteEdges (hnot : name ∉ declaredKeys declarations)
    (hreading : reading (declaredKeys declarations) name = .missing)
    (hnamed : name ≠ Go.Node.anonymousTarget) (caller : String) (site : CallSite) :
    (siteEdges (declaredKeys declarations) caller site).filter (fun edge => edge.target = name) =
      if site.targetName = name then [⟨caller, name, site.targetRole.stubRole⟩] else [] := by
  by_cases htarget : site.targetName = name
  · rw [if_pos htarget, siteEdges, htarget, if_neg hnamed, edge?, hreading]
    simp
  · rw [if_neg htarget, List.filter_eq_nil_iff]
    intro edge hedge heq
    obtain ⟨_, _, rfl⟩ := mem_siteEdges.mp hedge
    exact htarget (eq_of_settledName_eq hnot (by simpa using heq))

/-- A handler has an edge to an undeclared key exactly if it is spelled so. -/
theorem filter_handlerEdges (hnot : name ∉ declaredKeys declarations)
    (hreading : reading (declaredKeys declarations) name = .missing) (caller : String)
    (reference : NodeRole × Option String) :
    (handlerEdges (declaredKeys declarations) caller reference.1 reference.2).filter
        (fun edge => edge.target = name) =
      if reference.2 = some name then [⟨caller, name, reference.1⟩] else [] := by
  by_cases htarget : reference.2 = some name
  · rw [if_pos htarget, handlerEdges, htarget, Option.bind_some, edge?, hreading]
    simp
  · rw [if_neg htarget, List.filter_eq_nil_iff]
    intro edge hedge heq
    obtain ⟨raw, hraw, _, rfl⟩ := mem_handlerEdges.mp hedge
    have hsame : raw = name := eq_of_settledName_eq hnot (by simpa using heq)
    exact htarget (hsame ▸ hraw)

/-- **The edges to an undeclared key** are the call sites that spell it, declaration by declaration, and
after them the handlers that do. -/
theorem filter_allEdges (hnot : name ∉ declaredKeys declarations)
    (hreading : reading (declaredKeys declarations) name = .missing)
    (hnamed : name ≠ Go.Node.anonymousTarget) :
    (allEdges declarations).filter (fun edge => edge.target = name) =
      ((accepted declarations).flatMap fun declaration =>
        (declaration.body.callSites.filter fun site => site.targetName = name).map fun site =>
          ⟨declaration.qualifiedName, name, site.targetRole.stubRole⟩) ++
      (accepted declarations).flatMap fun declaration =>
        (declaration.body.handlers.filter fun reference => reference.2 = some name).map
          fun reference => ⟨declaration.qualifiedName, name, reference.1⟩ := by
  rw [allEdges, List.filter_append, List.filter_flatMap, List.filter_flatMap, entries,
    List.flatMap_map, List.flatMap_map]
  congr 1
  · refine List.flatMap_congr fun declaration _ => ?_
    refine filter_flatMap_eq_map fun site _ => ?_
    simpa [Declaration.entry] using filter_siteEdges hnot hreading hnamed declaration.qualifiedName site
  · refine List.flatMap_congr fun declaration _ => ?_
    rw [metadataEdges_eq]
    refine filter_flatMap_eq_map fun reference _ => ?_
    simpa [Declaration.entry] using filter_handlerEdges hnot hreading declaration.qualifiedName reference

/-- The roles that the edges to an undeclared key ask for. -/
theorem map_role_filter_allEdges (hnot : name ∉ declaredKeys declarations)
    (hreading : reading (declaredKeys declarations) name = .missing)
    (hnamed : name ≠ Go.Node.anonymousTarget) :
    ((allEdges declarations).filter fun edge => edge.target = name).map Edge.role =
      callRoles (accepted declarations) name ++ handlerRoles (accepted declarations) name := by
  rw [filter_allEdges hnot hreading hnamed, List.map_append, callRoles, handlerRoles,
    List.filter_flatMap, List.filter_flatMap]
  simp only [List.map_flatMap, List.map_map]
  rfl

/-- The callers on the edges to an undeclared key, a caller once for each reference. -/
theorem callersOf_allEdges (hnot : name ∉ declaredKeys declarations)
    (hreading : reading (declaredKeys declarations) name = .missing)
    (hnamed : name ≠ Go.Node.anonymousTarget) :
    callersOf (allEdges declarations) name =
      ((accepted declarations).flatMap fun declaration =>
        (declaration.body.callSites.filter fun site => site.targetName = name).map
          fun _ => declaration.qualifiedName) ++
      (accepted declarations).flatMap fun declaration =>
        (declaration.body.handlers.filter fun reference => reference.2 = some name).map
          fun _ => declaration.qualifiedName := by
  rw [callersOf, filter_allEdges hnot hreading hnamed, List.map_append]
  simp only [List.map_flatMap, List.map_map]
  rfl

end UndeclaredKeys

/-! ## The node of an undeclared key -/

section Decided

theorem Declaration.filter_callSites_ne_nil_iff {declaration : Declaration} {name : String} :
    (declaration.body.callSites.filter fun site => site.targetName = name) ≠ [] ↔
      declaration.Targets name := by
  simp [Declaration.Targets]

theorem Declaration.filter_handlers_ne_nil_iff {declaration : Declaration} {name : String} :
    (declaration.body.handlers.filter fun reference => reference.2 = some name) ≠ [] ↔
      declaration.Handles name := by
  simp [Declaration.Handles]

theorem isHandler_of_mem_handlers {body : Body} {reference : NodeRole × Option String}
    (h : reference ∈ body.handlers) : reference.1.isHandler = true := by
  simp only [Body.handlers, List.mem_append, List.mem_map] at h
  rcases h with (⟨_, _, rfl⟩ | ⟨_, _, rfl⟩) | ⟨_, _, rfl⟩ <;> rfl

theorem isHandler_stubRole (role : CallRole) : role.stubRole.isHandler = false := by
  cases role <;> rfl

theorem callRoles_eq_nil_iff {declarations : List Declaration} {name : String} :
    callRoles declarations name = [] ↔ ∀ declaration ∈ declarations, ¬declaration.Targets name := by
  rw [List.eq_nil_iff_forall_not_mem]
  constructor
  · rintro hnone declaration hdeclaration ⟨site, hsite, hname⟩
    exact hnone _ (mem_callRoles.mpr ⟨declaration, hdeclaration, site, hsite, hname, rfl⟩)
  · intro hnone role hrole
    obtain ⟨declaration, hdeclaration, site, hsite, hname, -⟩ := mem_callRoles.mp hrole
    exact hnone declaration hdeclaration ⟨site, hsite, hname⟩

theorem head?_callRoles (declarations : List Declaration) (name : String) :
    (callRoles declarations name).head? =
      ((callSitesOf declarations).find? fun site => site.targetName = name).map
        fun site => site.targetRole.stubRole := by
  rw [callRoles, List.head?_map, List.head?_filter]
  rfl

theorem head?_handlerRoles (declarations : List Declaration) (name : String) :
    (handlerRoles declarations name).head? =
      ((handlersOf declarations).find? fun reference => reference.2 = some name).map Prod.fst := by
  rw [handlerRoles, List.head?_map, List.head?_filter]
  rfl

variable {declarations : List Declaration} {name : String} {node : GraphNode}

/-- A stub is not declared. -/
theorem not_mem_declaredKeys_of_isStub
    (hnode : (assembled declarations).get? name = some node) (hstub : node.isStub = true) :
    name ∉ declaredKeys declarations := by
  intro hmem
  rw [(isStub_eq_false_iff hnode).mpr hmem] at hstub
  cases hstub

/-- An undeclared key with a node is a name that no declared key fits. -/
theorem reading_of_get? (hnot : name ∉ declaredKeys declarations)
    (hnode : (assembled declarations).get? name = some node) :
    reading (declaredKeys declarations) name = .missing :=
  reading_of_contains hnot (Graph.contains_of_get? hnode)

/-- No stub has the name of an unreadable target, unless a handler has: no edge leads from a call site
to it. -/
theorem ne_anonymousTarget_of_get?
    (hliteral : ∀ declaration ∈ declarations, ∀ reference ∈ declaration.body.handlers,
      reference.2 ≠ some Go.Node.anonymousTarget)
    (hnot : name ∉ declaredKeys declarations)
    (hnode : (assembled declarations).get? name = some node) :
    name ≠ Go.Node.anonymousTarget := by
  rintro rfl
  rw [get?_assembled_of_not_mem hnot] at hnode
  obtain ⟨first, hfirst, -⟩ := Option.map_eq_some_iff.mp hnode
  have htarget : first.target = Go.Node.anonymousTarget := by simpa using List.find?_some hfirst
  rcases mem_allEdges.mp (List.mem_of_find?_eq_some hfirst) with
    ⟨_, _, site, _, hedge⟩ | ⟨declaration, haccepted, reference, hreference, hedge⟩
  · obtain ⟨hnamed, _, rfl⟩ := mem_siteEdges.mp hedge
    exact hnamed (eq_of_settledName_eq hnot htarget)
  · obtain ⟨raw, hraw, _, rfl⟩ := mem_handlerEdges.mp hedge
    have hsame : raw = Go.Node.anonymousTarget := eq_of_settledName_eq hnot htarget
    exact hliteral declaration (mem_of_mem_accepted haccepted) reference hreference (hsame ▸ hraw)

/-- A stub has the first role that is asked for, and the roles of call sites come first. -/
theorem head?_roles (hnot : name ∉ declaredKeys declarations)
    (hnamed : name ≠ Go.Node.anonymousTarget)
    (hnode : (assembled declarations).get? name = some node) :
    (callRoles (accepted declarations) name ++ handlerRoles (accepted declarations) name).head? =
      some node.role := by
  have hreading := reading_of_get? hnot hnode
  rw [get?_assembled_of_not_mem hnot] at hnode
  obtain ⟨first, hfirst, rfl⟩ := Option.map_eq_some_iff.mp hnode
  rw [← map_role_filter_allEdges hnot hreading hnamed, List.head?_map, List.head?_filter, hfirst]
  rfl

/-- The callers of a stub come first among its parents, and then those that only register it. -/
theorem parents_of_not_mem (hnot : name ∉ declaredKeys declarations)
    (hnamed : name ≠ Go.Node.anonymousTarget)
    (hnode : (assembled declarations).get? name = some node) :
    node.parents =
      ((accepted declarations).filter fun declaration => declaration.Targets name).map
          Declaration.qualifiedName ++
        ((accepted declarations).filter fun declaration =>
          declaration.Handles name ∧ ¬declaration.Targets name).map Declaration.qualifiedName := by
  have hreading := reading_of_get? hnot hnode
  have hkeys := nodup_accepted declarations
  rw [get?_assembled_of_not_mem hnot] at hnode
  obtain ⟨first, _, rfl⟩ := Option.map_eq_some_iff.mp hnode
  change gather [] (callersOf (allEdges declarations) name) = _
  rw [callersOf_allEdges hnot hreading hnamed, gather_append, gather_flatMap hkeys,
    gather_flatMap hkeys]
  simp only [Declaration.filter_callSites_ne_nil_iff, Declaration.filter_handlers_ne_nil_iff,
    List.not_mem_nil, not_false_eq_true, and_true, List.nil_append]
  congr 2
  refine List.filter_congr fun declaration hdeclaration => ?_
  -- an accepted declaration is known by its key
  have hcaller : declaration.qualifiedName ∈
      ((accepted declarations).filter fun other => other.Targets name).map
        Declaration.qualifiedName ↔ declaration.Targets name := by
    rw [List.mem_map]
    constructor
    · rintro ⟨other, hother, hkey⟩
      obtain ⟨hmem, htargets⟩ := List.mem_filter.mp hother
      obtain rfl := List.inj_on_of_nodup_map hkeys hmem hdeclaration hkey
      simpa using htargets
    · intro htargets
      exact ⟨declaration, List.mem_filter.mpr ⟨hdeclaration, by simpa using htargets⟩, rfl⟩
  simp only [hcaller]

/-- The declarations decide about a stub. -/
theorem decidedBy_accepted (hnot : name ∉ declaredKeys declarations)
    (hnamed : name ≠ Go.Node.anonymousTarget)
    (hnode : (assembled declarations).get? name = some node) :
    DecidedBy (accepted declarations) name node := by
  have hroles := head?_roles hnot hnamed hnode
  have hregistered : callRoles (accepted declarations) name = [] →
      ∃ reference, (handlersOf (accepted declarations)).find?
        (fun reference => reference.2 = some name) = some reference ∧ node.role = reference.1 := by
    intro hnone
    rw [hnone, List.nil_append, head?_handlerRoles] at hroles
    obtain ⟨reference, hreference, hrole⟩ := Option.map_eq_some_iff.mp hroles
    exact ⟨reference, hreference, hrole.symm⟩
  constructor
  · rw [← callRoles_eq_nil_iff]
    constructor
    · intro hhandler
      cases hcalls : callRoles (accepted declarations) name with
      | nil => rfl
      | cons role others =>
          have hmem : role ∈ callRoles (accepted declarations) name :=
            hcalls ▸ List.mem_cons_self
          obtain ⟨_, _, site, _, _, rfl⟩ := mem_callRoles.mp hmem
          rw [hcalls] at hroles
          rw [← Option.some.inj hroles, isHandler_stubRole] at hhandler
          cases hhandler
    · intro hnone
      obtain ⟨reference, hreference, hrole⟩ := hregistered hnone
      obtain ⟨_, _, hmem⟩ := List.mem_flatMap.mp (List.mem_of_find?_eq_some hreference)
      exact hrole ▸ isHandler_of_mem_handlers hmem
  · intro site hsite
    have hfirst := head?_callRoles (accepted declarations) name
    rw [hsite, Option.map_some] at hfirst
    rw [List.head?_append, hfirst, Option.some_or] at hroles
    exact (Option.some.inj hroles).symm
  · intro hnone
    exact hregistered (callRoles_eq_nil_iff.mpr hnone)
  · exact parents_of_not_mem hnot hnamed hnode

/-- A call site comes out with an undeclared key as its target exactly if it spells the key. -/
theorem targetName_settledSite_eq_iff (hnot : name ∉ declaredKeys declarations)
    (hreading : reading (declaredKeys declarations) name = .missing) (before : List Edge)
    {site : CallSite} :
    (settledSite (declaredKeys declarations) before site).targetName = name ↔
      site.targetName = name := by
  by_cases hanonymous : site.targetName = Go.Node.anonymousTarget
  · rw [settledSite_of_anonymous before hanonymous]
  · rw [targetName_settledSite before hanonymous]
    constructor
    · exact eq_of_settledName_eq hnot
    · rintro rfl
      exact settledName_of_missing hreading

/-- Some of the settled sites name an undeclared key exactly if some of the sites did before. -/
theorem exists_mem_settledSites_iff (hnot : name ∉ declaredKeys declarations)
    (hreading : reading (declaredKeys declarations) name = .missing) (caller : String)
    (before : List Edge) {sites : List CallSite} :
    (∃ settled ∈ settledSites (declaredKeys declarations) caller before sites,
      settled.targetName = name) ↔ ∃ site ∈ sites, site.targetName = name := by
  constructor
  · rintro ⟨settled, hsettled, htarget⟩
    obtain ⟨site, hsite, earlier, rfl⟩ := exists_of_mem_settledSites before hsettled
    exact ⟨site, hsite, (targetName_settledSite_eq_iff hnot hreading earlier).mp htarget⟩
  · rintro ⟨site, hsite, htarget⟩
    obtain ⟨earlier, hsettled⟩ := exists_settledSite_mem before caller hsite
    exact ⟨_, hsettled, (targetName_settledSite_eq_iff hnot hreading earlier).mpr htarget⟩

/-- To name an undeclared key, a call site need not be resolved first. -/
theorem targets_iff_callSites (hnot : name ∉ declaredKeys declarations)
    (hreading : reading (declaredKeys declarations) name = .missing) {declaration : Declaration}
    (haccepted : declaration ∈ accepted declarations)
    (hnode : (assembled declarations).get? declaration.qualifiedName = some node) :
    declaration.Targets name ↔ ∃ site ∈ node.callSites, site.targetName = name := by
  obtain ⟨before, after, hsplit⟩ := List.append_of_mem haccepted
  rw [get?_assembled_of_split hsplit] at hnode
  obtain rfl := Option.some.inj hnode
  exact (exists_mem_settledSites_iff hnot hreading declaration.qualifiedName _).symm

end Decided

/-- **Call targets outrank handlers.**  Whatever the declarations and their order, a build that nobody
stops ends with a graph in which the accepted declarations have decided about every stub: it has the
role of a handler exactly if no call site names it; the first call site to name it gives it its role,
or else the first handler; and its parents are its callers, followed by the others that register it.
For this it does not matter whether call sites are taken as they were written or as they came out.  The
name of a target that cannot be read is never the name of a handler. -/
theorem call_targets_outrank_handlers (declarations : List Declaration)
    (hliteral : ∀ declaration ∈ declarations, ∀ reference ∈ declaration.body.handlers,
      reference.2 ≠ some Go.Node.anonymousTarget) :
    ∃ graph, (Graph.build declarations).outcome = .ok graph ∧
      ∀ name node, graph.get? name = some node → node.isStub = true →
        DecidedBy (accepted declarations) name node ∧
        ∀ declaration ∈ accepted declarations, ∀ caller,
          graph.get? declaration.qualifiedName = some caller →
          (declaration.Targets name ↔ ∃ site ∈ caller.callSites, site.targetName = name) := by
  refine ⟨assembled declarations, (build_computes declarations).outcome_eq, ?_⟩
  intro name node hnode hstub
  have hnot := not_mem_declaredKeys_of_isStub hnode hstub
  have hreading := reading_of_get? hnot hnode
  have hnamed := ne_anonymousTarget_of_get? hliteral hnot hnode
  exact ⟨decidedBy_accepted hnot hnamed hnode, fun declaration haccepted caller hcaller =>
    targets_iff_callSites hnot hreading haccepted hcaller⟩

/-- `Notify` is registered before it is called and by somebody else, and `Audit` is only registered,
first as an update. -/
def deskDeclarations : List Declaration :=
  [{ name := "Watch", role := .workflow
     body :=
      { signals := [{ name := "ping", handler := some "Notify", line := 3, channel := false }]
        queries := [{ name := "last", handler := some "Notify", line := 4 }]
        updates :=
          [{ name := "audit", handler := some "Audit", line := 5, hasValidator := false }] } },
    { name := "Send", role := .workflow
      body :=
        { callSites := [.plain "Notify" .activity 11, .plain "Notify" .childWorkflow 12]
          signals := [{ name := "audit", handler := some "Audit", line := 13, channel := false }] } }]

theorem call_targets_outrank_handlers_desk :
    (∀ declaration ∈ deskDeclarations, ∀ reference ∈ declaration.body.handlers,
      reference.2 ≠ some Go.Node.anonymousTarget) ∧
    ∃ graph, (Graph.build deskDeclarations).outcome = .ok graph ∧
      ∀ name node, graph.get? name = some node → node.isStub = true →
        DecidedBy (accepted deskDeclarations) name node ∧
        ∀ declaration ∈ accepted deskDeclarations, ∀ caller,
          graph.get? declaration.qualifiedName = some caller →
          (declaration.Targets name ↔ ∃ site ∈ caller.callSites, site.targetName = name) :=
  ⟨by decide, call_targets_outrank_handlers deskDeclarations (by decide)⟩

end WorkflowGraph
