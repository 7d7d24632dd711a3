import Mathlib.Algebra.BigOperators.Group.List.Basic
import Mathlib.Algebra.GroupWithZero.Nat
import WorkflowGraph.Proofs.Parents

/-!
# Building loses nothing and invents nothing

Nodes are put into a graph from three places and rewritten in two passes.  None of this ever
touches what somebody else has written.  Of every name the first declaration has a node, and the
node holds what the declaration says, list by list and item by item; only the target of a call
site, its resolution and the name of a handler are rewritten.  Every other key is a name that
some body refers to and that no declared key fits, and its node is an empty stub with a caller.

`build_conserves` says all this of one build, and draws from it what the counts come to: the stubs
are the nodes that nobody declares, and the totals are sums over the declarations.
-/

namespace WorkflowGraph

/-- The first declaration that has a name and the given key. -/
def firstNamed? (declarations : List Declaration) (key : String) : Option Declaration :=
  declarations.find? fun declaration =>
    declaration.name ≠ "" && declaration.qualifiedName == key

/-- The accepted declarations are the first ones of their keys. -/
theorem firstNamed?_eq_some_iff {declarations : List Declaration} {key : String}
    {declaration : Declaration} :
    firstNamed? declarations key = some declaration ↔
      declaration ∈ accepted declarations ∧ declaration.qualifiedName = key := by
  induction declarations with
  | nil => simp [firstNamed?, accepted]
  | cons first others ih =>
      unfold firstNamed? at ih ⊢
      by_cases hname : first.name = ""
      · rw [List.find?_cons_of_neg (by simp [hname]), accepted, if_pos hname]
        exact ih
      rw [accepted_cons_of_named others hname, List.mem_cons, List.mem_filter]
      by_cases hkey : first.qualifiedName = key
      · rw [List.find?_cons_of_pos (by simp [hname, hkey])]
        constructor
        · rintro h
          obtain rfl := Option.some.inj h
          exact ⟨Or.inl rfl, hkey⟩
        · rintro ⟨rfl | ⟨_, hother⟩, hsame⟩
          · rfl
          · exact absurd (hsame.trans hkey.symm) (by simpa using hother)
      · rw [List.find?_cons_of_neg (by simp [hkey]), ih]
        constructor
        · rintro ⟨hmem, rfl⟩
          exact ⟨Or.inr ⟨hmem, by simpa using fun h => hkey h.symm⟩, rfl⟩
        · rintro ⟨rfl | ⟨hmem, _⟩, hsame⟩
          · exact absurd hsame hkey
          · exact ⟨hmem, hsame⟩

/-- A call site that was rewritten in its target and its resolution only. -/
def CallSite.Rewritten (raw site : CallSite) : Prop :=
  site = { raw with targetName := site.targetName, resolution := site.resolution }

/-- A definition that was rewritten in its handler only, and has one if it had one before. -/
def HandlerRewritten {α : Type} (handler : α → Option String)
    (withHandler : α → Option String → α) (raw item : α) : Prop :=
  item = withHandler raw (handler item) ∧ (handler item).isSome = (handler raw).isSome

/-- The node holds what the declaration says. -/
structure Carries (declaration : Declaration) (node : GraphNode) : Prop where
  isStub : node.isStub = false
  role : node.role = declaration.role
  package : node.package = declaration.package
  filePath : node.filePath = declaration.filePath
  line : node.lineNumber = declaration.line
  description : node.description = declaration.description
  parameters : node.parameters = declaration.parameters
  returnTypes : node.returnTypes = declaration.returnTypes
  callSites : List.Forall₂ CallSite.Rewritten declaration.body.callSites node.body.callSites
  signals : List.Forall₂
    (HandlerRewritten Signal.handler fun signal handler => { signal with handler })
    declaration.body.signals node.body.signals
  queries : List.Forall₂
    (HandlerRewritten Query.handler fun query handler => { query with handler })
    declaration.body.queries node.body.queries
  updates : List.Forall₂
    (HandlerRewritten Update.handler fun update handler => { update with handler })
    declaration.body.updates node.body.updates
  internalCalls : node.body.internalCalls = declaration.body.internalCalls
  timers : node.body.timers = declaration.body.timers
  searchAttributes : node.body.searchAttributes = declaration.body.searchAttributes
  versions : node.body.versions = declaration.body.versions
  continueAsNew : node.body.continueAsNew = declaration.body.continueAsNew

/-- The node stands for a name only: a stub that says nothing, with somebody who calls it. -/
structure GraphNode.IsPlaceholder (node : GraphNode) : Prop where
  isStub : node.isStub = true
  package : node.package = ""
  filePath : node.filePath = ""
  line : node.lineNumber = 0
  description : node.description = none
  parameters : node.parameters = []
  returnTypes : node.returnTypes = []
  body : node.body = {}
  parents : node.parents ≠ []

/-- A name that an accepted body uses as a target or handler, and that no declared key fits. -/
structure IsUnclaimed (declarations : List Declaration) (name : String) : Prop where
  undeclared : name ∉ declaredKeys declarations
  unfitting : ∀ key, ¬Fits (declaredKeys declarations) name key
  used : ∃ declaration ∈ accepted declarations,
    (name ≠ Go.Node.anonymousTarget ∧
      ∃ site ∈ declaration.body.callSites, site.targetName = name) ∨
    ∃ reference ∈ declaration.body.handlers, reference.2 = some name

section Rewriting

variable (declared : List String)

theorem rewritten_settledSite (before : List Edge) (site : CallSite) :
    site.Rewritten (settledSite declared before site) := by
  unfold CallSite.Rewritten settledSite
  split
  · rfl
  · cases reading declared site.targetName <;> rfl

/-- Settling the handlers of definitions rewrites nothing else. -/
theorem rewritten_settledHandlers {α : Type} {handler : α → Option String}
    {withHandler : α → Option String → α}
    (hread : ∀ item name, handler (withHandler item name) = name) (items : List α) :
    List.Forall₂ (HandlerRewritten handler withHandler) items
      (settledHandlers declared handler withHandler items) := by
  rw [settledHandlers, List.forall₂_map_right_iff]
  apply List.forall₂_same.mpr
  intro item _
  refine ⟨by rw [hread], ?_⟩
  rw [hread, Option.isSome_map]

end Rewriting

section Nodes

variable {declarations : List Declaration} {name : String}

/-- The node of an accepted declaration carries it. -/
theorem exists_carries {declaration : Declaration}
    (h : declaration ∈ accepted declarations) :
    ∃ node, (assembled declarations).get? declaration.qualifiedName = some node ∧
      Carries declaration node := by
  obtain ⟨before, after, hsplit⟩ := List.append_of_mem h
  refine ⟨_, get?_assembled_of_split hsplit, ?_⟩
  exact
    { isStub := rfl, role := rfl, package := rfl, filePath := rfl, line := rfl
      description := rfl, parameters := rfl, returnTypes := rfl
      callSites := forall₂_settledSites _ _ fun site _ earlier =>
        rewritten_settledSite _ earlier site
      signals := rewritten_settledHandlers _ (fun _ _ => rfl) _
      queries := rewritten_settledHandlers _ (fun _ _ => rfl) _
      updates := rewritten_settledHandlers _ (fun _ _ => rfl) _
      internalCalls := rfl, timers := rfl, searchAttributes := rfl, versions := rfl
      continueAsNew := rfl }

/-- The node of any other key is a placeholder. -/
theorem isPlaceholder_of_not_mem {node : GraphNode} (hnot : name ∉ declaredKeys declarations)
    (hnode : (assembled declarations).get? name = some node) : node.IsPlaceholder := by
  rw [get?_assembled_of_not_mem hnot] at hnode
  obtain ⟨first, hfirst, rfl⟩ := Option.map_eq_some_iff.mp hnode
  have hcaller : first.caller ∈ gather [] (callersOf (allEdges declarations) name) := by
    rw [mem_gather, mem_callersOf]
    exact Or.inr ⟨first, List.mem_of_find?_eq_some hfirst,
      by simpa using List.find?_some hfirst, rfl⟩
  exact
    { isStub := rfl, package := rfl, filePath := rfl, line := rfl, description := rfl
      parameters := rfl, returnTypes := rfl, body := rfl
      parents := List.ne_nil_of_mem hcaller }

/-- Every node is named by its key. -/
theorem name_assembled {node : GraphNode} (hnode : (assembled declarations).get? name = some node) :
    node.name = name := by
  by_cases hmem : name ∈ declaredKeys declarations
  · obtain ⟨declaration, haccepted, rfl⟩ := (mem_declaredKeys declarations).mp hmem
    obtain ⟨before, after, hsplit⟩ := List.append_of_mem haccepted
    rw [get?_assembled_of_split hsplit] at hnode
    obtain rfl := Option.some.inj hnode
    rfl
  · rw [get?_assembled_of_not_mem hmem] at hnode
    obtain ⟨first, _, rfl⟩ := Option.map_eq_some_iff.mp hnode
    rfl

/-- A name without a reading fits no declared key. -/
theorem not_fits_of_missing {declared : List String} (hnodup : declared.Nodup)
    (h : reading declared name = .missing) (key : String) : ¬Fits declared name key := by
  intro hkey
  have hnot : name ∉ declared := not_mem_of_reading_ne (by rw [h]; simp)
  by_cases honly : ∀ other, Fits declared name other → other = key
  · rw [reading_of_fitsOnly hnodup hnot ⟨hkey, honly⟩] at h
    cases h
  · push Not at honly
    obtain ⟨other, hother, hne⟩ := honly
    exact not_isOpen_of_missing h (isOpen_of_severalFit hnot ⟨other, key, hne, hother, hkey⟩)

/-- The undeclared keys are the unclaimed names: an edge leads to each of them, and an edge to an
undeclared key comes from somebody who uses that very name. -/
theorem contains_iff_isUnclaimed (hnot : name ∉ declaredKeys declarations) :
    (assembled declarations).contains name = true ↔ IsUnclaimed declarations name := by
  have hraw : ∀ raw, settledName (declaredKeys declarations) raw = name → raw = name := by
    intro raw hsettled
    rcases settledName_mem_or_eq (declaredKeys declarations) raw with hmem | hsame
    · exact absurd (hsettled ▸ hmem) hnot
    · exact hsame ▸ hsettled
  rw [(grown_assembled declarations).contains_iff name]
  constructor
  · rintro (hmem | ⟨edge, hedge, rfl⟩)
    · exact absurd hmem hnot
    have hmissing := ((grown_assembled declarations).lawful edge hedge).resolve_left hnot
    refine ⟨hnot, not_fits_of_missing (nodup_declaredKeys declarations) hmissing, ?_⟩
    rcases mem_allEdges.mp hedge with ⟨declaration, haccepted, site, hsite, hfrom⟩ |
      ⟨declaration, haccepted, reference, hreference, hfrom⟩
    · obtain ⟨hnamed, _, rfl⟩ := mem_siteEdges.mp hfrom
      have hsame := hraw site.targetName rfl
      exact ⟨declaration, haccepted, Or.inl ⟨hsame ▸ hnamed, site, hsite, hsame⟩⟩
    · obtain ⟨given, hgiven, _, rfl⟩ := mem_handlerEdges.mp hfrom
      have hsame := hraw given rfl
      exact ⟨declaration, haccepted, Or.inr ⟨reference, hreference, hsame ▸ hgiven⟩⟩
  · rintro ⟨_, hunfitting, declaration, haccepted, ⟨hnamed, site, hsite, rfl⟩ |
      ⟨reference, hreference, hhandler⟩⟩
    · have hmissing := reading_of_none_fits hnot hunfitting
      have hedge := siteEdge_mem_allEdges haccepted hsite hnamed (not_isOpen_of_missing hmissing)
      exact Or.inr ⟨_, hedge, settledName_of_missing hmissing⟩
    · have hmissing := reading_of_none_fits hnot hunfitting
      have hedge := handlerEdge_mem_allEdges haccepted hreference hhandler
        (not_isOpen_of_missing hmissing)
      exact Or.inr ⟨_, hedge, settledName_of_missing hmissing⟩

end Nodes

section Totals

/-- A count to which every node adds its part is the sum of the parts. -/
theorem Stats.count_foldl_addNode {count : Stats → Nat} {part : GraphNode → Nat}
    (h : ∀ stats node, count (Stats.addNode stats node) = count stats + part node)
    (nodes : List GraphNode) (stats : Stats) :
    count (nodes.foldl Stats.addNode stats) = count stats + (nodes.map part).sum := by
  induction nodes generalizing stats with
  | nil => simp
  | cons node nodes ih =>
      rw [List.foldl_cons, ih, h, List.map_cons, List.sum_cons, Nat.add_assoc]

/-- What a node adds to a count, read at its key. -/
def Graph.partAt (graph : Graph) (part : GraphNode → Nat) (name : String) : Nat :=
  ((graph.get? name).map part).getD 0

/-- A sum over the nodes is a sum over the keys. -/
theorem Graph.sum_map_values (graph : Graph) (part : GraphNode → Nat) :
    (graph.nodes.values.map part).sum = (graph.nodes.keys.map (graph.partAt part)).sum := by
  rw [Table.values, Table.keys, List.map_map, List.map_map]
  congr 1
  apply List.map_congr_left
  intro entry hentry
  have hget : graph.get? entry.1 = some entry.2 := graph.nodes.get?_eq_some_iff.mpr hentry
  simp [Graph.partAt, hget]

variable (declarations : List Declaration)

/-- The keys that nobody declares. -/
def undeclaredKeys : List String :=
  (assembled declarations).nodes.keys.filter fun name => name ∉ declaredKeys declarations

/-- The keys are those of the accepted declarations and the undeclared ones. -/
theorem keys_assembled_perm : (assembled declarations).nodes.keys.Perm
    ((accepted declarations).map Declaration.qualifiedName ++ undeclaredKeys declarations) := by
  have hdisjoint : ∀ name ∈ (accepted declarations).map Declaration.qualifiedName,
      name ∉ undeclaredKeys declarations := by
    intro name hmem hundeclared
    have hnot := (List.mem_filter.mp hundeclared).2
    exact absurd (mem_sortTexts.mpr hmem) (by simpa [declaredKeys] using hnot)
  have hnodup : ((accepted declarations).map Declaration.qualifiedName ++
      undeclaredKeys declarations).Nodup := by
    rw [List.nodup_append]
    refine ⟨nodup_accepted declarations, (Table.nodup_keys _).filter _, ?_⟩
    rintro name hmem _ hundeclared rfl
    exact hdisjoint name hmem hundeclared
  rw [List.perm_ext_iff_of_nodup (Table.nodup_keys _) hnodup]
  intro name
  rw [List.mem_append, undeclaredKeys, List.mem_filter]
  by_cases hmem : name ∈ declaredKeys declarations
  · have hkey : name ∈ (assembled declarations).nodes.keys :=
      (Table.contains_iff_mem_keys _).mp
        (((grown_assembled declarations).contains_iff name).mpr (Or.inl hmem))
    exact iff_of_true hkey (Or.inl (mem_sortTexts.mp hmem))
  · have hnot : name ∉ (accepted declarations).map Declaration.qualifiedName :=
      fun h => hmem (mem_sortTexts.mpr h)
    simp [hmem, hnot]

/-- What all nodes add to a count, if a declared node adds what its declaration does and a
placeholder always adds the same. -/
theorem sum_map_values_assembled {part : GraphNode → Nat} (share : Declaration → Nat) (each : Nat)
    (hdeclared : ∀ declaration node, Carries declaration node → part node = share declaration)
    (hplaceholder : ∀ node : GraphNode, node.IsPlaceholder → part node = each) :
    ((assembled declarations).nodes.values.map part).sum =
      ((accepted declarations).map share).sum +
        (undeclaredKeys declarations).length * each := by
  have haccepted : ((accepted declarations).map Declaration.qualifiedName).map
      ((assembled declarations).partAt part) = (accepted declarations).map share := by
    rw [List.map_map]
    apply List.map_congr_left
    intro declaration hmem
    obtain ⟨node, hnode, hcarries⟩ := exists_carries hmem
    simp [Graph.partAt, hnode, hdeclared declaration node hcarries]
  have hundeclared : (undeclaredKeys declarations).map ((assembled declarations).partAt part) =
      List.replicate (undeclaredKeys declarations).length each := by
    rw [List.eq_replicate_iff]
    refine ⟨List.length_map _, ?_⟩
    intro value hvalue
    obtain ⟨name, hname, rfl⟩ := List.mem_map.mp hvalue
    obtain ⟨hkey, hnot⟩ := List.mem_filter.mp hname
    obtain ⟨node, hnode⟩ := (Table.mem_keys_iff _).mp hkey
    have hget : (assembled declarations).get? name = some node := hnode
    have hnot' : name ∉ declaredKeys declarations := by simpa using hnot
    simp [Graph.partAt, hget, hplaceholder node (isPlaceholder_of_not_mem hnot' hget)]
  rw [Graph.sum_map_values, ((keys_assembled_perm declarations).map _).sum_eq, List.map_append,
    List.sum_append, haccepted, hundeclared, List.sum_replicate_nat]

/-- The counts are the counts of the nodes; only the average and the depth come from elsewhere. -/
theorem stats_assembled_eq_counted (count : Stats → Nat) (part : GraphNode → Nat)
    (hadd : ∀ stats node, count (Stats.addNode stats node) = count stats + part node)
    (hstart : count {} = 0)
    (hkeep : ∀ (stats : Stats) average deepest,
      count { stats with avgFanOut := average, maxDepth := deepest } = count stats) :
    count (assembled declarations).stats =
      ((assembled declarations).nodes.values.map part).sum := by
  rw [stats_assembled, Graph.tally, hkeep, Stats.count_foldl_addNode hadd, hstart, Nat.zero_add]

/-- A count of what bodies hold is the sum over the accepted declarations. -/
theorem stats_assembled_eq_sum {count : Stats → Nat} (length : Body → Nat)
    (hadd : ∀ stats node, count (Stats.addNode stats node) = count stats + length node.body)
    (hstart : count {} = 0)
    (hkeep : ∀ (stats : Stats) average deepest,
      count { stats with avgFanOut := average, maxDepth := deepest } = count stats)
    (hempty : length {} = 0)
    (hcarries : ∀ declaration node, Carries declaration node →
      length node.body = length declaration.body) :
    count (assembled declarations).stats =
      ((accepted declarations).map fun declaration => length declaration.body).sum := by
  rw [stats_assembled_eq_counted declarations _ _ hadd hstart hkeep,
    sum_map_values_assembled declarations _ 0 hcarries
      (fun node hnode => by rw [hnode.body, hempty]), Nat.mul_zero, Nat.add_zero]

/-- The nodes are the accepted declarations and the stubs. -/
theorem size_assembled : (assembled declarations).size =
    (accepted declarations).length + (assembled declarations).stats.totalStubs := by
  have hstubs := stats_assembled_eq_counted declarations Stats.totalStubs
    (fun node => if node.isStub then 1 else 0) (fun _ _ => by
      simp [Stats.addNode, Stats.addBody, Stats.addRole_eq]) rfl fun _ _ _ => rfl
  rw [sum_map_values_assembled declarations (fun _ => 0) 1
    (fun declaration node h => by simp [h.isStub]) (fun node h => by simp [h.isStub])] at hstubs
  have hkeys := (keys_assembled_perm declarations).length_eq
  rw [List.length_append, List.length_map] at hkeys
  have hsize : (assembled declarations).size = (assembled declarations).nodes.keys.length := by
    simp [Graph.size, Table.size, Table.keys]
  rw [hsize, hkeys, hstubs]
  simp

end Totals

/-- What the counts of a build say of its declarations: the stubs are the nodes beyond the accepted
declarations, and every other total is the sum of what the bodies hold. -/
structure TotalsOf (declarations : List Declaration) (graph : Graph) : Prop where
  stubs : graph.stats.totalStubs = graph.size - (accepted declarations).length
  enough : (accepted declarations).length ≤ graph.size
  callSites : graph.stats.totalCallSites =
    ((accepted declarations).map fun declaration => declaration.body.callSites.length).sum
  timers : graph.stats.totalTimers =
    ((accepted declarations).map fun declaration => declaration.body.timers.length).sum
  versions : graph.stats.totalVersions =
    ((accepted declarations).map fun declaration => declaration.body.versions.length).sum
  searchAttributes : graph.stats.totalSearchAttributes =
    ((accepted declarations).map fun declaration => declaration.body.searchAttributes.length).sum

theorem totalsOf_assembled (declarations : List Declaration) :
    TotalsOf declarations (assembled declarations) := by
  have hsize := size_assembled declarations
  refine ⟨by omega, by omega, ?_, ?_, ?_, ?_⟩
  · exact stats_assembled_eq_sum declarations (fun body => body.callSites.length)
      (fun _ _ => by simp [Stats.addNode, Stats.addBody, Stats.addRole_eq]) rfl (fun _ _ _ => rfl)
      rfl fun _ _ h => h.callSites.length_eq.symm
  · exact stats_assembled_eq_sum declarations (fun body => body.timers.length)
      (fun _ _ => by simp [Stats.addNode, Stats.addBody, Stats.addRole_eq]) rfl (fun _ _ _ => rfl)
      rfl fun _ _ h => by rw [h.timers]
  · exact stats_assembled_eq_sum declarations (fun body => body.versions.length)
      (fun _ _ => by simp [Stats.addNode, Stats.addBody, Stats.addRole_eq]) rfl (fun _ _ _ => rfl)
      rfl fun _ _ h => by rw [h.versions]
  · exact stats_assembled_eq_sum declarations (fun body => body.searchAttributes.length)
      (fun _ _ => by simp [Stats.addNode, Stats.addBody, Stats.addRole_eq]) rfl (fun _ _ _ => rfl)
      rfl fun _ _ h => by rw [h.searchAttributes]

/-- **Building neither loses, duplicates nor overwrites anything.**  A build that nobody stops ends
with a graph whose keys are the declared ones and, apart from them, the unclaimed names.  Every node
has its key as its name, the node of a declared key carries the first declaration of that key, the
node of an unclaimed name is a placeholder, and the totals are those of the declarations. -/
theorem build_conserves (declarations : List Declaration) :
    ∃ graph, (Graph.build declarations).outcome = .ok graph ∧
      (∀ name, graph.contains name = true ↔
        (firstNamed? declarations name).isSome ∨ IsUnclaimed declarations name) ∧
      (∀ name, ¬((firstNamed? declarations name).isSome ∧ IsUnclaimed declarations name)) ∧
      (∀ name node, graph.get? name = some node → node.name = name) ∧
      (∀ name declaration, firstNamed? declarations name = some declaration →
        ∃ node, graph.get? name = some node ∧ Carries declaration node) ∧
      (∀ name node, IsUnclaimed declarations name → graph.get? name = some node →
        node.IsPlaceholder) ∧
      TotalsOf declarations graph := by
  have hfirst : ∀ name, (firstNamed? declarations name).isSome ↔
      name ∈ declaredKeys declarations := by
    intro name
    rw [Option.isSome_iff_exists, mem_declaredKeys]
    simp only [firstNamed?_eq_some_iff]
  refine ⟨assembled declarations, (build_computes declarations).outcome_eq, ?_, ?_,
    fun name node => name_assembled, ?_, ?_, totalsOf_assembled declarations⟩
  · intro name
    rw [hfirst]
    by_cases hmem : name ∈ declaredKeys declarations
    · exact iff_of_true (((grown_assembled declarations).contains_iff name).mpr (Or.inl hmem))
        (Or.inl hmem)
    · rw [contains_iff_isUnclaimed hmem]
      exact ⟨Or.inr, fun hor => hor.resolve_left hmem⟩
  · rintro name ⟨hsome, hunclaimed⟩
    exact hunclaimed.undeclared ((hfirst name).mp hsome)
  · intro name declaration h
    obtain ⟨haccepted, rfl⟩ := firstNamed?_eq_some_iff.mp h
    exact exists_carries haccepted
  · intro name node hunclaimed hnode
    exact isPlaceholder_of_not_mem hunclaimed.undeclared hnode

end WorkflowGraph
