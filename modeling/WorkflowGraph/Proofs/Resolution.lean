import WorkflowGraph.Proofs.Assembly

/-!
# The table of resolutions

How a call site comes out in the finished graph can be looked up in a table with five rows, and
the table knows nothing but the declared keys.  `SiteOutcome` is the table for call sites and
`HandlerOutcome` the one for handlers, which has one row less.  The main statement is
`names_resolve_by_declared_keys`: whatever the declarations, every call site and every handler of
an accepted one comes out as its row says, and no call site is left pending.
-/

namespace WorkflowGraph

/-- A declared key fits a name if it has the last part of the name. -/
def Fits (declared : List String) (name key : String) : Prop :=
  key ∈ declared ∧ SharesLastPart name key

/-- The one declared key that fits a name. -/
def FitsOnly (declared : List String) (name key : String) : Prop :=
  Fits declared name key ∧ ∀ other, Fits declared name other → other = key

/-- At least two declared keys fit a name. -/
def SeveralFit (declared : List String) (name : String) : Prop :=
  ∃ key other, key ≠ other ∧ Fits declared name key ∧ Fits declared name other

/-- The key has a node that stands for nothing declared. -/
def Graph.HasStub (graph : Graph) (name : String) : Prop :=
  ∃ node, graph.get? name = some node ∧ node.isStub = true

/-- The table for call sites: how the site `raw` comes out as `site`. -/
structure SiteOutcome (declared : List String) (graph : Graph) (raw site : CallSite) : Prop where
  anonymous : raw.targetName = Go.Node.anonymousTarget →
    site.targetName = raw.targetName ∧ site.resolution = .unresolved
  exact : raw.targetName ≠ Go.Node.anonymousTarget → raw.targetName ∈ declared →
    site.targetName = raw.targetName ∧ site.resolution = .exact
  suffix : raw.targetName ≠ Go.Node.anonymousTarget → raw.targetName ∉ declared →
    ∀ key, FitsOnly declared raw.targetName key →
      site.targetName = key ∧ site.resolution = .suffix
  ambiguous : raw.targetName ≠ Go.Node.anonymousTarget → raw.targetName ∉ declared →
    SeveralFit declared raw.targetName →
      site.targetName = raw.targetName ∧ site.resolution = .unresolved ∧
        graph.contains raw.targetName = false
  synthesized : raw.targetName ≠ Go.Node.anonymousTarget → raw.targetName ∉ declared →
    (∀ key, ¬Fits declared raw.targetName key) →
      site.targetName = raw.targetName ∧ site.resolution ≠ .unresolved ∧
        graph.HasStub raw.targetName

/-- The table for handlers: how the handler `raw` comes out as `handler`. -/
structure HandlerOutcome (declared : List String) (graph : Graph) (raw handler : Option String) :
    Prop where
  unnamed : raw = none → handler = none
  exact : ∀ name, raw = some name → name ∈ declared → handler = some name
  suffix : ∀ name, raw = some name → name ∉ declared →
    ∀ key, FitsOnly declared name key → handler = some key
  ambiguous : ∀ name, raw = some name → name ∉ declared → SeveralFit declared name →
    handler = some name ∧ graph.contains name = false
  synthesized : ∀ name, raw = some name → name ∉ declared →
    (∀ key, ¬Fits declared name key) → handler = some name ∧ graph.HasStub name

section Rows

variable {declared : List String} {name key : String}

theorem reading_of_fitsOnly (hnodup : declared.Nodup) (hnot : name ∉ declared)
    (h : FitsOnly declared name key) : reading declared name = .found .suffix key :=
  reading_of_single hnodup hnot h.1 fun other hmem hshare => h.2 other ⟨hmem, hshare⟩

theorem isOpen_of_severalFit (hnot : name ∉ declared)
    (h : SeveralFit declared name) : IsOpen declared name := by
  obtain ⟨key, other, hne, hkey, hother⟩ := h
  exact reading_of_several hnot hkey hother hne

theorem reading_of_none_fits (hnot : name ∉ declared)
    (h : ∀ key, ¬Fits declared name key) : reading declared name = .missing :=
  reading_of_none hnot fun key hmem hshare => h key ⟨hmem, hshare⟩

end Rows

section Finished

variable {declarations : List Declaration}

/-- An open name is no key of the finished graph. -/
theorem not_contains_of_isOpen {name : String} (h : IsOpen (declaredKeys declarations) name) :
    (assembled declarations).contains name = false := by
  obtain ⟨count, hreading⟩ := h
  have hnot : ¬(assembled declarations).contains name = true := by
    rw [(grown_assembled declarations).contains_iff name]
    rintro (hmem | ⟨edge, hedge, rfl⟩)
    · rw [reading_of_mem hmem] at hreading
      cases hreading
    -- an edge leads to a declared key or to a name that no key fits
    · rcases (grown_assembled declarations).lawful edge hedge with hmem | hmissing
      · rw [reading_of_mem hmem] at hreading
        cases hreading
      · exact not_isOpen_of_missing hmissing ⟨count, hreading⟩
  simpa using hnot

/-- An edge to a key that is not declared leaves a stub there. -/
theorem hasStub_of_mem_allEdges {edge : Edge} (hedge : edge ∈ allEdges declarations)
    (hnot : edge.target ∉ declaredKeys declarations) :
    (assembled declarations).HasStub edge.target := by
  have hfind : ((allEdges declarations).find? fun other => other.target = edge.target).isSome := by
    rw [List.find?_isSome]
    exact ⟨edge, hedge, by simp⟩
  obtain ⟨first, hfirst⟩ := Option.isSome_iff_exists.mp hfind
  have hget := get?_assembled_of_not_mem hnot
  rw [hfirst, Option.map_some] at hget
  exact ⟨_, hget, rfl⟩

/-- A call site comes out as its row of the table says. -/
theorem siteOutcome_settledSite {declaration : Declaration}
    (haccepted : declaration ∈ accepted declarations) {site : CallSite}
    (hsite : site ∈ declaration.body.callSites) (before : List Edge) :
    SiteOutcome (declaredKeys declarations) (assembled declarations) site
      (settledSite (declaredKeys declarations) before site) where
  anonymous hanonymous := by
    rw [settledSite_of_anonymous before hanonymous]
    exact ⟨rfl, rfl⟩
  exact hnamed hmem := by
    rw [settledSite_of_found before hnamed (reading_of_mem hmem)]
    exact ⟨rfl, rfl⟩
  suffix hnamed hnot key hkey := by
    have hreading := reading_of_fitsOnly (nodup_declaredKeys declarations) hnot hkey
    rw [settledSite_of_found before hnamed hreading]
    exact ⟨rfl, rfl⟩
  ambiguous hnamed hnot hseveral := by
    have hopen := isOpen_of_severalFit hnot hseveral
    rw [settledSite_of_open before hnamed hopen]
    exact ⟨rfl, rfl, not_contains_of_isOpen hopen⟩
  synthesized hnamed hnot hnone := by
    have hreading := reading_of_none_fits hnot hnone
    have hclosed := not_isOpen_of_missing hreading
    have hedge := siteEdge_mem_allEdges haccepted hsite hnamed hclosed
    rw [settledName_of_missing hreading] at hedge
    refine ⟨by rw [settledSite_of_missing before hnamed hreading], ?_, ?_⟩
    · rw [Ne, resolution_settledSite_eq_unresolved_iff]
      exact fun hor => hor.elim hnamed hclosed
    · exact hasStub_of_mem_allEdges hedge hnot

/-- A handler comes out as its row of the table says. -/
theorem handlerOutcome_settledName {declaration : Declaration}
    (haccepted : declaration ∈ accepted declarations) {reference : NodeRole × Option String}
    (hreference : reference ∈ declaration.body.handlers) :
    HandlerOutcome (declaredKeys declarations) (assembled declarations) reference.2
      (reference.2.map (settledName (declaredKeys declarations))) where
  unnamed hnone := by rw [hnone, Option.map_none]
  exact name hname hmem := by
    rw [hname, Option.map_some, settledName_of_found (reading_of_mem hmem)]
  suffix name hname hnot key hkey := by
    have hreading := reading_of_fitsOnly (nodup_declaredKeys declarations) hnot hkey
    rw [hname, Option.map_some, settledName_of_found hreading]
  ambiguous name hname hnot hseveral := by
    have hopen := isOpen_of_severalFit hnot hseveral
    rw [hname, Option.map_some, settledName_of_open hopen]
    exact ⟨rfl, not_contains_of_isOpen hopen⟩
  synthesized name hname hnot hnone := by
    have hreading := reading_of_none_fits hnot hnone
    have hedge := handlerEdge_mem_allEdges haccepted hreference hname
      (not_isOpen_of_missing hreading)
    rw [settledName_of_missing hreading] at hedge
    rw [hname, Option.map_some, settledName_of_missing hreading]
    exact ⟨rfl, hasStub_of_mem_allEdges hedge hnot⟩

/-- The call sites of a node of the finished graph are settled, and a stub has none. -/
theorem exists_of_mem_callSites {name : String} {node : GraphNode} {settled : CallSite}
    (hnode : (assembled declarations).get? name = some node) (hsite : settled ∈ node.callSites) :
    ∃ declaration ∈ accepted declarations, declaration.qualifiedName = name ∧
      ∃ site ∈ declaration.body.callSites, ∃ before,
        settled = settledSite (declaredKeys declarations) before site := by
  by_cases hmem : name ∈ declaredKeys declarations
  · obtain ⟨declaration, haccepted, rfl⟩ := (mem_declaredKeys declarations).mp hmem
    obtain ⟨before, after, hsplit⟩ := List.append_of_mem haccepted
    rw [get?_assembled_of_split hsplit] at hnode
    obtain rfl := Option.some.inj hnode
    obtain ⟨site, hraw, earlier, rfl⟩ := exists_of_mem_settledSites _ hsite
    exact ⟨declaration, haccepted, rfl, site, hraw, earlier, rfl⟩
  · rw [get?_assembled_of_not_mem hmem] at hnode
    obtain ⟨first, _, rfl⟩ := Option.map_eq_some_iff.mp hnode
    cases hsite

end Finished

/-- **Names are resolved by the declared keys alone.**  A build that nobody stops ends with a
graph in which every call site and every handler of an accepted declaration has come out as the
table of the declared keys says, in its place, and in which no call site is pending. -/
theorem names_resolve_by_declared_keys (declarations : List Declaration) :
    ∃ graph, (Graph.build declarations).outcome = .ok graph ∧
      (∀ declaration ∈ accepted declarations, ∃ node,
        graph.get? declaration.qualifiedName = some node ∧
        List.Forall₂ (SiteOutcome (declaredKeys declarations) graph)
          declaration.body.callSites node.callSites ∧
        List.Forall₂ (fun raw settled => raw.1 = settled.1 ∧
            HandlerOutcome (declaredKeys declarations) graph raw.2 settled.2)
          declaration.body.handlers node.body.handlers) ∧
      ∀ name node, graph.get? name = some node →
        ∀ site ∈ node.callSites, site.resolution ≠ .pending := by
  refine ⟨assembled declarations, (build_computes declarations).outcome_eq, ?_, ?_⟩
  · intro declaration haccepted
    obtain ⟨before, after, hsplit⟩ := List.append_of_mem haccepted
    refine ⟨_, get?_assembled_of_split hsplit, ?_, ?_⟩
    · apply forall₂_settledSites
      intro site hsite earlier
      exact siteOutcome_settledSite haccepted hsite earlier
    · rw [handlers_settledBody, List.forall₂_map_right_iff]
      apply List.forall₂_same.mpr
      intro reference hreference
      exact ⟨rfl, handlerOutcome_settledName haccepted hreference⟩
  · intro name node hnode site hsite
    obtain ⟨_, _, _, raw, _, before, rfl⟩ := exists_of_mem_callSites hnode hsite
    exact resolution_settledSite_ne_pending before

end WorkflowGraph
