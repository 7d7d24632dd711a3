import WorkflowGraph.Proofs.SynthesizedNodes
import WorkflowGraph.Validation

/-!
# What the tag of a stub says

A call site that is tagged as a stub has a stub as its target.  The converse fails: the tag is given
when the site is resolved, and a stub that an earlier call site has made is by then a key like any
other, so that every later call of it is tagged as exact.  `stub_tag_marks_first_call` gives the rule.
In the order of the walk, the tag marks the first call of each stub and no other one.  Hence the tag
says which targets are stubs exactly if no two call sites name the same one.

There is one more exception.  A target that cannot be read stays unresolved, and a handler may bear
the name that stands for it.
-/

namespace WorkflowGraph

/-- The call sites of the finished graph in the order of the walk. -/
def Graph.walkedSites (graph : Graph) (declarations : List Declaration) : List CallSite :=
  (accepted declarations).flatMap fun declaration => graph.sitesOf declaration.qualifiedName

/-- No stub is named by two of the call sites, nor by one whose target could not be read. -/
structure NamedOnce (graph : Graph) (sites : List CallSite) : Prop where
  once : sites.Pairwise fun site later =>
    graph.HasStub site.targetName → later.targetName ≠ site.targetName
  readable : ∀ site ∈ sites, graph.HasStub site.targetName →
    site.targetName ≠ Go.Node.anonymousTarget

/-! ## A place in the walk -/

section Places

/-- A member of a list that was joined together lies in one part of it. -/
theorem flatMap_eq_append_cons {α β : Type} {parts : α → List β} {items : List α}
    {before after : List β} {member : β}
    (h : items.flatMap parts = before ++ member :: after) :
    ∃ earlier item later inside outside, items = earlier ++ item :: later ∧
      parts item = inside ++ member :: outside ∧ before = earlier.flatMap parts ++ inside := by
  induction items generalizing before with
  | nil => simp at h
  | cons item items ih =>
      rw [List.flatMap_cons, List.append_eq_append_iff] at h
      rcases h with ⟨rest, rfl, hrest⟩ | ⟨rest, hitem, hrest⟩
      · obtain ⟨earlier, other, later, inside, outside, rfl, hother, rfl⟩ := ih hrest
        refine ⟨item :: earlier, other, later, inside, outside, rfl, hother, ?_⟩
        rw [List.flatMap_cons, List.append_assoc]
      · cases rest with
        | nil =>
            have hmember : items.flatMap parts = [] ++ member :: after := hrest.symm
            obtain ⟨earlier, other, later, inside, outside, rfl, hother, hnone⟩ := ih hmember
            refine ⟨item :: earlier, other, later, inside, outside, rfl, hother, ?_⟩
            rw [List.append_nil] at hitem
            rw [List.flatMap_cons, List.append_assoc, ← hnone, hitem, List.append_nil]
        | cons first rest =>
            obtain ⟨rfl, _⟩ := List.cons.inj hrest
            exact ⟨[], item, items, before, rest, rfl, hitem, rfl⟩

/-- What holds between every member and those before it holds between any two in order. -/
theorem pairwise_of_splits {α : Type} {relation : α → α → Prop} {items : List α}
    (h : ∀ before item after, items = before ++ item :: after →
      ∀ earlier ∈ before, relation earlier item) : items.Pairwise relation := by
  induction items with
  | nil => exact .nil
  | cons first items ih =>
      refine .cons ?_ (ih ?_)
      · intro item hitem
        obtain ⟨before, after, rfl⟩ := List.append_of_mem hitem
        exact h (first :: before) item after rfl first List.mem_cons_self
      · rintro before item after rfl earlier hearlier
        exact h (first :: before) item after rfl earlier (List.mem_cons_of_mem _ hearlier)

/-- A settled site was settled after the sites before it. -/
theorem settledSites_eq_append_cons {declared : List String} {caller : String} {edges : List Edge}
    {sites before after : List CallSite} {settled : CallSite}
    (h : settledSites declared caller edges sites = before ++ settled :: after) :
    ∃ earlier site later, sites = earlier ++ site :: later ∧
      before = settledSites declared caller edges earlier ∧
      settled = settledSite declared (edges ++ earlier.flatMap (siteEdges declared caller)) site := by
  induction sites generalizing edges before with
  | nil => simp [settledSites] at h
  | cons site sites ih =>
      cases before with
      | nil =>
          obtain ⟨rfl, _⟩ := List.cons.inj h
          exact ⟨[], site, sites, rfl, rfl, by simp⟩
      | cons first before =>
          obtain ⟨rfl, hrest⟩ := List.cons.inj h
          obtain ⟨earlier, other, later, rfl, rfl, rfl⟩ := ih hrest
          refine ⟨site :: earlier, other, later, rfl, rfl, ?_⟩
          rw [List.flatMap_cons, List.append_assoc]

end Places

section Walked

variable {declarations : List Declaration}

/-- The call sites of an accepted declaration, as they came out. -/
theorem sitesOf_assembled_of_split {before after : List Declaration} {declaration : Declaration}
    (hsplit : accepted declarations = before ++ declaration :: after) :
    (assembled declarations).sitesOf declaration.qualifiedName =
      settledSites (declaredKeys declarations) declaration.qualifiedName
        ((before.map Declaration.entry).flatMap (callEdges (declaredKeys declarations)))
        declaration.body.callSites := by
  rw [Graph.sitesOf, get?_assembled_of_split hsplit]
  rfl

/-- Every call site of the finished graph is met on the walk. -/
theorem mem_walkedSites {name : String} {node : GraphNode} {site : CallSite}
    (hnode : (assembled declarations).get? name = some node) (hsite : site ∈ node.callSites) :
    site ∈ (assembled declarations).walkedSites declarations := by
  obtain ⟨declaration, haccepted, rfl, _⟩ := exists_of_mem_callSites hnode hsite
  refine List.mem_flatMap.mpr ⟨declaration, haccepted, ?_⟩
  rw [Graph.sitesOf, hnode]
  exact hsite

/-- Some of the call sites have an edge to an undeclared key exactly if one of them spells it. -/
theorem exists_siteEdge_iff {name : String} (hnot : name ∉ declaredKeys declarations)
    (hreading : reading (declaredKeys declarations) name = .missing)
    (hnamed : name ≠ Go.Node.anonymousTarget) (caller : String) (sites : List CallSite) :
    (∃ edge ∈ sites.flatMap (siteEdges (declaredKeys declarations) caller), edge.target = name) ↔
      ∃ site ∈ sites, site.targetName = name := by
  constructor
  · rintro ⟨edge, hedge, htarget⟩
    obtain ⟨site, hsite, hedge⟩ := List.mem_flatMap.mp hedge
    obtain ⟨_, _, rfl⟩ := mem_siteEdges.mp hedge
    exact ⟨site, hsite, eq_of_settledName_eq hnot htarget⟩
  · rintro ⟨site, hsite, rfl⟩
    refine ⟨_, List.mem_flatMap.mpr ⟨site, hsite, mem_siteEdges.mpr
      ⟨hnamed, not_isOpen_of_missing hreading, rfl⟩⟩, settledName_of_missing hreading⟩

/-- The edges of some accepted declarations lead to an undeclared key exactly if one of their finished
call sites has it as its target. -/
theorem exists_callEdge_iff {name : String} (hnot : name ∉ declaredKeys declarations)
    (hreading : reading (declaredKeys declarations) name = .missing)
    (hnamed : name ≠ Go.Node.anonymousTarget) {some : List Declaration}
    (hsome : ∀ declaration ∈ some, declaration ∈ accepted declarations) :
    (∃ edge ∈ (some.map Declaration.entry).flatMap (callEdges (declaredKeys declarations)),
        edge.target = name) ↔
      ∃ settled ∈ some.flatMap fun declaration =>
        (assembled declarations).sitesOf declaration.qualifiedName, settled.targetName = name := by
  have heach : ∀ declaration ∈ some,
      ((∃ edge ∈ callEdges (declaredKeys declarations) declaration.entry, edge.target = name) ↔
        ∃ settled ∈ (assembled declarations).sitesOf declaration.qualifiedName,
          settled.targetName = name) := by
    intro declaration hmem
    obtain ⟨before, after, hsplit⟩ := List.append_of_mem (hsome declaration hmem)
    rw [sitesOf_assembled_of_split hsplit, exists_mem_settledSites_iff hnot hreading]
    exact exists_siteEdge_iff hnot hreading hnamed _ _
  simp only [List.flatMap_map, List.mem_flatMap]
  constructor
  · rintro ⟨edge, ⟨declaration, hmem, hedge⟩, htarget⟩
    obtain ⟨settled, hsettled, hname⟩ := (heach declaration hmem).mp ⟨edge, hedge, htarget⟩
    exact ⟨settled, ⟨declaration, hmem, hsettled⟩, hname⟩
  · rintro ⟨settled, ⟨declaration, hmem, hsettled⟩, hname⟩
    obtain ⟨edge, hedge, htarget⟩ := (heach declaration hmem).mpr ⟨settled, hsettled, hname⟩
    exact ⟨edge, ⟨declaration, hmem, hedge⟩, htarget⟩

/-- A call site is reached after the sites `before`: what it was before it was settled, and the edges it
was settled after, which among undeclared keys lead just to the targets of those sites. -/
structure ReachedAfter (declarations : List Declaration) (before : List CallSite)
    (raw : CallSite) (edges : List Edge) : Prop where
  declared : ∃ declaration ∈ accepted declarations, raw ∈ declaration.body.callSites
  edge_iff : ∀ name, name ∉ declaredKeys declarations →
    reading (declaredKeys declarations) name = .missing → name ≠ Go.Node.anonymousTarget →
    ((∃ edge ∈ edges, edge.target = name) ↔ ∃ earlier ∈ before, earlier.targetName = name)

/-- Where a call site of the walk comes from. -/
theorem exists_reachedAfter {before after : List CallSite} {site : CallSite}
    (h : (assembled declarations).walkedSites declarations = before ++ site :: after) :
    ∃ raw edges, site = settledSite (declaredKeys declarations) edges raw ∧
      ReachedAfter declarations before raw edges := by
  obtain ⟨earlier, declaration, later, inside, outside, hsplit, hinside, rfl⟩ :=
    flatMap_eq_append_cons h
  rw [sitesOf_assembled_of_split hsplit] at hinside
  obtain ⟨sooner, raw, _, hsites, rfl, rfl⟩ := settledSites_eq_append_cons hinside
  have haccepted : declaration ∈ accepted declarations := by simp [hsplit]
  refine ⟨raw, _, rfl, ⟨declaration, haccepted, by simp [hsites]⟩, ?_⟩
  intro name hnot hreading hnamed
  -- the declarations before this one, and the call sites before this one within it
  simp only [List.mem_append, or_and_right, exists_or]
  refine or_congr (exists_callEdge_iff hnot hreading hnamed ?_) ?_
  · intro other hother
    exact hsplit ▸ List.mem_append_left _ hother
  · rw [exists_mem_settledSites_iff hnot hreading]
    exact exists_siteEdge_iff hnot hreading hnamed _ _

end Walked

/-! ## The tag -/

section Tags

variable {declarations : List Declaration} {before : List CallSite} {raw : CallSite}
  {edges : List Edge}

/-- A settled site with a readable stub as its target spells the name of the stub, and what it is tagged
as depends on whether an edge has led there. -/
theorem resolution_of_hasStub
    (hstub : (assembled declarations).HasStub
      (settledSite (declaredKeys declarations) edges raw).targetName)
    (hnamed : (settledSite (declaredKeys declarations) edges raw).targetName ≠
      Go.Node.anonymousTarget)
    (hreached : ReachedAfter declarations before raw edges) :
    (settledSite (declaredKeys declarations) edges raw).resolution =
      if ∃ earlier ∈ before, earlier.targetName =
        (settledSite (declaredKeys declarations) edges raw).targetName then .exact else .stub := by
  obtain ⟨node, hnode, hisStub⟩ := hstub
  have hnot := not_mem_declaredKeys_of_isStub hnode hisStub
  have hreading := reading_of_get? hnot hnode
  have hspelled := (targetName_settledSite_eq_iff hnot hreading edges).mp rfl
  rw [← hspelled] at hnot hreading hnamed ⊢
  rw [settledSite_of_missing edges hnamed hreading]
  simp only [hreached.edge_iff _ hnot hreading hnamed]

/-- A site that is tagged as a stub is readable and names a stub. -/
theorem hasStub_of_resolution (hreached : ReachedAfter declarations before raw edges)
    (htag : (settledSite (declaredKeys declarations) edges raw).resolution = .stub) :
    (assembled declarations).HasStub
        (settledSite (declaredKeys declarations) edges raw).targetName ∧
      (settledSite (declaredKeys declarations) edges raw).targetName ≠
        Go.Node.anonymousTarget := by
  by_cases hnamed : raw.targetName = Go.Node.anonymousTarget
  · rw [settledSite_of_anonymous edges hnamed] at htag
    cases htag
  cases hreading : reading (declaredKeys declarations) raw.targetName with
  | found resolution key =>
      rw [settledSite_of_found edges hnamed hreading] at htag
      rcases resolution_of_reading_found hreading with rfl | rfl <;> cases htag
  | ambiguous count =>
      rw [settledSite_of_open edges hnamed ⟨count, hreading⟩] at htag
      cases htag
  | missing =>
      obtain ⟨declaration, haccepted, hraw⟩ := hreached.declared
      have hedge := siteEdge_mem_allEdges haccepted hraw hnamed (not_isOpen_of_missing hreading)
      rw [settledName_of_missing hreading] at hedge
      have hnot : raw.targetName ∉ declaredKeys declarations :=
        not_mem_of_reading_ne (by rw [hreading]; simp)
      rw [settledSite_of_missing edges hnamed hreading]
      exact ⟨hasStub_of_mem_allEdges hedge hnot, hnamed⟩

/-- **The tag at a place of the walk.**  It says stub for the first call of a readable stub, and exact
for every later one. -/
theorem tag_of_walkedSites {after : List CallSite} {site : CallSite}
    (h : (assembled declarations).walkedSites declarations = before ++ site :: after) :
    (site.resolution = .stub ↔ (assembled declarations).HasStub site.targetName ∧
      site.targetName ≠ Go.Node.anonymousTarget ∧
        ∀ earlier ∈ before, earlier.targetName ≠ site.targetName) ∧
    ((assembled declarations).HasStub site.targetName →
      site.targetName ≠ Go.Node.anonymousTarget →
        (∃ earlier ∈ before, earlier.targetName = site.targetName) → site.resolution = .exact) := by
  obtain ⟨raw, edges, rfl, hreached⟩ := exists_reachedAfter h
  refine ⟨⟨?_, ?_⟩, ?_⟩
  · intro htag
    obtain ⟨hstub, hnamed⟩ := hasStub_of_resolution hreached htag
    refine ⟨hstub, hnamed, ?_⟩
    intro earlier hearlier htarget
    rw [resolution_of_hasStub hstub hnamed hreached, if_pos ⟨earlier, hearlier, htarget⟩] at htag
    cases htag
  · rintro ⟨hstub, hnamed, hfirst⟩
    rw [resolution_of_hasStub hstub hnamed hreached, if_neg]
    rintro ⟨earlier, hearlier, htarget⟩
    exact hfirst earlier hearlier htarget
  · intro hstub hnamed hearlier
    rw [resolution_of_hasStub hstub hnamed hreached, if_pos hearlier]

/-- The tag says which targets are stubs exactly if it gets no chance to differ. -/
theorem tag_iff_hasStub_iff :
    (∀ site ∈ (assembled declarations).walkedSites declarations,
      (site.resolution = .stub ↔ (assembled declarations).HasStub site.targetName)) ↔
    NamedOnce (assembled declarations) ((assembled declarations).walkedSites declarations) := by
  constructor
  · intro hall
    refine ⟨?_, ?_⟩
    · apply pairwise_of_splits
      intro before later after hsplit site hbefore hstub htarget
      have hmem : later ∈ (assembled declarations).walkedSites declarations := by simp [hsplit]
      have htag := (hall later hmem).mpr (htarget ▸ hstub)
      exact ((tag_of_walkedSites hsplit).1.mp htag).2.2 site hbefore htarget.symm
    · intro site hmem hstub
      obtain ⟨before, after, hsplit⟩ := List.append_of_mem hmem
      exact ((tag_of_walkedSites hsplit).1.mp ((hall site hmem).mpr hstub)).2.1
  · intro hnamed site hmem
    obtain ⟨before, after, hsplit⟩ := List.append_of_mem hmem
    rw [(tag_of_walkedSites hsplit).1]
    refine ⟨fun h => h.1, fun hstub => ⟨hstub, hnamed.readable site hmem hstub, ?_⟩⟩
    intro earlier hearlier htarget
    have honce := hnamed.once
    rw [hsplit, List.pairwise_append] at honce
    exact honce.2.2 earlier hearlier site List.mem_cons_self (htarget ▸ hstub) htarget.symm

end Tags

/-- **The tag of a stub marks its first call.**  A build that nobody stops ends with a graph whose call
sites can be listed in the order of the walk, each where it was resolved.  A site of this list is tagged
as a stub exactly if its target could be read, is a stub, and is not the target of an earlier site; a
later one with such a target is tagged as exact.  So a site that is tagged as a stub always has one as
its target, and the converse holds throughout exactly if no stub is named twice, nor by a site whose
target could not be read. -/
theorem stub_tag_marks_first_call (declarations : List Declaration) :
    ∃ graph, (Graph.build declarations).outcome = .ok graph ∧
      (∀ name node, graph.get? name = some node →
        ∀ site ∈ node.callSites, site ∈ graph.walkedSites declarations) ∧
      (∀ before site after, graph.walkedSites declarations = before ++ site :: after →
        (site.resolution = .stub ↔ graph.HasStub site.targetName ∧
          site.targetName ≠ Go.Node.anonymousTarget ∧
            ∀ earlier ∈ before, earlier.targetName ≠ site.targetName) ∧
        (graph.HasStub site.targetName → site.targetName ≠ Go.Node.anonymousTarget →
          (∃ earlier ∈ before, earlier.targetName = site.targetName) →
            site.resolution = .exact)) ∧
      ((∀ site ∈ graph.walkedSites declarations,
          (site.resolution = .stub ↔ graph.HasStub site.targetName)) ↔
        NamedOnce graph (graph.walkedSites declarations)) := by
  refine ⟨assembled declarations, (build_computes declarations).outcome_eq, ?_, ?_,
    tag_iff_hasStub_iff⟩
  · intro name node hnode site hsite
    exact mem_walkedSites hnode hsite
  · intro before site after hsplit
    exact tag_of_walkedSites hsplit

/-- A workflow that calls an activity and nothing else. -/
def Declaration.calling (name activity : String) : Declaration :=
  { name, role := .workflow, body := { callSites := [.plain activity .activity 6] } }

/-- Two workflows that call the same undeclared activity. -/
def chargingDeclarations : List Declaration :=
  [.calling "Order" "Charge", .calling "Renew" "Charge"]

/-- Both calls have a stub as their target, and only the first one is tagged so. -/
theorem second_call_is_tagged_exact :
    ∃ graph, (Graph.build chargingDeclarations).outcome = .ok graph ∧
      graph.HasStub "Charge" ∧
      (graph.sitesOf "Order").map (fun site => (site.targetName, site.resolution)) =
        [("Charge", .stub)] ∧
      (graph.sitesOf "Renew").map (fun site => (site.targetName, site.resolution)) =
        [("Charge", .exact)] := by
  have hkeys : declaredKeys chargingDeclarations = ["Order", "Renew"] :=
    List.mergeSort_of_pairwise (by decide)
  have hedges : allEdges chargingDeclarations =
      [⟨"Order", "Charge", .activity⟩, ⟨"Renew", "Charge", .activity⟩] := by
    rw [allEdges, hkeys]
    decide
  have hfirst : accepted chargingDeclarations =
      [] ++ .calling "Order" "Charge" :: [.calling "Renew" "Charge"] := by decide
  have hsecond : accepted chargingDeclarations =
      [.calling "Order" "Charge"] ++ .calling "Renew" "Charge" :: [] := by decide
  refine ⟨assembled chargingDeclarations, (build_computes _).outcome_eq, ?_, ?_, ?_⟩
  · exact hasStub_of_mem_allEdges (hedges ▸ List.mem_cons_self) (by rw [hkeys]; decide)
  · exact (congrArg _ (sitesOf_assembled_of_split hfirst)).trans (by rw [hkeys]; decide)
  · exact (congrArg _ (sitesOf_assembled_of_split hsecond)).trans (by rw [hkeys]; decide)

end WorkflowGraph
