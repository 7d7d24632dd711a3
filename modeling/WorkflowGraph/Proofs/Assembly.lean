import WorkflowGraph.Proofs.Declared
import WorkflowGraph.Proofs.Settling
import WorkflowGraph.Proofs.Tally

/-!
# What building a graph comes to

`Graph.build` runs three loops over a graph that changes all the time.  Its result can be said
without any loop.  The declared nodes come first, one for each accepted declaration.  Then every
call site gives at most one edge, and after all call sites every handler gives at most one; which
edge it is, `reading` tells from the declared keys alone.  The finished graph has the nodes, the
callers and the bodies that these edges leave behind.

`Graph.build_computes` says that building computes exactly this graph, `assembled`, together with
its counts.  `get?_assembled_of_split` and `get?_assembled_of_not_mem` read it key by key.
-/

namespace WorkflowGraph

/-- Linking the handlers of some definitions keeps a graph grown. -/
theorem Grown.linkHandlers {α : Type} {declared : List String} {edges : List Edge} {graph : Graph}
    (h : Grown declared edges graph) (caller : String) (role : NodeRole)
    (handler : α → Option String) (items : List α) :
    Grown declared
      (edges ++ items.flatMap fun item => handlerEdges declared caller role (handler item))
      (graph.linkAll
        (items.flatMap fun item => handlerEdges declared caller role (handler item))) := by
  apply h.linkAll
  intro edge hedge
  obtain ⟨item, _, hitem⟩ := List.mem_flatMap.mp hedge
  exact lawful_of_mem_handlerEdges hitem

/-- The four ways in which a grown graph answers for a name: with the declared key that it
stands for, with the fact that it is open, with a key that an earlier edge has made, or not at
all.  Each time `link` is what joins a caller to the answer. -/
inductive Answer (declared : List String) (edges : List Edge) (graph : Graph) (caller : String)
    (role : NodeRole) (name : String) : Prop
  | settled (resolution : Resolution) (key : String)
      (hreading : reading declared name = .found resolution key)
      (hlookup : graph.lookup declared name = .found resolution key)
      (hlink : graph.addParent key caller = graph.link ⟨caller, key, role⟩)
  | ambiguous (count : Nat) (hreading : reading declared name = .ambiguous count)
      (hlookup : graph.lookup declared name = .ambiguous count)
  | known (hreading : reading declared name = .missing)
      (hedge : ∃ edge ∈ edges, edge.target = name)
      (hlookup : graph.lookup declared name = .found .exact name)
      (hlink : graph.addParent name caller = graph.link ⟨caller, name, role⟩)
  | fresh (hreading : reading declared name = .missing)
      (hedge : ¬∃ edge ∈ edges, edge.target = name)
      (hlookup : graph.lookup declared name = .missing)
      (hlink : graph.addStub name role caller = graph.link ⟨caller, name, role⟩)

theorem Grown.answer {declared : List String} {edges : List Edge} {graph : Graph}
    (h : Grown declared edges graph) (caller : String) (role : NodeRole) (name : String) :
    Answer declared edges graph caller role name := by
  have hlookup := h.lookup_eq name
  cases hreading : reading declared name with
  | found resolution key =>
      have hthere : graph.contains key = true :=
        (h.contains_iff key).mpr (Or.inl (mem_of_reading_found hreading))
      rw [hreading] at hlookup
      exact .settled resolution key hreading hlookup (if_pos hthere).symm
  | ambiguous count =>
      rw [hreading] at hlookup
      exact .ambiguous count hreading hlookup
  | missing =>
      rw [hreading] at hlookup
      by_cases hedge : ∃ edge ∈ edges, edge.target = name
      · have hthere : graph.contains name = true := (h.contains_iff name).mpr (Or.inr hedge)
        exact .known hreading hedge (hlookup.trans (if_pos hedge)) (if_pos hthere).symm
      · have hnot : name ∉ declared := not_mem_of_reading_ne (by rw [hreading]; simp)
        have habsent : ¬graph.contains name = true := by
          rw [h.contains_iff name]
          exact fun hor => hor.elim hnot hedge
        exact .fresh hreading hedge (hlookup.trans (if_neg hedge)) (if_neg habsent).symm

namespace Graph

variable {declared : List String} {edges : List Edge} {graph : Graph}

/-- Resolving a call site links its edges and settles the site. -/
theorem resolveSite_computes (h : Grown declared edges graph) (caller : String)
    (site : CallSite) :
    (graph.resolveSite declared caller site).Computes
      (graph.linkAll (siteEdges declared caller site), settledSite declared edges site) := by
  unfold resolveSite siteEdges settledSite edge?
  by_cases hanonymous : site.targetName = Go.Node.anonymousTarget
  · simp only [if_pos hanonymous]
    exact Run.computes_pure _
  · simp only [if_neg hanonymous]
    cases h.answer caller site.targetRole.stubRole site.targetName with
    | settled resolution key hreading hlookup hlink =>
        simp only [hreading, hlookup, hlink]
        exact Run.computes_pure _
    | ambiguous count hreading hlookup =>
        simp only [hreading, hlookup]
        exact (Run.computes_pure _).after_say
    | known hreading hedge hlookup hlink =>
        simp only [hreading, hlookup, hlink, if_pos hedge]
        exact Run.computes_pure _
    | fresh hreading hedge hlookup hlink =>
        simp only [hreading, hlookup, hlink, if_neg hedge]
        exact (Run.computes_pure _).after_say

/-- Resolving a handler links its edges and settles its name. -/
theorem resolveHandler_computes (h : Grown declared edges graph) (caller : String)
    (role : NodeRole) (handler : Option String) :
    (graph.resolveHandler declared caller role handler).Computes
      (graph.linkAll (handlerEdges declared caller role handler),
        handler.map (settledName declared)) := by
  cases handler with
  | none => exact Run.computes_pure _
  | some name =>
      unfold resolveHandler handlerEdges
      simp only [Option.bind_some, Option.map_some, edge?, settledName]
      cases h.answer caller role name with
      | settled resolution key hreading hlookup hlink =>
          simp only [hreading, hlookup, hlink]
          exact Run.computes_pure _
      | ambiguous count hreading hlookup =>
          simp only [hreading, hlookup]
          exact Run.computes_pure _
      | known hreading hedge hlookup hlink =>
          simp only [hreading, hlookup, hlink]
          exact Run.computes_pure _
      | fresh hreading hedge hlookup hlink =>
          simp only [hreading, hlookup, hlink]
          exact (Run.computes_pure _).after_say

theorem linkAll_append (graph : Graph) (first second : List Edge) :
    graph.linkAll (first ++ second) = (graph.linkAll first).linkAll second :=
  List.foldl_append

/-- The loop over the call sites of one node. -/
theorem resolveSites_computes (h : Grown declared edges graph) (caller : String)
    (sites resolved : List CallSite) :
    (Run.fold sites (graph, resolved) fun (graph, sites) site => do
        Run.poll
        let (graph, site) ← graph.resolveSite declared caller site
        pure (graph, sites ++ [site])).Computes
      (graph.linkAll (sites.flatMap (siteEdges declared caller)),
        resolved ++ settledSites declared caller edges sites) := by
  induction sites generalizing edges graph resolved with
  | nil =>
      rw [settledSites, List.append_nil]
      exact Run.computes_pure _
  | cons site sites ih =>
      have hgrown := h.linkAll (siteEdges declared caller site)
        fun edge hedge => lawful_of_mem_siteEdges hedge
      have hrest := ih hgrown (resolved ++ [settledSite declared edges site])
      rw [List.append_assoc, List.singleton_append, ← linkAll_append, ← List.flatMap_cons] at hrest
      refine Run.Computes.fold_cons (Run.Computes.after_poll ?_) hrest
      exact (resolveSite_computes h caller site).bind (Run.computes_pure _)

/-- A loop over definitions whose steps each resolve a handler resolves all of them. -/
theorem handlerLoop_computes {α : Type} {caller : String} {role : NodeRole}
    {handler : α → Option String} {withHandler : α → Option String → α}
    {step : Graph × List α → α → Run (Graph × List α)}
    (hstep : ∀ {edges graph}, Grown declared edges graph → ∀ resolved item,
      (step (graph, resolved) item).Computes
        (graph.linkAll (handlerEdges declared caller role (handler item)),
          resolved ++ [withHandler item ((handler item).map (settledName declared))]))
    (h : Grown declared edges graph) (items resolved : List α) :
    (Run.fold items (graph, resolved) step).Computes
      (graph.linkAll (items.flatMap fun item => handlerEdges declared caller role (handler item)),
        resolved ++ settledHandlers declared handler withHandler items) := by
  induction items generalizing edges graph resolved with
  | nil =>
      rw [settledHandlers, List.map_nil, List.append_nil]
      exact Run.computes_pure _
  | cons item items ih =>
      have hgrown := h.linkAll (handlerEdges declared caller role (handler item))
        fun edge hedge => lawful_of_mem_handlerEdges hedge
      have hrest := ih hgrown
        (resolved ++ [withHandler item ((handler item).map (settledName declared))])
      rw [List.append_assoc, List.singleton_append, ← linkAll_append] at hrest
      exact Run.Computes.fold_cons (hstep h resolved item) hrest

/-- The loop over a list of definitions with handlers. -/
theorem resolveHandlers_computes {α : Type} (h : Grown declared edges graph) (caller : String)
    (role : NodeRole) (handler : α → Option String) (withHandler : α → Option String → α)
    (items : List α) :
    (resolveHandlers declared caller role handler withHandler graph items).Computes
      (graph.linkAll (items.flatMap fun item => handlerEdges declared caller role (handler item)),
        settledHandlers declared handler withHandler items) := by
  refine handlerLoop_computes ?_ h items []
  intro edges graph hgrown resolved item
  exact (resolveHandler_computes hgrown caller role (handler item)).bind (Run.computes_pure _)

/-- One round of the loop over call sites. -/
theorem attachCalls_computes (h : Grown declared edges graph) (entry : String × Body) :
    (attachCalls declared graph entry).Computes
      (graph.attach (callRound declared edges entry)) := by
  have hsites := resolveSites_computes h entry.1 entry.2.callSites []
  refine Run.Computes.after_poll ?_
  exact hsites.bind (Run.computes_pure _)

/-- One round of the loop over handlers. -/
theorem attachMetadata_computes (h : Grown declared edges graph) (entry : String × Body) :
    (attachMetadata declared graph entry).Computes
      (graph.attach (metadataRound declared entry)) := by
  have hsignals := h.linkHandlers entry.1 .signalHandler Signal.handler entry.2.signals
  have hqueries := hsignals.linkHandlers entry.1 .queryHandler Query.handler entry.2.queries
  rw [attach, metadataRound, metadataEdges, linkAll_append, linkAll_append]
  refine Run.Computes.after_poll ?_
  refine (resolveHandlers_computes h _ _ _ _ _).bind ?_
  refine (resolveHandlers_computes hsignals _ _ _ _ _).bind ?_
  refine (resolveHandlers_computes hqueries _ _ _ _ _).bind ?_
  exact Run.computes_pure _

theorem lawful_of_mem_callEdges {entry : String × Body} {edge : Edge}
    (h : edge ∈ callEdges declared entry) :
    edge.target ∈ declared ∨ reading declared edge.target = .missing := by
  obtain ⟨site, _, hsite⟩ := List.mem_flatMap.mp h
  exact lawful_of_mem_siteEdges hsite

/-- A round of call sites keeps a graph grown. -/
theorem grown_attach_callRound (h : Grown declared edges graph) (entry : String × Body) :
    Grown declared (edges ++ callEdges declared entry)
      (graph.attach (callRound declared edges entry)) :=
  (h.linkAll _ fun _ hedge => lawful_of_mem_callEdges hedge).modifyBody _ _

theorem lawful_of_mem_metadataEdges {entry : String × Body} {edge : Edge}
    (h : edge ∈ metadataEdges declared entry) :
    edge.target ∈ declared ∨ reading declared edge.target = .missing := by
  obtain ⟨_, _, hedge⟩ := mem_metadataEdges.mp h
  exact lawful_of_mem_handlerEdges hedge

/-- A round of handlers keeps a graph grown. -/
theorem grown_attach_metadataRound (h : Grown declared edges graph) (entry : String × Body) :
    Grown declared (edges ++ metadataEdges declared entry)
      (graph.attach (metadataRound declared entry)) :=
  (h.linkAll _ fun _ hedge => lawful_of_mem_metadataEdges hedge).modifyBody _ _

/-- The loop over the call sites of all entries. -/
theorem attachCalls_fold_computes (h : Grown declared edges graph) (entries : Bodies) :
    (Run.fold entries graph (attachCalls declared)).Computes
        (graph.attachAll (callRounds declared edges entries)) ∧
      Grown declared (edges ++ entries.flatMap (callEdges declared))
        (graph.attachAll (callRounds declared edges entries)) := by
  induction entries generalizing edges graph with
  | nil => exact ⟨Run.computes_pure _, by simpa [callRounds, attachAll] using h⟩
  | cons entry entries ih =>
      obtain ⟨hrun, hgrown⟩ := ih (grown_attach_callRound h entry)
      refine ⟨(attachCalls_computes h entry).fold_cons hrun, ?_⟩
      rw [List.flatMap_cons, ← List.append_assoc]
      exact hgrown

/-- The loop over the handlers of all entries. -/
theorem attachMetadata_fold_computes (h : Grown declared edges graph) (entries : Bodies) :
    (Run.fold entries graph (attachMetadata declared)).Computes
        (graph.attachAll (entries.map (metadataRound declared))) ∧
      Grown declared (edges ++ entries.flatMap (metadataEdges declared))
        (graph.attachAll (entries.map (metadataRound declared))) := by
  induction entries generalizing edges graph with
  | nil => exact ⟨Run.computes_pure _, by simpa [attachAll] using h⟩
  | cons entry entries ih =>
      obtain ⟨hrun, hgrown⟩ := ih (grown_attach_metadataRound h entry)
      refine ⟨(attachMetadata_computes h entry).fold_cons hrun, ?_⟩
      rw [List.flatMap_cons, ← List.append_assoc]
      exact hgrown

end Graph

section Assembled

variable (declarations : List Declaration)

/-- The keys of the accepted declarations, in the order of their characters. -/
def declaredKeys : List String :=
  sortTexts ((accepted declarations).map Declaration.qualifiedName)

/-- The entries of the accepted declarations. -/
def entries : Bodies := (accepted declarations).map Declaration.entry

/-- All edges of a list of declarations: those of the call sites, then those of the handlers. -/
def allEdges : List Edge :=
  (entries declarations).flatMap (callEdges (declaredKeys declarations)) ++
    (entries declarations).flatMap (metadataEdges (declaredKeys declarations))

/-- All rounds of the second half. -/
def allRounds : List Round :=
  callRounds (declaredKeys declarations) [] (entries declarations) ++
    (entries declarations).map (metadataRound (declaredKeys declarations))

/-- The finished graph before it is counted. -/
def joined : Graph :=
  (({} : Graph).declareAll (accepted declarations)).attachAll (allRounds declarations)

/-- The finished graph. -/
def assembled : Graph := { joined declarations with stats := (joined declarations).tally }

/-- The finished graph has its own counts. -/
theorem stats_assembled : (assembled declarations).stats = (assembled declarations).tally :=
  Graph.tally_eq_of_alike (.of_get?_eq fun _ => rfl)

theorem mem_declaredKeys {name : String} : name ∈ declaredKeys declarations ↔
    ∃ declaration ∈ accepted declarations, declaration.qualifiedName = name := by
  rw [declaredKeys, mem_sortTexts, List.mem_map]

theorem nodup_declaredKeys : (declaredKeys declarations).Nodup :=
  (sortTexts_perm _).nodup_iff.mpr (nodup_accepted declarations)

/-- The declared nodes are where the growth of the graph starts. -/
theorem grown_declareAll :
    Grown (declaredKeys declarations) [] (({} : Graph).declareAll (accepted declarations)) where
  contains_iff name := by
    rw [Graph.contains_eq_isSome]
    by_cases hmem : name ∈ (accepted declarations).map Declaration.qualifiedName
    · obtain ⟨declaration, haccepted, rfl⟩ := List.mem_map.mp hmem
      rw [Graph.get?_declareAll_of_mem (nodup_accepted declarations) haccepted]
      simp [declaredKeys, hmem]
    · rw [Graph.get?_declareAll_of_not_mem hmem]
      simp [declaredKeys, hmem, Graph.get?]
  lawful edge hedge := by cases hedge

/-- The two loops of the second half take the declared nodes to the finished graph. -/
theorem attach_folds_compute :
    ∃ middle : Graph,
      (Run.fold (entries declarations) (({} : Graph).declareAll (accepted declarations))
        (Graph.attachCalls (declaredKeys declarations))).Computes middle ∧
      (Run.fold (entries declarations) middle
        (Graph.attachMetadata (declaredKeys declarations))).Computes (joined declarations) ∧
      Grown (declaredKeys declarations) (allEdges declarations) (joined declarations) := by
  obtain ⟨hcalls, hmiddle⟩ :=
    Graph.attachCalls_fold_computes (grown_declareAll declarations) (entries declarations)
  obtain ⟨hmetadata, hgrown⟩ :=
    Graph.attachMetadata_fold_computes hmiddle (entries declarations)
  rw [← Graph.attachAll_append] at hmetadata hgrown
  exact ⟨_, hcalls, hmetadata, hgrown⟩

/-- The finished graph has grown from the declared nodes by all edges. -/
theorem grown_assembled :
    Grown (declaredKeys declarations) (allEdges declarations) (assembled declarations) := by
  obtain ⟨_, _, _, hgrown⟩ := attach_folds_compute declarations
  exact ⟨hgrown.contains_iff, hgrown.lawful⟩

/-- **Building comes to the assembled graph**, unless it is told to stop. -/
theorem build_computes : (Graph.build declarations).Computes (assembled declarations) := by
  have hdeclare := Graph.declareNode_fold_computes {} [] declarations
  have hfree : ({} : Graph).free (accepted declarations) = accepted declarations := by
    rw [Graph.free, List.filter_eq_self]
    intro declaration _
    rfl
  rw [hfree] at hdeclare
  have hkeys : sortTexts ((entries declarations).map Prod.fst) = declaredKeys declarations := by
    rw [entries, List.map_map]
    rfl
  obtain ⟨_, hcalls, hmetadata, _⟩ := attach_folds_compute declarations
  refine hdeclare.bind (Run.Computes.after_say ?_)
  rw [List.nil_append, ← entries, hkeys]
  refine hcalls.bind (hmetadata.bind (Run.Computes.after_say ?_))
  exact (Graph.computeStats_computes _).bind (Run.computes_pure _)

end Assembled

section Rounds

variable (declared : List String) (before : List Edge)

theorem callRounds_append (first second : Bodies) :
    callRounds declared before (first ++ second) =
      callRounds declared before first ++
        callRounds declared (before ++ first.flatMap (callEdges declared)) second := by
  induction first generalizing before with
  | nil => simp [callRounds]
  | cons entry first ih => simp [callRounds, ih]

theorem flatMap_edges_callRounds (entries : Bodies) :
    (callRounds declared before entries).flatMap Round.edges =
      entries.flatMap (callEdges declared) := by
  induction entries generalizing before with
  | nil => rfl
  | cons entry entries ih =>
      rw [callRounds, List.flatMap_cons, List.flatMap_cons, ih]
      rfl

theorem map_key_callRounds (entries : Bodies) :
    (callRounds declared before entries).map Round.key = entries.map Prod.fst := by
  induction entries generalizing before with
  | nil => rfl
  | cons entry entries ih =>
      rw [callRounds, List.map_cons, List.map_cons, ih]
      rfl

variable {declared before} {declarations : List Declaration} {name : String} {round : Round}

/-- The rounds of declarations with other keys are at other keys. -/
theorem key_ne_of_mem_callRounds (h : name ∉ declarations.map Declaration.qualifiedName)
    (hround : round ∈ callRounds declared before (declarations.map Declaration.entry)) :
    round.key ≠ name := by
  rintro rfl
  have hkey : round.key ∈
      (callRounds declared before (declarations.map Declaration.entry)).map Round.key :=
    List.mem_map_of_mem hround
  rw [map_key_callRounds, List.map_map] at hkey
  exact h hkey

theorem key_ne_of_mem_metadataRounds (h : name ∉ declarations.map Declaration.qualifiedName)
    (hround : round ∈ (declarations.map Declaration.entry).map (metadataRound declared)) :
    round.key ≠ name := by
  rintro rfl
  rw [List.map_map] at hround
  obtain ⟨declaration, hdeclaration, rfl⟩ := List.mem_map.mp hround
  exact h (List.mem_map_of_mem hdeclaration)

end Rounds

section Views

variable {declarations : List Declaration}

/-- An edge comes from a call site or from a handler of an accepted declaration. -/
theorem mem_allEdges {edge : Edge} : edge ∈ allEdges declarations ↔
    (∃ declaration ∈ accepted declarations, ∃ site ∈ declaration.body.callSites,
      edge ∈ siteEdges (declaredKeys declarations) declaration.qualifiedName site) ∨
    ∃ declaration ∈ accepted declarations, ∃ reference ∈ declaration.body.handlers,
      edge ∈ handlerEdges (declaredKeys declarations) declaration.qualifiedName
        reference.1 reference.2 := by
  simp only [allEdges, entries, List.mem_append, List.mem_flatMap, List.mem_map, callEdges,
    mem_metadataEdges, Declaration.entry, exists_exists_and_eq_and]

/-- A call site that is not open has an edge. -/
theorem siteEdge_mem_allEdges {declaration : Declaration} {site : CallSite}
    (haccepted : declaration ∈ accepted declarations) (hsite : site ∈ declaration.body.callSites)
    (hnamed : site.targetName ≠ Go.Node.anonymousTarget)
    (hclosed : ¬IsOpen (declaredKeys declarations) site.targetName) :
    ⟨declaration.qualifiedName, settledName (declaredKeys declarations) site.targetName,
      site.targetRole.stubRole⟩ ∈ allEdges declarations :=
  mem_allEdges.mpr (Or.inl ⟨declaration, haccepted, site, hsite,
    mem_siteEdges.mpr ⟨hnamed, hclosed, rfl⟩⟩)

/-- A named handler that is not open has an edge. -/
theorem handlerEdge_mem_allEdges {declaration : Declaration}
    {reference : NodeRole × Option String} {name : String}
    (haccepted : declaration ∈ accepted declarations)
    (hreference : reference ∈ declaration.body.handlers) (hname : reference.2 = some name)
    (hclosed : ¬IsOpen (declaredKeys declarations) name) :
    ⟨declaration.qualifiedName, settledName (declaredKeys declarations) name, reference.1⟩ ∈
      allEdges declarations :=
  mem_allEdges.mpr (Or.inr ⟨declaration, haccepted, reference, hreference,
    mem_handlerEdges.mpr ⟨name, hname, hclosed, rfl⟩⟩)

theorem flatMap_edges_allRounds :
    (allRounds declarations).flatMap Round.edges = allEdges declarations := by
  rw [allRounds, List.flatMap_append, flatMap_edges_callRounds, List.flatMap_map]
  rfl

/-- The rounds are at the keys of the accepted declarations, each twice. -/
theorem map_key_allRounds : (allRounds declarations).map Round.key =
    (accepted declarations).map Declaration.qualifiedName ++
      (accepted declarations).map Declaration.qualifiedName := by
  rw [allRounds, List.map_append, map_key_callRounds, List.map_map, entries, List.map_map,
    List.map_map]
  rfl

/-- The finished graph at any key, from the declared nodes and all rounds. -/
theorem get?_assembled (name : String) :
    (assembled declarations).get? name =
      (receive (allEdges declarations) name
        ((({} : Graph).declareAll (accepted declarations)).get? name)).map fun node =>
          { node with body := bodyAfter (allRounds declarations) name node.body } := by
  change (joined declarations).get? name = _
  rw [joined, Graph.get?_attachAll, flatMap_edges_allRounds]
  intro round hround
  have hkey : round.key ∈ (allRounds declarations).map Round.key := List.mem_map_of_mem hround
  rw [map_key_allRounds, List.mem_append, or_self] at hkey
  exact ((grown_declareAll declarations).contains_iff round.key).mpr
    (Or.inl (mem_sortTexts.mpr hkey))

/-- What all rounds leave of a body at the key of one declaration. -/
theorem bodyAfter_allRounds_of_split {before after : List Declaration} {declaration : Declaration}
    (hsplit : accepted declarations = before ++ declaration :: after) :
    bodyAfter (allRounds declarations) declaration.qualifiedName {} =
      settledBody (declaredKeys declarations)
        ((before.map Declaration.entry).flatMap (callEdges (declaredKeys declarations)))
        declaration.entry := by
  have hentries : entries declarations =
      before.map Declaration.entry ++ declaration.entry :: after.map Declaration.entry := by
    rw [entries, hsplit, List.map_append, List.map_cons]
  have hdistinct := nodup_accepted declarations
  rw [hsplit, List.map_append, List.map_cons, List.nodup_middle, List.nodup_cons,
    List.mem_append, not_or] at hdistinct
  obtain ⟨⟨hbefore, hafter⟩, _⟩ := hdistinct
  -- A round has the key of some declaration, so no other round is at this key.
  have hcalls : ∀ body, bodyAfter (callRounds (declaredKeys declarations) []
        (entries declarations)) declaration.qualifiedName body =
      (callRound (declaredKeys declarations)
        ((before.map Declaration.entry).flatMap (callEdges (declaredKeys declarations)))
        declaration.entry).change body := by
    intro body
    rw [hentries, callRounds_append, callRounds]
    exact bodyAfter_of_single body rfl (fun _ => key_ne_of_mem_callRounds hbefore)
      fun _ => key_ne_of_mem_callRounds hafter
  have hmetadata : ∀ body, bodyAfter ((entries declarations).map
        (metadataRound (declaredKeys declarations))) declaration.qualifiedName body =
      (metadataRound (declaredKeys declarations) declaration.entry).change body := by
    intro body
    rw [hentries, List.map_append, List.map_cons]
    exact bodyAfter_of_single body rfl (fun _ => key_ne_of_mem_metadataRounds hbefore)
      fun _ => key_ne_of_mem_metadataRounds hafter
  rw [allRounds, bodyAfter_append, hcalls, hmetadata]
  rfl

/-- **A declared node.**  It keeps what its declaration says; its callers are those of the edges
to it, and its body is settled after the call sites of the declarations before it. -/
theorem get?_assembled_of_split {before after : List Declaration} {declaration : Declaration}
    (hsplit : accepted declarations = before ++ declaration :: after) :
    (assembled declarations).get? declaration.qualifiedName =
      some { declaration.node with
        parents := gather [] (callersOf (allEdges declarations) declaration.qualifiedName)
        body := settledBody (declaredKeys declarations)
          ((before.map Declaration.entry).flatMap (callEdges (declaredKeys declarations)))
          declaration.entry } := by
  have hmem : declaration ∈ accepted declarations := by rw [hsplit]; simp
  have hnode := Graph.get?_declareAll_of_mem (nodup_accepted declarations) hmem {}
  rw [get?_assembled, hnode, receive, Option.map_some]
  simp only [Declaration.node, bodyAfter_allRounds_of_split hsplit]

/-- **A synthesized node.**  A key that is not declared has a node if an edge leads to it: a stub
with the role of the first such edge, and with the callers of all of them. -/
theorem get?_assembled_of_not_mem {name : String} (h : name ∉ declaredKeys declarations) :
    (assembled declarations).get? name =
      ((allEdges declarations).find? fun edge => edge.target = name).map fun first =>
        { GraphNode.synthesized name first.role with
          parents := gather [] (callersOf (allEdges declarations) name) } := by
  have hkeys : name ∉ (accepted declarations).map Declaration.qualifiedName :=
    fun hmem => h (mem_sortTexts.mpr hmem)
  have hbody : ∀ body, bodyAfter (allRounds declarations) name body = body := by
    intro body
    apply bodyAfter_eq_self
    rintro round hround rfl
    have hkey : round.key ∈ (allRounds declarations).map Round.key := List.mem_map_of_mem hround
    rw [map_key_allRounds, List.mem_append, or_self] at hkey
    exact hkeys hkey
  rw [get?_assembled, Graph.get?_declareAll_of_not_mem hkeys]
  simp only [hbody]
  exact congrFun Option.map_id _

end Views

end WorkflowGraph
