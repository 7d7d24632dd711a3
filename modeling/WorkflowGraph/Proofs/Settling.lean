import Mathlib.Data.List.Forall2
import WorkflowGraph.Proofs.Names

/-!
# Settled names and their edges

A call site or a handler names a node.  Once `reading` has said what the name stands for, nothing
else is open: the name it ends up with is `settledName`, and the edge it gives, if the name is not
ambiguous, leads from the caller to that name.  This module says so for single names, for the
call sites and handlers of a body, and for a whole body.

Only one thing depends on what came before.  A call site whose target stands for nothing is
resolved as `stub` if it is the first to name that target, and as `exact` if an earlier edge has
made a node of it; `settledSite` is told the earlier edges for this alone.
-/

namespace WorkflowGraph

section Settling

variable (declared : List String)

/-- The key that a name stands for, or the name itself if it is open or stands for nothing. -/
def settledName (name : String) : String :=
  match reading declared name with
  | .found _ key => key
  | _ => name

/-- The edge that a name gives rise to: none if it is open. -/
def edge? (caller : String) (role : NodeRole) (name : String) : Option Edge :=
  match reading declared name with
  | .found _ key => some ⟨caller, key, role⟩
  | .ambiguous _ => none
  | .missing => some ⟨caller, name, role⟩

/-- The edges of a call site, at most one. -/
def siteEdges (caller : String) (site : CallSite) : List Edge :=
  if site.targetName = Go.Node.anonymousTarget then []
  else (edge? declared caller site.targetRole.stubRole site.targetName).toList

/-- The edges of a handler, at most one. -/
def handlerEdges (caller : String) (role : NodeRole) (handler : Option String) : List Edge :=
  (handler.bind (edge? declared caller role)).toList

/-- The call site as it is resolved after the edges `before`. -/
def settledSite (before : List Edge) (site : CallSite) : CallSite :=
  if site.targetName = Go.Node.anonymousTarget then { site with resolution := .unresolved }
  else
    match reading declared site.targetName with
    | .found resolution key => { site with targetName := key, resolution }
    | .ambiguous _ => { site with resolution := .unresolved }
    | .missing =>
      { site with
        resolution := if ∃ edge ∈ before, edge.target = site.targetName then .exact else .stub }

/-- The call sites of a caller as they are resolved one after the other. -/
def settledSites (caller : String) (before : List Edge) : List CallSite → List CallSite
  | [] => []
  | site :: sites =>
    settledSite declared before site ::
      settledSites caller (before ++ siteEdges declared caller site) sites

/-- Resolves the handlers in a list of definitions. -/
def settledHandlers {α : Type} (handler : α → Option String)
    (withHandler : α → Option String → α) (items : List α) : List α :=
  items.map fun item => withHandler item ((handler item).map (settledName declared))

/-- The edges of all call sites of an entry. -/
def callEdges (entry : String × Body) : List Edge :=
  entry.2.callSites.flatMap (siteEdges declared entry.1)

/-- The edges of all handlers of an entry: signals, then queries, then updates. -/
def metadataEdges (entry : String × Body) : List Edge :=
  entry.2.signals.flatMap (fun signal =>
      handlerEdges declared entry.1 .signalHandler signal.handler) ++
    entry.2.queries.flatMap (fun query =>
      handlerEdges declared entry.1 .queryHandler query.handler) ++
    entry.2.updates.flatMap (fun update =>
      handlerEdges declared entry.1 .updateHandler update.handler)

/-- The round of an entry in the loop over call sites. -/
def callRound (before : List Edge) (entry : String × Body) : Round where
  key := entry.1
  edges := callEdges declared entry
  change body := { body with
    callSites := settledSites declared entry.1 before entry.2.callSites }

/-- The body of a declared node; its call sites are settled after the edges `before`. -/
def settledBody (before : List Edge) (entry : String × Body) : Body :=
  { entry.2 with
    callSites := settledSites declared entry.1 before entry.2.callSites
    signals := settledHandlers declared Signal.handler
      (fun signal handler => { signal with handler }) entry.2.signals
    queries := settledHandlers declared Query.handler
      (fun query handler => { query with handler }) entry.2.queries
    updates := settledHandlers declared Update.handler
      (fun update handler => { update with handler }) entry.2.updates }

/-- The round of an entry in the loop over handlers. -/
def metadataRound (entry : String × Body) : Round where
  key := entry.1
  edges := metadataEdges declared entry
  change body := { settledBody declared [] entry with callSites := body.callSites }

/-- The rounds of several entries in the loop over call sites. -/
def callRounds (before : List Edge) : Bodies → List Round
  | [] => []
  | entry :: entries =>
    callRound declared before entry :: callRounds (before ++ callEdges declared entry) entries

end Settling

/-- A name that could be several keys. -/
def IsOpen (declared : List String) (name : String) : Prop :=
  ∃ count, reading declared name = .ambiguous count

section Names

variable {declared : List String} {caller name : String} {role : NodeRole} {edge : Edge}

/-- A name gives an edge to what it is settled as, unless it is open. -/
theorem edge?_eq_some_iff : edge? declared caller role name = some edge ↔
    ¬IsOpen declared name ∧ edge = ⟨caller, settledName declared name, role⟩ := by
  unfold edge? IsOpen settledName
  cases reading declared name <;> simp [eq_comm]

theorem mem_siteEdges {site : CallSite} : edge ∈ siteEdges declared caller site ↔
    site.targetName ≠ Go.Node.anonymousTarget ∧ ¬IsOpen declared site.targetName ∧
      edge = ⟨caller, settledName declared site.targetName, site.targetRole.stubRole⟩ := by
  unfold siteEdges
  by_cases hanonymous : site.targetName = Go.Node.anonymousTarget
  · simp [hanonymous]
  · rw [if_neg hanonymous, Option.mem_toList, edge?_eq_some_iff]
    simp [hanonymous]

theorem mem_handlerEdges {handler : Option String} :
    edge ∈ handlerEdges declared caller role handler ↔
      ∃ name, handler = some name ∧ ¬IsOpen declared name ∧
        edge = ⟨caller, settledName declared name, role⟩ := by
  rw [handlerEdges, Option.mem_toList, Option.bind_eq_some_iff]
  simp only [edge?_eq_some_iff]

theorem settledName_of_found {resolution : Resolution} {key : String}
    (h : reading declared name = .found resolution key) : settledName declared name = key := by
  rw [settledName, h]

theorem settledName_of_missing (h : reading declared name = .missing) :
    settledName declared name = name := by
  rw [settledName, h]

theorem settledName_of_open (h : IsOpen declared name) : settledName declared name = name := by
  obtain ⟨count, hreading⟩ := h
  rw [settledName, hreading]

theorem not_isOpen_of_missing (h : reading declared name = .missing) :
    ¬IsOpen declared name := by
  rintro ⟨count, hcount⟩
  rw [h] at hcount
  cases hcount

/-- A name is settled as a declared key or as itself. -/
theorem settledName_mem_or_eq (declared : List String) (name : String) :
    settledName declared name ∈ declared ∨ settledName declared name = name := by
  cases hreading : reading declared name with
  | found resolution key =>
      rw [settledName_of_found hreading]
      exact Or.inl (mem_of_reading_found hreading)
  | ambiguous count => exact Or.inr (settledName_of_open ⟨count, hreading⟩)
  | missing => exact Or.inr (settledName_of_missing hreading)

/-- What is not open is settled as a declared key, or as itself because it stands for nothing. -/
theorem lawful_settledName (h : ¬IsOpen declared name) :
    settledName declared name ∈ declared ∨
      reading declared (settledName declared name) = .missing := by
  cases hreading : reading declared name with
  | found resolution key =>
      rw [settledName_of_found hreading]
      exact Or.inl (mem_of_reading_found hreading)
  | ambiguous count => exact absurd ⟨count, hreading⟩ h
  | missing =>
      rw [settledName_of_missing hreading]
      exact Or.inr hreading

theorem lawful_of_mem_siteEdges {site : CallSite} (h : edge ∈ siteEdges declared caller site) :
    edge.target ∈ declared ∨ reading declared edge.target = .missing := by
  obtain ⟨_, hclosed, rfl⟩ := mem_siteEdges.mp h
  exact lawful_settledName hclosed

theorem lawful_of_mem_handlerEdges {handler : Option String}
    (h : edge ∈ handlerEdges declared caller role handler) :
    edge.target ∈ declared ∨ reading declared edge.target = .missing := by
  obtain ⟨name, _, hclosed, rfl⟩ := mem_handlerEdges.mp h
  exact lawful_settledName hclosed

end Names

section Sites

variable {declared : List String} (before : List Edge) {site : CallSite}

theorem settledSite_of_anonymous (h : site.targetName = Go.Node.anonymousTarget) :
    settledSite declared before site = { site with resolution := .unresolved } :=
  if_pos h

theorem settledSite_of_found {resolution : Resolution} {key : String}
    (hnamed : site.targetName ≠ Go.Node.anonymousTarget)
    (h : reading declared site.targetName = .found resolution key) :
    settledSite declared before site = { site with targetName := key, resolution } := by
  rw [settledSite, if_neg hnamed, h]

theorem settledSite_of_open (hnamed : site.targetName ≠ Go.Node.anonymousTarget)
    (h : IsOpen declared site.targetName) :
    settledSite declared before site = { site with resolution := .unresolved } := by
  obtain ⟨count, hreading⟩ := h
  rw [settledSite, if_neg hnamed, hreading]

theorem settledSite_of_missing (hnamed : site.targetName ≠ Go.Node.anonymousTarget)
    (h : reading declared site.targetName = .missing) :
    settledSite declared before site =
      { site with
        resolution := if ∃ edge ∈ before, edge.target = site.targetName then .exact else .stub } := by
  rw [settledSite, if_neg hnamed, h]

/-- The target of a settled site is the settled name. -/
theorem targetName_settledSite (hnamed : site.targetName ≠ Go.Node.anonymousTarget) :
    (settledSite declared before site).targetName = settledName declared site.targetName := by
  unfold settledSite settledName
  rw [if_neg hnamed]
  cases reading declared site.targetName <;> rfl

/-- A site stays unresolved when it names nobody or could name several. -/
theorem resolution_settledSite_eq_unresolved_iff :
    (settledSite declared before site).resolution = .unresolved ↔
      site.targetName = Go.Node.anonymousTarget ∨ IsOpen declared site.targetName := by
  by_cases hnamed : site.targetName = Go.Node.anonymousTarget
  · simp [settledSite_of_anonymous before hnamed, hnamed]
  · cases hreading : reading declared site.targetName with
    | found resolution key =>
        rw [settledSite_of_found before hnamed hreading]
        rcases resolution_of_reading_found hreading with rfl | rfl <;>
          simp [hnamed, IsOpen, hreading]
    | ambiguous count =>
        rw [settledSite_of_open before hnamed ⟨count, hreading⟩]
        simp [IsOpen, hreading]
    | missing =>
        rw [settledSite_of_missing before hnamed hreading]
        by_cases hedge : ∃ edge ∈ before, edge.target = site.targetName <;>
          simp [hnamed, IsOpen, hreading, hedge]

/-- No settled site is pending. -/
theorem resolution_settledSite_ne_pending :
    (settledSite declared before site).resolution ≠ .pending := by
  by_cases hnamed : site.targetName = Go.Node.anonymousTarget
  · simp [settledSite_of_anonymous before hnamed]
  · cases hreading : reading declared site.targetName with
    | found resolution key =>
        rw [settledSite_of_found before hnamed hreading]
        rcases resolution_of_reading_found hreading with rfl | rfl <;> simp
    | ambiguous count =>
        rw [settledSite_of_open before hnamed ⟨count, hreading⟩]
        simp
    | missing =>
        rw [settledSite_of_missing before hnamed hreading]
        by_cases hedge : ∃ edge ∈ before, edge.target = site.targetName <;> simp [hedge]

/-- What holds between a site and its settled form, after whatever edges, holds site by site. -/
theorem forall₂_settledSites {relation : CallSite → CallSite → Prop} {sites : List CallSite}
    (caller : String)
    (h : ∀ site ∈ sites, ∀ before, relation site (settledSite declared before site)) :
    List.Forall₂ relation sites (settledSites declared caller before sites) := by
  induction sites generalizing before with
  | nil => exact .nil
  | cons site sites ih =>
      exact .cons (h site List.mem_cons_self before)
        (ih _ fun other hother => h other (List.mem_cons_of_mem _ hother))

/-- The settled sites are settled forms of the sites. -/
theorem exists_of_mem_settledSites {settled : CallSite} {sites : List CallSite} {caller : String}
    (h : settled ∈ settledSites declared caller before sites) :
    ∃ site ∈ sites, ∃ earlier, settled = settledSite declared earlier site := by
  induction sites generalizing before with
  | nil => cases h
  | cons site sites ih =>
      rcases List.mem_cons.mp h with rfl | hlater
      · exact ⟨site, List.mem_cons_self, before, rfl⟩
      · obtain ⟨other, hother, earlier, rfl⟩ := ih _ hlater
        exact ⟨other, List.mem_cons_of_mem _ hother, earlier, rfl⟩

/-- Every site has a settled form among the settled sites. -/
theorem exists_settledSite_mem {sites : List CallSite} (caller : String) (h : site ∈ sites) :
    ∃ earlier, settledSite declared earlier site ∈ settledSites declared caller before sites := by
  induction sites generalizing before with
  | nil => cases h
  | cons first sites ih =>
      rcases List.mem_cons.mp h with rfl | hlater
      · exact ⟨before, List.mem_cons_self⟩
      · obtain ⟨earlier, hearlier⟩ := ih (before ++ siteEdges declared caller first) hlater
        exact ⟨earlier, List.mem_cons_of_mem _ hearlier⟩

end Sites

/-- The handlers that a body names, with the roles of the stubs that they may need: those of its
signals, then of its queries, then of its updates. -/
def Body.handlers (body : Body) : List (NodeRole × Option String) :=
  body.signals.map (fun signal => (.signalHandler, signal.handler)) ++
    body.queries.map (fun query => (.queryHandler, query.handler)) ++
    body.updates.map (fun update => (.updateHandler, update.handler))

theorem mem_metadataEdges {declared : List String} {entry : String × Body} {edge : Edge} :
    edge ∈ metadataEdges declared entry ↔
      ∃ reference ∈ entry.2.handlers,
        edge ∈ handlerEdges declared entry.1 reference.1 reference.2 := by
  simp only [metadataEdges, Body.handlers, List.mem_append, List.mem_flatMap, List.mem_map,
    or_and_right, exists_or, exists_exists_and_eq_and]

/-- The handlers of a settled body are the settled handlers. -/
theorem handlers_settledBody (declared : List String) (before : List Edge)
    (entry : String × Body) :
    (settledBody declared before entry).handlers =
      entry.2.handlers.map fun reference =>
        (reference.1, reference.2.map (settledName declared)) := by
  simp [settledBody, Body.handlers, settledHandlers, Function.comp_def]

end WorkflowGraph
