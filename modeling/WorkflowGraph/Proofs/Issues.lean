import WorkflowGraph.Proofs.CycleSearch
import WorkflowGraph.Proofs.Names
import WorkflowGraph.Validation

/-!
# What the five checks find

Each check goes through the keys in order and collects issues.  What it collects is said here as a
value, key by key, and `Graph.issuesOf` puts the five together: this is what `Graph.validate`
computes.  Then every check is compared with the condition that it is there for: a check finds
nothing exactly if its condition holds of the graph (`Graph.WithinLimits`, `Graph.HasCycle`).
-/

namespace WorkflowGraph

open Number (natText)

namespace Graph

variable (graph : Graph)

/-- The issue of a node that stands alone. -/
def orphansAt (name : String) : List Issue :=
  if graph.isOrphanName name then [.orphan name] else []

/-- The issue of a chain that is too deep. -/
def deepChainsAt (limit : Nat) (name : String) : List Issue :=
  if graph.depth name > limit then [.deepChain name (graph.depth name) limit] else []

/-- The issue of a node that makes too many calls. -/
def fanOutsAt (limit : Nat) (name : String) : List Issue :=
  if (graph.sitesOf name).length > limit
  then [.highFanOut name (graph.sitesOf name).length limit] else []

/-- The issues of the calls of a node whose arguments do not fit. -/
def mismatchesAt (name : String) : List Issue :=
  (graph.sitesOf name).flatMap fun site => (graph.mismatch? name site).toList

/-- The warnings about a graph. -/
def warningsOf (settings : ValidationSettings) : List Issue :=
  graph.sortedNames.flatMap graph.orphansAt ++
    graph.sortedRoots.flatMap (graph.deepChainsAt settings.maxDepth) ++
    graph.sortedNames.flatMap (graph.fanOutsAt settings.maxFanOut) ++
    if settings.checkSignatures then graph.sortedNames.flatMap graph.mismatchesAt else []

/-- All issues of a graph, as a value. -/
def issuesOf (settings : ValidationSettings) : List Issue :=
  graph.sortedNames.flatMap graph.orphansAt ++
    graph.foundCycles.map .cycle ++
    graph.sortedRoots.flatMap (graph.deepChainsAt settings.maxDepth) ++
    graph.sortedNames.flatMap (graph.fanOutsAt settings.maxFanOut) ++
    if settings.checkSignatures then graph.sortedNames.flatMap graph.mismatchesAt else []

theorem checkOrphans_computes :
    graph.checkOrphans.Computes (graph.sortedNames.flatMap graph.orphansAt) := by
  refine Run.computes_collect ?_ graph.sortedNames []
  intro issues name
  refine Run.Computes.after_poll ?_
  unfold orphansAt
  split
  · exact Run.computes_pure _
  · rw [List.append_nil]
    exact Run.computes_pure _

theorem checkDepth_computes (limit : Nat) :
    (graph.checkDepth limit).Computes (graph.sortedRoots.flatMap (graph.deepChainsAt limit)) := by
  refine Run.computes_collect ?_ graph.sortedRoots []
  intro issues name
  refine (graph.chainDepth_computes name).bind ?_
  unfold deepChainsAt
  split
  · exact Run.computes_pure _
  · rw [List.append_nil]
    exact Run.computes_pure _

theorem checkFanOut_computes (limit : Nat) :
    (graph.checkFanOut limit).Computes (graph.sortedNames.flatMap (graph.fanOutsAt limit)) := by
  refine Run.computes_collect ?_ graph.sortedNames []
  intro issues name
  refine Run.Computes.after_poll ?_
  by_cases hlimit : (graph.sitesOf name).length > limit
  · simp only [fanOutsAt, if_pos hlimit]
    exact Run.computes_pure _
  · simp only [fanOutsAt, if_neg hlimit, List.append_nil]
    exact Run.computes_pure _

theorem checkArguments_computes :
    graph.checkArguments.Computes (graph.sortedNames.flatMap graph.mismatchesAt) := by
  refine Run.computes_collect ?_ graph.sortedNames []
  intro issues name
  refine Run.computes_collect ?_ (graph.sitesOf name) issues
  intro collected site
  exact (Run.computes_pure _).after_poll

/-- **What validation computes.** -/
theorem validate_computes (settings : ValidationSettings) :
    (graph.validate settings).Computes (graph.issuesOf settings) := by
  refine graph.checkOrphans_computes.bind ?_
  refine Run.Computes.bind (graph.findCycles_computes.bind (Run.computes_pure _)) ?_
  refine (graph.checkDepth_computes settings.maxDepth).bind ?_
  refine (graph.checkFanOut_computes settings.maxFanOut).bind ?_
  unfold issuesOf
  split
  · exact graph.checkArguments_computes.bind (Run.computes_pure _)
  · exact (Run.computes_pure []).bind (Run.computes_pure _)

variable {graph}

theorem mem_sortedNames {name : String} :
    name ∈ graph.sortedNames ↔ ∃ node, graph.get? name = some node := by
  rw [sortedNames, Table.sortedKeys, mem_sortTexts, Table.mem_keys_iff]
  rfl

theorem mem_sortedRoots {name : String} :
    name ∈ graph.sortedRoots ↔ ∃ node, graph.get? name = some node ∧ node.parents = [] := by
  rw [sortedRoots, List.mem_filter, mem_sortedNames]
  unfold isRootName
  cases graph.get? name <;> simp [GraphNode.isRoot]

/-- What is not found at any key is not found at any node. -/
theorem flatMap_sortedNames_eq_nil_iff {found : String → List Issue} :
    graph.sortedNames.flatMap found = [] ↔
      ∀ name node, graph.get? name = some node → found name = [] := by
  rw [List.flatMap_eq_nil_iff]
  constructor
  · intro h name node hnode
    exact h name (mem_sortedNames.mpr ⟨node, hnode⟩)
  · intro h name hname
    obtain ⟨node, hnode⟩ := mem_sortedNames.mp hname
    exact h name node hnode

/-- A parameter that takes any number of arguments. -/
def IsVariadic (parameter : Parameter) : Prop := ∃ type, parameter.typeName = "..." ++ type

/-- A parameter for a context. -/
def IsContext (parameter : Parameter) : Prop :=
  ∃ package, parameter.typeName = package ++ "Context"

instance (parameter : Parameter) : Decidable (IsContext parameter) :=
  decidable_of_iff _ Text.endsWith_iff

/-- How many arguments a caller gives to a node with parameters: one for each, but none for a
context that comes first. -/
def payloadArity (first : Parameter) (others : List Parameter) : Nat :=
  if IsContext first then others.length else others.length + 1

/-- The arguments of a call fit its target, or nothing is known of them: the target is a stub, has
no parameters or takes any number of arguments. -/
def ArgumentsFit (site : CallSite) (target : GraphNode) : Prop :=
  ∀ first others, target.isStub = false → target.parameters = first :: others →
    (∀ parameter ∈ target.parameters, ¬IsVariadic parameter) →
      site.argumentCount = payloadArity first others

/-- What a graph has to be, apart from being without cycles, for validation to find nothing. -/
structure WithinLimits (graph : Graph) (settings : ValidationSettings) : Prop where
  /-- No node stands alone. -/
  orphans : ∀ name node, graph.get? name = some node →
    ¬(node.parents = [] ∧ node.callSites = [])
  /-- No path of calls from a node without parents is too long. -/
  depth : ∀ name node, graph.get? name = some node → node.parents = [] →
    ∀ rest, graph.CallPath (name :: rest) → (name :: rest).length ≤ settings.maxDepth
  /-- No node makes too many calls. -/
  fanOut : ∀ name node, graph.get? name = some node →
    node.callSites.length ≤ settings.maxFanOut
  /-- Where it is asked for, the arguments of every call fit. -/
  arguments : settings.checkSignatures = true →
    ∀ name node, graph.get? name = some node → ∀ site ∈ node.callSites,
      ∀ target, graph.get? site.targetName = some target → ArgumentsFit site target

end Graph

theorem Text.startsWith_iff {start text : String} :
    startsWith start text = true ↔ ∃ after, text = start ++ after := by
  rw [startsWith, List.isPrefixOf_iff_prefix]
  constructor
  · rintro ⟨after, hjoin⟩
    refine ⟨String.ofList after, ?_⟩
    rw [← String.toList_inj, String.toList_append, String.toList_ofList, hjoin]
  · rintro ⟨after, rfl⟩
    exact ⟨after.toList, by rw [String.toList_append]⟩

namespace Graph

variable {graph : Graph}

/-- The arity that a check compares with, where there is one. -/
theorem payloadArity?_eq_some_iff {target : GraphNode} {expected : Nat} :
    target.payloadArity? = some expected ↔
      target.isStub = false ∧ (∀ parameter ∈ target.parameters, ¬IsVariadic parameter) ∧
        ∃ first others, target.parameters = first :: others ∧
          expected = payloadArity first others := by
  unfold GraphNode.payloadArity? payloadArity IsVariadic IsContext
  cases hparameters : target.parameters with
  | nil => simp
  | cons first others =>
      simp only [← Text.startsWith_iff, ← Text.endsWith_iff]
      by_cases hstub : target.isStub = true
      · simp [hstub]
      by_cases hvariadic : (first :: others).any
          (fun parameter => Text.startsWith "..." parameter.typeName) = true
      · rw [if_neg hstub, if_pos hvariadic]
        obtain ⟨parameter, hmem, hstarts⟩ := List.any_eq_true.mp hvariadic
        constructor
        · intro h
          cases h
        · rintro ⟨_, hnone, _⟩
          exact absurd hstarts (hnone parameter hmem)
      · rw [if_neg hstub, if_neg hvariadic]
        have hnone : ∀ parameter ∈ first :: others,
            ¬Text.startsWith "..." parameter.typeName = true := by
          intro parameter hmem hstarts
          exact hvariadic (List.any_eq_true.mpr ⟨parameter, hmem, hstarts⟩)
        constructor
        · intro h
          refine ⟨by simpa using hstub, hnone, first, others, rfl, ?_⟩
          rw [← Option.some.inj h]
          split <;> rfl
        · rintro ⟨_, _, _, _, hcons, rfl⟩
          obtain ⟨rfl, rfl⟩ := List.cons.inj hcons
          split <;> rfl

theorem mismatch?_eq_none_iff {name : String} {site : CallSite} :
    graph.mismatch? name site = none ↔
      ∀ target, graph.get? site.targetName = some target → ArgumentsFit site target := by
  unfold mismatch? ArgumentsFit
  cases htarget : graph.get? site.targetName with
  | none => simp
  | some target =>
      simp only [Option.some.injEq, forall_eq']
      cases hexpected : target.payloadArity? with
      | none =>
          simp only [true_iff]
          intro first others hstub hparameters hvariadic
          have hsome := payloadArity?_eq_some_iff.mpr
            ⟨hstub, hvariadic, first, others, hparameters, rfl⟩
          rw [hexpected] at hsome
          cases hsome
      | some expected =>
          obtain ⟨hstub, hvariadic, first, others, hparameters, rfl⟩ :=
            payloadArity?_eq_some_iff.mp hexpected
          constructor
          · intro h first' others' _ hsame _
            obtain ⟨rfl, rfl⟩ := List.cons.inj (hparameters.symm.trans hsame)
            by_contra hne
            simp [hne] at h
          · intro h
            exact if_pos (h first others hstub hparameters hvariadic)

/-- No node stands alone exactly if the first check finds nothing. -/
theorem orphans_eq_nil_iff : graph.sortedNames.flatMap graph.orphansAt = [] ↔
    ∀ name node, graph.get? name = some node → ¬(node.parents = [] ∧ node.callSites = []) := by
  rw [flatMap_sortedNames_eq_nil_iff]
  refine forall_congr' fun name => forall_congr' fun node => forall_congr' fun hnode => ?_
  have horphan : graph.isOrphanName name = node.isOrphan := by rw [isOrphanName, hnode]
  simp [orphansAt, horphan, GraphNode.isOrphan, GraphNode.isRoot]

/-- No chain is too deep exactly if the third check finds nothing. -/
theorem deepChains_eq_nil_iff {limit : Nat} :
    graph.sortedRoots.flatMap (graph.deepChainsAt limit) = [] ↔
      ∀ name node, graph.get? name = some node → node.parents = [] →
        ∀ rest, graph.CallPath (name :: rest) → (name :: rest).length ≤ limit := by
  rw [List.flatMap_eq_nil_iff]
  have hdeep : ∀ name, graph.contains name = true → (graph.deepChainsAt limit name = [] ↔
      ∀ rest, graph.CallPath (name :: rest) → (name :: rest).length ≤ limit) := by
    intro name hname
    rw [← depth_le_iff hname, deepChainsAt]
    simp
  constructor
  · intro h name node hnode hparents
    exact (hdeep name (contains_of_get? hnode)).mp (h name (mem_sortedRoots.mpr ⟨node, hnode, hparents⟩))
  · intro h name hmem
    obtain ⟨node, hnode, hparents⟩ := mem_sortedRoots.mp hmem
    exact (hdeep name (contains_of_get? hnode)).mpr (h name node hnode hparents)

/-- No node makes too many calls exactly if the fourth check finds nothing. -/
theorem fanOuts_eq_nil_iff {limit : Nat} :
    graph.sortedNames.flatMap (graph.fanOutsAt limit) = [] ↔
      ∀ name node, graph.get? name = some node → node.callSites.length ≤ limit := by
  rw [flatMap_sortedNames_eq_nil_iff]
  refine forall_congr' fun name => forall_congr' fun node => forall_congr' fun hnode => ?_
  have hsites : graph.sitesOf name = node.callSites := by rw [sitesOf, hnode]
  simp [fanOutsAt, hsites]

/-- All arguments fit exactly if the fifth check finds nothing. -/
theorem mismatches_eq_nil_iff : graph.sortedNames.flatMap graph.mismatchesAt = [] ↔
    ∀ name node, graph.get? name = some node → ∀ site ∈ node.callSites,
      ∀ target, graph.get? site.targetName = some target → ArgumentsFit site target := by
  rw [flatMap_sortedNames_eq_nil_iff]
  refine forall_congr' fun name => forall_congr' fun node => forall_congr' fun hnode => ?_
  have hsites : graph.sitesOf name = node.callSites := by rw [sitesOf, hnode]
  rw [mismatchesAt, hsites, List.flatMap_eq_nil_iff]
  simp only [Option.toList_eq_nil_iff, mismatch?_eq_none_iff]

/-- **No warning exactly within all limits.** -/
theorem warningsOf_eq_nil_iff {settings : ValidationSettings} :
    graph.warningsOf settings = [] ↔ graph.WithinLimits settings := by
  have harguments : (if settings.checkSignatures = true
        then graph.sortedNames.flatMap graph.mismatchesAt else []) = [] ↔
      (settings.checkSignatures = true → graph.sortedNames.flatMap graph.mismatchesAt = []) := by
    split <;> simp_all
  rw [warningsOf, List.append_eq_nil_iff, List.append_eq_nil_iff, List.append_eq_nil_iff,
    harguments, orphans_eq_nil_iff, deepChains_eq_nil_iff, fanOuts_eq_nil_iff,
    mismatches_eq_nil_iff]
  exact ⟨fun ⟨⟨⟨h1, h2⟩, h3⟩, h4⟩ => ⟨h1, h2, h3, h4⟩,
    fun ⟨h1, h2, h3, h4⟩ => ⟨⟨⟨h1, h2⟩, h3⟩, h4⟩⟩

/-- The issues are the warnings, and one error for each cycle that was found. -/
theorem mem_issuesOf {settings : ValidationSettings} {issue : Issue} :
    issue ∈ graph.issuesOf settings ↔
      issue ∈ graph.warningsOf settings ∨ issue ∈ graph.foundCycles.map .cycle := by
  simp only [issuesOf, warningsOf, List.mem_append]
  tauto

theorem eq_of_mem_ite {α : Type} {condition : Prop} [Decidable condition] {a b : α}
    (h : a ∈ if condition then [b] else []) : a = b := by
  split at h
  · exact List.mem_singleton.mp h
  · cases h

/-- The last check warns of calls of the node that it looks at. -/
theorem eq_of_mem_mismatchesAt {name : String} {issue : Issue}
    (h : issue ∈ graph.mismatchesAt name) :
    ∃ site target expected, issue = .argumentMismatch name site target expected := by
  obtain ⟨site, _, h⟩ := List.mem_flatMap.mp h
  rw [Option.mem_toList] at h
  unfold mismatch? at h
  split at h
  · cases h
  · split at h
    · cases h
    · split at h
      · cases h
      · exact ⟨site, _, _, (Option.some.inj h).symm⟩

theorem kind_of_mem_warningsOf {settings : ValidationSettings} {issue : Issue}
    (h : issue ∈ graph.warningsOf settings) : issue.kind = .warning := by
  simp only [warningsOf, List.mem_append, List.mem_flatMap] at h
  rcases h with ((⟨name, _, h⟩ | ⟨name, _, h⟩) | ⟨name, _, h⟩) | h
  · rw [eq_of_mem_ite h]
    rfl
  · rw [eq_of_mem_ite h]
    rfl
  · rw [eq_of_mem_ite h]
    rfl
  · split at h
    · obtain ⟨name, _, h⟩ := List.mem_flatMap.mp h
      obtain ⟨site, target, expected, rfl⟩ := eq_of_mem_mismatchesAt h
      rfl
    · cases h

end Graph

end WorkflowGraph
