import WorkflowGraph.Graph.Basic
import WorkflowGraph.Proofs.Rounding
import WorkflowGraph.Proofs.Tables

/-!
# The numbers of a graph

A document can hold counts and integers of 64 bits and finite floating-point numbers.  `numbers`
collects, record by record, all numbers that a graph is made of, so that conditions on them are
stated once: `Numbers.Fit` says that they are what a machine holds.

What a document cannot hold is an infinite number.  `asRead` is the graph without the infinite
backoff coefficients, and it is the graph itself exactly if there are none
(`Graph.asRead_eq_self_iff`).
-/

namespace WorkflowGraph

open Number (Binary64)

/-- In canonical form, if the number is finite. -/
def Number.Binary64.IsValid : Binary64 → Prop
  | .finite _ mantissa exponent => Binary64.IsCanonical mantissa exponent
  | .infinite _ => True

instance : DecidablePred Binary64.IsValid
  | .finite _ mantissa exponent => inferInstanceAs (Decidable (Binary64.IsCanonical mantissa exponent))
  | .infinite _ => inferInstanceAs (Decidable True)

/-- Numbers of the three kinds that a graph knows. -/
structure Numbers where
  counts : List Nat := []
  integers : List Int := []
  floats : List Binary64 := []

namespace Numbers

instance : Append Numbers :=
  ⟨fun a b => ⟨a.counts ++ b.counts, a.integers ++ b.integers, a.floats ++ b.floats⟩⟩

/-- The numbers of all items of a list. -/
def ofAll {α : Type} (numbers : α → Numbers) (items : List α) : Numbers where
  counts := items.flatMap fun item => (numbers item).counts
  integers := items.flatMap fun item => (numbers item).integers
  floats := items.flatMap fun item => (numbers item).floats

/-- Every number meets the condition for its kind. -/
structure All (count : Nat → Prop) (integer : Int → Prop) (float : Binary64 → Prop)
    (numbers : Numbers) : Prop where
  counts : ∀ n ∈ numbers.counts, count n
  integers : ∀ n ∈ numbers.integers, integer n
  floats : ∀ x ∈ numbers.floats, float x

instance {count : Nat → Prop} {integer : Int → Prop} {float : Binary64 → Prop}
    [DecidablePred count] [DecidablePred integer] [DecidablePred float] (numbers : Numbers) :
    Decidable (numbers.All count integer float) :=
  decidable_of_iff ((∀ n ∈ numbers.counts, count n) ∧ (∀ n ∈ numbers.integers, integer n) ∧
      ∀ x ∈ numbers.floats, float x)
    ⟨fun h => ⟨h.1, h.2.1, h.2.2⟩, fun h => ⟨h.counts, h.integers, h.floats⟩⟩

/-- The numbers are what a machine holds: 64 bits, and floating-point numbers in their form. -/
def Fit (numbers : Numbers) : Prop :=
  numbers.All (· < 2 ^ 64) (Number.fitsSigned · = true) Binary64.IsValid

instance (numbers : Numbers) : Decidable numbers.Fit :=
  inferInstanceAs (Decidable (numbers.All _ _ _))

section All

variable {count : Nat → Prop} {integer : Int → Prop} {float : Binary64 → Prop}

/-- All numbers of two collections meet a condition if those of each do. -/
theorem all_append {a b : Numbers} :
    (a ++ b).All count integer float ↔
      a.All count integer float ∧ b.All count integer float := by
  constructor
  · intro h
    exact ⟨⟨fun n hn => h.counts n (List.mem_append_left _ hn),
        fun n hn => h.integers n (List.mem_append_left _ hn),
        fun x hx => h.floats x (List.mem_append_left _ hx)⟩,
      ⟨fun n hn => h.counts n (List.mem_append_right _ hn),
        fun n hn => h.integers n (List.mem_append_right _ hn),
        fun x hx => h.floats x (List.mem_append_right _ hx)⟩⟩
  · rintro ⟨ha, hb⟩
    exact ⟨fun n hn => (List.mem_append.mp hn).elim (ha.counts n) (hb.counts n),
      fun n hn => (List.mem_append.mp hn).elim (ha.integers n) (hb.integers n),
      fun x hx => (List.mem_append.mp hx).elim (ha.floats x) (hb.floats x)⟩

/-- All numbers of a list of records meet a condition if those of each record do. -/
theorem all_ofAll {α : Type} {numbers : α → Numbers} {items : List α} :
    (ofAll numbers items).All count integer float ↔
      ∀ item ∈ items, (numbers item).All count integer float := by
  constructor
  · intro h item hitem
    exact ⟨fun n hn => h.counts n (List.mem_flatMap.mpr ⟨item, hitem, hn⟩),
      fun n hn => h.integers n (List.mem_flatMap.mpr ⟨item, hitem, hn⟩),
      fun x hx => h.floats x (List.mem_flatMap.mpr ⟨item, hitem, hx⟩)⟩
  · intro h
    constructor
    · intro n hn
      obtain ⟨item, hitem, hn⟩ := List.mem_flatMap.mp hn
      exact (h item hitem).counts n hn
    · intro n hn
      obtain ⟨item, hitem, hn⟩ := List.mem_flatMap.mp hn
      exact (h item hitem).integers n hn
    · intro x hx
      obtain ⟨item, hitem, hx⟩ := List.mem_flatMap.mp hx
      exact (h item hitem).floats x hx

end All

end Numbers

/-! ## The numbers of every record -/

open Numbers (ofAll)

/-- The attempts and the coefficient; the intervals are texts. -/
def RetryPolicy.numbers (policy : RetryPolicy) : Numbers where
  integers := policy.maximumAttempts.toList
  floats := policy.backoffCoefficient.toList

/-- Only the retry policy holds numbers. -/
def CallOptions.numbers (options : CallOptions) : Numbers :=
  ofAll RetryPolicy.numbers options.retryPolicy.toList

/-- The line, the number of arguments, and what is in the options. -/
def CallSite.numbers (site : CallSite) : Numbers :=
  { counts := [site.line, site.argumentCount] } ++ ofAll CallOptions.numbers site.options.toList

/-- The line and both ends, as far as they are known. -/
def Version.numbers (version : Version) : Numbers where
  counts := [version.line]
  integers := version.minVersion.toList ++ version.maxVersion.toList

/-- The lines of what has no other number. -/
def Body.lines (body : Body) : List Nat :=
  body.internalCalls.map InternalCall.line ++ body.signals.map Signal.line ++
    body.queries.map Query.line ++ body.updates.map Update.line ++ body.timers.map Timer.line ++
    body.searchAttributes.map SearchAttribute.line ++ body.continueAsNew.map ContinueAsNew.line

/-- The numbers of all parts of a body. -/
def Body.numbers (body : Body) : Numbers :=
  ofAll CallSite.numbers body.callSites ++
    (ofAll Version.numbers body.versions ++ { counts := body.lines })

/-- The line of the declaration and the numbers of its body. -/
def GraphNode.numbers (node : GraphNode) : Numbers :=
  { counts := [node.lineNumber] } ++ node.body.numbers

/-- Everything that is counted; the average is no count. -/
def Stats.counts (stats : Stats) : List Nat :=
  [stats.totalWorkflows, stats.totalActivities, stats.totalSignals, stats.totalQueries,
   stats.totalUpdates, stats.totalTimers, stats.totalVersions, stats.totalSearchAttributes,
   stats.totalStubs, stats.totalCallSites, stats.maxFanOut, stats.orphanNodes, stats.maxDepth]

/-- The counts and the average. -/
def Stats.numbers (stats : Stats) : Numbers where
  counts := stats.counts
  floats := [stats.avgFanOut]

/-- The numbers of the counts and of every node. -/
def Graph.numbers (graph : Graph) : Numbers :=
  graph.stats.numbers ++ ofAll GraphNode.numbers graph.nodes.values

/-- The counts of a graph come first, and those of its nodes follow. -/
theorem Graph.counts_numbers (graph : Graph) :
    graph.numbers.counts =
      graph.stats.counts ++ (ofAll GraphNode.numbers graph.nodes.values).counts := rfl

/-- The backoff coefficients of all retry policies. -/
def Graph.coefficients (graph : Graph) : List Binary64 :=
  (ofAll GraphNode.numbers graph.nodes.values).floats

/-! ## Without infinite numbers -/

/-- The number, unless it is infinite. -/
def Number.Binary64.finite? : Binary64 → Option Binary64
  | .finite negative mantissa exponent => some (.finite negative mantissa exponent)
  | .infinite _ => none

/-- The policy without an infinite coefficient. -/
def RetryPolicy.asRead (policy : RetryPolicy) : RetryPolicy :=
  { policy with backoffCoefficient := policy.backoffCoefficient.bind Binary64.finite? }

/-- The options with their policy as it is read. -/
def CallOptions.asRead (options : CallOptions) : CallOptions :=
  { options with retryPolicy := options.retryPolicy.map RetryPolicy.asRead }

/-- The site with its options as they are read. -/
def CallSite.asRead (site : CallSite) : CallSite :=
  { site with options := site.options.map CallOptions.asRead }

/-- The body with its sites as they are read. -/
def Body.asRead (body : Body) : Body :=
  { body with callSites := body.callSites.map CallSite.asRead }

/-- The node with its body as it is read. -/
def GraphNode.asRead (node : GraphNode) : GraphNode := { node with body := node.body.asRead }

/-- The entries with a change to their values. -/
def Table.mapValues {α β : Type} (change : α → β) (table : Table α) : Table β where
  entries := table.entries.map fun entry => (entry.1, change entry.2)
  nodup := by
    rw [List.map_map]
    exact table.nodup

/-- The graph without the infinite backoff coefficients. -/
def Graph.asRead (graph : Graph) : Graph :=
  { graph with nodes := graph.nodes.mapValues GraphNode.asRead }

/-! ## When nothing changes -/

/-- A change leaves a record as it is exactly if all its floating-point numbers are finite. -/
def KeepsFinite {α : Type} (numbers : α → Numbers) (change : α → α) : Prop :=
  ∀ a, change a = a ↔ ∀ x ∈ (numbers a).floats, x.isFinite = true

namespace KeepsFinite

variable {α : Type} {numbers : α → Numbers} {change : α → α}

/-- A list is left as it is exactly if each of its items is. -/
theorem list (h : KeepsFinite numbers change) (items : List α) :
    items.map change = items ↔ ∀ x ∈ (ofAll numbers items).floats, x.isFinite = true := by
  induction items with
  | nil => simp [ofAll]
  | cons item items ih =>
      have hsplit : (ofAll numbers (item :: items)).floats =
          (numbers item).floats ++ (ofAll numbers items).floats := rfl
      rw [List.map_cons, List.cons.injEq, h item, ih, hsplit, List.forall_mem_append]

/-- An optional record is a list of at most one. -/
theorem option (h : KeepsFinite numbers change) (item : Option α) :
    item.map change = item ↔ ∀ x ∈ (ofAll numbers item.toList).floats, x.isFinite = true := by
  rw [← h.list]
  cases item <;> simp

end KeepsFinite

/-- A policy loses its coefficient exactly if that is infinite. -/
theorem RetryPolicy.keepsFinite : KeepsFinite RetryPolicy.numbers RetryPolicy.asRead := by
  rintro ⟨initial, backoff, maximum, attempts⟩
  simp only [RetryPolicy.asRead, RetryPolicy.numbers, RetryPolicy.mk.injEq, true_and, and_true]
  rcases backoff with _ | ⟨negative, mantissa, exponent⟩ | negative
  · simp
  · simp [Binary64.finite?, Binary64.isFinite]
  · simp [Binary64.finite?, Binary64.isFinite]

/-- What changes options is the change of their policy. -/
theorem CallOptions.keepsFinite : KeepsFinite CallOptions.numbers CallOptions.asRead := by
  intro options
  rw [CallOptions.numbers, ← RetryPolicy.keepsFinite.option]
  cases options
  simp [CallOptions.asRead]

/-- What changes a site is the change of its options. -/
theorem CallSite.keepsFinite : KeepsFinite CallSite.numbers CallSite.asRead := by
  intro site
  have hfloats : site.numbers.floats = (ofAll CallOptions.numbers site.options.toList).floats := rfl
  rw [hfloats, ← CallOptions.keepsFinite.option]
  cases site
  simp [CallSite.asRead]

/-- What changes a node is the change of a site; versions and lines hold no floating-point numbers.
-/
theorem GraphNode.keepsFinite : KeepsFinite GraphNode.numbers GraphNode.asRead := by
  intro node
  have hversions : (ofAll Version.numbers node.body.versions).floats = [] := by
    simp [ofAll, Version.numbers]
  have hfloats : node.numbers.floats = (ofAll CallSite.numbers node.body.callSites).floats := by
    show [] ++ ((ofAll CallSite.numbers node.body.callSites).floats ++
      ((ofAll Version.numbers node.body.versions).floats ++ [])) = _
    rw [hversions]
    simp
  rw [hfloats, ← CallSite.keepsFinite.list]
  rcases node with ⟨_, _, _, _, _, _, _, _, ⟨_, _, _, _, _, _, _, _, _⟩, _, _⟩
  simp [GraphNode.asRead, Body.asRead]

/-- **A graph is as its document says exactly if no backoff coefficient is infinite.** -/
theorem Graph.asRead_eq_self_iff (graph : Graph) :
    graph.asRead = graph ↔ ∀ x ∈ graph.coefficients, x.isFinite = true := by
  rw [Graph.coefficients, ← GraphNode.keepsFinite.list]
  obtain ⟨⟨entries, hnodup⟩, stats⟩ := graph
  simp only [Graph.asRead, Table.mapValues, Table.values, Graph.mk.injEq, and_true, Table.mk.injEq]
  clear hnodup
  induction entries with
  | nil => simp
  | cons entry entries ih => simp [Prod.ext_iff, ih]

end WorkflowGraph
