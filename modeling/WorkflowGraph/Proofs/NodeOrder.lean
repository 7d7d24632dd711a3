import WorkflowGraph.Proofs.Issues

/-!
# The order of the nodes never shows

A graph holds its nodes in some order, and counting goes through them in that order.  All else
goes through the sorted keys and reads nodes by their keys.  So two graphs that read the same are
not only alike in the end: their runs are the same runs, with the same messages and the same
questions on the way, and they are stopped at the same moment.

Counting is the one place where the order is used.  Its steps commute (`Stats.addNode_comm`), and a
fold with such steps can take its items in any order (`Run.fold_eq_of_perm`).  The main statement is
`node_order_never_shows`.
-/

namespace WorkflowGraph

namespace Run

variable {α β : Type}

/-- A fold whose steps commute can take its items in any order. -/
theorem fold_eq_of_perm {step : β → α → Run β}
    (hcomm : ∀ start first second,
      (step start first >>= fun next => step next second) =
        (step start second >>= fun next => step next first))
    {items others : List α} (h : items.Perm others) (start : β) :
    fold items start step = fold others start step := by
  induction h generalizing start with
  | nil => rfl
  | cons item _ ih =>
      show (step start item >>= fun next => fold _ next step) =
        step start item >>= fun next => fold _ next step
      simp only [ih]
  | swap first second items =>
      have hfold : ∀ a b : α, fold (a :: b :: items) start step =
          (step start a >>= fun next => step next b) >>= fun next => fold items next step := by
        intro a b
        rw [bind_assoc]
        rfl
      rw [hfold, hfold, hcomm]
  | trans _ _ ihfirst ihsecond => exact (ihfirst start).trans (ihsecond start)

/-- So can a fold that asks and then takes a step in which the items commute, also if it is stopped
on the way. -/
theorem fold_poll_eq_of_perm {next : β → α → β}
    (hcomm : ∀ start first second,
      next (next start first) second = next (next start second) first)
    {items others : List α} (h : items.Perm others) (start : β) :
    fold items start (fun state item => poll >>= fun _ => pure (next state item)) =
      fold others start fun state item => poll >>= fun _ => pure (next state item) := by
  apply fold_eq_of_perm _ h start
  intro start first second
  simp only [bind_assoc, pure_bind, hcomm start first second]

end Run

namespace Graph

variable {graph other : Graph}

namespace Alike

theorem sortedNames_eq (h : graph.Alike other) : graph.sortedNames = other.sortedNames :=
  sortTexts_eq_of_perm h.keys_perm

theorem sortedCallees_eq (h : graph.Alike other) (name : String) :
    graph.sortedCallees name = other.sortedCallees name := by
  rw [sortedCallees, sortedCallees, h.callees_eq name]

/-- A visit sees nothing of a graph but its sorted callees. -/
theorem searchFrom_eq (h : graph.Alike other) (fuel : Nat) (path : List String)
    (search : CycleSearch) (name : String) :
    graph.searchFrom fuel path search name = other.searchFrom fuel path search name := by
  induction fuel generalizing path search name with
  | zero => rfl
  | succ fuel ih => simp only [searchFrom, h.sortedCallees_eq, ih]

theorem findCycles_eq (h : graph.Alike other) : graph.findCycles = other.findCycles := by
  simp only [findCycles, h.sortedNames_eq, h.size_eq, h.searchFrom_eq]

/-- So does the search for the deepest path. -/
theorem longestFrom_eq (h : graph.Alike other) (fuel : Nat) (path : List String) (name : String) :
    graph.longestFrom fuel path name = other.longestFrom fuel path name := by
  induction fuel generalizing path name with
  | zero => rfl
  | succ fuel ih => simp only [longestFrom, h.sortedCallees_eq, ih]

theorem chainDepth_eq (h : graph.Alike other) (name : String) :
    graph.chainDepth name = other.chainDepth name := by
  rw [chainDepth, chainDepth, h.contains_eq, h.size_eq, h.longestFrom_eq]

end Alike

/-- Graphs that read the same are counted by the same run. -/
theorem computeStats_eq_of_get?_eq (h : ∀ name, graph.get? name = other.get? name) :
    graph.computeStats = other.computeStats := by
  have halike : graph.Alike other := .of_get?_eq h
  have hvalues : graph.nodes.values.Perm other.nodes.values := by
    have hget : graph.nodes.get? = other.nodes.get? := funext h
    rw [Table.values_eq_filterMap, Table.values_eq_filterMap, hget]
    exact halike.keys_perm.filterMap _
  have hdepth : graph.chainDepth = other.chainDepth := funext halike.chainDepth_eq
  rw [computeStats, computeStats, Run.fold_poll_eq_of_perm Stats.addNode_comm hvalues,
    halike.size_eq, halike.sortedRoots_eq, hdepth]

/-- Graphs that read the same are validated by the same run. -/
theorem validate_eq_of_get?_eq (h : ∀ name, graph.get? name = other.get? name)
    (settings : ValidationSettings) : graph.validate settings = other.validate settings := by
  have halike : graph.Alike other := .of_get?_eq h
  have hnames : graph.sortedNames = other.sortedNames := halike.sortedNames_eq
  have horphan : graph.isOrphanName = other.isOrphanName := by
    funext name
    rw [isOrphanName, isOrphanName, h]
  have hdepth : graph.chainDepth = other.chainDepth := funext halike.chainDepth_eq
  have hsites : graph.sitesOf = other.sitesOf := by
    funext name
    rw [sitesOf, sitesOf, h]
  have hmismatch : graph.mismatch? = other.mismatch? := by
    funext name site
    rw [mismatch?, mismatch?, h]
  rw [validate, validate, checkOrphans, checkOrphans, checkCycles, checkCycles, checkDepth, checkDepth,
    checkFanOut, checkFanOut, checkArguments, checkArguments, halike.findCycles_eq,
    halike.sortedRoots_eq, hnames, horphan, hdepth, hsites, hmismatch]

end Graph

/-- **The order of the nodes never shows.**  Take any nodes with different keys, and put them into two
graphs in any two orders, so that each graph goes through them in its own order.  Both graphs are
counted by the same run, and under all settings they are validated by the same run.  If nobody stops
it, the run ends: with the same counts, and with the same issues in the same order. -/
theorem node_order_never_shows (entries first second : List (String × GraphNode))
    (hkeys : (entries.map Prod.fst).Nodup) (hfirst : first.Perm entries)
    (hsecond : second.Perm entries) (graph other : Graph)
    (hgraph : graph.nodes = Table.ofList first) (hother : other.nodes = Table.ofList second) :
    (graph.nodes.entries = first ∧ other.nodes.entries = second) ∧
      (graph.computeStats = other.computeStats ∧
        ∃ stats, graph.computeStats.outcome = .ok stats ∧ other.computeStats.outcome = .ok stats) ∧
      ∀ settings, graph.validate settings = other.validate settings ∧
        ∃ issues, (graph.validate settings).outcome = .ok issues ∧
          (other.validate settings).outcome = .ok issues := by
  have hentries : ∀ order : List (String × GraphNode), order.Perm entries →
      (Table.ofList order).entries = order := by
    intro order horder
    have hnodup : (order.map Prod.fst).Nodup := (horder.map Prod.fst).nodup_iff.mpr hkeys
    exact Table.empty.entries_foldl_insert order hnodup
  have hfirstEntries : graph.nodes.entries = first := by rw [hgraph, hentries first hfirst]
  have hsecondEntries : other.nodes.entries = second := by rw [hother, hentries second hsecond]
  have hget : ∀ name, graph.get? name = other.get? name := by
    intro name
    apply Option.ext
    intro node
    rw [Graph.get?, Graph.get?, Table.get?_eq_some_iff, Table.get?_eq_some_iff, hfirstEntries,
      hsecondEntries, (hfirst.trans hsecond.symm).mem_iff]
  have hstats := Graph.computeStats_eq_of_get?_eq hget
  have hcounted := graph.computeStats_computes.outcome_eq
  refine ⟨⟨hfirstEntries, hsecondEntries⟩, ⟨hstats, _, hcounted, hstats ▸ hcounted⟩, ?_⟩
  intro settings
  have hissues := Graph.validate_eq_of_get?_eq hget settings
  have hvalidated := (graph.validate_computes settings).outcome_eq
  exact ⟨hissues, _, hvalidated, hissues ▸ hvalidated⟩

section Ring

/-- A call of a workflow. -/
def ringCall (target : String) : CallSite where
  targetName := target
  targetRole := .childWorkflow
  line := 1
  options := none
  argumentCount := 0
  argumentTypes := []
  resultType := none
  resolution := .exact

/-- Two workflows that call each other, one of them twice, and an activity that stands alone. -/
def ringEntries : List (String × GraphNode) :=
  [("Bill", { name := "Bill", role := .workflow, parents := ["Ship"],
              body := { callSites := [ringCall "Ship"] } }),
   ("Ship", { name := "Ship", role := .workflow, parents := ["Bill"],
              body := { callSites := [ringCall "Bill", ringCall "Bill"] } }),
   ("Audit", { name := "Audit", role := .activity })]

/-- The ring, put in forwards and backwards. -/
theorem ring_order_never_shows :
    let forth : Graph := { nodes := .ofList ringEntries }
    let back : Graph := { nodes := .ofList ringEntries.reverse }
    forth.nodes.entries ≠ back.nodes.entries ∧ forth.computeStats = back.computeStats ∧
      ∀ settings, forth.validate settings = back.validate settings := by
  intro forth back
  obtain ⟨⟨hforth, hback⟩, ⟨hstats, _⟩, hissues⟩ :=
    node_order_never_shows ringEntries ringEntries ringEntries.reverse (by decide)
      (List.Perm.refl _) (List.reverse_perm _) forth back rfl rfl
  refine ⟨?_, hstats, fun settings => (hissues settings).1⟩
  rw [hforth, hback]
  decide

end Ring

end WorkflowGraph
