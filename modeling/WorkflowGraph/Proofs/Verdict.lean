import WorkflowGraph.Command.Execute
import WorkflowGraph.Proofs.Issues
import WorkflowGraph.Proofs.Persistence

/-!
# When validation succeeds

The command that validates a saved graph loads the graph, runs the checks, tells every issue and
then fails or not.  Whether it fails can be said of the graph alone.  It succeeds exactly if no
sequence of calls leads back to its start; in strict mode, exactly if moreover all limits are kept.
This is `validation_succeeds_iff`.
-/

namespace WorkflowGraph

/-- No failure follows from issues without errors and, where they count, without warnings. -/
theorem Command.verdict_eq_none_iff {strict : Bool} {issues : List Issue} :
    verdict strict issues = none ↔
      (∀ issue ∈ issues, issue.kind ≠ .error) ∧
        (strict = true → ∀ issue ∈ issues, issue.kind ≠ .warning) := by
  have herrors : (issues.filter Issue.isError).length > 0 ↔
      ¬∀ issue ∈ issues, issue.kind ≠ .error := by
    simp [List.length_pos_iff, Issue.isError]
  have hwarnings : (issues.filter Issue.isWarning).length > 0 ↔
      ¬∀ issue ∈ issues, issue.kind ≠ .warning := by
    simp [List.length_pos_iff, Issue.isWarning]
  unfold verdict
  simp only [Bool.and_eq_true, decide_eq_true_eq, herrors, hwarnings]
  split
  · next herror => exact iff_of_false (fun h => nomatch h) fun h => herror h.1
  · next herror =>
      split
      · next hwarning =>
          exact iff_of_false (fun h => nomatch h) fun h => hwarning.2 (h.2 hwarning.1)
      · next hwarning =>
          refine iff_of_true rfl ⟨not_not.mp herror, fun hstrict => ?_⟩
          by_contra hsome
          exact hwarning ⟨hstrict, hsome⟩

namespace Graph

variable {graph : Graph} {settings : ValidationSettings}

/-- No issue is an error exactly if there is no cycle. -/
theorem no_error_iff :
    (∀ issue ∈ graph.issuesOf settings, issue.kind ≠ .error) ↔ ¬graph.HasCycle := by
  rw [← foundCycles_eq_nil_iff]
  constructor
  · intro h
    by_contra hfound
    obtain ⟨cycle, hcycle⟩ := List.exists_mem_of_ne_nil _ hfound
    exact h (.cycle cycle) (mem_issuesOf.mpr (Or.inr (List.mem_map_of_mem hcycle))) rfl
  · intro hnone issue hissue
    rcases mem_issuesOf.mp hissue with hwarning | hcycle
    · rw [kind_of_mem_warningsOf hwarning]
      exact fun h => nomatch h
    · rw [hnone] at hcycle
      cases hcycle

/-- No issue is a warning exactly if all limits are kept. -/
theorem no_warning_iff :
    (∀ issue ∈ graph.issuesOf settings, issue.kind ≠ .warning) ↔
      graph.WithinLimits settings := by
  rw [← warningsOf_eq_nil_iff, List.eq_nil_iff_forall_not_mem]
  constructor
  · intro h issue hissue
    exact h issue (mem_issuesOf.mpr (Or.inl hissue)) (kind_of_mem_warningsOf hissue)
  · intro hnone issue hissue
    obtain ⟨cycle, _, rfl⟩ :=
      List.mem_map.mp ((mem_issuesOf.mp hissue).resolve_left (hnone issue))
    exact fun h => nomatch h

/-- **The verdict on a graph.** -/
theorem verdict_issuesOf_eq_none_iff {strict : Bool} :
    Command.verdict strict (graph.issuesOf settings) = none ↔
      ¬graph.HasCycle ∧ (strict = true → graph.WithinLimits settings) := by
  rw [Command.verdict_eq_none_iff, no_error_iff, no_warning_iff]

end Graph

namespace Command

variable {files : Files}

/-- A report fails exactly if the verdict is a failure. -/
theorem reportIssues_ok_iff (strict : Bool) (issues : List Issue) {state : ShellState}
    (hstate : state.Calm files) :
    (reportIssues strict issues state).1 = .ok () ↔ verdict strict issues = none := by
  unfold reportIssues
  by_cases hempty : issues.isEmpty = true
  · obtain rfl := List.isEmpty_iff.mp hempty
    exact iff_of_true rfl (by cases strict <;> rfl)
  · rw [if_neg hempty]
    have hissues : Shell.Yields files
        (Shell.each issues fun issue => Shell.warn (issueText issue)) () :=
      Shell.yields_each fun issue => Shell.yields_say
    obtain ⟨told, htold, heq⟩ := hissues.bind_apply _ hstate
    rw [heq]
    obtain ⟨summed, _, heq⟩ := Shell.yields_info.bind_apply _ htold
    rw [heq]
    cases verdict strict issues with
    | none => exact iff_of_true rfl rfl
    | some failure => exact iff_of_false (fun h => nomatch h) (fun h => nomatch h)

/-- Loading yields the graph of the document in the file. -/
theorem yields_loaded {settings : OutputSettings} {path : Option String} {text : String}
    {graph : Graph} (hread : files.read (path.getD settings.graphFile) = .ok text)
    (hdocument : Graph.parse? text = some graph) :
    Shell.Yields files (loaded settings path) graph := by
  refine Shell.Yields.doing ?_ _
  refine (Shell.yields_read hread).bind ?_
  rw [hdocument]
  exact Shell.yields_say.bind (Shell.yields_pure graph)

/-- Without a source tree, validation is about the saved graph. -/
theorem runValidate_saved (settings : Settings) (path : Option String) (strict : Bool) :
    runValidate settings path none strict =
      (do
        let graph ← loaded settings.output path
        Shell.info ("✅ Validating " ++ Number.natText graph.size ++ " nodes...")
        reportIssues strict (← validated settings.validation graph)) := rfl

end Command

/-- **When validation succeeds.**  For every document of a graph in a file and all settings, the
command that validates it, and that nobody stops, succeeds exactly if the calls of the graph have no
cycle, and in strict mode exactly if moreover the graph keeps all limits. -/
theorem validation_succeeds_iff (settings : Settings) (path : Option String) (text : String)
    (graph : Graph) (state : ShellState) (hquiet : state.session.patience = none)
    (hread : state.files.read (path.getD settings.output.graphFile) = .ok text)
    (hdocument : Graph.parse? text = some graph) :
    ((Command.runValidate settings path none false state).1 = .ok () ↔ ¬graph.HasCycle) ∧
      ((Command.runValidate settings path none true state).1 = .ok () ↔
        ¬graph.HasCycle ∧ graph.WithinLimits settings.validation) := by
  have hstate : state.Calm state.files := ⟨rfl, hquiet⟩
  have hverdict : ∀ strict, (Command.runValidate settings path none strict state).1 = .ok () ↔
      Command.verdict strict (graph.issuesOf settings.validation) = none := by
    intro strict
    rw [Command.runValidate_saved]
    obtain ⟨loaded, hloaded, heq⟩ :=
      (Command.yields_loaded hread hdocument).bind_apply _ hstate
    rw [heq]
    obtain ⟨told, htold, heq⟩ := Shell.yields_info.bind_apply _ hloaded
    rw [heq]
    have hissues : Shell.Yields state.files _ _ :=
      Shell.yields_ofRun (graph.validate_computes settings.validation)
    obtain ⟨checked, hchecked, heq⟩ := (hissues.doing "Validation failed").bind_apply _ htold
    rw [Command.validated, heq]
    exact Command.reportIssues_ok_iff strict _ hchecked
  constructor
  · rw [hverdict, Graph.verdict_issuesOf_eq_none_iff]
    simp
  · rw [hverdict, Graph.verdict_issuesOf_eq_none_iff]
    simp

section Parcel

theorem get?_parcelGraph {name : String} {node : GraphNode} :
    parcelGraph.get? name = some node ↔
      name = "Parcel.\"Send\"" ∧ node = parcelNode ∨
        name = "Deliver" ∧ node = .stub "Deliver" .activity "Parcel.\"Send\"" := by
  rw [Graph.get?, Table.get?_eq_some_iff]
  simp [parcelGraph]

theorem eq_of_parcelGraph_calls {caller target : String} (h : parcelGraph.Calls caller target) :
    caller = "Parcel.\"Send\"" ∧ target = "Deliver" := by
  obtain ⟨⟨node, hnode, site, hsite, rfl⟩, _⟩ := h
  rcases get?_parcelGraph.mp hnode with ⟨rfl, rfl⟩ | ⟨_, rfl⟩
  · obtain rfl := List.mem_singleton.mp hsite
    exact ⟨rfl, rfl⟩
  · cases hsite

theorem not_hasCycle_parcelGraph : ¬parcelGraph.HasCycle := by
  rintro ⟨name, hcycle⟩
  obtain ⟨next, hfirst, _⟩ := Relation.TransGen.head'_iff.mp hcycle
  obtain ⟨last, _, hlast⟩ := Relation.TransGen.tail'_iff.mp hcycle
  have hname := (eq_of_parcelGraph_calls hfirst).1.symm.trans (eq_of_parcelGraph_calls hlast).2
  exact absurd hname (by decide)

theorem withinLimits_parcelGraph : parcelGraph.WithinLimits {} where
  orphans name node hnode := by
    rcases get?_parcelGraph.mp hnode with ⟨_, rfl⟩ | ⟨_, rfl⟩ <;> decide
  depth name node _ _ rest hpath := by
    match rest with
    | [] => exact Nat.le_add_left 1 9
    | [_] => exact Nat.le_add_left 2 8
    | first :: second :: others =>
      -- what is called calls nobody
      obtain ⟨hfirst, hothers⟩ := List.isChain_cons_cons.mp hpath.calls
      have hsecond := (List.isChain_cons_cons.mp hothers).1
      have hkeys := (eq_of_parcelGraph_calls hfirst).2.symm.trans (eq_of_parcelGraph_calls hsecond).1
      exact absurd hkeys (by decide)
  fanOut name node hnode := by
    rcases get?_parcelGraph.mp hnode with ⟨_, rfl⟩ | ⟨_, rfl⟩ <;> decide
  arguments _ name node _ site _ target htarget := by
    -- neither of the nodes has parameters
    intro first others _ hparameters
    rcases get?_parcelGraph.mp htarget with ⟨_, rfl⟩ | ⟨_, rfl⟩ <;> cases hparameters

/-- The graph of a parcel, saved in a file and validated. -/
theorem parcelGraph_validation_succeeds :
    (Command.runValidate {} (some "graph.json") none false
        (parcelGraph.save .compact "graph.json" {}).2).1 = .ok () ∧
      (Command.runValidate {} (some "graph.json") none true
        (parcelGraph.save .compact "graph.json" {}).2).1 = .ok () := by
  have hread : (parcelGraph.save .compact "graph.json" {}).2.files.read "graph.json" = _ :=
    Graph.read_of_save rfl
  have hdocument : Graph.parse? (parcelGraph.render .compact) = some parcelGraph := by
    rw [Graph.parse?_render .compact ⟨by decide, by decide⟩,
      parcelGraph.asRead_eq_self_iff.mpr (by decide)]
  have hverdict := validation_succeeds_iff {} (some "graph.json") _ parcelGraph
    (parcelGraph.save .compact "graph.json" {}).2 rfl hread hdocument
  exact ⟨hverdict.1.mpr not_hasCycle_parcelGraph,
    hverdict.2.mpr ⟨not_hasCycle_parcelGraph, withinLimits_parcelGraph⟩⟩

end Parcel

end WorkflowGraph
