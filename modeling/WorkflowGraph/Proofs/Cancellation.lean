import WorkflowGraph.Analysis
import WorkflowGraph.Proofs.Polls
import WorkflowGraph.Proofs.Tables
import WorkflowGraph.Validation

/-!
# An order to stop is all or nothing

Every operation, from the walk through the directories to the checks of a finished graph, asks at
many places whether it was told to stop: once an entry, once a file, at every node of a tree, at
every call site and at every round of the two searches in depth.  None of these places may turn a
stop into a shorter list or a smaller graph that looks like an answer.

The operations are taken one after the other, from what they call to themselves, and each is shown
to have an answer after a fixed number of questions.  The rules for this do not look at what is
computed.  The only operations that can fail are those that begin at a root, and they do so before
the first question.

Main statement: `stopping_is_all_or_nothing`.
-/

namespace WorkflowGraph

open Run

/-! ## Registrations -/

namespace Registry

/-- Registering asks nothing; it only says what it takes in or leaves out. -/
theorem answers_register (registry : Registry) (registration : Registration) :
    (registry.register registration).Answers :=
  (answers_pure _).after_say

/-- A call is scanned without a question, whether or not it registers something. -/
theorem answers_scanCall (file : SourceFile) (registry : Registry) (placed : Go.PlacedCall) :
    (scanCall file registry placed).Answers := by
  unfold scanCall
  split
  · exact answers_pure registry
  · next role argument _ =>
      cases Subject.ofArgument file.root placed.scope argument with
      | function name => exact registry.answers_register _
      | type written => exact registry.answers_register _
      | unknown name => exact (answers_pure registry).after_say
      | other => exact answers_pure registry

/-- A file is scanned by a visit of its calls, which asks at every node, after one question of its
own. -/
theorem answers_scanFile (registry : Registry) (file : SourceFile) :
    (scanFile registry file).Answers :=
  Answers.after_poll (answers_visitCalls (answers_scanCall file) file.root none registry)

/-- The registry is carried from file to file and no file can fail. -/
theorem answers_scan (files : List SourceFile) : (scan files).Answers :=
  answers_fold answers_scanFile files {}

end Registry

/-! ## Declarations -/

/-- Whether the SDK is used is asked of every call of the body, so it costs the questions of one
visit. -/
theorem Candidate.answers_usesSdk (candidate : Candidate) : candidate.usesSdk.Answers := by
  unfold usesSdk
  split
  · exact answers_pure false
  · exact answers_visitCalls (fun _ _ => answers_pure _) _ _ false

/-- Only the rule about signatures visits a body; the other two look into the registry. -/
theorem Rule.answers_ask (registry : Registry) (candidate : Candidate) (rule : Rule) :
    (rule.ask registry candidate).Answers := by
  cases rule with
  | registeredWorkflow => exact answers_pure _
  | registeredActivity => exact answers_pure _
  | workflowSignature =>
      exact answers_ite (candidate.answers_usesSdk.bind fun _ => answers_pure _)
        (answers_pure none)

/-- Rules are asked in turn until one answers, and each of them answers. -/
theorem answers_classify (rules : List Rule) (registry : Registry) (candidate : Candidate) :
    (classify rules registry candidate).Answers := by
  induction rules with
  | nil => exact answers_pure none
  | cons rule others ih =>
      refine (rule.answers_ask registry candidate).bind fun answer => ?_
      cases answer with
      | none => exact ih
      | some role => exact answers_pure (some role)

/-- A call that starts something becomes a site or a message, and neither asks anything. -/
theorem Extraction.answers_start (imports : SdkImports) (extraction : Extraction) (role : CallRole)
    (call : Go.Node) (resultType : Option String) :
    (start imports extraction role call resultType).Answers := by
  unfold start
  split
  · exact answers_pure _
  · exact (answers_pure extraction).after_say

/-- Each call of a body is looked at once and without a question, whatever kind of call it is. -/
theorem Extraction.answers_step (imports : SdkImports) (extraction : Extraction)
    (placed : Go.PlacedCall) : (step imports extraction placed).Answers := by
  unfold step
  refine answers_ite (answers_pure extraction) ?_
  cases placed.call.callee? with
  | none => exact answers_pure extraction
  | some callee =>
      simp only [lookAt]
      cases startedBy? imports callee with
      | some started => exact answers_start imports _ _ _ _
      | none =>
          cases imports.action? placed.call with
          | some action =>
              cases action with
              | execute role => exact answers_start imports extraction role placed.call none
              | _ => exact answers_pure _
          | none =>
              cases Body.internalTarget? imports callee <;> exact answers_pure _

/-- A body is read in one visit; a function without a body is read at once. -/
theorem Body.answers_extract (imports : SdkImports) (function : Go.Node) :
    (Body.extract imports function).Answers := by
  unfold Body.extract
  cases function.field? .body with
  | none => exact answers_pure _
  | some block =>
      have hvisit := answers_visitCalls (Extraction.answers_step imports) block (some function) {}
      exact hvisit.bind fun extraction => answers_pure extraction.body

/-- A declaration takes the questions of reading its body and none besides. -/
theorem answers_declare (file : SourceFile) (candidate : Candidate) (role : NodeRole) :
    (declare file candidate role).Answers :=
  Answers.after_say ((Body.answers_extract file.imports candidate.function).bind fun _ =>
    answers_pure _)

/-- Classifying a function answers, and so does declaring it if the filters let it pass. -/
theorem answers_declareFunction (selection : Selection) (registry : Registry) (file : SourceFile)
    (declarations : List Declaration) (function : Go.Node) :
    (declareFunction selection registry file declarations function).Answers := by
  unfold declareFunction
  split
  · exact answers_pure declarations
  · next candidate _ =>
      refine (answers_classify selection.rules registry candidate).bind fun answer => ?_
      cases answer with
      | none => exact answers_pure declarations
      | some role =>
          have hfiltered : ∀ text, (say .debug text >>= fun _ => pure declarations).Answers :=
            fun text => (answers_pure declarations).after_say
          have hdeclared := (answers_declare file candidate role).bind fun declaration =>
            answers_pure (declarations ++ [declaration])
          exact answers_ite (hfiltered _) (answers_ite (hfiltered _) hdeclared)

/-- The walk asks once for every file and then takes its functions one after the other. -/
theorem answers_walk (selection : Selection) (registry : Registry) (files : List SourceFile) :
    (walk selection registry files).Answers := by
  refine Answers.after_say (answers_fold (fun declarations file => ?_) files [])
  exact Answers.after_poll
    (answers_fold (answers_declareFunction selection registry file) file.functions declarations)

/-! ## Graphs -/

namespace Graph

/-- The search for the longest chain asks at every round, and the fuel bounds the rounds. -/
theorem answers_longestFrom (graph : Graph) (fuel : Nat) (path : List String) (name : String) :
    (graph.longestFrom fuel path name).Answers := by
  induction fuel generalizing path name with
  | zero => exact answers_pure 0
  | succ fuel ih =>
      refine Answers.after_poll (Answers.bind ?_ fun deepest => answers_pure (deepest + 1))
      exact answers_fold (fun _ callee => (ih (name :: path) callee).bind fun _ =>
        answers_pure _) _ 0

/-- A key without a node has a depth without any search. -/
theorem answers_chainDepth (graph : Graph) (name : String) : (graph.chainDepth name).Answers :=
  answers_ite (graph.answers_longestFrom graph.size [] name) (answers_pure 0)

/-- Counting goes once through the nodes and then searches from every root. -/
theorem answers_computeStats (graph : Graph) : graph.computeStats.Answers := by
  have hcount : ∀ (stats : Stats) (node : GraphNode), (do
      Run.poll
      pure (stats.addNode node) : Run Stats).Answers := fun stats node =>
    Answers.after_poll (answers_pure _)
  have hdepth : ∀ (deepest : Nat) (name : String), (do
      pure (max deepest (← graph.chainDepth name)) : Run Nat).Answers := fun deepest name =>
    (graph.answers_chainDepth name).bind fun _ => answers_pure _
  refine (answers_fold hcount graph.nodes.values {}).bind fun counted => ?_
  exact (answers_fold hdepth graph.sortedRoots 0).bind fun deepest => answers_pure _

/-- A declaration is taken in or passed over with a warning, after one question. -/
theorem answers_declareNode (built : Graph × Bodies) (declaration : Declaration) :
    (declareNode built declaration).Answers := by
  have hskipped : ∀ text, (say .warn text >>= fun _ => pure built).Answers :=
    fun text => (answers_pure built).after_say
  exact Answers.after_poll (answers_ite (hskipped _) (answers_ite (hskipped _) (answers_pure _)))

/-- A site is resolved without a question, also where its target is ambiguous or missing. -/
theorem answers_resolveSite (graph : Graph) (declared : List String) (caller : String)
    (site : CallSite) : (graph.resolveSite declared caller site).Answers := by
  refine answers_ite (answers_pure _) ?_
  cases graph.lookup declared site.targetName with
  | found resolution key => exact answers_pure _
  | ambiguous candidates => exact (answers_pure _).after_say
  | missing => exact (answers_pure _).after_say

/-- A handler is resolved without a question, and one that was never named needs none. -/
theorem answers_resolveHandler (graph : Graph) (declared : List String) (caller : String)
    (role : NodeRole) (handler : Option String) :
    (graph.resolveHandler declared caller role handler).Answers := by
  cases handler with
  | none => exact answers_pure _
  | some handler =>
      simp only [resolveHandler]
      cases graph.lookup declared handler with
      | found resolution key => exact answers_pure _
      | ambiguous candidates => exact answers_pure _
      | missing => exact (answers_pure _).after_say

/-- The sites of an entry are resolved one by one, with a question before each. -/
theorem answers_attachCalls (declared : List String) (graph : Graph) (entry : String × Body) :
    (attachCalls declared graph entry).Answers := by
  refine Answers.after_poll (Answers.bind ?_ fun _ => answers_pure _)
  refine answers_fold ?_ entry.2.callSites (graph, [])
  rintro ⟨graph, sites⟩ site
  exact Answers.after_poll ((graph.answers_resolveSite declared entry.1 site).bind fun _ =>
    answers_pure _)

/-- Signals, queries and updates have their handlers resolved by one fold, without questions. -/
theorem answers_resolveHandlers {α : Type} (declared : List String) (caller : String)
    (role : NodeRole) (handler : α → Option String) (withHandler : α → Option String → α)
    (graph : Graph) (items : List α) :
    (resolveHandlers declared caller role handler withHandler graph items).Answers := by
  refine answers_fold ?_ items (graph, [])
  rintro ⟨graph, resolved⟩ item
  exact (graph.answers_resolveHandler declared caller role (handler item)).bind fun _ =>
    answers_pure _

/-- The three lists of handlers of an entry are resolved after one question. -/
theorem answers_attachMetadata (declared : List String) (graph : Graph) (entry : String × Body) :
    (attachMetadata declared graph entry).Answers := by
  refine Answers.after_poll ((answers_resolveHandlers _ _ _ _ _ graph _).bind fun signals => ?_)
  refine (answers_resolveHandlers _ _ _ _ _ signals.1 _).bind fun queries => ?_
  exact (answers_resolveHandlers _ _ _ _ _ queries.1 _).bind fun updates => answers_pure _

/-- Building declares, attaches the calls, then the handlers, and counts at the end; each stage
answers. -/
theorem answers_build (declarations : List Declaration) : (build declarations).Answers := by
  refine (answers_fold answers_declareNode declarations _).bind fun built => Answers.after_say ?_
  refine (answers_fold (answers_attachCalls _) built.2 built.1).bind fun linked => ?_
  refine (answers_fold (answers_attachMetadata _) built.2 linked).bind fun joined => ?_
  exact Answers.after_say (joined.answers_computeStats.bind fun _ => answers_pure _)

/-! ## Checks -/

/-- The search for cycles asks at every round, as `longestFrom` does. -/
theorem answers_searchFrom (graph : Graph) (fuel : Nat) (path : List String)
    (search : CycleSearch) (name : String) :
    (graph.searchFrom fuel path search name).Answers := by
  induction fuel generalizing path search name with
  | zero => exact answers_pure search
  | succ fuel ih =>
      refine Answers.after_poll (answers_fold (fun search callee => ?_) _ _)
      exact answers_ite (ih (name :: path) search callee)
        (answers_ite (answers_pure _).after_say (answers_pure search))

/-- A search is started from every key that no earlier one has come to. -/
theorem answers_findCycles (graph : Graph) : graph.findCycles.Answers := by
  have hvisit : ∀ (search : CycleSearch) (name : String),
      (if search.visited.contains name then pure search
        else graph.searchFrom graph.size [] search name).Answers := fun search name =>
    answers_ite (answers_pure search) (graph.answers_searchFrom graph.size [] search name)
  exact (answers_fold hvisit graph.sortedNames {}).bind fun search => answers_pure search.cycles

/-- The five checks follow each other, the last one only if the settings ask for it. -/
theorem answers_validate (graph : Graph) (settings : ValidationSettings) :
    (graph.validate settings).Answers := by
  have horphans : graph.checkOrphans.Answers :=
    answers_fold (fun _ _ => Answers.after_poll (answers_pure _)) graph.sortedNames []
  have hcycles : graph.checkCycles.Answers :=
    graph.answers_findCycles.bind fun _ => answers_pure _
  have hdepth : (graph.checkDepth settings.maxDepth).Answers :=
    answers_fold (fun _ name => (graph.answers_chainDepth name).bind fun _ =>
      answers_pure _) graph.sortedRoots []
  have hfanOut : (graph.checkFanOut settings.maxFanOut).Answers :=
    answers_fold (fun _ _ => Answers.after_poll (answers_pure _)) graph.sortedNames []
  have harguments : graph.checkArguments.Answers :=
    answers_fold (fun issues name => answers_fold (fun _ _ =>
      Answers.after_poll (answers_pure _)) (graph.sitesOf name) issues) graph.sortedNames []
  refine horphans.bind fun orphans => hcycles.bind fun cycles => hdepth.bind fun deepChains => ?_
  refine hfanOut.bind fun fanOuts => answers_ite ?_ ?_
  · exact harguments.bind fun _ => answers_pure _
  · exact (answers_pure []).bind fun _ => answers_pure _

end Graph

/-! ## Analysis -/

/-- A file that cannot be read or breaks the grammar is passed over with a warning. -/
theorem answers_parseFiles (found : List FoundFile) : (parseFiles found).Answers := by
  refine answers_fold (fun sources file => Answers.after_poll ?_) found []
  cases file.parse with
  | ok source => exact answers_pure _
  | error failure => exact (answers_pure sources).after_say

/-- What is no pattern is told with a warning, and the filter is there all the same. -/
theorem answers_openFilter (label : String) (pattern : Option String) :
    (openFilter label pattern).Answers := by
  unfold openFilter
  cases Filter.ofText Pattern.matcher? pattern with
  | nothing => exact (answers_pure _).after_say
  | any => exact answers_pure _
  | pattern isMatch => exact answers_pure _

/-- Between reading the sources and building the graph nothing can fail. -/
theorem answers_classifySources (settings : AnalysisSettings) (sources : List SourceFile) :
    (classifySources settings sources).Answers := by
  refine Answers.after_say ((Registry.answers_scan sources).bind fun registry => ?_)
  have hrest : (openFilter "package" settings.filterPackage >>= fun package =>
      openFilter "name" settings.filterName >>= fun name =>
      walk { rules := Rule.standard, package, name } registry sources >>= fun declarations =>
      Run.info ("Classified " ++ Number.natText declarations.length ++ " declarations") >>=
        fun _ => pure declarations).Answers := by
    refine (answers_openFilter _ _).bind fun package => ?_
    refine (answers_openFilter _ _).bind fun name => ?_
    exact (answers_walk _ registry sources).bind fun declarations =>
      (answers_pure declarations).after_say
  exact answers_ite hrest.after_say hrest.after_say

section Root

variable {files : Files} {settings : AnalysisSettings}

/-- Discovery below a directory cannot fail. -/
theorem answers_discover {tree : FileTree} (h : sourceTree files settings.rootDir = .ok tree) :
    (discover files settings).Answers := by
  have hroot : (ofExcept (sourceTree files settings.rootDir)).Answers := by
    rw [h]
    exact ⟨0, tree, asks_ofExcept _⟩
  refine hroot.bind fun tree => ?_
  exact (answers_each (fun _ => answers_poll) _).bind fun _ => (answers_pure _).after_say

/-- Without a directory at the root, discovery fails before it asks anything. -/
theorem asks_discover {failure : Failure} (h : sourceTree files settings.rootDir = .error failure) :
    (discover files settings).Asks 0 (.error failure) := by
  have hroot : (ofExcept (sourceTree files settings.rootDir)).Asks 0 (.error failure) := by
    rw [h]
    exact asks_ofExcept _
  exact hroot.bind_error _

/-- The entry of the root is the first that discovery asks at. -/
theorem asksFirst_discover {tree : FileTree} (h : sourceTree files settings.rootDir = .ok tree) :
    (discover files settings).AsksFirst := by
  have hentries : ∃ entry others, tree.entries settings.excludes = entry :: others := by
    cases tree <;> exact ⟨_, _, by rw [FileTree.entries]⟩
  obtain ⟨entry, others, hentries⟩ := hentries
  intro session hzero
  have hroot : (ofExcept (sourceTree files settings.rootDir) session).1 = .ok tree := h
  unfold discover
  rw [bind_of_ok hroot, hentries]
  exact (asksFirst_poll.bind _).bind _ session hzero

/-- With a directory at its root the whole analysis answers. -/
theorem answers_analyzeDirectory {tree : FileTree}
    (h : sourceTree files settings.rootDir = .ok tree) :
    (analyzeDirectory files settings).Answers := by
  have hdeclarations : (findDeclarations files settings).Answers :=
    (answers_discover h).bind fun found => (answers_parseFiles found).bind fun sources =>
      answers_classifySources settings sources
  exact hdeclarations.bind Graph.answers_build

/-- Without a directory at its root it fails as discovery does, before any question. -/
theorem asks_analyzeDirectory {failure : Failure}
    (h : sourceTree files settings.rootDir = .error failure) :
    (analyzeDirectory files settings).Asks 0 (.error failure) :=
  ((asks_discover h).bind_error _).bind_error _

/-- Discovery comes first, and so does its question. -/
theorem asksFirst_analyzeDirectory {tree : FileTree}
    (h : sourceTree files settings.rootDir = .ok tree) :
    (analyzeDirectory files settings).AsksFirst :=
  ((asksFirst_discover h).bind _).bind _

/-- The root has a tree below it if it is a directory. -/
theorem sourceTree_ok_iff :
    (∃ tree, sourceTree files settings.rootDir = .ok tree) ↔
      files.isDirectory settings.rootDir = true := by
  unfold sourceTree Files.isDirectory
  rcases files.lookup settings.rootDir with fault | tree
  · simp
  · by_cases hdirectory : tree.isDirectory = true <;> simp [hdirectory]

/-- A root that cannot be walked is a failure of its own and never looks like a stop. -/
theorem sourceTree_ne_cancelled : sourceTree files settings.rootDir ≠ .error .cancelled := by
  unfold sourceTree
  rcases files.lookup settings.rootDir with fault | tree
  · simp
  · by_cases hdirectory : tree.isDirectory = true <;> simp [hdirectory]

/-- An operation that begins at a root, and fails there before its first question or asks first,
is all or nothing. -/
theorem allOrNothing_of_root {α : Type} {run : Run α}
    (hfails : ∀ failure, sourceTree files settings.rootDir = .error failure →
      run.Asks 0 (.error failure))
    (hanswers : ∀ tree, sourceTree files settings.rootDir = .ok tree →
      run.Answers ∧ run.AsksFirst) :
    run.AllOrNothing (files.isDirectory settings.rootDir = true) := by
  rw [← sourceTree_ok_iff]
  rcases hroot : sourceTree files settings.rootDir with failure | tree
  · have hgenuine : (.error failure : Except Failure α) ≠ .error .cancelled := by
      intro hcancelled
      obtain rfl : failure = .cancelled := Except.error.inj hcancelled
      exact sourceTree_ne_cancelled hroot
    exact (hfails failure hroot).allOrNothing hgenuine (fun ⟨tree, htree⟩ => by cases htree)
      fun _ => (hfails failure hroot).not_asksFirst hgenuine
  · obtain ⟨hanswer, hfirst⟩ := hanswers tree hroot
    exact hanswer.allOrNothing (fun _ => hfirst) fun hnone => absurd ⟨tree, rfl⟩ hnone

end Root

/-! ## Inputs with something in them -/

/-- A scan asks first at its first file, and without files it asks nothing. -/
theorem scan_allOrNothing (files : List SourceFile) :
    (Registry.scan files).AllOrNothing (files ≠ []) := by
  refine (Registry.answers_scan files).allOrNothing ?_ ?_
  · intro hfiles
    exact asksFirst_fold (fun _ _ => asksFirst_poll.bind _) hfiles _
  · intro hnone
    obtain rfl : files = [] := Classical.not_not.mp hnone
    exact (immediate_pure _).not_asksFirst

/-- A walk asks first at its first file; what it says before is no question. -/
theorem walk_allOrNothing (selection : Selection) (registry : Registry)
    (files : List SourceFile) : (walk selection registry files).AllOrNothing (files ≠ []) := by
  refine (answers_walk selection registry files).allOrNothing ?_ ?_
  · intro hfiles
    exact AsksFirst.after_say (asksFirst_fold (fun _ _ => asksFirst_poll.bind _) hfiles [])
  · intro hnone
    obtain rfl : files = [] := Classical.not_not.mp hnone
    exact (immediate_pure _).after_say.not_asksFirst

namespace Graph

variable {graph : Graph}

/-- A graph that is not empty has a node, which is the first thing that counting asks at. -/
theorem values_ne_nil (h : 0 < graph.size) : graph.nodes.values ≠ [] :=
  List.length_pos_iff.mp (by rwa [Table.values, List.length_map])

/-- An empty graph has no node to ask at. -/
theorem values_eq_nil (h : ¬0 < graph.size) : graph.nodes.values = [] :=
  List.length_eq_zero_iff.mp (by rw [Table.values, List.length_map]; exact Nat.eq_zero_of_not_pos h)

/-- Sorting loses no key. -/
theorem length_sortedNames : graph.sortedNames.length = graph.size :=
  (sortTexts_perm graph.nodes.keys).length_eq.trans (List.length_map _)

/-- The checks go through the sorted keys, and a graph that is not empty has some. -/
theorem sortedNames_ne_nil (h : 0 < graph.size) : graph.sortedNames ≠ [] :=
  List.length_pos_iff.mp (length_sortedNames ▸ h)

/-- An empty graph has no keys to go through. -/
theorem sortedNames_eq_nil (h : ¬0 < graph.size) : graph.sortedNames = [] :=
  List.length_eq_zero_iff.mp (length_sortedNames.trans (Nat.eq_zero_of_not_pos h))

/-- An empty graph has no roots either. -/
theorem sortedRoots_eq_nil (h : ¬0 < graph.size) : graph.sortedRoots = [] := by
  rw [sortedRoots, sortedNames_eq_nil h, List.filter_nil]

/-- A key with a node shows that the graph is not empty, so the search from it has fuel. -/
theorem size_pos_of_contains {name : String} (h : graph.contains name = true) :
    0 < graph.size := by
  have hmem : name ∈ graph.nodes.keys := graph.nodes.contains_iff_mem_keys.mp h
  have hpos := List.length_pos_of_mem hmem
  rwa [Table.keys, List.length_map] at hpos

variable (graph)

/-- The search asks at the key it starts from; a key without a node is answered at once. -/
theorem chainDepth_allOrNothing (name : String) :
    (graph.chainDepth name).AllOrNothing (graph.contains name = true) := by
  refine (graph.answers_chainDepth name).allOrNothing ?_ ?_
  · intro hkey
    obtain ⟨fuel, hfuel⟩ := Nat.exists_eq_add_of_lt (size_pos_of_contains hkey)
    unfold chainDepth
    rw [if_pos hkey, hfuel]
    exact asksFirst_poll.bind _
  · intro hnone
    unfold chainDepth
    rw [if_neg hnone]
    exact (immediate_pure 0).not_asksFirst

/-- The counts of a graph without nodes are there at once. -/
theorem immediate_computeStats (h : ¬0 < graph.size) : graph.computeStats.Immediate := by
  unfold computeStats
  rw [values_eq_nil h, sortedRoots_eq_nil h]
  exact (immediate_pure _).bind fun _ => (immediate_pure _).bind fun _ => immediate_pure _

/-- Counting asks at the first node, if there is one. -/
theorem computeStats_allOrNothing : graph.computeStats.AllOrNothing (0 < graph.size) := by
  refine graph.answers_computeStats.allOrNothing ?_ ?_
  · intro hnodes
    exact (asksFirst_fold (fun _ _ => asksFirst_poll.bind _) (values_ne_nil hnodes) _).bind _
  · intro hnone
    exact (graph.immediate_computeStats hnone).not_asksFirst

/-- The first check asks at the first key, if there is one. -/
theorem validate_allOrNothing (settings : ValidationSettings) :
    (graph.validate settings).AllOrNothing (0 < graph.size) := by
  refine (graph.answers_validate settings).allOrNothing ?_ ?_
  · intro hnodes
    exact (asksFirst_fold (fun _ _ => asksFirst_poll.bind _) (sortedNames_ne_nil hnodes) []).bind _
  · intro hnone
    -- every check goes through the keys or the roots, and there are none
    unfold validate checkOrphans checkCycles findCycles checkDepth checkFanOut checkArguments
    rw [sortedRoots_eq_nil hnone, sortedNames_eq_nil hnone]
    refine Immediate.not_asksFirst ((immediate_pure _).bind fun _ => Immediate.bind ?_ fun _ =>
      (immediate_pure _).bind fun _ => (immediate_pure _).bind fun _ => ?_)
    · exact Immediate.bind ((immediate_pure _).bind fun _ => immediate_pure _) fun _ =>
        immediate_pure _
    · dsimp only
      split <;> exact (immediate_pure _).bind fun _ => immediate_pure _

/-- Building asks at the first declaration; an empty graph is built and counted at once. -/
theorem build_allOrNothing (declarations : List Declaration) :
    (build declarations).AllOrNothing (declarations ≠ []) := by
  refine (answers_build declarations).allOrNothing ?_ ?_
  · intro hdeclarations
    exact (asksFirst_fold (fun _ _ => asksFirst_poll.bind _) hdeclarations _).bind _
  · intro hnone
    obtain rfl : declarations = [] := Classical.not_not.mp hnone
    have hstats : ({} : Graph).computeStats.Immediate := immediate_computeStats {} (by decide)
    simp only [build, Run.fold, pure_bind]
    refine Immediate.not_asksFirst (Immediate.after_say (Immediate.after_say ?_))
    exact hstats.bind fun stats => immediate_pure _

end Graph

/-- **An order to stop is all or nothing.**  Whatever they work on, each of the operations ends
with `cancelled` if the order comes before the last of its questions, and otherwise exactly as it
ends when nobody gives the order, which is never with `cancelled`.  An order that was given before
the start cancels an operation exactly if it has something to do: at least one file, declaration
or node, a directory at the root, or a key to start from. -/
theorem stopping_is_all_or_nothing :
    (∀ (files : Files) (settings : AnalysisSettings),
      (discover files settings).AllOrNothing (files.isDirectory settings.rootDir = true)) ∧
    (∀ files : List SourceFile, (Registry.scan files).AllOrNothing (files ≠ [])) ∧
    (∀ (selection : Selection) (registry : Registry) (files : List SourceFile),
      (walk selection registry files).AllOrNothing (files ≠ [])) ∧
    (∀ declarations : List Declaration,
      (Graph.build declarations).AllOrNothing (declarations ≠ [])) ∧
    (∀ graph : Graph, graph.computeStats.AllOrNothing (0 < graph.size)) ∧
    (∀ (graph : Graph) (name : String),
      (graph.chainDepth name).AllOrNothing (graph.contains name = true)) ∧
    (∀ (graph : Graph) (settings : ValidationSettings),
      (graph.validate settings).AllOrNothing (0 < graph.size)) ∧
    (∀ (files : Files) (settings : AnalysisSettings),
      (analyzeDirectory files settings).AllOrNothing
        (files.isDirectory settings.rootDir = true)) := by
  refine ⟨fun files settings => ?_, scan_allOrNothing, walk_allOrNothing, Graph.build_allOrNothing,
    Graph.computeStats_allOrNothing, Graph.chainDepth_allOrNothing, Graph.validate_allOrNothing,
    fun files settings => ?_⟩
  · exact allOrNothing_of_root (fun _ => asks_discover)
      fun _ htree => ⟨answers_discover htree, asksFirst_discover htree⟩
  · exact allOrNothing_of_root (fun _ => asks_analyzeDirectory)
      fun _ htree => ⟨answers_analyzeDirectory htree, asksFirst_analyzeDirectory htree⟩

end WorkflowGraph
