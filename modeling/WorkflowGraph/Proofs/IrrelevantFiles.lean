import WorkflowGraph.Proofs.Cancellation
import WorkflowGraph.Proofs.SourceTrees

/-!
# Files that an analysis does not depend on

Between the sources of a tree there may stand anything: files in other languages, tests, copies
of other projects in excluded directories, files that somebody has left half written.  An analysis
walks past all of it and warns of some, and none of it shows in the graph: two trees with the same
sources have the same graph and the same issues, although the two walks ask and say different
things on their way.

The sources are the same list (`FileTree.sourceEntries_eq`), and after they are read an analysis
does not look at its files again (`outcome_analyzeDirectory`).  That what was said before does not
matter is a matter of the number of questions that a run asks (`Run.Answers.outcome_bind`).

Main statement: `analysis_depends_on_sources_alone`.
-/

namespace WorkflowGraph

open Run

/-- The path leads to a directory, and this is the tree below it. -/
structure Files.HasDirectory (files : Files) (path : String) (tree : FileTree) : Prop where
  found : files.lookup path = .ok tree
  isDirectory : tree.isDirectory = true
  namesOnce : tree.NamesOnce

section Analysis

variable {files others : Files} {settings : AnalysisSettings} {tree other : FileTree}

/-- A directory is what an analysis begins with. -/
theorem Files.HasDirectory.sourceTree_eq (h : files.HasDirectory settings.rootDir tree) :
    sourceTree files settings.rootDir = .ok tree := by
  unfold sourceTree
  rw [h.found]
  exact if_pos h.isDirectory

/-- Reading the files of a tree ends with its sources. -/
theorem outcome_readSources (h : sourceTree files settings.rootDir = .ok tree) :
    (discover files settings >>= parseFiles).Answers ∧
      (discover files settings >>= parseFiles).outcome = .ok (sourcesOf files settings) := by
  have hanswers := (answers_discover h).bind answers_parseFiles
  have hsources : (discover files settings >>= parseFiles).Ensures (· = sourcesOf files settings) := by
    refine (discover_ensures_sourcesOf files settings).bind fun found hfound => ?_
    rw [← hfound]
    exact (parseFiles_computes found).ensures
  exact ⟨hanswers, hanswers.outcome_of_ensures hsources⟩

/-- What an analysis ends with is settled when its sources are read. -/
theorem outcome_analyzeDirectory (h : sourceTree files settings.rootDir = .ok tree) :
    (analyzeDirectory files settings).outcome =
      (classifySources settings (sourcesOf files settings) >>= Graph.build).outcome := by
  obtain ⟨hanswers, hsources⟩ := outcome_readSources h
  have hsplit : analyzeDirectory files settings =
      discover files settings >>= parseFiles >>= fun sources =>
        classifySources settings sources >>= Graph.build := by
    rw [analyzeDirectory, findDeclarations, bind_assoc, bind_assoc]
    simp only [bind_assoc]
  rw [hsplit]
  exact hanswers.outcome_bind hsources
    ((answers_classifySources settings _).bind Graph.answers_build)

/-- Trees with the same sources are read as the same list of sources. -/
theorem sourcesOf_eq (htree : files.HasDirectory settings.rootDir tree)
    (hother : others.HasDirectory settings.rootDir other)
    (hsame : ∀ names content,
      tree.HasSource settings names content ↔ other.HasSource settings names content) :
    sourcesOf files settings = sourcesOf others settings := by
  rw [sourcesOf_eq_filterMap htree.sourceTree_eq, sourcesOf_eq_filterMap hother.sourceTree_eq,
    FileTree.sourceEntries_eq htree.namesOnce hother.namesOnce hsame]

end Analysis

/-- The analyses of two machines end with the same graph, and the checks of it, whatever their
limits, with the same issues. -/
def AnalysedAlike (settings : AnalysisSettings) (files others : Files) : Prop :=
  ∃ graph, (analyzeDirectory files settings).outcome = .ok graph ∧
    (analyzeDirectory others settings).outcome = .ok graph ∧
    ∀ limits, ∃ issues,
      (analyzeDirectory files settings >>= fun graph => graph.validate limits).outcome =
        .ok issues ∧
      (analyzeDirectory others settings >>= fun graph => graph.validate limits).outcome =
        .ok issues

/-- The graph is built from the sources, and the checks look at the graph alone. -/
theorem analysedAlike_of_sourcesOf_eq {files others : Files} {settings : AnalysisSettings}
    {tree other : FileTree} (htree : sourceTree files settings.rootDir = .ok tree)
    (hother : sourceTree others settings.rootDir = .ok other)
    (hsources : sourcesOf files settings = sourcesOf others settings) :
    AnalysedAlike settings files others := by
  have hfirst := answers_analyzeDirectory htree
  have hsecond := answers_analyzeDirectory hother
  obtain ⟨_, graph, hasks⟩ := answers_analyzeDirectory htree
  have hgraph : (analyzeDirectory files settings).outcome = .ok graph := hasks.outcome_eq
  have hsame : (analyzeDirectory others settings).outcome = .ok graph := by
    rw [outcome_analyzeDirectory hother, ← hsources, ← outcome_analyzeDirectory htree, hgraph]
  refine ⟨graph, hgraph, hsame, fun limits => ?_⟩
  have hvalidate := graph.answers_validate limits
  obtain ⟨_, issues, hissues⟩ := graph.answers_validate limits
  refine ⟨issues, ?_, ?_⟩
  · rw [hfirst.outcome_bind hgraph hvalidate, hissues.outcome_eq]
  · rw [hsecond.outcome_bind hsame hvalidate, hissues.outcome_eq]

/-- **An analysis depends on the sources alone.**  Take any settings and a machine with a directory
under the path of the root.

* If another machine has a directory there with the same files, the same bytes under the same
  names, among those that take part (they are Go files, not tests that are left out, not below an
  excluded directory, and texts that follow the grammar), then the analyses of both end with the
  same graph and the checks with the same issues.
* In particular nothing changes when a file that does not take part is added, or taken away again,
  at any place. -/
theorem analysis_depends_on_sources_alone (settings : AnalysisSettings) {files : Files}
    {tree : FileTree} (htree : files.HasDirectory settings.rootDir tree) :
    (∀ others other, Files.HasDirectory others settings.rootDir other →
      (∀ names content,
        tree.HasSource settings names content ↔ other.HasSource settings names content) →
      AnalysedAlike settings files others) ∧
    (∀ place content others, tree.get? place = none → tree.WayIsFree place →
      ¬FileTree.TakesPart settings place content →
      Files.HasDirectory others settings.rootDir (FileTree.put (.file content) place tree) →
      AnalysedAlike settings files others) := by
  have halike : ∀ others other, Files.HasDirectory others settings.rootDir other →
      (∀ names content,
        tree.HasSource settings names content ↔ other.HasSource settings names content) →
      AnalysedAlike settings files others := fun others other hother hsame =>
    analysedAlike_of_sourcesOf_eq htree.sourceTree_eq hother.sourceTree_eq
      (sourcesOf_eq htree hother hsame)
  refine ⟨halike, fun place content others hfree hway hnot hother => ?_⟩
  have hsame := FileTree.hasSource_put_iff hfree hway hnot
  exact halike others _ hother fun names bytes => (hsame names bytes).symm

/-! ## A desk with clutter on it -/

section Desk

def deskSource : String :=
  "package desk\n\nfunc main() \x7b w.RegisterActivity(Stamp) \x7d\n\nfunc Stamp() \x7b\x7d\n"

/-- A directory with one source. -/
def deskTree : FileTree := .directory [("desk.go", .file deskSource.toUTF8)]

/-- The same with a copy in an excluded directory. -/
def vendoredTree : FileTree := .put (.file deskSource.toUTF8) ["vendor", "desk.go"] deskTree

/-- The same with a file that breaks off. -/
def draftedTree : FileTree := .put (.file "package".toUTF8) ["draft.go"] vendoredTree

/-- The same with a test. -/
def clutteredTree : FileTree := .put (.file deskSource.toUTF8) ["desk_test.go"] draftedTree

def deskSettings : AnalysisSettings := { rootDir := "/" }

theorem hasDirectory_desk {tree : FileTree} (hdirectory : tree.isDirectory = true)
    (hnames : tree.NamesOnce) :
    ({ root := tree } : Files).HasDirectory deskSettings.rootDir tree := by
  refine ⟨?_, hdirectory, hnames⟩
  cases tree with
  | file content => cases hdirectory
  | directory children => rfl
  | special => cases hdirectory

theorem namesOnce_desk : deskTree.NamesOnce := by
  simp [deskTree, FileTree.NamesOnce, FileTree.AllNamesOnce]

theorem namesOnce_vendored : vendoredTree.NamesOnce :=
  FileTree.namesOnce_put (FileTree.namesOnce_file _) _ namesOnce_desk

theorem namesOnce_cluttered : clutteredTree.NamesOnce :=
  FileTree.namesOnce_put (FileTree.namesOnce_file _) _
    (FileTree.namesOnce_put (FileTree.namesOnce_file _) _ namesOnce_vendored)

/-- The copy stands in an excluded directory. -/
theorem vendored_takes_no_part :
    ¬FileTree.TakesPart deskSettings ["vendor", "desk.go"] deskSource.toUTF8 := by
  intro h
  exact h.notExcluded "vendor" (by decide) List.mem_cons_self

/-- The draft breaks off after its first word. -/
theorem draft_takes_no_part :
    ¬FileTree.TakesPart deskSettings ["draft.go"] "package".toUTF8 := by
  intro h
  have hparse := (FileTree.readable_toUTF8_iff "package").mp h.readable
  exact absurd hparse (by decide +kernel)

/-- The test has the name of a test. -/
theorem test_takes_no_part :
    ¬FileTree.TakesPart deskSettings ["desk_test.go"] deskSource.toUTF8 := by
  intro h
  obtain ⟨name, hname, _, htests | htest⟩ := h.named
  · exact absurd htests (by decide)
  · obtain rfl : "desk_test.go" = name := FileName.ofText_inj.mp (Option.some.inj hname)
    exact absurd htest (by decide +kernel)

theorem way_to_vendored : deskTree.WayIsFree ["vendor", "desk.go"] := by
  have hvendor : deskTree.child? "vendor" = none := rfl
  refine FileTree.wayIsFree_cons.mpr ⟨by simp [deskTree], ?_⟩
  rw [hvendor]
  exact FileTree.wayIsFree_cons.mpr ⟨by simp, FileTree.wayIsFree_nil _⟩

/-- None of the three files is a source, so the sources stay the same from tree to tree. -/
theorem hasSource_cluttered_iff (names : List FileName) (content : ByteArray) :
    clutteredTree.HasSource deskSettings names content ↔
      deskTree.HasSource deskSettings names content := by
  have hway : ∀ name children, (FileTree.directory children).WayIsFree [name] :=
    fun name children => FileTree.wayIsFree_cons.mpr ⟨by simp, FileTree.wayIsFree_nil _⟩
  calc clutteredTree.HasSource deskSettings names content
      ↔ draftedTree.HasSource deskSettings names content :=
        FileTree.hasSource_put_iff rfl (hway _ _) test_takes_no_part names content
    _ ↔ vendoredTree.HasSource deskSettings names content :=
        FileTree.hasSource_put_iff rfl (hway _ _) draft_takes_no_part names content
    _ ↔ deskTree.HasSource deskSettings names content :=
        FileTree.hasSource_put_iff rfl way_to_vendored vendored_takes_no_part names content

/-- A copy in an excluded directory does not show, and neither do a file that breaks off and a
test. -/
theorem desk_analysed_alike :
    ¬FileTree.TakesPart deskSettings ["vendor", "desk.go"] deskSource.toUTF8 ∧
      AnalysedAlike deskSettings { root := deskTree } { root := vendoredTree } ∧
      AnalysedAlike deskSettings { root := deskTree } { root := clutteredTree } := by
  have hmain := analysis_depends_on_sources_alone deskSettings (hasDirectory_desk rfl namesOnce_desk)
  refine ⟨vendored_takes_no_part, ?_, ?_⟩
  · exact hmain.2 _ _ _ rfl way_to_vendored vendored_takes_no_part
      (hasDirectory_desk rfl namesOnce_vendored)
  · exact hmain.1 _ _ (hasDirectory_desk rfl namesOnce_cluttered) fun names content =>
      (hasSource_cluttered_iff names content).symm

end Desk

end WorkflowGraph
