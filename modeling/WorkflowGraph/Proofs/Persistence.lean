import WorkflowGraph.Graph.Store
import WorkflowGraph.Proofs.Records
import WorkflowGraph.Proofs.Shells
import WorkflowGraph.Proofs.WrittenFiles

/-!
# Saving and loading

A graph that is saved is the text of its document in a file, and loading reads the text that the
file holds.  So the two meet in the document: what is loaded is what the document says
(`load_save`).  Where all numbers are finite this is the graph itself, in either style and in
whatever order its nodes are written, and saving fails for reasons of the files alone
(`save_then_load`).
-/

namespace WorkflowGraph

namespace Shell

/-- The command fails with a fault of a file, or ends with the text in the file at the path. -/
def Stores (path text : String) (command : Shell Unit) : Prop :=
  ∀ state, (∃ fault, (command state).1 = .error { cause := .failure (.file fault) }) ∨
    (command state).1 = .ok () ∧ (command state).2.files.read path = .ok text

theorem stores_write (path text said : String) :
    Stores path text (do
      Shell.write fun files => files.write path text
      Shell.debug said) := by
  intro state
  rcases hwrite : state.files.write path text with fault | files
  · refine Or.inl ⟨fault, ?_⟩
    simp only [bind, Shell.write, hwrite]
  · refine Or.inr ?_
    simp only [bind, Shell.write, hwrite]
    exact ⟨rfl, Files.read_of_write hwrite⟩

/-- Directories on the way are made first. -/
theorem Stores.after_makeDirectories {path text : String} {command : Shell Unit}
    (h : Stores path text command) (parent : String) :
    Stores path text
      (Shell.makeDirectories parent (fun fault => .failure (.file fault)) >>= fun _ => command) := by
  intro state
  rcases hmade : state.files.makeDirectories parent with ⟨fault | _, files⟩
  · refine Or.inl ⟨fault, ?_⟩
    simp only [bind, Shell.makeDirectories, hmade]
  · have hrest := h { state with files }
    simpa only [bind, Shell.makeDirectories, hmade] using hrest

end Shell

namespace Graph

theorem save_stores (graph : Graph) (style : Json.Style) (path : String) :
    Shell.Stores path (graph.render style) (graph.save style path) := by
  have hwrite := Shell.stores_write path (graph.render style)
    ("Saved " ++ Number.natText graph.size ++ " nodes to " ++ path)
  unfold save
  split
  · exact hwrite
  · exact hwrite.after_makeDirectories _

/-- After saving, the file holds the document. -/
theorem read_of_save {graph : Graph} {style : Json.Style} {path : String} {state : ShellState}
    (hsave : (graph.save style path state).1 = .ok ()) :
    (graph.save style path state).2.files.read path = .ok (graph.render style) := by
  rcases graph.save_stores style path state with ⟨fault, hfault⟩ | ⟨_, hread⟩
  · rw [hfault] at hsave
    cases hsave
  · exact hread

/-- Loading gives the graph of the document that the file holds. -/
theorem load_of_read {path text : String} {state : ShellState}
    (hread : state.files.read path = .ok text) (graph : Graph) :
    (load path state).1 = .ok graph ↔ Graph.parse? text = some graph := by
  simp only [load, bind, Shell.read, hread]
  cases Graph.parse? text with
  | none => exact iff_of_false (fun h => nomatch h) (fun h => nomatch h)
  | some found =>
      show Except.ok found = Except.ok graph ↔ some found = some graph
      rw [Except.ok.injEq, Option.some.injEq]

/-- **What is loaded after saving** is what the document of the graph says. -/
theorem load_save {graph : Graph} (hfits : graph.Fits) {style : Json.Style} {path : String}
    {state : ShellState} (hsave : (graph.save style path state).1 = .ok ()) (loaded : Graph) :
    (load path (graph.save style path state).2).1 = .ok loaded ↔ loaded = graph.asRead := by
  rw [load_of_read (read_of_save hsave), Graph.parse?_render style hfits, Option.some.injEq,
    eq_comm]

/-- The same nodes by the same keys and the same counts, in whatever order the nodes are listed. -/
structure SameAs (graph other : Graph) : Prop where
  nodes : ∀ name, graph.get? name = other.get? name
  stats : graph.stats = other.stats

/-- A graph stays the same if its nodes are listed in another order. -/
theorem sameAs_of_perm {graph other : Graph}
    (hentries : graph.nodes.entries.Perm other.nodes.entries)
    (hstats : graph.stats = other.stats) : graph.SameAs other where
  nodes name := by
    apply Option.ext
    intro node
    rw [get?, get?, Table.get?_eq_some_iff, Table.get?_eq_some_iff, hentries.mem_iff]
  stats := hstats

theorem mem_values_iff {graph : Graph} {node : GraphNode} :
    node ∈ graph.nodes.values ↔ ∃ name, graph.get? name = some node :=
  graph.nodes.mem_values_iff

/-- What holds of all numbers of a graph holds of them in any order. -/
theorem SameAs.all_numbers {graph other : Graph} (h : graph.SameAs other) {count : Nat → Prop}
    {integer : Int → Prop} {float : Number.Binary64 → Prop}
    (hall : other.numbers.All count integer float) : graph.numbers.All count integer float := by
  obtain ⟨hstats, hnodes⟩ := Numbers.all_append.mp hall
  rw [← h.stats] at hstats
  refine Numbers.all_append.mpr ⟨hstats, Numbers.all_ofAll.mpr fun node hnode => ?_⟩
  obtain ⟨name, hname⟩ := mem_values_iff.mp hnode
  rw [h.nodes] at hname
  exact Numbers.all_ofAll.mp hnodes node (mem_values_iff.mpr ⟨name, hname⟩)

end Graph

/-- **Save, then load.**  Take any graph whose numbers are what a machine holds, with finite
floating-point numbers, and write its nodes in any order and in either style.  The text reads as the
graph that was written.  Saving it fails with a fault of a file or ends well, and then loading the
file gives the graph back. -/
theorem save_then_load (graph written : Graph) (hwritten : written.SameAs graph)
    (hfit : graph.numbers.Fit) (hfinite : ∀ x ∈ graph.numbers.floats, x.isFinite = true)
    (style : Json.Style) :
    Graph.parse? (written.render style) = some written ∧
      ∀ path state,
        (∃ fault, (written.save style path state).1 = .error { cause := .failure (.file fault) }) ∨
        (written.save style path state).1 = .ok () ∧
          ∃ loaded, (Graph.load path (written.save style path state).2).1 = .ok loaded ∧
            loaded.SameAs graph := by
  have hall : graph.numbers.All (fun _ => True) (fun _ => True) (·.isFinite = true) :=
    ⟨fun _ _ => trivial, fun _ _ => trivial, hfinite⟩
  obtain ⟨haverage, hnodes⟩ := Numbers.all_append.mp (hwritten.all_numbers hall)
  have hfits : written.Fits :=
    ⟨hwritten.all_numbers hfit, haverage.floats _ (List.mem_singleton_self _)⟩
  have hasRead : written.asRead = written := written.asRead_eq_self_iff.mpr hnodes.floats
  refine ⟨by rw [Graph.parse?_render style hfits, hasRead], fun path state => ?_⟩
  rcases written.save_stores style path state with hfault | ⟨hsave, _⟩
  · exact Or.inl hfault
  · refine Or.inr ⟨hsave, written, ?_, hwritten⟩
    rw [Graph.load_save hfits hsave, hasRead]

/-- A workflow with a call in whose name, options and types every kind of escape is needed. -/
def parcelNode : GraphNode where
  name := "Parcel.\"Send\""
  role := .workflow
  package := "courier"
  filePath := "src\\courier.go"
  lineNumber := 12
  description := some "Größe ≤ 3\n\ttimes 🚚 \x01"
  body :=
    { callSites :=
        [{ targetName := "Deliver"
           targetRole := .activity
           line := 14
           options := some
             { taskQueue := some ""
               retryPolicy := some
                 -- a coefficient of one and a half
                 { backoffCoefficient := some (.finite false (3 * 2 ^ 51) (-52))
                   maximumAttempts := some (-9223372036854775808) } }
           argumentCount := 18446744073709551615
           argumentTypes := ["", "\u007f"]
           resultType := none
           resolution := .stub }]
      versions := [{ changeId := "v", minVersion := some (-1), maxVersion := none, line := 15 }] }

/-- The graph of the workflow and of the stub for what it calls. -/
def parcelGraph : Graph where
  nodes := ⟨[("Parcel.\"Send\"", parcelNode),
    ("Deliver", .stub "Deliver" .activity "Parcel.\"Send\"")], by decide⟩
  -- the average is one half
  stats := { totalWorkflows := 1, totalCallSites := 1, avgFanOut := .finite false (2 ^ 52) (-53) }

/-- The same graph with its nodes in the other order. -/
def turnedParcelGraph : Graph :=
  { parcelGraph with nodes := ⟨parcelGraph.nodes.entries.reverse, by decide⟩ }

theorem parcelGraph_save_then_load :
    ∃ loaded, (Graph.load "out/graph.json"
        (turnedParcelGraph.save .pretty "out/graph.json" {}).2).1 = .ok loaded ∧
      loaded.SameAs parcelGraph := by
  have hfit : parcelGraph.numbers.Fit := by decide
  have hfinite : ∀ x ∈ parcelGraph.numbers.floats, x.isFinite = true := by decide
  have hsame : turnedParcelGraph.SameAs parcelGraph :=
    Graph.sameAs_of_perm (List.reverse_perm _) rfl
  have hsaved : (turnedParcelGraph.save .pretty "out/graph.json" {}).1 = .ok () := by rfl
  rcases (save_then_load parcelGraph turnedParcelGraph hsame hfit hfinite .pretty).2
    "out/graph.json" {} with ⟨fault, hfault⟩ | ⟨_, hloaded⟩
  · rw [hfault] at hsaved
    cases hsaved
  · exact hloaded

end WorkflowGraph
