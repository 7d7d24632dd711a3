import WorkflowGraph.Analysis
import WorkflowGraph.Proofs.CallPaths
import WorkflowGraph.Proofs.Conservation
import WorkflowGraph.Proofs.Persistence
import WorkflowGraph.Proofs.RecordedNumbers
import WorkflowGraph.Proofs.SourceTrees

/-!
# Analysed graphs in documents

Every graph that an analysis ends with is assembled from declarations whose numbers are spelled in
the sources (`analyzeDirectory_ensures_assembled`), and its average is a quotient of counts, which
is finite.  So, as far as its counts have 64 bits, its document can be written and read
(`fits_of_analysed`).

What is read is not always the graph.  A coefficient that is too large for a floating-point number
is recorded as infinite, and a document cannot hold it.  `analysed_graph_survives_iff` says that
nothing else is lost, and nothing at all while the literals of the sources are in range;
`large_coefficient_is_lost` shows a source with a literal that is not.
-/

namespace WorkflowGraph

open Number (Binary64)
open Numbers (all_append all_ofAll proper_counts)

/-! ## The numbers of an assembled graph -/

section Assembled

variable {declarations : List Declaration}

theorem CallSite.Rewritten.numbers_eq {raw site : CallSite} (h : raw.Rewritten site) :
    site.numbers = raw.numbers :=
  (congrArg CallSite.numbers h).trans rfl

/-- The versions of a node are those of a declaration, or none. -/
theorem exists_of_mem_versions {name : String} {node : GraphNode} {version : Version}
    (hnode : (assembled declarations).get? name = some node)
    (hversion : version ∈ node.body.versions) :
    ∃ declaration ∈ accepted declarations, version ∈ declaration.body.versions := by
  by_cases hmem : name ∈ declaredKeys declarations
  · obtain ⟨declaration, haccepted, rfl⟩ := (mem_declaredKeys declarations).mp hmem
    obtain ⟨carrier, hcarrier, hcarries⟩ := exists_carries haccepted
    obtain rfl := Option.some.inj (hnode.symm.trans hcarrier)
    rw [hcarries.versions] at hversion
    exact ⟨declaration, haccepted, hversion⟩
  · rw [(isPlaceholder_of_not_mem hmem hnode).body] at hversion
    cases hversion

theorem proper_of_get?_assembled {sources : List SourceFile}
    (h : AllSpelledIn sources declarations) {name : String} {node : GraphNode}
    (hnode : (assembled declarations).get? name = some node) :
    node.numbers.Proper (SpelledIn sources) := by
  have hbody : ∀ declaration ∈ accepted declarations,
      declaration.body.numbers.Proper (SpelledIn sources) :=
    fun declaration haccepted => h declaration (mem_of_mem_accepted haccepted)
  refine all_append.mpr ⟨proper_counts _ _, Body.proper_iff.mpr ⟨?_, ?_⟩⟩
  · intro site hsite
    obtain ⟨declaration, haccepted, _, raw, hraw, before, rfl⟩ :=
      exists_of_mem_callSites hnode hsite
    rw [(rewritten_settledSite _ before raw).numbers_eq]
    exact (Body.proper_iff.mp (hbody declaration haccepted)).1 raw hraw
  · intro version hversion
    obtain ⟨declaration, haccepted, hversion⟩ := exists_of_mem_versions hnode hversion
    exact (Body.proper_iff.mp (hbody declaration haccepted)).2 version hversion

/-- The nodes of an assembled graph hold no coefficient but those that the sources spell. -/
theorem proper_nodes_assembled {sources : List SourceFile}
    (h : AllSpelledIn sources declarations) :
    (Numbers.ofAll GraphNode.numbers (assembled declarations).nodes.values).Proper
      (SpelledIn sources) := by
  refine all_ofAll.mpr fun node hnode => ?_
  obtain ⟨name, hname⟩ := Graph.mem_values_iff.mp hnode
  exact proper_of_get?_assembled h hname

/-- The depth comes last among the counts, and the others are counted node by node. -/
theorem Graph.counts_tally (graph : Graph) :
    graph.tally.counts =
      (graph.nodes.values.foldl Stats.addNode {}).counts.dropLast ++ [graph.tally.maxDepth] := rfl

theorem avgFanOut_assembled (declarations : List Declaration) :
    (assembled declarations).stats.avgFanOut =
      .ofQuotient false (assembled declarations).stats.totalCallSites
        (assembled declarations).size := rfl

theorem Number.Binary64.isValid_ofQuotient (negative : Bool) (num den : Nat) :
    (ofQuotient negative num den).IsValid := by
  cases hround : ofQuotient negative num den with
  | finite sign mantissa exponent => exact isCanonical_of_ofQuotient hround
  | infinite sign => trivial

/-- An assembled graph fits into a document, as far as its counts do. -/
theorem fits_assembled {sources : List SourceFile} (h : AllSpelledIn sources declarations)
    (hcounts : ∀ n ∈ (assembled declarations).numbers.counts, n < 2 ^ 64) :
    (assembled declarations).Fits := by
  have hstats : (assembled declarations).stats.numbers.Proper Binary64.IsValid := by
    refine ⟨fun _ _ => trivial, List.forall_mem_nil _, List.forall_mem_singleton.mpr ?_⟩
    rw [avgFanOut_assembled]
    exact Binary64.isValid_ofQuotient _ _ _
  have hnodes := (proper_nodes_assembled h).imp fun x hx => hx.isValid
  have hproper : (assembled declarations).numbers.Proper Binary64.IsValid :=
    all_append.mpr ⟨hstats, hnodes⟩
  refine ⟨⟨hcounts, hproper.integers, hproper.floats⟩, ?_⟩
  rw [avgFanOut_assembled]
  apply Binary64.isFinite_ofQuotient_of_lt
  apply hcounts
  exact List.mem_append_left _ (by simp [Stats.numbers, Stats.counts])

end Assembled

/-! ## Analysis -/

/-- The declarations that are found hold no number but those that the sources spell. -/
theorem findDeclarations_ensures_spelledIn (files : Files) (settings : AnalysisSettings) :
    (findDeclarations files settings).Ensures (AllSpelledIn (sourcesOf files settings)) := by
  unfold findDeclarations
  refine (discover_ensures_sourcesOf files settings).bind fun found hfound => ?_
  refine (parseFiles_computes found).ensures.bind ?_
  rintro sources rfl
  rw [hfound]
  unfold classifySources
  refine Run.ensures_bind fun _ => Run.ensures_bind fun registry => ?_
  have hwalk : ∀ package name, (do
      let declarations ←
        walk { rules := Rule.standard, package, name } registry (sourcesOf files settings)
      Run.info ("Classified " ++ Number.natText declarations.length ++ " declarations")
      pure declarations).Ensures (AllSpelledIn (sourcesOf files settings)) := fun package name =>
    (walk_ensures_spelledIn _ _ _).bind fun declarations hspelled =>
      Run.ensures_bind fun _ => Run.ensures_pure hspelled
  split <;>
    exact Run.ensures_bind fun _ => Run.ensures_bind fun package => Run.ensures_bind fun name =>
      hwalk package name

/-- An analysis that has an answer has assembled it from declarations of its sources. -/
theorem analyzeDirectory_ensures_assembled (files : Files) (settings : AnalysisSettings) :
    (analyzeDirectory files settings).Ensures fun graph =>
      ∃ declarations, AllSpelledIn (sourcesOf files settings) declarations ∧
        graph = assembled declarations := by
  refine (findDeclarations_ensures_spelledIn files settings).bind fun declarations hspelled => ?_
  intro session graph hgraph
  exact ⟨declarations, hspelled, (build_computes declarations).ensures session graph hgraph⟩

/-- Where nobody stops it, an analysis assembles the declarations that it finds. -/
theorem analyzeDirectory_eq_ok {files : Files} {settings : AnalysisSettings} {session : Session}
    {declarations : List Declaration}
    (hfound : (findDeclarations files settings session).1 = .ok declarations)
    (hquiet : (findDeclarations files settings session).2.patience = none) :
    (analyzeDirectory files settings session).1 = .ok (assembled declarations) := by
  rw [analyzeDirectory, Run.bind_apply]
  rcases hresult : findDeclarations files settings session with ⟨failure | found, after⟩
  · rw [hresult] at hfound
    cases hfound
  · rw [hresult] at hfound hquiet
    obtain rfl := Except.ok.inj hfound
    exact ((build_computes found).answer after).resolve_right fun hstop => hstop.1 hquiet

section Analysed

variable {files : Files} {settings : AnalysisSettings} {session : Session} {graph : Graph}

/-- What an analysis ends with fits into a document, as far as its counts do. -/
theorem fits_of_analysed (hanalysed : (analyzeDirectory files settings session).1 = .ok graph)
    (hcounts : ∀ n ∈ graph.numbers.counts, n < 2 ^ 64) : graph.Fits := by
  obtain ⟨declarations, hspelled, rfl⟩ :=
    analyzeDirectory_ensures_assembled files settings session graph hanalysed
  exact fits_assembled hspelled hcounts

/-- The coefficients that an analysis records are spelled in its sources. -/
theorem spelledIn_of_analysed (hanalysed : (analyzeDirectory files settings session).1 = .ok graph)
    {x : Binary64} (hx : x ∈ graph.coefficients) : SpelledIn (sourcesOf files settings) x := by
  obtain ⟨declarations, hspelled, rfl⟩ :=
    analyzeDirectory_ensures_assembled files settings session graph hanalysed
  exact (proper_nodes_assembled hspelled).floats x hx

end Analysed

/-- **What a document keeps of an analysed graph.**  Take any source tree and any session in which
the analysis ends with a graph, with counts of 64 bits, and either style.

* The document reads as the graph without its infinite backoff coefficients, so as the graph itself
  exactly if none of them is infinite.
* Saving fails with a fault of a file or ends well, and then the same holds of what is loaded from
  the file.
* Every coefficient is spelled by a literal of the sources.  So none is infinite as long as all
  literals of the sources are in range. -/
theorem analysed_graph_survives_iff (files : Files) (settings : AnalysisSettings)
    (session : Session) (graph : Graph)
    (hanalysed : (analyzeDirectory files settings session).1 = .ok graph)
    (hcounts : ∀ n ∈ graph.numbers.counts, n < 2 ^ 64) (style : Json.Style) :
    (Graph.parse? (graph.render style) = some graph.asRead ∧
      (Graph.parse? (graph.render style) = some graph ↔
        ∀ x ∈ graph.coefficients, x.isFinite = true)) ∧
    (∀ path state,
      (∃ fault, (graph.save style path state).1 = .error { cause := .failure (.file fault) }) ∨
      (graph.save style path state).1 = .ok () ∧
        (Graph.load path (graph.save style path state).2).1 = .ok graph.asRead ∧
        ((Graph.load path (graph.save style path state).2).1 = .ok graph ↔
          ∀ x ∈ graph.coefficients, x.isFinite = true)) ∧
    (∀ x ∈ graph.coefficients, SpelledIn (sourcesOf files settings) x) ∧
    (LiteralsInRange (sourcesOf files settings) →
      ∀ x ∈ graph.coefficients, x.isFinite = true) := by
  have hfits := fits_of_analysed hanalysed hcounts
  have hread := Graph.parse?_render style hfits
  refine ⟨⟨hread, ?_⟩, fun path state => ?_, fun x hx => spelledIn_of_analysed hanalysed hx,
    fun hrange x hx => (spelledIn_of_analysed hanalysed hx).isFinite hrange⟩
  · rw [hread, Option.some.injEq, graph.asRead_eq_self_iff]
  · rcases graph.save_stores style path state with hfault | ⟨hsave, _⟩
    · exact Or.inl hfault
    · refine Or.inr ⟨hsave, (Graph.load_save hfits hsave _).mpr rfl, ?_⟩
      rw [Graph.load_save hfits hsave, eq_comm, graph.asRead_eq_self_iff]

/-! ## A coefficient that is kept and one that is not -/

section Shipping

/-- A workflow that starts an activity and retries it with the given coefficient. -/
def shippingSource (coefficient : String) : String :=
  "package orders\n\nimport w \"go.temporal.io/sdk/workflow\"\n\n" ++
    "func Ship(c w.Context) \x7b w.ExecuteActivity(w.WithActivityOptions(c, w.ActivityOptions\x7b" ++
    "RetryPolicy: &R\x7bBackoffCoefficient: " ++ coefficient ++ "\x7d\x7d), Pack) \x7d\n"

def shippingFiles (coefficient : String) : Files where
  root := .directory [("orders.go", .file (shippingSource coefficient).toUTF8)]

def shippingSettings : AnalysisSettings := { rootDir := "/" }

/-- The call of the activity as it is read. -/
def packSite (coefficient : Binary64) : CallSite where
  targetName := "Pack"
  targetRole := .activity
  line := 5
  options := some { retryPolicy := some { backoffCoefficient := some coefficient } }
  argumentCount := 0
  argumentTypes := []
  resultType := none
  resolution := .pending

/-- The workflow as it is read. -/
def shipment (coefficient : Binary64) : Declaration where
  name := "Ship"
  package := "orders"
  filePath := "/orders.go"
  line := 5
  role := .workflow
  parameters := [⟨"c", "w.Context"⟩]
  body := { callSites := [packSite coefficient] }

/-- The texts of two coefficients, and what is recorded of them. -/
def shippingCoefficients : List (String × Binary64) :=
  [("1.5", .finite false (3 * 2 ^ 51) (-52)), ("1e400", .infinite false)]

variable {text : String} {coefficient : Binary64}

theorem mem_shippingCoefficients : (text, coefficient) ∈ shippingCoefficients ↔
    text = "1.5" ∧ coefficient = .finite false (3 * 2 ^ 51) (-52) ∨
      text = "1e400" ∧ coefficient = .infinite false := by
  rw [shippingCoefficients, List.mem_pair, Prod.mk.injEq, Prod.mk.injEq]

theorem declaredKeys_shipment (coefficient : Binary64) :
    declaredKeys [shipment coefficient] = ["Ship"] :=
  List.mergeSort_singleton _

theorem values_shipment (h : (text, coefficient) ∈ shippingCoefficients) :
    (assembled [shipment coefficient]).nodes.values =
      [{ (shipment coefficient).node with
         body := { callSites := [{ packSite coefficient with resolution := .stub }] } },
       .stub "Pack" .activity "Ship"] := by
  show (joined [shipment coefficient]).nodes.values = _
  unfold joined allRounds
  rw [declaredKeys_shipment]
  rcases mem_shippingCoefficients.mp h with ⟨rfl, rfl⟩ | ⟨rfl, rfl⟩ <;> decide +kernel

theorem coefficients_shipment (h : (text, coefficient) ∈ shippingCoefficients) :
    (assembled [shipment coefficient]).coefficients = [coefficient] := by
  rw [Graph.coefficients, values_shipment h]
  rfl

theorem counts_shipment_lt (h : (text, coefficient) ∈ shippingCoefficients) :
    ∀ n ∈ (assembled [shipment coefficient]).numbers.counts, n < 2 ^ 64 := by
  have hvalues := values_shipment h
  have hsize : (assembled [shipment coefficient]).size = 2 := by
    rw [Graph.size, Table.size, ← List.length_map (f := Prod.snd)]
    exact congrArg List.length hvalues
  have hdepth : (assembled [shipment coefficient]).tally.maxDepth < 2 ^ 64 :=
    Nat.lt_of_le_of_lt Graph.maxDepth_tally_le_size (by rw [hsize]; decide)
  have hcounted : ∀ n ∈ ((assembled [shipment coefficient]).nodes.values.foldl
      Stats.addNode {}).counts.dropLast, n < 2 ^ 64 := by
    rw [hvalues]
    rcases mem_shippingCoefficients.mp h with ⟨rfl, rfl⟩ | ⟨rfl, rfl⟩ <;> decide
  have hnodes : ∀ n ∈ (Numbers.ofAll GraphNode.numbers
      (assembled [shipment coefficient]).nodes.values).counts, n < 2 ^ 64 := by
    rw [hvalues]
    rcases mem_shippingCoefficients.mp h with ⟨rfl, rfl⟩ | ⟨rfl, rfl⟩ <;> decide
  rw [Graph.counts_numbers, stats_assembled, Graph.counts_tally, List.forall_mem_append,
    List.forall_mem_append, List.forall_mem_singleton]
  exact ⟨⟨hcounted, hdepth⟩, hnodes⟩

theorem analyzeDirectory_shipping (h : (text, coefficient) ∈ shippingCoefficients) :
    (analyzeDirectory (shippingFiles text) shippingSettings {}).1 =
      .ok (assembled [shipment coefficient]) := by
  have hfound : (findDeclarations (shippingFiles text) shippingSettings {}).1 =
        .ok [shipment coefficient] ∧
      (findDeclarations (shippingFiles text) shippingSettings {}).2.patience = none := by
    rcases mem_shippingCoefficients.mp h with ⟨rfl, rfl⟩ | ⟨rfl, rfl⟩ <;> decide +kernel
  exact analyzeDirectory_eq_ok hfound.1 hfound.2

theorem decimals_shipping :
    (sourcesOf (shippingFiles "1.5") shippingSettings).map (fun source => source.root.decimals) =
      [[(15, -1)]] := by
  decide +kernel

theorem literalsInRange_shipping :
    LiteralsInRange (sourcesOf (shippingFiles "1.5") shippingSettings) := by
  intro source hsource decimal hdecimal
  have hmem := List.mem_map_of_mem (f := fun source : SourceFile => source.root.decimals) hsource
  rw [decimals_shipping, List.mem_singleton] at hmem
  rw [hmem, List.mem_singleton] at hdecimal
  have hpower : (1 : ℚ) ≤ 2 ^ Binary64.greatestExponent :=
    one_le_zpow₀ (by norm_num) (by decide)
  calc Binary64.decimalValue decimal.1 decimal.2 = 3 / 2 := by
        rw [hdecimal]
        norm_num [Binary64.decimalValue]
    _ < (2 ^ 53 - 1 / 2) * 1 := by norm_num
    _ ≤ Binary64.infiniteFrom := mul_le_mul_of_nonneg_left hpower (by norm_num)

/-- With a coefficient of one and a half all literals are in range, and the graph survives. -/
theorem analysed_shipping_survives :
    LiteralsInRange (sourcesOf (shippingFiles "1.5") shippingSettings) ∧
    ∃ graph, (analyzeDirectory (shippingFiles "1.5") shippingSettings {}).1 = .ok graph ∧
      graph.coefficients = [.finite false (3 * 2 ^ 51) (-52)] ∧
      ∀ style, Graph.parse? (graph.render style) = some graph := by
  have h : ("1.5", .finite false (3 * 2 ^ 51) (-52)) ∈ shippingCoefficients := by decide
  refine ⟨literalsInRange_shipping, _, analyzeDirectory_shipping h, coefficients_shipment h,
    fun style => ?_⟩
  obtain ⟨⟨_, hsurvives⟩, _, _, hfinite⟩ := analysed_graph_survives_iff _ _ _ _
    (analyzeDirectory_shipping h) (counts_shipment_lt h) style
  exact hsurvives.mpr (hfinite literalsInRange_shipping)

/-- A coefficient that is too large for a floating-point number is recorded as infinite, and the
document reads as another graph. -/
theorem large_coefficient_is_lost :
    ∃ graph, (analyzeDirectory (shippingFiles "1e400") shippingSettings {}).1 = .ok graph ∧
      graph.coefficients = [.infinite false] ∧
      ∀ style, ∃ read, Graph.parse? (graph.render style) = some read ∧ read ≠ graph := by
  have h : ("1e400", .infinite false) ∈ shippingCoefficients := by decide
  have hcoefficients := coefficients_shipment h
  have hfits := fits_of_analysed (analyzeDirectory_shipping h) (counts_shipment_lt h)
  refine ⟨_, analyzeDirectory_shipping h, hcoefficients, fun style => ?_⟩
  refine ⟨_, Graph.parse?_render style hfits, ?_⟩
  rw [Ne, Graph.asRead_eq_self_iff, hcoefficients]
  decide

end Shipping

end WorkflowGraph
