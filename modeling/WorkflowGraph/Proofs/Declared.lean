import WorkflowGraph.Graph.Build
import WorkflowGraph.Proofs.Edges
import WorkflowGraph.Proofs.Runs

/-!
# The declared nodes of a graph

The first half of building a graph goes through the declarations once.  A declaration without a
name is passed over, and so is one whose qualified name has a node already; every other one gets
a node.  `accepted` says which declarations these are without following the loop, and
`Graph.declareNode_fold_computes` says that the loop finds exactly them.
-/

namespace WorkflowGraph

/-- The declarations that get a node: those with a name, of each qualified name the first. -/
def accepted : List Declaration → List Declaration
  | [] => []
  | declaration :: others =>
    if declaration.name = "" then accepted others
    else declaration ::
      (accepted others).filter fun other => other.qualifiedName ≠ declaration.qualifiedName

theorem accepted_cons_of_named {declaration : Declaration} (others : List Declaration)
    (h : declaration.name ≠ "") :
    accepted (declaration :: others) = declaration ::
      (accepted others).filter fun other => other.qualifiedName ≠ declaration.qualifiedName :=
  if_neg h

/-- Accepted declarations have names of their own. -/
theorem nodup_accepted (declarations : List Declaration) :
    ((accepted declarations).map Declaration.qualifiedName).Nodup := by
  induction declarations with
  | nil => exact List.nodup_nil
  | cons declaration others ih =>
      by_cases hname : declaration.name = ""
      · rw [accepted, if_pos hname]
        exact ih
      · rw [accepted_cons_of_named others hname, List.map_cons, List.nodup_cons]
        refine ⟨?_, ih.sublist (List.filter_sublist.map _)⟩
        intro hmem
        obtain ⟨other, hother, hsame⟩ := List.mem_map.mp hmem
        simp [hsame] at hother

/-- Declarations that all have names, and different ones, are all accepted. -/
theorem accepted_eq_self {declarations : List Declaration}
    (hnamed : ∀ declaration ∈ declarations, declaration.name ≠ "")
    (hdistinct : (declarations.map Declaration.qualifiedName).Nodup) :
    accepted declarations = declarations := by
  induction declarations with
  | nil => rfl
  | cons declaration others ih =>
      rw [List.map_cons, List.nodup_cons] at hdistinct
      have hrest : accepted others = others :=
        ih (fun other hother => hnamed other (List.mem_cons_of_mem _ hother)) hdistinct.2
      rw [accepted_cons_of_named others (hnamed declaration List.mem_cons_self), hrest]
      congr 1
      rw [List.filter_eq_self]
      intro other hother
      have hne : other.qualifiedName ≠ declaration.qualifiedName := fun hsame =>
        hdistinct.1 (hsame ▸ List.mem_map_of_mem hother)
      simpa using hne

/-- The entry of a declaration: its key and its body. -/
def Declaration.entry (declaration : Declaration) : String × Body :=
  (declaration.qualifiedName, declaration.body)

namespace Graph

variable {graph : Graph}

/-- Gives a declaration a node. -/
def declare (graph : Graph) (declaration : Declaration) : Graph :=
  { graph with nodes := graph.nodes.insert declaration.qualifiedName declaration.node }

/-- Gives declarations nodes, one after the other. -/
def declareAll (graph : Graph) (declarations : List Declaration) : Graph :=
  declarations.foldl declare graph

theorem get?_declare (graph : Graph) (declaration : Declaration) (name : String) :
    (graph.declare declaration).get? name =
      if name = declaration.qualifiedName then some declaration.node else graph.get? name :=
  graph.nodes.get?_insert _ name _

theorem contains_declare (graph : Graph) (declaration : Declaration) (name : String) :
    (graph.declare declaration).contains name =
      (decide (name = declaration.qualifiedName) || graph.contains name) := by
  rw [contains_eq_isSome, get?_declare, contains_eq_isSome]
  by_cases hname : name = declaration.qualifiedName <;> simp [hname]

/-- The declarations whose keys are still free. -/
def free (graph : Graph) (declarations : List Declaration) : List Declaration :=
  declarations.filter fun declaration => !graph.contains declaration.qualifiedName

/-- Behind a key that is taken, no namesake is free either. -/
theorem free_cons_of_taken {declaration : Declaration} (others : List Declaration)
    (htaken : graph.contains declaration.qualifiedName = true) :
    graph.free (declaration ::
      others.filter fun other => other.qualifiedName ≠ declaration.qualifiedName) =
      graph.free others := by
  rw [free, free, List.filter_cons_of_neg (by simpa using htaken), List.filter_filter]
  apply List.filter_congr
  intro other _
  by_cases hsame : other.qualifiedName = declaration.qualifiedName
  · simp [hsame, htaken]
  · simp [hsame]

/-- A new node takes its key from its namesakes, and nothing from anybody else. -/
theorem free_cons_of_new {declaration : Declaration} (others : List Declaration)
    (hnew : ¬graph.contains declaration.qualifiedName = true) :
    graph.free (declaration ::
      others.filter fun other => other.qualifiedName ≠ declaration.qualifiedName) =
      declaration :: (graph.declare declaration).free others := by
  rw [free, free, List.filter_cons_of_pos (by simpa using hnew), List.filter_filter]
  congr 1
  apply List.filter_congr
  intro other _
  rw [contains_declare]
  by_cases hsame : other.qualifiedName = declaration.qualifiedName
  · simp [hsame]
  · simp [hsame]

/-- The loop over the declarations gives nodes to those accepted whose keys are free. -/
theorem declareNode_fold_computes (graph : Graph) (bodies : Bodies)
    (declarations : List Declaration) :
    (Run.fold declarations (graph, bodies) declareNode).Computes
      (graph.declareAll (graph.free (accepted declarations)),
        bodies ++ (graph.free (accepted declarations)).map Declaration.entry) := by
  induction declarations generalizing graph bodies with
  | nil =>
      simp only [accepted, free, List.filter_nil, List.map_nil, List.append_nil]
      exact Run.computes_pure _
  | cons declaration others ih =>
      by_cases hname : declaration.name = ""
      · have haccepted : accepted (declaration :: others) = accepted others := if_pos hname
        rw [haccepted]
        refine Run.Computes.fold_cons (Run.Computes.after_poll ?_) (ih graph bodies)
        simp only [if_pos hname]
        exact (Run.computes_pure _).after_say
      · rw [accepted_cons_of_named others hname]
        by_cases htaken : graph.contains declaration.qualifiedName = true
        · rw [free_cons_of_taken _ htaken]
          refine Run.Computes.fold_cons (Run.Computes.after_poll ?_) (ih graph bodies)
          simp only [if_neg hname, if_pos htaken]
          exact (Run.computes_pure _).after_say
        · rw [free_cons_of_new _ htaken]
          have hrest := ih (graph.declare declaration) (bodies ++ [declaration.entry])
          rw [List.append_assoc, List.singleton_append] at hrest
          refine Run.Computes.fold_cons (Run.Computes.after_poll ?_) hrest
          simp only [if_neg hname, if_neg htaken]
          exact Run.computes_pure _

/-- A key of no declaration is read as before. -/
theorem get?_declareAll_of_not_mem {name : String} {declarations : List Declaration}
    (h : name ∉ declarations.map Declaration.qualifiedName) (graph : Graph) :
    (graph.declareAll declarations).get? name = graph.get? name := by
  induction declarations generalizing graph with
  | nil => rfl
  | cons declaration others ih =>
      rw [List.map_cons, List.mem_cons, not_or] at h
      calc (graph.declareAll (declaration :: others)).get? name
          = ((graph.declare declaration).declareAll others).get? name := rfl
        _ = graph.get? name := by rw [ih h.2, get?_declare, if_neg h.1]

/-- A declaration with a key of its own is read at its key. -/
theorem get?_declareAll_of_mem {declaration : Declaration} {declarations : List Declaration}
    (hdistinct : (declarations.map Declaration.qualifiedName).Nodup)
    (hmem : declaration ∈ declarations) (graph : Graph) :
    (graph.declareAll declarations).get? declaration.qualifiedName = some declaration.node := by
  induction declarations generalizing graph with
  | nil => cases hmem
  | cons first others ih =>
      rw [List.map_cons, List.nodup_cons] at hdistinct
      change ((graph.declare first).declareAll others).get? _ = _
      rcases List.mem_cons.mp hmem with rfl | hlater
      · rw [get?_declareAll_of_not_mem hdistinct.1, get?_declare, if_pos rfl]
      · exact ih hdistinct.2 hlater (graph.declare first)

end Graph

end WorkflowGraph
