import Mathlib.Data.List.Forall2
import WorkflowGraph.Proofs.Warnings

/-!
# Which calls are warned of for their arguments

The last check compares every call with the parameters of its target.  It says nothing of a target
that is no key, is a stub, has no parameters or takes any number of arguments.  Otherwise there is
one argument for each parameter, and none for a context that comes first.

Which calls are warned of thus depends on what a context is.  A context has the type `Context` of
some package (`Parameter.TakesContext`), and the check takes for one whatever has a type that ends
with these letters (`Graph.IsContext`).  The two part where a payload comes first whose type is
called, say, `OrderContext`: one argument too few fits there, and the right number does not.

Everything up to the last theorem is said for any notion of a context.  `argument_warnings_iff`
gives the calls that are warned of, in order, and compares the two notions.
-/

namespace WorkflowGraph

/-- The parameter takes a context: its type is called `Context`, in whatever package. -/
def Parameter.TakesContext (parameter : Parameter) : Prop :=
  parameter.typeName = "Context" ∨ ∃ package, parameter.typeName = package ++ ".Context"

instance (parameter : Parameter) : Decidable parameter.TakesContext :=
  decidable_of_iff
    (parameter.typeName = "Context" ∨ Text.endsWith ".Context" parameter.typeName = true)
    (or_congr_right Text.endsWith_iff)

theorem Parameter.TakesContext.isContext {parameter : Parameter} (h : parameter.TakesContext) :
    Graph.IsContext parameter := by
  rcases h with hbare | ⟨package, hqualified⟩
  · exact ⟨"", hbare⟩
  · exact ⟨package ++ ".", by rw [hqualified, String.append_assoc]; rfl⟩

/-- The type of the first parameter ends like that of a context and is none. -/
def GraphNode.LooksContextual (node : GraphNode) : Prop :=
  ∃ first ∈ node.parameters.head?, Graph.IsContext first ∧ ¬first.TakesContext

/-- The parameters say how many arguments a call gives to the node. -/
structure GraphNode.TellsArity (node : GraphNode) : Prop where
  declared : node.isStub = false
  parameters : node.parameters ≠ []
  notVariadic : ∀ parameter ∈ node.parameters, ¬Graph.IsVariadic parameter

instance (parameter : Parameter) : Decidable (Graph.IsVariadic parameter) :=
  decidable_of_iff _ Text.startsWith_iff

instance (node : GraphNode) : Decidable node.TellsArity :=
  decidable_of_iff (node.isStub = false ∧ node.parameters ≠ [] ∧
      ∀ parameter ∈ node.parameters, ¬Graph.IsVariadic parameter)
    ⟨fun h => ⟨h.1, h.2.1, h.2.2⟩, fun h => ⟨h.declared, h.parameters, h.notVariadic⟩⟩

/-- Two conditions select the same members of a list exactly if they agree on all of them. -/
theorem filter_eq_filter_iff {α : Type} {first second : α → Bool} {items : List α} :
    items.filter first = items.filter second ↔ ∀ item ∈ items, first item = second item := by
  constructor
  · intro hsame item hitem
    have hmem : item ∈ items.filter first ↔ item ∈ items.filter second := by rw [hsame]
    simp only [List.mem_filter, hitem, true_and] at hmem
    exact Bool.eq_iff_iff.mpr hmem
  · exact List.filter_congr

namespace Graph

/-- The calls of a graph with the keys of their callers: by the order of the keys, and those of one
caller in the order of its body. -/
def calls (graph : Graph) : List (String × CallSite) :=
  graph.sortedNames.flatMap fun caller => (graph.sitesOf caller).map fun site => (caller, site)

section Contexts

variable (isContext : Parameter → Prop) [DecidablePred isContext]

/-- How many arguments a call gives for these parameters: one for each, but none for a context that
comes first. -/
def payloadCount : List Parameter → Nat
  | [] => 0
  | first :: others => if isContext first then others.length else others.length + 1

/-- The arguments of a call do not fit the parameters of its target. -/
def Misfits (graph : Graph) (call : String × CallSite) : Prop :=
  ∃ target ∈ graph.get? call.2.targetName, target.TellsArity ∧
    call.2.argumentCount ≠ payloadCount isContext target.parameters

instance (graph : Graph) (call : String × CallSite) :
    Decidable (graph.Misfits isContext call) :=
  inferInstanceAs (Decidable (∃ target ∈ graph.get? call.2.targetName, target.TellsArity ∧
    call.2.argumentCount ≠ payloadCount isContext target.parameters))

/-- The calls whose arguments do not fit, in order. -/
def misfits (graph : Graph) : List (String × CallSite) :=
  graph.calls.filter fun call => graph.Misfits isContext call

/-- The issue warns of the call: it is about the caller, and says how many arguments are passed to
what target in which line, and how many it takes. -/
def WarnsOf (graph : Graph) (issue : Issue) (call : String × CallSite) : Prop :=
  ∃ target ∈ graph.get? call.2.targetName, issue = .argumentMismatch call.1 call.2 target.name
    (payloadCount isContext target.parameters)

end Contexts

variable {graph : Graph} {settings : ValidationSettings}

/-! ## What the check finds -/

/-- The arity that the check compares with, where there is one. -/
theorem payloadArity?_eq_some_iff_tellsArity {target : GraphNode} {expected : Nat} :
    target.payloadArity? = some expected ↔
      target.TellsArity ∧ expected = payloadCount IsContext target.parameters := by
  rw [payloadArity?_eq_some_iff]
  constructor
  · rintro ⟨hdeclared, hvariadic, first, others, hparameters, rfl⟩
    refine ⟨⟨hdeclared, by simp [hparameters], hvariadic⟩, ?_⟩
    rw [hparameters]
    rfl
  · rintro ⟨htells, rfl⟩
    obtain ⟨first, others, hparameters⟩ := List.exists_cons_of_ne_nil htells.parameters
    refine ⟨htells.declared, htells.notVariadic, first, others, hparameters, ?_⟩
    rw [hparameters]
    rfl

/-- What the check finds at one call. -/
theorem mismatch?_eq_some_iff {call : String × CallSite} {issue : Issue} :
    graph.mismatch? call.1 call.2 = some issue ↔
      graph.Misfits IsContext call ∧ graph.WarnsOf IsContext issue call := by
  unfold mismatch? Misfits WarnsOf
  cases graph.get? call.2.targetName with
  | none => simp
  | some target =>
      simp only [Option.mem_some_iff, exists_eq_left']
      cases hexpected : target.payloadArity? with
      | none =>
          have hnot : ¬target.TellsArity := by
            intro htells
            have hsome := payloadArity?_eq_some_iff_tellsArity.mpr ⟨htells, rfl⟩
            rw [hexpected] at hsome
            cases hsome
          simp [hnot]
      | some expected =>
          obtain ⟨htells, rfl⟩ := payloadArity?_eq_some_iff_tellsArity.mp hexpected
          by_cases hfits : call.2.argumentCount = payloadCount IsContext target.parameters
          · simp [hfits]
          · simp [hfits, htells, eq_comm]

/-- The check goes through the calls of the graph. -/
theorem reportedBy_arguments (h : settings.checkSignatures = true) :
    graph.reportedBy settings .arguments =
      graph.calls.flatMap fun call => (graph.mismatch? call.1 call.2).toList := by
  rw [reportedBy, if_pos h, calls, List.flatMap_assoc]
  congr 1
  funext caller
  rw [mismatchesAt, List.flatMap_map]

/-- A step of the check warns of the call exactly if its arguments do not fit, and then once. -/
theorem forall₂_warnsOf (calls : List (String × CallSite)) :
    List.Forall₂ (graph.WarnsOf IsContext)
      (calls.flatMap fun call => (graph.mismatch? call.1 call.2).toList)
      (calls.filter fun call => graph.Misfits IsContext call) := by
  induction calls with
  | nil => exact List.Forall₂.nil
  | cons call calls ih =>
      rw [List.flatMap_cons]
      cases hmismatch : graph.mismatch? call.1 call.2 with
      | none =>
          have hfits : ¬graph.Misfits IsContext call := by
            intro hmisfits
            obtain ⟨target, htarget, _⟩ := id hmisfits
            have hsome := mismatch?_eq_some_iff.mpr ⟨hmisfits, target, htarget, rfl⟩
            rw [hmismatch] at hsome
            cases hsome
          rw [List.filter_cons_of_neg (by simpa using hfits)]
          exact ih
      | some issue =>
          obtain ⟨hmisfits, hwarns⟩ := mismatch?_eq_some_iff.mp hmismatch
          rw [List.filter_cons_of_pos (by simpa using hmisfits)]
          exact List.Forall₂.cons hwarns ih

/-! ## The two notions of a context -/

/-- The two notions give the same number of arguments, or the lenient one gives one less. -/
theorem payloadCount_isContext (parameters : List Parameter) :
    payloadCount IsContext parameters = payloadCount Parameter.TakesContext parameters ∨
      payloadCount IsContext parameters + 1 = parameters.length ∧
        payloadCount Parameter.TakesContext parameters = parameters.length := by
  cases parameters with
  | nil => exact Or.inl rfl
  | cons first others =>
      rw [payloadCount, payloadCount]
      by_cases htakes : first.TakesContext
      · rw [if_pos htakes, if_pos htakes.isContext]
        exact Or.inl rfl
      · rw [if_neg htakes]
        by_cases hcontext : IsContext first
        · rw [if_pos hcontext]
          exact Or.inr ⟨rfl, rfl⟩
        · rw [if_neg hcontext]
          exact Or.inl rfl

/-- They give different numbers exactly if the first parameter only looks like a context. -/
theorem payloadCount_ne_iff {node : GraphNode} :
    payloadCount IsContext node.parameters ≠
        payloadCount Parameter.TakesContext node.parameters ↔ node.LooksContextual := by
  unfold GraphNode.LooksContextual
  cases node.parameters with
  | nil => simp [payloadCount]
  | cons first others =>
      rw [payloadCount, payloadCount]
      by_cases htakes : first.TakesContext
      · simp [htakes, htakes.isContext]
      · by_cases hcontext : IsContext first <;> simp [htakes, hcontext]

/-- A call is judged alike under both notions unless its target only looks as if it took a context,
and the call gives it one argument for each parameter, or one less. -/
theorem misfits_iff_misfits {call : String × CallSite} :
    (graph.Misfits IsContext call ↔ graph.Misfits Parameter.TakesContext call) ↔
      ∀ target ∈ graph.get? call.2.targetName, target.TellsArity → target.LooksContextual →
        call.2.argumentCount ≠ target.parameters.length ∧
          call.2.argumentCount + 1 ≠ target.parameters.length := by
  unfold Misfits
  cases graph.get? call.2.targetName with
  | none => simp
  | some target =>
      simp only [Option.mem_some_iff, exists_eq_left', forall_eq']
      by_cases htells : target.TellsArity
      · rw [← payloadCount_ne_iff]
        simp only [htells, true_and, forall_const]
        rcases payloadCount_isContext target.parameters with hsame | ⟨hfewer, hall⟩
        · simp [hsame]
        · omega
      · simp [htells]

end Graph

/-- **Which calls are warned of for their arguments.**  For every graph and all settings that ask
for the check, validation ends with a list of issues if nobody stops it.  Those of severity 6 are
warnings, one for each call whose arguments do not fit, in the order of the callers and then of the
calls, where the first parameter counts as a context if its type ends with `Context`.

The calls are the ones whose arguments do not fit if only a type that is called `Context` counts,
exactly if no call gives as many arguments as there are parameters, or one less, to a node whose
first parameter has another type that ends so. -/
theorem argument_warnings_iff (graph : Graph) (settings : ValidationSettings) :
    ∃ issues,
      (graph.validate { settings with checkSignatures := true }).outcome = .ok issues ∧
      List.Forall₂ (graph.WarnsOf Graph.IsContext)
        (issues.filter fun issue => issue.severity = 6) (graph.misfits Graph.IsContext) ∧
      (graph.misfits Graph.IsContext = graph.misfits Parameter.TakesContext ↔
        ∀ call ∈ graph.calls, ∀ target ∈ graph.get? call.2.targetName, target.TellsArity →
          target.LooksContextual → call.2.argumentCount ≠ target.parameters.length ∧
            call.2.argumentCount + 1 ≠ target.parameters.length) := by
  refine ⟨_, (graph.validate_computes _).outcome_eq, ?_, ?_⟩
  · have hreported : graph.reportedBy { settings with checkSignatures := true } .arguments = _ :=
      Graph.reportedBy_eq_filter .arguments
    rw [Graph.reportedBy_arguments rfl] at hreported
    exact hreported ▸ Graph.forall₂_warnsOf graph.calls
  · unfold Graph.misfits
    rw [filter_eq_filter_iff]
    refine forall_congr' fun call => forall_congr' fun _ => ?_
    rw [decide_eq_decide]
    exact Graph.misfits_iff_misfits

/-- `Ship` passes an order and an amount to `Charge`, which takes an order and an amount. -/
def orderGraph : Graph where
  nodes := .ofList
    [("Charge", { name := "Charge", role := .activity, parents := ["Ship"],
                  parameters := [⟨"order", "OrderContext"⟩, ⟨"amount", "int"⟩] }),
     ("Ship", { name := "Ship", role := .workflow,
                body := { callSites := [
                  { targetName := "Charge", targetRole := .activity, line := 4, options := none,
                    argumentCount := 2, argumentTypes := ["var:order", "var:amount"],
                    resultType := none, resolution := .exact }] } })]

/-- All arguments fit and the call is warned of: the order is taken for a context. -/
theorem order_is_taken_for_a_context :
    orderGraph.misfits Parameter.TakesContext = [] ∧
      ∃ issues, (orderGraph.validate {}).outcome = .ok issues ∧
        (issues.filter fun issue => issue.severity = 6).map Issue.message =
          ["Ship passes 2 argument(s) to Charge at line 4, which takes 1"] := by
  have hnames : orderGraph.sortedNames = ["Charge", "Ship"] :=
    List.mergeSort_of_pairwise (by decide)
  refine ⟨?_, _, (orderGraph.validate_computes {}).outcome_eq, ?_⟩
  · rw [Graph.misfits, Graph.calls, hnames]
    decide +kernel
  · have hreported : orderGraph.reportedBy {} .arguments = _ :=
      Graph.reportedBy_eq_filter .arguments
    rw [Graph.reportedBy_arguments rfl, Graph.calls, hnames, Check.severity] at hreported
    rw [← hreported]
    decide +kernel

end WorkflowGraph
