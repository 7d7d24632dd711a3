import Mathlib.Order.Bounds.Basic
import WorkflowGraph.Proofs.CallPaths

/-!
# The depth of a node is its longest path

The search for the depth of a node goes from callee to callee and never back to a node on its own
path.  So each further step meets a key that was not met before, and no sequence of steps can go on
forever, whether or not the calls have cycles (`Graph.wellFounded_goesOn`).  For the same reason a
bound on the steps is never reached once it is as large as the graph: the run under a bound is the
run under any larger one (`Graph.longestFrom_eq_of_lt`).

What the search comes to is the number of keys on the longest path of calls without repetition, and
`chainDepth_is_longest_path` says all of this about the depth that is computed.
-/

namespace WorkflowGraph

/-- Folds whose steps agree on the items are the same fold. -/
theorem Run.fold_congr {α β : Type} {step other : β → α → Run β} {items : List α}
    (h : ∀ state, ∀ item ∈ items, step state item = other state item) (start : β) :
    fold items start step = fold items start other := by
  induction items generalizing start with
  | nil => rfl
  | cons item items ih =>
      have hrest : ∀ next, fold items next step = fold items next other :=
        ih fun state item hitem => h state item (List.mem_cons_of_mem _ hitem)
      show (step start item >>= fun next => fold items next step) =
        other start item >>= fun next => fold items next other
      rw [h start item List.mem_cons_self]
      simp only [hrest]

namespace Graph

variable (graph : Graph)

/-- One step of the search: from a node, with the path that led there, to a callee that is not on
the path. -/
def GoesOn (next current : List String × String) : Prop :=
  next.1 = current.2 :: current.1 ∧ graph.Calls current.2 next.2 ∧ next.2 ∉ next.1

/-- The keys that are not on a path, counted. -/
def unmet (path : List String) : Nat :=
  (graph.nodes.keys.filter fun key => !path.contains key).length

variable {graph}

/-- A path that goes on to a new key leaves fewer keys. -/
theorem unmet_cons_lt {path : List String} {key : String} (hkey : graph.contains key = true)
    (hnew : key ∉ path) : graph.unmet (key :: path) < graph.unmet path := by
  have hfilter : (graph.nodes.keys.filter fun other => !(key :: path).contains other) =
      (graph.nodes.keys.filter fun other => !path.contains other).filter (· != key) := by
    rw [List.filter_filter]
    apply List.filter_congr
    intro other _
    rw [List.contains_cons, Bool.not_or]
    rfl
  have hmem : key ∈ graph.nodes.keys.filter fun other => !path.contains other := by
    rw [List.mem_filter]
    exact ⟨(Table.contains_iff_mem_keys _).mp hkey, by simpa using hnew⟩
  rw [unmet, unmet, hfilter, List.length_filter_lt_length_iff_exists]
  exact ⟨key, hmem, by simp⟩

/-- At first, all keys but the one where the search starts are left. -/
theorem unmet_lt_size {name : String} (hname : graph.contains name = true) :
    graph.unmet [name] < graph.size := by
  have hlt := unmet_cons_lt hname (List.not_mem_nil)
  have hall : graph.unmet [] = graph.size := by
    simp [unmet, size, Table.size, Table.keys]
  omega

/-- **The search cannot go on forever.** -/
theorem wellFounded_goesOn : WellFounded graph.GoesOn := by
  refine Subrelation.wf ?_ (measure fun place : List String × String =>
    graph.unmet (place.2 :: place.1)).wf
  intro next current hstep
  obtain ⟨hpath, hcall, hnew⟩ := hstep
  show graph.unmet (next.2 :: next.1) < graph.unmet (current.2 :: current.1)
  rw [← hpath]
  exact unmet_cons_lt hcall.contains hnew

/-- **A bound that exceeds the keys left is never reached**: all such bounds give the same run. -/
theorem longestFrom_eq_of_lt {fuel more : Nat} {path : List String} {name : String}
    (hfuel : graph.unmet (name :: path) < fuel) (hmore : graph.unmet (name :: path) < more) :
    graph.longestFrom fuel path name = graph.longestFrom more path name := by
  induction fuel generalizing more path name with
  | zero => omega
  | succ fuel ih =>
      obtain ⟨more, rfl⟩ : ∃ rest, more = rest + 1 := ⟨more - 1, by omega⟩
      have hdeeper : ∀ callee ∈ (graph.sortedCallees name).filter
          (fun callee => !(name :: path).contains callee),
          graph.longestFrom fuel (name :: path) callee =
            graph.longestFrom more (name :: path) callee := by
        intro callee hcallee
        obtain ⟨hmem, hnew⟩ := List.mem_filter.mp hcallee
        have hless := unmet_cons_lt (mem_sortedCallees.mp hmem).contains
          (show callee ∉ name :: path by simpa using hnew)
        exact ih (by omega) (by omega)
      have hfold := Run.fold_congr
        (fun (deepest : Nat) callee hcallee =>
          congrArg (· >>= fun depth => pure (max deepest depth)) (hdeeper callee hcallee)) 0
      simp only [longestFrom, hfold]

/-- The depth is the number of keys on the longest path. -/
theorem isGreatest_depth {name : String} (hname : graph.contains name = true) :
    IsGreatest {count | ∃ rest, graph.CallPath (name :: rest) ∧ (name :: rest).length = count}
      (graph.depth name) := by
  have hbound := (depth_le_iff hname).mp (Nat.le_refl (graph.depth name))
  constructor
  · have halone : 1 ≤ graph.depth name := hbound [] ⟨.singleton name, by simp⟩
    rw [depth, if_pos hname] at halone ⊢
    have hfound : graph.depthWithin graph.size [] name = 0 ∨ _ :=
      exists_path_of_depthWithin graph.size [] name List.not_mem_nil
    rcases hfound with hzero | ⟨rest, hpath, _, hlength⟩
    · omega
    · exact ⟨rest, hpath, hlength⟩
  · intro count hcount
    obtain ⟨rest, hpath, hlength⟩ := hcount
    rw [← hlength]
    exact hbound rest hpath

theorem depth_eq_zero_iff {name : String} :
    graph.depth name = 0 ↔ graph.contains name = false := by
  constructor
  · intro hzero
    by_contra hname
    obtain ⟨rest, _, hlength⟩ := (isGreatest_depth (Bool.eq_true_of_not_eq_false hname)).1
    rw [hzero] at hlength
    cases hlength
  · intro hname
    rw [depth, hname]
    rfl

end Graph

/-- **The depth of a node is the length of its longest path.**  For every graph, with cycles or
without, and every name: the search cannot go on forever, and a bound on its steps makes no difference
once it is as large as the graph.  A search that nobody stops ends with a number.  For a key this is
the greatest number of keys on a path of calls that starts there and meets no key twice.  It is zero
exactly for a name that is no key, and never more than the number of nodes. -/
theorem chainDepth_is_longest_path (graph : Graph) (name : String) :
    WellFounded graph.GoesOn ∧
      (graph.contains name = true → ∀ fuel, graph.size ≤ fuel →
        graph.longestFrom fuel [] name = graph.chainDepth name) ∧
      ∃ depth, (graph.chainDepth name).outcome = .ok depth ∧
        (graph.contains name = true →
          IsGreatest
            {count | ∃ rest, graph.CallPath (name :: rest) ∧ (name :: rest).length = count} depth) ∧
        (depth = 0 ↔ graph.contains name = false) ∧ depth ≤ graph.size := by
  refine ⟨Graph.wellFounded_goesOn, ?_, graph.depth name,
    (graph.chainDepth_computes name).outcome_eq, Graph.isGreatest_depth, Graph.depth_eq_zero_iff,
    Graph.depth_le_size name⟩
  intro hname fuel hfuel
  have hleft := Graph.unmet_lt_size hname
  rw [Graph.chainDepth, if_pos hname]
  exact Graph.longestFrom_eq_of_lt (by omega) hleft

end WorkflowGraph
