import Mathlib.Data.List.Perm.Subperm
import Mathlib.Logic.Relation
import WorkflowGraph.Proofs.Tally

/-!
# Paths of calls

A key calls another if a call site of its node has the other one as its target.  A path of calls
that meets no key twice is a `CallPath`, and since all its members are keys it is never longer than
the graph has nodes.  `Graph.depth_le_iff` says what the depth of a node is: it is the greatest
number of keys on such a path, because the search follows every path and its fuel outlasts all of
them.
-/

namespace WorkflowGraph

theorem mem_dropRepeats {text : String} {texts : List String} :
    text ∈ dropRepeats texts ↔ text ∈ texts := by
  fun_induction dropRepeats texts with
  | case1 a rest ih => simp [ih]
  | case2 a b rest hne ih => rw [List.mem_cons, List.mem_cons, ih]
  | case3 short => rfl

/-- A sorted list without equal neighbours has no equal members at all. -/
theorem nodup_dropRepeats {texts : List String}
    (h : texts.Pairwise fun a b => precedes a b) : (dropRepeats texts).Nodup := by
  fun_induction dropRepeats texts with
  | case1 a rest ih => exact ih (List.pairwise_cons.mp h).2
  | case2 a b rest hne ih =>
      obtain ⟨ha, hrest⟩ := List.pairwise_cons.mp h
      refine List.nodup_cons.mpr ⟨?_, ih hrest⟩
      intro hmem
      rcases List.mem_cons.mp (mem_dropRepeats.mp hmem) with heq | hlater
      · exact hne heq
      · have hba := (List.pairwise_cons.mp hrest).1 a hlater
        exact hne (precedes_antisymm (ha b List.mem_cons_self) hba)
  | case3 short hshort =>
      match short, hshort with
      | [], _ => exact List.nodup_nil
      | [a], _ => simp
      | a :: b :: rest, hshort => exact absurd rfl (hshort a b rest)

/-- A greatest value over a list bounds every value. -/
theorem le_foldl_max {α : Type} (value : α → Nat) (items : List α) (start : Nat) :
    start ≤ items.foldl (fun greatest item => max greatest (value item)) start ∧
      ∀ item ∈ items,
        value item ≤ items.foldl (fun greatest item => max greatest (value item)) start := by
  induction items generalizing start with
  | nil => exact ⟨Nat.le_refl _, fun _ h => nomatch h⟩
  | cons first items ih =>
      obtain ⟨hstart, hvalues⟩ := ih (max start (value first))
      refine ⟨Nat.le_trans (Nat.le_max_left _ _) hstart, ?_⟩
      intro item hitem
      rcases List.mem_cons.mp hitem with rfl | hlater
      · exact Nat.le_trans (Nat.le_max_right _ _) hstart
      · exact hvalues item hlater

/-- A greatest value over a list is the first one or that of some item. -/
theorem foldl_max_eq {α : Type} (value : α → Nat) (items : List α) (start : Nat) :
    items.foldl (fun greatest item => max greatest (value item)) start = start ∨
      ∃ item ∈ items,
        items.foldl (fun greatest item => max greatest (value item)) start = value item := by
  induction items generalizing start with
  | nil => exact Or.inl rfl
  | cons first items ih =>
      rw [List.foldl_cons]
      rcases ih (max start (value first)) with hsame | ⟨item, hitem, heq⟩
      · rcases Nat.le_total start (value first) with hle | hle
        · exact Or.inr ⟨first, List.mem_cons_self, hsame.trans (Nat.max_eq_right hle)⟩
        · exact Or.inl (hsame.trans (Nat.max_eq_left hle))
      · exact Or.inr ⟨item, List.mem_cons_of_mem _ hitem, heq⟩

namespace Graph

variable (graph : Graph)

/-- The node of `caller` has a call site whose target is the key `target`. -/
def Calls (caller target : String) : Prop :=
  (∃ node, graph.get? caller = some node ∧
    ∃ site ∈ node.callSites, site.targetName = target) ∧ graph.contains target = true

/-- A path of calls that meets no key twice. -/
structure CallPath (path : List String) : Prop where
  calls : path.IsChain graph.Calls
  nodup : path.Nodup

variable {graph} {name : String}

theorem mem_callees {caller target : String} :
    target ∈ graph.callees caller ↔ graph.Calls caller target := by
  unfold callees Calls
  cases graph.get? caller with
  | none => simp
  | some node => simp

theorem mem_sortedCallees {caller target : String} :
    target ∈ graph.sortedCallees caller ↔ graph.Calls caller target := by
  rw [sortedCallees, mem_dropRepeats, mem_sortTexts, mem_callees]

/-- What is called is a key. -/
theorem Calls.contains {caller target : String} (h : graph.Calls caller target) :
    graph.contains target = true := h.2

/-- All keys of a path are keys of the graph, if the first one is. -/
theorem contains_of_mem_chain {path : List String} (hchain : (name :: path).IsChain graph.Calls)
    (hname : graph.contains name = true) : ∀ key ∈ name :: path, graph.contains key = true := by
  induction path generalizing name with
  | nil => simpa using hname
  | cons next rest ih =>
      rw [List.isChain_cons_cons] at hchain
      intro key hkey
      rcases List.mem_cons.mp hkey with rfl | hlater
      · exact hname
      · exact ih hchain.2 hchain.1.contains key hlater

/-- Keys without repetition are at most as many as the graph has nodes. -/
theorem length_le_size {keys : List String} (hnodup : keys.Nodup)
    (hkeys : ∀ key ∈ keys, graph.contains key = true) : keys.length ≤ graph.size := by
  have hsubset : keys ⊆ graph.nodes.keys := fun key hkey =>
    (Table.contains_iff_mem_keys _).mp (hkeys key hkey)
  have hle := (List.subperm_of_subset hnodup hsubset).length_le
  simpa [Graph.size, Table.size, Table.keys] using hle

/-- The search finds no depth that a path does not have. -/
theorem exists_path_of_depthWithin (fuel : Nat) (path : List String) (name : String)
    (hfresh : name ∉ path) :
    graph.depthWithin fuel path name = 0 ∨
      ∃ rest, graph.CallPath (name :: rest) ∧ (∀ key ∈ rest, key ∉ path) ∧
        (name :: rest).length = graph.depthWithin fuel path name := by
  induction fuel generalizing path name with
  | zero => exact Or.inl rfl
  | succ fuel ih =>
      right
      have halone : graph.CallPath [name] := ⟨.singleton name, by simp⟩
      rw [depthWithin]
      rcases foldl_max_eq (graph.depthWithin fuel (name :: path))
        ((graph.sortedCallees name).filter fun callee => !(name :: path).contains callee) 0 with
        hzero | ⟨callee, hcallee, hdepth⟩
      · exact ⟨[], halone, by simp, by simp only [hzero]; rfl⟩
      · obtain ⟨hmem, hnew⟩ := List.mem_filter.mp hcallee
        have hnot : callee ∉ name :: path := by simpa using hnew
        simp only [hdepth]
        rcases ih (name :: path) callee hnot with hzero | ⟨rest, hpath, havoid, hlength⟩
        · exact ⟨[], halone, by simp, by rw [hzero]; rfl⟩
        · refine ⟨callee :: rest, ⟨?_, ?_⟩, ?_, by simp [← hlength]⟩
          · exact List.isChain_cons_cons.mpr ⟨mem_sortedCallees.mp hmem, hpath.calls⟩
          · refine List.nodup_cons.mpr ⟨?_, hpath.nodup⟩
            intro hagain
            rcases List.mem_cons.mp hagain with rfl | hlater
            · exact hnot List.mem_cons_self
            · exact havoid name hlater List.mem_cons_self
          · intro key hkey hbefore
            rcases List.mem_cons.mp hkey with rfl | hlater
            · exact hnot (List.mem_cons_of_mem _ hbefore)
            · exact havoid key hlater (List.mem_cons_of_mem _ hbefore)

/-- The search misses no path that avoids the keys before it and that the fuel suffices for. -/
theorem length_le_depthWithin {rest : List String} (fuel : Nat) (path : List String)
    (hpath : graph.CallPath (name :: rest)) (havoid : ∀ key ∈ name :: rest, key ∉ path)
    (hfuel : (name :: rest).length ≤ fuel) :
    (name :: rest).length ≤ graph.depthWithin fuel path name := by
  induction rest generalizing fuel path name with
  | nil =>
      cases fuel with
      | zero => simp at hfuel
      | succ fuel => exact Nat.succ_le_succ (Nat.zero_le _)
  | cons next rest ih =>
      cases fuel with
      | zero => simp at hfuel
      | succ fuel =>
          obtain ⟨hcalls, hchain⟩ := List.isChain_cons_cons.mp hpath.calls
          obtain ⟨hnew, hnodup⟩ := List.nodup_cons.mp hpath.nodup
          have hrest : ∀ key ∈ next :: rest, key ∉ name :: path := by
            intro key hkey hbefore
            rcases List.mem_cons.mp hbefore with rfl | hearlier
            · exact hnew hkey
            · exact havoid key (List.mem_cons_of_mem _ hkey) hearlier
          have hlonger := ih fuel (name :: path) ⟨hchain, hnodup⟩ hrest (by simpa using hfuel)
          have hfresh : next ∈ (graph.sortedCallees name).filter
              fun callee => !(name :: path).contains callee := by
            rw [List.mem_filter]
            exact ⟨mem_sortedCallees.mpr hcalls,
              by simpa using hrest next List.mem_cons_self⟩
          have hgreatest := (le_foldl_max (graph.depthWithin fuel (name :: path)) _ 0).2 next
            hfresh
          exact Nat.succ_le_succ (Nat.le_trans hlonger hgreatest)

/-- **What the depth of a node is.**  It is within a limit exactly if every path of calls that starts
at the node is. -/
theorem depth_le_iff {limit : Nat} (hname : graph.contains name = true) :
    graph.depth name ≤ limit ↔
      ∀ rest, graph.CallPath (name :: rest) → (name :: rest).length ≤ limit := by
  rw [depth, if_pos hname]
  constructor
  · intro hdepth rest hpath
    have hsize := length_le_size hpath.nodup (contains_of_mem_chain hpath.calls hname)
    exact Nat.le_trans (length_le_depthWithin graph.size [] hpath (by simp) hsize) hdepth
  · intro hpaths
    rcases exists_path_of_depthWithin graph.size [] name (by simp) with
      hzero | ⟨rest, hpath, _, hlength⟩
    · rw [hzero]
      exact Nat.zero_le _
    · rw [← hlength]
      exact hpaths rest hpath

/-- No node is deeper than the graph has nodes. -/
theorem depth_le_size (name : String) : graph.depth name ≤ graph.size := by
  by_cases hname : graph.contains name = true
  · exact (depth_le_iff hname).mpr fun rest hpath =>
      length_le_size hpath.nodup (contains_of_mem_chain hpath.calls hname)
  · rw [depth, if_neg hname]
    exact Nat.zero_le _

theorem maxDepth_tally_le_size : graph.tally.maxDepth ≤ graph.size := by
  rcases foldl_max_eq graph.depth graph.sortedRoots 0 with hzero | ⟨name, _, hdepth⟩
  · exact Nat.le_trans (Nat.le_of_eq hzero) (Nat.zero_le _)
  · exact Nat.le_trans (Nat.le_of_eq hdepth) (depth_le_size name)

end Graph

end WorkflowGraph
