import Mathlib.Data.List.Chain
import Mathlib.Data.List.Nodup
import WorkflowGraph.Graph.Cycles
import WorkflowGraph.Proofs.CallPaths

/-!
# The search for cycles

A search in depth reports a cycle whenever a call leads back to its own path.  The nodes of a path
call each other one after the other, so what is reported is a walk along calls that ends where it
starts.  The converse needs more care, since a node is visited once only and most paths are never
followed.  What saves it is the state in which a node is left.  Of the calls of a visited node that
is not on the path any more, some have closed a cycle that was reported.  Along all others every walk
ends: such nodes are accessible (`Acc`) in the relation of the calls that closed no cycle, turned
around.

`Graph.Underway` is what holds of a search at the end of a path, and `Graph.underway_visitWithin` says
that a visit keeps it.  This rests on the fuel being enough: the nodes of a path are different keys,
so the search can always go one step further.  At the end no path is left, and all keys are
accessible (`Graph.searched_complete`).
-/

namespace WorkflowGraph.Graph

variable (graph : Graph)

/-- Some key calls itself in the end. -/
def HasCycle : Prop := ∃ name, Relation.TransGen graph.Calls name name

/-- The relation of calls turned around. -/
def CalledBy (target caller : String) : Prop := graph.Calls caller target

/-- A walk along calls that ends where it starts, with the start listed once. -/
structure ClosedWalk (walk : List String) : Prop where
  nonempty : walk ≠ []
  calls : (walk ++ walk.take 1).IsChain graph.Calls

/-- The call from one key to another closes one of the cycles. -/
def Closes (cycles : List (List String)) (caller target : String) : Prop :=
  ∃ cycle ∈ cycles, cycle.head? = some target ∧ cycle.getLast? = some caller

/-- The calls that close none of the cycles, turned around. -/
def OpenCall (cycles : List (List String)) (target caller : String) : Prop :=
  graph.Calls caller target ∧ ¬Closes cycles caller target

/-- What a search does with a callee of the last node of a path. -/
def lookAhead (visit : CycleSearch → String → CycleSearch) (path : List String)
    (search : CycleSearch) (callee : String) : CycleSearch :=
  if !search.visited.contains callee then visit search callee
  else if path.contains callee then
    { search with cycles := search.cycles ++ [pathFrom path callee] }
  else search

/-- The search after a visit, as a value. -/
def visitWithin : Nat → List String → CycleSearch → String → CycleSearch
  | 0, _, search, _ => search
  | fuel + 1, path, search, name =>
    (graph.sortedCallees name).foldl (lookAhead (visitWithin fuel (name :: path)) (name :: path))
      { search with visited := name :: search.visited }

/-- The search after all visits, as a value. -/
def searched : CycleSearch :=
  graph.sortedNames.foldl (lookAhead (graph.visitWithin graph.size []) []) {}

/-- The cycles of a graph, as a value. -/
def foundCycles : List (List String) := graph.searched.cycles

theorem searchFrom_computes (fuel : Nat) (path : List String) (search : CycleSearch)
    (name : String) :
    (graph.searchFrom fuel path search name).Computes (graph.visitWithin fuel path search name) := by
  induction fuel generalizing path search name with
  | zero => exact Run.computes_pure _
  | succ fuel ih =>
      refine Run.Computes.after_poll (Run.computes_fold ?_ _ _)
      intro search callee
      unfold lookAhead
      split
      · exact ih (name :: path) search callee
      · split
        · exact (Run.computes_pure _).after_say
        · exact Run.computes_pure _

theorem findCycles_computes : graph.findCycles.Computes graph.foundCycles := by
  refine Run.Computes.bind (Run.computes_fold ?_ _ _) (Run.computes_pure _)
  intro search name
  by_cases hvisited : search.visited.contains name = true
  · simp only [lookAhead, hvisited]
    exact Run.computes_pure _
  · simp only [lookAhead, hvisited]
    exact graph.searchFrom_computes graph.size [] search name

variable {graph}

theorem nodup_sortedNames (graph : Graph) : graph.sortedNames.Nodup :=
  (sortTexts_perm _).nodup_iff.mpr graph.nodes.nodup_keys

theorem nodup_sortedCallees (graph : Graph) (name : String) :
    (graph.sortedCallees name).Nodup :=
  nodup_dropRepeats (pairwise_sortTexts _)

/-- The three things that can happen to a callee: it is visited, it closes a cycle, or it was left
before. -/
theorem lookAhead_cases (visit : CycleSearch → String → CycleSearch) (path : List String)
    (search : CycleSearch) (callee : String) :
    (callee ∉ search.visited ∧ lookAhead visit path search callee = visit search callee) ∨
    (callee ∈ search.visited ∧ callee ∈ path ∧ lookAhead visit path search callee =
      { search with cycles := search.cycles ++ [pathFrom path callee] }) ∨
    (callee ∈ search.visited ∧ callee ∉ path ∧ lookAhead visit path search callee = search) := by
  by_cases hvisited : callee ∈ search.visited
  · by_cases hpath : callee ∈ path
    · exact Or.inr (Or.inl ⟨hvisited, hpath, by simp [lookAhead, hvisited, hpath]⟩)
    · exact Or.inr (Or.inr ⟨hvisited, hpath, by simp [lookAhead, hvisited, hpath]⟩)
  · exact Or.inl ⟨hvisited, by simp [lookAhead, hvisited]⟩

/-! ## What a visit adds -/

/-- A search only adds to what it has, and a cycle that it adds ends at a node that was not visited
before. -/
structure CycleSearch.Grows (before after : CycleSearch) : Prop where
  visited : ∀ key ∈ before.visited, key ∈ after.visited
  cycles : before.cycles <+: after.cycles
  ends : ∀ cycle ∈ after.cycles, cycle ∈ before.cycles ∨
    ∀ last, cycle.getLast? = some last → last ∉ before.visited

theorem CycleSearch.Grows.refl (search : CycleSearch) : search.Grows search :=
  ⟨fun _ h => h, List.prefix_refl _, fun _ h => Or.inl h⟩

theorem CycleSearch.Grows.trans {first second third : CycleSearch} (h : first.Grows second)
    (h' : second.Grows third) : first.Grows third where
  visited key hkey := h'.visited key (h.visited key hkey)
  cycles := h.cycles.trans h'.cycles
  ends cycle hcycle := by
    rcases h'.ends cycle hcycle with hsecond | hnew
    · exact h.ends cycle hsecond
    · exact Or.inr fun last hlast hmem => hnew last hlast (h.visited last hmem)

/-- The part of a path from one of its nodes on, where the node is met first. -/
theorem exists_pathFrom {path : List String} {name : String} (h : name ∈ path) :
    ∃ front back, path = front ++ name :: back ∧
      pathFrom path name = (front ++ [name]).reverse := by
  obtain ⟨front, back, rfl, hfirst⟩ := List.eq_append_cons_of_mem h
  refine ⟨front, back, rfl, ?_⟩
  have hbefore : ∀ key ∈ front, (key != name) = true := by
    intro key hkey
    have hne : key ≠ name := fun heq => hfirst (heq ▸ hkey)
    simpa using hne
  rw [pathFrom, List.takeWhile_append_of_pos hbefore, List.takeWhile_cons_of_neg (by simp),
    List.append_nil, List.reverse_append]
  rfl

/-- A cycle ends where the path does. -/
theorem getLast?_pathFrom {path : List String} {name : String} (h : name ∈ path) :
    (pathFrom path name).getLast? = path.head? := by
  obtain ⟨front, back, hpath, heq⟩ := exists_pathFrom h
  rw [heq, hpath, List.getLast?_reverse]
  cases front with
  | nil => rfl
  | cons first others => rfl

theorem grows_lookAhead {visit : CycleSearch → String → CycleSearch} {path : List String}
    {before search : CycleSearch} {callee : String} (hbefore : before.Grows search)
    (hvisit : callee ∉ search.visited → search.Grows (visit search callee))
    (hlast : ∀ last, path.head? = some last → last ∉ before.visited) :
    before.Grows (lookAhead visit path search callee) := by
  rcases lookAhead_cases visit path search callee with
    ⟨hnew, heq⟩ | ⟨_, hback, heq⟩ | ⟨_, _, heq⟩
  · rw [heq]
    exact hbefore.trans (hvisit hnew)
  · rw [heq]
    refine ⟨hbefore.visited, hbefore.cycles.trans (List.prefix_append _ _), ?_⟩
    intro cycle hcycle
    rcases List.mem_append.mp hcycle with hold | hnew
    · exact hbefore.ends cycle hold
    · right
      rw [List.mem_singleton.mp hnew, getLast?_pathFrom hback]
      exact hlast
  · rw [heq]
    exact hbefore

/-- A visit of a new node only adds, and every cycle that it adds ends at a new node. -/
theorem grows_visitWithin (fuel : Nat) (path : List String) {search : CycleSearch} {name : String}
    (hnew : name ∉ search.visited) : search.Grows (graph.visitWithin fuel path search name) := by
  induction fuel generalizing path search name with
  | zero => exact .refl search
  | succ fuel ih =>
      have hstart : search.Grows { search with visited := name :: search.visited } :=
        ⟨fun _ h => List.mem_cons_of_mem _ h, List.prefix_refl _, fun _ h => Or.inl h⟩
      refine List.foldlRecOn (motive := fun after => search.Grows after) _ _ hstart ?_
      intro before hbefore callee _
      refine grows_lookAhead hbefore (ih (name :: path)) ?_
      intro last hlast
      exact Option.some.inj hlast ▸ hnew

/-! ## What holds at the end of a path -/

/-- Fewer calls are open where more cycles are closed. -/
theorem acc_openCall_of_more {cycles more : List (List String)} (h : cycles <+: more)
    {name : String} (hacc : Acc (graph.OpenCall cycles) name) : Acc (graph.OpenCall more) name := by
  refine Subrelation.accessible ?_ hacc
  intro target caller hopen
  refine ⟨hopen.1, fun hcloses => hopen.2 ?_⟩
  obtain ⟨cycle, hcycle, hends⟩ := hcloses
  exact ⟨cycle, h.subset hcycle, hends⟩

/-- What holds of a search at the end of a path, given with its last node first. -/
structure Underway (graph : Graph) (path : List String) (search : CycleSearch) : Prop where
  /-- The nodes of the path are visited, one after the other. -/
  visited : path.Sublist search.visited
  nodup : search.visited.Nodup
  keys : ∀ key ∈ search.visited, graph.contains key = true
  calls : path.IsChain graph.CalledBy
  /-- A reported cycle is a closed walk, and its nodes are visited one after the other. -/
  cycles : ∀ cycle ∈ search.cycles, graph.ClosedWalk cycle ∧ cycle.reverse.Sublist search.visited
  /-- No cycle is reported twice. -/
  once : search.cycles.Nodup
  /-- From visited nodes that are not on the path all walks along open calls end. -/
  done : ∀ key ∈ search.visited, key ∈ path ∨ Acc (graph.OpenCall search.cycles) key

namespace Underway

variable {path : List String} {search : CycleSearch} {name : String}

/-- A path with a new node is no longer than the graph. -/
theorem length_lt_size (h : Underway graph path search) (hname : graph.contains name = true)
    (hnew : name ∉ search.visited) : path.length < graph.size := by
  have hfresh : name ∉ path := fun hmem => hnew (h.visited.subset hmem)
  have hnodup : (name :: path).Nodup := List.nodup_cons.mpr ⟨hfresh, h.nodup.sublist h.visited⟩
  have hkeys : ∀ key ∈ name :: path, graph.contains key = true :=
    List.forall_mem_cons.mpr ⟨hname, fun key hkey => h.keys key (h.visited.subset hkey)⟩
  exact length_le_size hnodup hkeys

/-- Going on to a new node leaves the search underway, on a path with that node. -/
theorem cons (h : Underway graph path search) (hname : graph.contains name = true)
    (hnew : name ∉ search.visited) (hcall : ∀ last, path.head? = some last → graph.Calls last name) :
    Underway graph (name :: path) { search with visited := name :: search.visited } where
  visited := h.visited.cons_cons name
  nodup := List.nodup_cons.mpr ⟨hnew, h.nodup⟩
  keys := List.forall_mem_cons.mpr ⟨hname, h.keys⟩
  calls := List.isChain_cons.mpr ⟨hcall, h.calls⟩
  cycles cycle hcycle := ⟨(h.cycles cycle hcycle).1, (h.cycles cycle hcycle).2.cons name⟩
  once := h.once
  done key hkey := by
    rcases List.mem_cons.mp hkey with rfl | hearlier
    · exact Or.inl List.mem_cons_self
    · exact (h.done key hearlier).imp_left (List.mem_cons_of_mem _)

/-- Once its last node is accessible, a path can be left. -/
theorem tail (h : Underway graph (name :: path) search)
    (hacc : Acc (graph.OpenCall search.cycles) name) : Underway graph path search where
  visited := (List.sublist_cons_self name path).trans h.visited
  nodup := h.nodup
  keys := h.keys
  calls := (List.isChain_cons.mp h.calls).2
  cycles := h.cycles
  once := h.once
  done key hkey := by
    rcases h.done key hkey with hmem | hdone
    · rcases List.mem_cons.mp hmem with rfl | hearlier
      · exact Or.inr hacc
      · exact Or.inl hearlier
    · exact Or.inr hdone

/-- A call that leads back to the path closes a walk. -/
theorem closedWalk_pathFrom (h : Underway graph path search) (hback : name ∈ path)
    (hcall : ∀ last, path.head? = some last → graph.Calls last name) :
    graph.ClosedWalk (pathFrom path name) ∧ (pathFrom path name).reverse.Sublist search.visited := by
  obtain ⟨front, back, rfl, heq⟩ := exists_pathFrom hback
  have hround : (name :: (front ++ [name])).IsChain graph.CalledBy := by
    have hchain : (name :: (front ++ name :: back)).IsChain graph.CalledBy :=
      List.isChain_cons.mpr ⟨hcall, h.calls⟩
    rw [List.append_cons, ← List.cons_append] at hchain
    exact hchain.left_of_append
  refine ⟨⟨List.cons_ne_nil _ _, ?_⟩, ?_⟩
  · have hturned : pathFrom (front ++ name :: back) name ++
        (pathFrom (front ++ name :: back) name).take 1 = (name :: (front ++ [name])).reverse := by
      rw [List.reverse_cons, ← heq]
      rfl
    rw [hturned, List.isChain_reverse]
    exact hround
  · rw [heq, List.reverse_reverse]
    refine List.Sublist.trans ?_ h.visited
    rw [List.append_cons front name back]
    exact List.sublist_append_left _ _

/-- Reporting a cycle that was not reported before leaves the search underway. -/
theorem report (h : Underway graph path search) (hback : name ∈ path)
    (hcall : ∀ last, path.head? = some last → graph.Calls last name)
    (hnew : pathFrom path name ∉ search.cycles) :
    Underway graph path { search with cycles := search.cycles ++ [pathFrom path name] } where
  visited := h.visited
  nodup := h.nodup
  keys := h.keys
  calls := h.calls
  cycles cycle hcycle := by
    rcases List.mem_append.mp hcycle with hold | hadded
    · exact h.cycles cycle hold
    · rw [List.mem_singleton.mp hadded]
      exact h.closedWalk_pathFrom hback hcall
  once := by
    refine List.nodup_append.mpr ⟨h.once, List.nodup_singleton _, ?_⟩
    intro old hold added hadded heq
    exact hnew (List.mem_singleton.mp hadded ▸ heq ▸ hold)
  done key hkey := (h.done key hkey).imp_right (acc_openCall_of_more (List.prefix_append _ _))

end Underway

/-- What is done with a callee: its call closes a cycle, or all walks along open calls from it end. -/
def Settled (graph : Graph) (path : List String) (cycles : List (List String)) (callee : String) :
    Prop :=
  (∃ last, path.head? = some last ∧ Closes cycles last callee) ∨ Acc (graph.OpenCall cycles) callee

theorem Settled.of_more {path : List String} {cycles more : List (List String)} {callee : String}
    (hsettled : Settled graph path cycles callee) (h : cycles <+: more) :
    Settled graph path more callee := by
  rcases hsettled with ⟨last, hlast, cycle, hcycle, hends⟩ | hacc
  · exact Or.inl ⟨last, hlast, cycle, h.subset hcycle, hends⟩
  · exact Or.inr (acc_openCall_of_more h hacc)

/-- The calls from the end of the path to these callees have closed no cycle yet. -/
def Pending (path : List String) (search : CycleSearch) (callees : List String) : Prop :=
  ∀ last, path.head? = some last → ∀ callee ∈ callees, ¬Closes search.cycles last callee

/-- One callee is dealt with, provided that a visit does what it should. -/
theorem underway_lookAhead {visit : CycleSearch → String → CycleSearch} {path : List String}
    {search : CycleSearch} {callee : String} {others : List String}
    (hgrows : callee ∉ search.visited → search.Grows (visit search callee))
    (hvisit : callee ∉ search.visited → Underway graph path (visit search callee) ∧
      Acc (graph.OpenCall (visit search callee).cycles) callee)
    (h : Underway graph path search)
    (hcall : ∀ last, path.head? = some last → graph.Calls last callee)
    (hnodup : (callee :: others).Nodup) (hpending : Pending path search (callee :: others)) :
    Underway graph path (lookAhead visit path search callee) ∧
      Settled graph path (lookAhead visit path search callee).cycles callee ∧
      Pending path (lookAhead visit path search callee) others := by
  have hothers : Pending path search others := fun last hlast other hother =>
    hpending last hlast other (List.mem_cons_of_mem _ hother)
  rcases lookAhead_cases visit path search callee with
    ⟨hnew, heq⟩ | ⟨_, hback, heq⟩ | ⟨hvisited, hleft, heq⟩
  · rw [heq]
    obtain ⟨hunderway, hacc⟩ := hvisit hnew
    refine ⟨hunderway, Or.inr hacc, ?_⟩
    -- the cycles of the visit end elsewhere
    intro last hlast other hother hcloses
    obtain ⟨cycle, hcycle, hhead, hend⟩ := hcloses
    rcases (hgrows hnew).ends cycle hcycle with hold | hnot
    · exact hothers last hlast other hother ⟨cycle, hold, hhead, hend⟩
    · exact hnot last hend (h.visited.subset (List.mem_of_mem_head? hlast))
  · rw [heq]
    obtain ⟨last, hlast⟩ : ∃ last, path.head? = some last :=
      Option.isSome_iff_exists.mp (List.isSome_head?.mpr (List.ne_nil_of_mem hback))
    have hend : (pathFrom path callee).getLast? = some last :=
      (getLast?_pathFrom hback).trans hlast
    refine ⟨h.report hback hcall ?_, ?_, ?_⟩
    · intro hmem
      exact hpending last hlast callee List.mem_cons_self ⟨_, hmem, rfl, hend⟩
    · exact Or.inl ⟨last, hlast, _, List.mem_append_right _ (List.mem_singleton_self _), rfl, hend⟩
    · intro final hfinal other hother hcloses
      obtain ⟨cycle, hcycle, hhead, hcycleEnd⟩ := hcloses
      rcases List.mem_append.mp hcycle with hold | hadded
      · exact hothers final hfinal other hother ⟨cycle, hold, hhead, hcycleEnd⟩
      · rw [List.mem_singleton.mp hadded] at hhead
        obtain rfl : callee = other := Option.some.inj hhead
        exact (List.nodup_cons.mp hnodup).1 hother
  · rw [heq]
    exact ⟨h, Or.inr ((h.done callee hvisited).resolve_left hleft), hothers⟩

/-- Dealing with callees forgets no cycle. -/
theorem cycles_prefix_foldl {visit : CycleSearch → String → CycleSearch}
    (hgrows : ∀ (search : CycleSearch) (callee : String), callee ∉ search.visited →
      search.Grows (visit search callee)) (path callees : List String) (search : CycleSearch) :
    search.cycles <+: (callees.foldl (lookAhead visit path) search).cycles := by
  refine List.foldlRecOn (motive := fun after : CycleSearch => search.cycles <+: after.cycles) _ _
    (List.prefix_refl _) ?_
  intro before hbefore callee _
  refine hbefore.trans ?_
  rcases lookAhead_cases visit path before callee with ⟨hnew, heq⟩ | ⟨_, _, heq⟩ | ⟨_, _, heq⟩
  · rw [heq]
    exact (hgrows before callee hnew).cycles
  · rw [heq]
    exact List.prefix_append _ _
  · exact heq.symm ▸ List.prefix_refl _

/-- All callees of the end of a path, one after the other. -/
theorem underway_foldl {visit : CycleSearch → String → CycleSearch} {path : List String}
    (hgrows : ∀ (search : CycleSearch) (callee : String), callee ∉ search.visited →
      search.Grows (visit search callee)) {callees : List String}
    (hvisit : ∀ search, ∀ callee ∈ callees, Underway graph path search →
      callee ∉ search.visited → Underway graph path (visit search callee) ∧
        Acc (graph.OpenCall (visit search callee).cycles) callee)
    (hcall : ∀ last, path.head? = some last → ∀ callee ∈ callees, graph.Calls last callee)
    (hnodup : callees.Nodup) {search : CycleSearch} (h : Underway graph path search)
    (hpending : Pending path search callees) :
    Underway graph path (callees.foldl (lookAhead visit path) search) ∧
      ∀ callee ∈ callees,
        Settled graph path (callees.foldl (lookAhead visit path) search).cycles callee := by
  induction callees generalizing search with
  | nil => exact ⟨h, fun _ hmem => nomatch hmem⟩
  | cons callee others ih =>
      obtain ⟨hnext, hsettled, hleft⟩ := underway_lookAhead (hgrows search callee)
        (hvisit search callee List.mem_cons_self h) h
        (fun last hlast => hcall last hlast callee List.mem_cons_self) hnodup hpending
      obtain ⟨hend, hothers⟩ := ih
        (fun search other hother => hvisit search other (List.mem_cons_of_mem _ hother))
        (fun last hlast other hother => hcall last hlast other (List.mem_cons_of_mem _ hother))
        (List.nodup_cons.mp hnodup).2 hnext hleft
      rw [List.foldl_cons]
      refine ⟨hend, List.forall_mem_cons.mpr ⟨hsettled.of_more ?_, hothers⟩⟩
      exact cycles_prefix_foldl hgrows path others _

/-- **A visit leaves its node behind.**  The fuel is enough if it outlasts the keys that are not on the
path. -/
theorem underway_visitWithin (fuel : Nat) {path : List String} {search : CycleSearch}
    {name : String} (hfuel : graph.size ≤ fuel + path.length) (h : Underway graph path search)
    (hname : graph.contains name = true) (hnew : name ∉ search.visited)
    (hcall : ∀ last, path.head? = some last → graph.Calls last name) :
    Underway graph path (graph.visitWithin fuel path search name) ∧
      Acc (graph.OpenCall (graph.visitWithin fuel path search name).cycles) name := by
  induction fuel generalizing path search name with
  | zero =>
      have hlength := h.length_lt_size hname hnew
      omega
  | succ fuel ih =>
      have hroom : graph.size ≤ fuel + (name :: path).length := by
        rw [List.length_cons]
        omega
      have hcalls : ∀ callee ∈ graph.sortedCallees name, graph.Calls name callee :=
        fun callee hcallee => mem_sortedCallees.mp hcallee
      have hlast : ∀ {last}, (name :: path).head? = some last → last = name :=
        fun heq => (Option.some.inj heq).symm
      -- a node that is new has closed no cycle
      have hpending : Pending (name :: path) { search with visited := name :: search.visited }
          (graph.sortedCallees name) := by
        intro last heq callee _ hcloses
        obtain ⟨cycle, hcycle, _, hend⟩ := hcloses
        have hmem : last ∈ cycle.reverse := List.mem_reverse.mpr (List.mem_of_getLast? hend)
        exact hnew (hlast heq ▸ (h.cycles cycle hcycle).2.subset hmem)
      obtain ⟨hend, hsettled⟩ := underway_foldl
        (fun search callee hfresh => grows_visitWithin fuel (name :: path) hfresh)
        (fun search callee hcallee hsearch hfresh =>
          ih hroom hsearch (hcalls callee hcallee).contains hfresh
            fun last heq => hlast heq ▸ hcalls callee hcallee)
        (fun last heq callee hcallee => hlast heq ▸ hcalls callee hcallee)
        (nodup_sortedCallees graph name) (h.cons hname hnew hcall) hpending
      have hacc : Acc (graph.OpenCall
          (graph.visitWithin (fuel + 1) path search name).cycles) name := by
        refine Acc.intro name ?_
        intro callee hopen
        rcases hsettled callee (mem_sortedCallees.mpr hopen.1) with ⟨last, heq, hcloses⟩ | hdone
        · exact absurd (hlast heq ▸ hcloses) hopen.2
        · exact hdone
      exact ⟨hend.tail hacc, hacc⟩

/-- **What the whole search leaves behind.**  No path is left, and from every key all walks along calls
that close no reported cycle end. -/
theorem searched_complete : Underway graph [] graph.searched ∧
    ∀ name, graph.contains name = true → Acc (graph.OpenCall graph.foundCycles) name := by
  have hnames : ∀ name ∈ graph.sortedNames, graph.contains name = true := fun name hname =>
    (Table.contains_iff_mem_keys _).mpr (mem_sortTexts.mp hname)
  have hstart : Underway graph [] {} := by
    refine ⟨List.nil_sublist _, List.nodup_nil, ?_, .nil, ?_, List.nodup_nil, ?_⟩ <;> simp
  have hnone : ∀ {last : String}, ([] : List String).head? ≠ some last := fun heq => nomatch heq
  obtain ⟨hend, hsettled⟩ := underway_foldl
    (fun search name hfresh => grows_visitWithin graph.size [] hfresh)
    (fun search name hname hsearch hfresh =>
      underway_visitWithin graph.size (Nat.le_refl _) hsearch (hnames name hname) hfresh
        fun last heq => absurd heq hnone)
    (fun last heq => absurd heq hnone) (nodup_sortedNames graph) hstart
    (fun last heq => absurd heq hnone)
  refine ⟨hend, fun name hname => ?_⟩
  have hmem : name ∈ graph.sortedNames :=
    mem_sortTexts.mpr ((Table.contains_iff_mem_keys _).mp hname)
  rcases hsettled name hmem with ⟨last, heq, _⟩ | hacc
  · exact absurd heq hnone
  · exact hacc

/-! ## No cycle -/

/-- Where all walks from a key end, none leads back to it. -/
theorem not_transGen_of_acc {leads : String → String → Prop} {name : String}
    (h : Acc (fun next last => leads last next) name) : ¬Relation.TransGen leads name name := by
  induction h with
  | intro name _ ih =>
      intro hcycle
      obtain ⟨next, hcall, hback⟩ := Relation.TransGen.head'_iff.mp hcycle
      exact ih next hcall (Relation.TransGen.tail' hback hcall)

/-- A chain leads from its first member to its last one. -/
theorem transGen_of_isChain {leads : String → String → Prop} {first last : String}
    {between : List String} (h : (first :: (between ++ [last])).IsChain leads) :
    Relation.TransGen leads first last := by
  induction between generalizing first with
  | nil => exact .single (List.isChain_cons_cons.mp h).1
  | cons next between ih =>
      obtain ⟨hfirst, hrest⟩ := List.isChain_cons_cons.mp h
      exact .head hfirst (ih hrest)

/-- **The search finds a cycle exactly if there is one.** -/
theorem foundCycles_eq_nil_iff : graph.foundCycles = [] ↔ ¬graph.HasCycle := by
  obtain ⟨hend, hacc⟩ : Underway graph [] graph.searched ∧ _ := searched_complete
  constructor
  · intro hnone hcycle
    obtain ⟨name, hround⟩ := hcycle
    obtain ⟨_, _, hcall⟩ := Relation.TransGen.tail'_iff.mp hround
    have hopen : ∀ caller target, graph.Calls caller target →
        graph.OpenCall graph.foundCycles target caller := by
      intro caller target hcall
      refine ⟨hcall, fun hcloses => ?_⟩
      obtain ⟨cycle, hmem, _⟩ := hcloses
      rw [hnone] at hmem
      cases hmem
    exact not_transGen_of_acc (hacc name hcall.contains) (Relation.TransGen.mono hopen _ _ hround)
  · intro hacyclic
    by_contra hfound
    obtain ⟨cycle, hmem⟩ := List.exists_mem_of_ne_nil _ hfound
    obtain ⟨hnonempty, hcalls⟩ := (hend.cycles cycle hmem).1
    obtain ⟨first, others, rfl⟩ := List.exists_cons_of_ne_nil hnonempty
    exact hacyclic ⟨first, transGen_of_isChain hcalls⟩

end WorkflowGraph.Graph
