import WorkflowGraph.Proofs.CycleSearch

/-!
# The forest of a search

Every node is visited once, at the end of some path.  Kept for all nodes, these paths are the branches
of a forest, the trails.  A search keeps none of them but the last; `Graph.Explored` says what they
would be.  The nodes with a given node on their trail are visited in one go, and a node is left only
after each of its callees was met.  If the callee was on the trail of the node, a cycle was reported.

For the search as a whole (`Graph.searched_explored`) this means that whatever can be reached from a
node by a walk through nodes visited after it has the node on its trail (`Graph.Explored.mem_trail`).
So the trails can be told from the calls and the order of the visits.
-/

namespace WorkflowGraph.Graph

/-! ## The order of visits -/

/-- In a list of visited nodes, with the newest first, one node comes sooner than another. -/
def Sooner (visited : List String) (node later : String) : Prop := [later, node].Sublist visited

section Order

variable {visited : List String} {node later other : String}

theorem Sooner.mem (h : Sooner visited node later) : node ∈ visited ∧ later ∈ visited :=
  ⟨h.subset (by simp), h.subset (by simp)⟩

theorem sooner_cons : Sooner (other :: visited) node later ↔
    (later = other ∧ node ∈ visited) ∨ Sooner visited node later := by
  rw [Sooner, List.sublist_cons_iff, or_comm]
  refine or_congr_left ⟨?_, ?_⟩
  · rintro ⟨rest, heq, hrest⟩
    obtain ⟨rfl, rfl⟩ := List.cons.inj heq
    exact ⟨rfl, List.singleton_sublist.mp hrest⟩
  · rintro ⟨rfl, hmem⟩
    exact ⟨[node], rfl, List.singleton_sublist.mpr hmem⟩

/-- After a new visit the order of the others is as before. -/
theorem sooner_cons_of_ne (hne : later ≠ other) :
    Sooner (other :: visited) node later ↔ Sooner visited node later := by
  rw [sooner_cons, or_iff_right]
  exact fun h => hne h.1

/-- Of two visited nodes one comes sooner. -/
theorem sooner_or_sooner (hnode : node ∈ visited) (hlater : later ∈ visited) (hne : node ≠ later) :
    Sooner visited node later ∨ Sooner visited later node := by
  induction visited with
  | nil => cases hnode
  | cons newest visited ih =>
      rw [sooner_cons, sooner_cons]
      rcases List.mem_cons.mp hnode with heq | hold
      · have hmem := (List.mem_cons.mp hlater).resolve_left (heq ▸ hne.symm)
        exact Or.inr (Or.inl ⟨heq, hmem⟩)
      rcases List.mem_cons.mp hlater with heq | hold'
      · exact Or.inl (Or.inl ⟨heq, hold⟩)
      · exact (ih hold hold').imp Or.inr Or.inr

end Order

/-! ## Trails -/

/-- What holds of a search at the end of a path, given with its last node first, if `trail` tells for
every visited node the path to it, in the same direction. -/
structure Explored (graph : Graph) (trail : String → List String) (path : List String)
    (search : CycleSearch) : Prop where
  visited : path.Sublist search.visited
  nodup : search.visited.Nodup
  keys : ∀ key ∈ search.visited, graph.contains key = true
  /-- The trails of the nodes on the path are its parts. -/
  onPath : ∀ key rest, key :: rest <:+ path → trail key = key :: rest
  head : ∀ key ∈ search.visited, (trail key).head? = some key
  sublist : ∀ key ∈ search.visited, (trail key).Sublist search.visited
  suffix : ∀ key ∈ search.visited, ∀ other ∈ trail key, trail other <:+ trail key
  /-- A node that is on a trail is on the trails of all visited since. -/
  between : ∀ key ∈ search.visited, ∀ other ∈ trail key, ∀ middle,
    Sooner search.visited other middle → Sooner search.visited middle key → other ∈ trail middle
  /-- A node of the path is on the trails of all visited after it. -/
  below : ∀ key ∈ path, ∀ later, Sooner search.visited key later → key ∈ trail later
  /-- Nothing is left to do for a node that is not on the path any more. -/
  left : ∀ key ∈ search.visited, key ∉ path → ∀ callee, graph.Calls key callee →
    callee ∈ search.visited ∧
      (callee ∈ trail key → pathFrom (trail key) callee ∈ search.cycles) ∧
      (Sooner search.visited key callee → key ∈ trail callee)

namespace Explored

variable {graph : Graph} {trail : String → List String} {path : List String}
  {search : CycleSearch} {name : String}

/-- Going on to a new node gives it the path as its trail. -/
theorem cons (h : Explored graph trail path search) (hname : graph.contains name = true)
    (hnew : name ∉ search.visited) :
    Explored graph (Function.update trail name (name :: path)) (name :: path)
      { search with visited := name :: search.visited } := by
  have hself := Function.update_self name (name :: path) trail
  have hold : ∀ key ∈ search.visited, key ≠ name := fun key hkey heq => hnew (heq ▸ hkey)
  have htrail : ∀ key ∈ search.visited,
      Function.update trail name (name :: path) key = trail key :=
    fun key hkey => Function.update_of_ne (hold key hkey) _ _
  have hpath : ∀ key ∈ path, key ∈ search.visited := fun key hkey => h.visited.subset hkey
  refine ⟨h.visited.cons_cons name, List.nodup_cons.mpr ⟨hnew, h.nodup⟩,
    List.forall_mem_cons.mpr ⟨hname, h.keys⟩, ?_, ?_, ?_, ?_, ?_, ?_, ?_⟩
  · intro key rest hsuffix
    rcases List.suffix_cons_iff.mp hsuffix with heq | hsuffix
    · obtain ⟨rfl, rfl⟩ := List.cons.inj heq
      rw [hself]
    · rw [htrail key (hpath key (hsuffix.subset List.mem_cons_self)), h.onPath key rest hsuffix]
  · refine List.forall_mem_cons.mpr ⟨by rw [hself]; rfl, ?_⟩
    intro key hkey
    rw [htrail key hkey, h.head key hkey]
  · refine List.forall_mem_cons.mpr ⟨?_, ?_⟩
    · rw [hself]
      exact h.visited.cons_cons name
    · intro key hkey
      rw [htrail key hkey]
      exact (h.sublist key hkey).cons name
  · refine List.forall_mem_cons.mpr ⟨?_, ?_⟩
    · rw [hself]
      intro other hother
      rcases List.mem_cons.mp hother with rfl | hother
      · exact ⟨[], hself⟩
      · obtain ⟨front, back, hsplit⟩ := List.append_of_mem hother
        have hsuffix : other :: back <:+ path := ⟨front, hsplit.symm⟩
        rw [htrail other (hpath other hother), h.onPath other back hsuffix]
        exact hsuffix.trans (List.suffix_cons name path)
    · intro key hkey other hother
      rw [htrail key hkey] at hother ⊢
      rw [htrail other ((h.sublist key hkey).subset hother)]
      exact h.suffix key hkey other hother
  · intro key hkey other hother middle hsooner hlater
    -- what is visited before another node is not the newest
    have hmiddle : middle ∈ search.visited := by
      rcases sooner_cons.mp hlater with ⟨_, hmem⟩ | hlater
      · exact hmem
      · exact hlater.mem.1
    rw [htrail middle hmiddle]
    rw [sooner_cons_of_ne (hold middle hmiddle)] at hsooner
    rcases List.mem_cons.mp hkey with rfl | hkey
    · rw [hself] at hother
      rcases List.mem_cons.mp hother with rfl | hother
      · exact absurd hsooner.mem.1 hnew
      · exact h.below other hother middle hsooner
    · rw [htrail key hkey] at hother
      rw [sooner_cons_of_ne (hold key hkey)] at hlater
      exact h.between key hkey other hother middle hsooner hlater
  · intro key hkey later hsooner
    rcases sooner_cons.mp hsooner with ⟨rfl, _⟩ | hsooner
    · rw [hself]
      exact hkey
    · have hmem := (List.mem_cons.mp hkey).resolve_left (hold key hsooner.mem.1)
      rw [htrail later hsooner.mem.2]
      exact h.below key hmem later hsooner
  · intro key hkey hleft callee hcall
    obtain ⟨hne, hnot⟩ := not_or.mp (mt List.mem_cons.mpr hleft)
    have hkey := (List.mem_cons.mp hkey).resolve_left hne
    obtain ⟨hcallee, hcycle, htree⟩ := h.left key hkey hnot callee hcall
    rw [htrail key hkey, htrail callee hcallee, sooner_cons_of_ne (hold callee hcallee)]
    exact ⟨List.mem_cons_of_mem _ hcallee, hcycle, htree⟩

/-- Once all its callees were met, the last node of a path can be left. -/
theorem tail (h : Explored graph trail (name :: path) search)
    (hmet : ∀ callee, graph.Calls name callee → callee ∈ search.visited ∧
      (callee ∈ name :: path → pathFrom (name :: path) callee ∈ search.cycles)) :
    Explored graph trail path search where
  visited := (List.sublist_cons_self name path).trans h.visited
  nodup := h.nodup
  keys := h.keys
  onPath key rest hsuffix := h.onPath key rest (hsuffix.trans (List.suffix_cons name path))
  head := h.head
  sublist := h.sublist
  suffix := h.suffix
  between := h.between
  below key hkey := h.below key (List.mem_cons_of_mem _ hkey)
  left key hkey hleft callee hcall := by
    by_cases heq : key = name
    · subst heq
      obtain ⟨hcallee, hcycle⟩ := hmet callee hcall
      rw [h.onPath key path List.suffix_rfl]
      exact ⟨hcallee, hcycle, h.below key List.mem_cons_self callee⟩
    · exact h.left key hkey (fun hmem => hleft ((List.mem_cons.mp hmem).resolve_left heq)) callee
        hcall

/-- Reporting a cycle changes no trail. -/
theorem report (h : Explored graph trail path search) (cycle : List String) :
    Explored graph trail path { search with cycles := search.cycles ++ [cycle] } where
  visited := h.visited
  nodup := h.nodup
  keys := h.keys
  onPath := h.onPath
  head := h.head
  sublist := h.sublist
  suffix := h.suffix
  between := h.between
  below := h.below
  left key hkey hleft callee hcall := by
    obtain ⟨hcallee, hcycle, htree⟩ := h.left key hkey hleft callee hcall
    exact ⟨hcallee, fun hmem => List.mem_append_left _ (hcycle hmem), htree⟩

end Explored

/-! ## What a visit leaves behind -/

/-- The search has met a callee of the end of a path. -/
def Met (path : List String) (search : CycleSearch) (callee : String) : Prop :=
  callee ∈ search.visited ∧ (callee ∈ path → pathFrom path callee ∈ search.cycles)

section Visits

variable {graph : Graph} {path : List String} {search : CycleSearch} {callee other : String}
  {visit : CycleSearch → String → CycleSearch}

/-- What was met stays met. -/
theorem Met.lookAhead (h : Met path search callee)
    (hgrows : other ∉ search.visited → search.Grows (visit search other)) :
    Met path (lookAhead visit path search other) callee := by
  rcases lookAhead_cases visit path search other with ⟨hnew, heq⟩ | ⟨_, _, heq⟩ | ⟨_, _, heq⟩
  · rw [heq]
    exact ⟨(hgrows hnew).visited callee h.1, fun hmem => (hgrows hnew).cycles.subset (h.2 hmem)⟩
  · rw [heq]
    exact ⟨h.1, fun hmem => List.mem_append_left _ (h.2 hmem)⟩
  · rw [heq]
    exact h

/-- One callee is met, provided that a visit does what it should. -/
theorem explored_lookAhead (h : ∃ trail, Explored graph trail path search)
    (hvisit : callee ∉ search.visited →
      (∃ trail, Explored graph trail path (visit search callee)) ∧
        callee ∈ (visit search callee).visited) :
    (∃ trail, Explored graph trail path (lookAhead visit path search callee)) ∧
      Met path (lookAhead visit path search callee) callee := by
  obtain ⟨trail, hexplored⟩ := h
  rcases lookAhead_cases visit path search callee with
    ⟨hnew, heq⟩ | ⟨hvisited, _, heq⟩ | ⟨hvisited, hleft, heq⟩
  · rw [heq]
    obtain ⟨hafter, hmem⟩ := hvisit hnew
    exact ⟨hafter, hmem, fun hpath => absurd (hexplored.visited.subset hpath) hnew⟩
  · rw [heq]
    refine ⟨⟨trail, hexplored.report _⟩, hvisited, fun _ => ?_⟩
    exact List.mem_append_right _ (List.mem_singleton_self _)
  · rw [heq]
    exact ⟨⟨trail, hexplored⟩, hvisited, fun hpath => absurd hpath hleft⟩

/-- All callees of the end of a path are met, one after the other. -/
theorem explored_foldl {callees : List String}
    (hgrows : ∀ (search : CycleSearch) (callee : String), callee ∉ search.visited →
      search.Grows (visit search callee))
    (hvisit : ∀ search, ∀ callee ∈ callees, (∃ trail, Explored graph trail path search) →
      callee ∉ search.visited → (∃ trail, Explored graph trail path (visit search callee)) ∧
        callee ∈ (visit search callee).visited)
    (h : ∃ trail, Explored graph trail path search) :
    (∃ trail, Explored graph trail path (callees.foldl (lookAhead visit path) search)) ∧
      ∀ callee ∈ callees, Met path (callees.foldl (lookAhead visit path) search) callee := by
  induction callees generalizing search with
  | nil => exact ⟨h, fun _ hmem => nomatch hmem⟩
  | cons callee others ih =>
      obtain ⟨hnext, hmet⟩ := explored_lookAhead h (hvisit search callee List.mem_cons_self h)
      obtain ⟨hend, hothers⟩ := ih
        (fun search other hother => hvisit search other (List.mem_cons_of_mem _ hother)) hnext
      rw [List.foldl_cons]
      refine ⟨hend, List.forall_mem_cons.mpr ⟨?_, hothers⟩⟩
      refine List.foldlRecOn (motive := fun after => Met path after callee) _ _ hmet ?_
      intro before hbefore other _
      exact hbefore.lookAhead (hgrows before other)

/-- **A visit leaves trails behind.**  The fuel is enough if it outlasts the keys that are not on the
path. -/
theorem explored_visitWithin (fuel : Nat) {name : String}
    (hfuel : graph.size ≤ fuel + path.length) (h : ∃ trail, Explored graph trail path search)
    (hname : graph.contains name = true) (hnew : name ∉ search.visited) :
    (∃ trail, Explored graph trail path (graph.visitWithin fuel path search name)) ∧
      name ∈ (graph.visitWithin fuel path search name).visited := by
  induction fuel generalizing path search name with
  | zero =>
      obtain ⟨trail, hexplored⟩ := h
      have hlonger := hexplored.cons hname hnew
      have hlength : (name :: path).length ≤ graph.size :=
        length_le_size (hlonger.nodup.sublist hlonger.visited)
          fun key hkey => hlonger.keys key (hlonger.visited.subset hkey)
      rw [List.length_cons] at hlength
      omega
  | succ fuel ih =>
      obtain ⟨trail, hexplored⟩ := h
      have hroom : graph.size ≤ fuel + (name :: path).length := by
        rw [List.length_cons]
        omega
      obtain ⟨⟨trails, hend⟩, hmet⟩ := explored_foldl
        (fun search callee hfresh => grows_visitWithin fuel (name :: path) hfresh)
        (fun search callee hcallee hsearch hfresh =>
          ih hroom hsearch (mem_sortedCallees.mp hcallee).contains hfresh)
        ⟨_, hexplored.cons hname hnew⟩
      refine ⟨⟨trails, hend.tail ?_⟩, hend.visited.subset List.mem_cons_self⟩
      intro callee hcall
      exact hmet callee (mem_sortedCallees.mpr hcall)

end Visits

/-- **The forest of the whole search.**  No path is left, and every key is visited. -/
theorem searched_explored (graph : Graph) :
    (∃ trail, Explored graph trail [] graph.searched) ∧
      ∀ name, graph.contains name = true → name ∈ graph.searched.visited := by
  have hnames : ∀ name, name ∈ graph.sortedNames ↔ graph.contains name = true := fun name =>
    mem_sortTexts.trans (Table.contains_iff_mem_keys _).symm
  have hstart : Explored graph (fun _ => []) [] {} := by
    refine ⟨List.nil_sublist _, List.nodup_nil, ?_, ?_, ?_, ?_, ?_, ?_, ?_, ?_⟩ <;> simp
  obtain ⟨hend, hmet⟩ := explored_foldl
    (fun search name hfresh => grows_visitWithin graph.size [] hfresh)
    (fun search name hname hsearch hfresh =>
      explored_visitWithin graph.size (Nat.le_refl _) hsearch ((hnames name).mp hname) hfresh)
    ⟨_, hstart⟩
  exact ⟨hend, fun name hname => (hmet name ((hnames name).mpr hname)).1⟩

/-! ## Trails told from the order of visits -/

/-- A walk along calls leads from a node to another one through nodes that are visited after it. -/
def LeadsTo (graph : Graph) (visited : List String) (node finish : String) : Prop :=
  Relation.ReflTransGen (fun caller target => graph.Calls caller target ∧
    Sooner visited node target) node finish

namespace Explored

variable {graph : Graph} {trail : String → List String} {search : CycleSearch}
  {node finish : String}

/-- A visited node is on its own trail. -/
theorem self_mem (h : Explored graph trail [] search) (hnode : node ∈ search.visited) :
    node ∈ trail node :=
  List.mem_of_mem_head? (h.head node hnode)

/-- A node is on the trail of whatever it leads to. -/
theorem mem_trail (h : Explored graph trail [] search) (hnode : node ∈ search.visited)
    (hleads : graph.LeadsTo search.visited node finish) :
    finish ∈ search.visited ∧ node ∈ trail finish := by
  induction hleads with
  | refl => exact ⟨hnode, h.self_mem hnode⟩
  | @tail caller target _ hstep ih =>
      obtain ⟨hcall, hsooner⟩ := hstep
      obtain ⟨hcaller, htrail⟩ := ih
      obtain ⟨htarget, _, htree⟩ := h.left caller hcaller List.not_mem_nil target hcall
      refine ⟨htarget, ?_⟩
      by_cases heq : caller = target
      · exact heq ▸ htrail
      rcases sooner_or_sooner hcaller htarget heq with hlater | hearlier
      · exact (h.suffix target htarget caller (htree hlater)).subset htrail
      -- the target is visited between the node and the caller
      · exact h.between caller hcaller node htrail target hsooner hearlier

/-- A cycle is reported for a call back to the trail of its caller, and it has all nodes of the trail
from the target on. -/
theorem mem_cycles (h : Explored graph trail [] search) {first last : String}
    (hlast : last ∈ search.visited) (hcall : graph.Calls last first)
    (hnode : node ∈ trail last) (hfirst : first ∈ trail node) :
    ∃ cycle ∈ search.cycles, node ∈ cycle := by
  obtain ⟨front, hfront⟩ := h.suffix last hlast node hnode
  have hback : first ∈ trail last := hfront ▸ List.mem_append_right front hfirst
  refine ⟨pathFrom (trail last) first,
    (h.left last hlast List.not_mem_nil first hcall).2.1 hback, ?_⟩
  by_cases heq : node = first
  · exact heq ▸ List.mem_cons_self
  have hdistinct : (trail last).Nodup := h.nodup.sublist (h.sublist last hlast)
  have hvisited : node ∈ search.visited := (h.sublist last hlast).subset hnode
  obtain ⟨rest, hrest⟩ : ∃ rest, trail node = node :: rest :=
    List.head?_eq_some_iff.mp (h.head node hvisited)
  -- the target is not met before the node
  have hbefore : ∀ key ∈ front, (key != first) = true := by
    intro key hkey
    rw [← hfront] at hdistinct
    have hne : key ≠ first := (List.nodup_append.mp hdistinct).2.2 key hkey first hfirst
    simpa using hne
  rw [pathFrom, ← hfront, List.takeWhile_append_of_pos hbefore, hrest,
    List.takeWhile_cons_of_pos (by simpa using heq)]
  simp

end Explored

end WorkflowGraph.Graph
