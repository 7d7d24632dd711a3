import WorkflowGraph.Proofs.Visits

/-!
# Tours go through trees in pre-order

A tour goes through a tree with a cursor that moves to first children, next siblings and parents, and
counts how deep it is.  This file compares it with the tree itself.

* The nodes of a tree have positions: the indices of the children on the way down.
  `Node.lists_preorder` says that the pre-order lists every position once, in the order of words.
* A tour comes to an end (`Tour.exists_course`), and its stages stand at the nodes of the pre-order.
* What the counter says is how far below the start the cursor is (`Tour.Under`).  Every move keeps
  this (`Tour.Under.next`), so a tour never climbs above its start, whatever stands there.
-/

namespace WorkflowGraph.Go

namespace Node

/-! ## Positions -/

/-- The node at a position, which has one index for each level of the way down. -/
def at? : Node → List Nat → Option Node
  | node, [] => some node
  | node, index :: path => node.children[index]?.bind fun child => child.at? path

/-- The nodes are those at the positions of the tree.  Every position is listed, and the order is
that of words: parents before children, and siblings with all that is below them from left to right.
In particular no position is listed twice. -/
structure Lists (root : Node) (positions : List (List Nat)) (nodes : List Node) : Prop where
  nodes_eq : positions.map root.at? = nodes.map some
  complete : ∀ path node, root.at? path = some node → path ∈ positions
  ordered : positions.Pairwise (· < ·)

mutual

/-- The positions of a tree in pre-order. -/
def positions : Node → List (List Nat)
  | mk _ children => [] :: positionsFrom 0 children

/-- The positions below the children of a node from the given index on. -/
def positionsFrom (index : Nat) : List Node → List (List Nat)
  | [] => []
  | child :: rest => child.positions.map (index :: ·) ++ positionsFrom (index + 1) rest

end

/-- What is found at the positions below one child is found in the child. -/
theorem map_at?_cons {root child : Node} {index : Nat} (h : root.children[index]? = some child)
    (paths : List (List Nat)) :
    (paths.map (index :: ·)).map root.at? = paths.map child.at? := by
  rw [List.map_map]
  refine List.map_congr_left fun path _ => ?_
  rw [Function.comp_apply, at?, h, Option.bind_some]

mutual

theorem map_at?_positions : ∀ root : Node, root.positions.map root.at? = root.preorder.map some
  | mk label children => by
      rw [positions, preorder, List.map_cons, List.map_cons, at?]
      exact congrArg _ (map_at?_positionsFrom (mk label children) 0 children rfl)

theorem map_at?_positionsFrom (root : Node) (index : Nat) :
    ∀ nodes : List Node, root.children.drop index = nodes →
      (positionsFrom index nodes).map root.at? = (preorderAll nodes).map some
  | [], _ => by rw [positionsFrom, preorderAll, List.map_nil, List.map_nil]
  | child :: rest, hnodes => by
      have hchild : root.children[index]? = some child := by
        rw [← List.head?_drop, hnodes, List.head?_cons]
      have hrest : root.children.drop (index + 1) = rest := by
        rw [← List.tail_drop, hnodes, List.tail_cons]
      rw [positionsFrom, preorderAll, List.map_append, List.map_append, map_at?_cons hchild,
        map_at?_positions child, map_at?_positionsFrom root (index + 1) rest hrest]

end

/-- The positions below a child start with its index. -/
theorem le_of_mem_positionsFrom {path : List Nat} {index : Nat} {nodes : List Node}
    (h : path ∈ positionsFrom index nodes) :
    ∃ first others, path = first :: others ∧ index ≤ first := by
  induction nodes generalizing index with
  | nil =>
      rw [positionsFrom] at h
      cases h
  | cons child rest ih =>
      rw [positionsFrom, List.mem_append, List.mem_map] at h
      rcases h with ⟨others, _, rfl⟩ | hrest
      · exact ⟨index, others, rfl, Nat.le_refl index⟩
      · obtain ⟨first, others, rfl, hle⟩ := ih hrest
        exact ⟨first, others, rfl, by omega⟩

mutual

theorem pairwise_positions : ∀ root : Node, root.positions.Pairwise (· < ·)
  | mk label children => by
      rw [positions, List.pairwise_cons]
      refine ⟨fun path hpath => ?_, pairwise_positionsFrom 0 children⟩
      obtain ⟨first, others, rfl, _⟩ := le_of_mem_positionsFrom hpath
      exact List.Lex.nil

theorem pairwise_positionsFrom (index : Nat) :
    ∀ nodes : List Node, (positionsFrom index nodes).Pairwise (· < ·)
  | [] => by
      rw [positionsFrom]
      exact List.Pairwise.nil
  | child :: rest => by
      rw [positionsFrom, List.pairwise_append]
      refine ⟨?_, pairwise_positionsFrom (index + 1) rest, ?_⟩
      · exact List.pairwise_map.mpr ((pairwise_positions child).imp fun hlt => List.Lex.cons hlt)
      · intro path hpath later hlater
        obtain ⟨others, _, rfl⟩ := List.mem_map.mp hpath
        obtain ⟨first, more, rfl, hle⟩ := le_of_mem_positionsFrom hlater
        exact List.Lex.rel (by omega)

end

mutual

theorem mem_positions : ∀ (root node : Node) (path : List Nat), root.at? path = some node →
    path ∈ root.positions
  | mk label children, node, [], _ => by
      rw [positions]
      exact List.mem_cons_self
  | mk label children, node, index :: path, h => by
      rw [positions]
      rw [at?] at h
      obtain ⟨child, hchild, hnode⟩ := Option.bind_eq_some_iff.mp h
      have hmem := mem_positionsFrom 0 children index child node path hchild hnode
      rw [Nat.zero_add] at hmem
      exact List.mem_cons_of_mem _ hmem

theorem mem_positionsFrom (start : Nat) : ∀ (nodes : List Node) (index : Nat) (child node : Node)
    (path : List Nat), nodes[index]? = some child → child.at? path = some node →
      (start + index) :: path ∈ positionsFrom start nodes
  | [], index, child, node, path, hchild, _ => by
      rw [List.getElem?_nil] at hchild
      cases hchild
  | first :: rest, 0, child, node, path, hchild, hnode => by
      obtain rfl : first = child := Option.some.inj hchild
      rw [positionsFrom, List.mem_append]
      exact Or.inl (List.mem_map.mpr ⟨path, mem_positions first node path hnode, rfl⟩)
  | first :: rest, index + 1, child, node, path, hchild, hnode => by
      have hmem := mem_positionsFrom (start + 1) rest index child node path hchild hnode
      rw [positionsFrom, List.mem_append]
      refine Or.inr ?_
      rwa [show start + (index + 1) = start + 1 + index by omega]

end

/-- The pre-order lists the tree. -/
theorem lists_preorder (root : Node) : root.Lists root.positions root.preorder where
  nodes_eq := map_at?_positions root
  complete path node h := mem_positions root node path h
  ordered := pairwise_positions root

end Node

/-! ## Tours -/

namespace Tour

/-- The stages of a tour from one on up to the last: each is followed by the next one, and after the
last there is none. -/
inductive Course : Tour → List Tour → Prop
  | last {tour : Tour} (hend : tour.next? = none) : Course tour [tour]
  | move {tour later : Tour} {stages : List Tour} (hnext : tour.next? = some later)
      (rest : Course later stages) : Course tour (tour :: stages)

/-- **A tour comes to an end.**  Its stages stand at the places ahead, one after the other. -/
theorem exists_course (tour : Tour) :
    ∃ stages, tour.Course stages ∧ stages.map Tour.cursor = onward (some tour) := by
  -- one place less is ahead after each move
  induction hlength : tour.ahead.length using Nat.strongRecOn generalizing tour with
  | ind length ih =>
      subst hlength
      cases hnext : tour.next? with
      | none =>
          refine ⟨[tour], .last hnext, ?_⟩
          rw [onward, tour.ahead_eq, hnext]
          rfl
      | some later =>
          obtain ⟨stages, hcourse, hplaces⟩ := ih _ (length_ahead_lt hnext) later rfl
          refine ⟨tour :: stages, .move hnext hcourse, ?_⟩
          rw [List.map_cons, hplaces, ← hnext, ← tour.ahead_eq]
          rfl

/-- The counter of a tour says how far the cursor is below the start, whose ancestors are given. -/
def Under (above : List Ancestor) (tour : Tour) : Prop :=
  ∃ inner : List Ancestor, tour.cursor.above = inner ++ above ∧ inner.length = tour.depth

theorem under_of_climb {above : List Ancestor} {cursor : Cursor} {depth : Nat} {later : Tour}
    (h : Under above ⟨cursor, depth⟩) (hclimb : climb cursor depth = some later) :
    Under above later := by
  induction depth generalizing cursor with
  | zero => cases hclimb
  | succ depth ih =>
      obtain ⟨inner, habove, hlength⟩ := h
      rcases cursor with ⟨node, _ | ⟨sibling, others⟩, ancestors⟩
      · rcases inner with _ | ⟨parent, inner⟩
        · cases hlength
        · obtain rfl : ancestors = parent :: (inner ++ above) := habove
          exact ih ⟨inner, rfl, Nat.succ.inj hlength⟩ hclimb
      · obtain rfl := Option.some.inj hclimb
        exact ⟨inner, habove, hlength⟩

/-- A move keeps to the tree below the start. -/
theorem Under.next {above : List Ancestor} {tour later : Tour} (h : tour.Under above)
    (hnext : tour.next? = some later) : later.Under above := by
  rcases tour with ⟨⟨⟨label, _ | ⟨child, others⟩⟩, after, ancestors⟩, depth⟩
  · exact under_of_climb h hnext
  · obtain rfl := Option.some.inj hnext
    obtain ⟨inner, habove, hlength⟩ := h
    obtain rfl : ancestors = inner ++ above := habove
    exact ⟨⟨_, after⟩ :: inner, rfl, congrArg Nat.succ hlength⟩

/-- So does a whole tour. -/
theorem Course.under {above : List Ancestor} {tour : Tour} {stages : List Tour}
    (hcourse : tour.Course stages) (h : tour.Under above) :
    ∀ stage ∈ stages, stage.Under above := by
  induction hcourse with
  | last _ => exact List.forall_mem_singleton.mpr h
  | move hnext _ ih => exact List.forall_mem_cons.mpr ⟨h, ih (h.next hnext)⟩

end Tour

/-- The nodes at the places below a node are those of the pre-order. -/
theorem Node.map_node_places (after : List Node) (above : List Ancestor) (root : Node) :
    (root.places after above).map Cursor.node = root.preorder := by
  rw [← map_fst_placed (scopeBelow none above) root, ← map_ofCursor_places none after above root,
    List.map_map]
  rfl

end WorkflowGraph.Go
