import WorkflowGraph.Go.Node

/-!
# Going through a tree with a cursor

A cursor stands at a node of a tree and can move to the first child, to the next sibling and to the
parent.  For this it carries the siblings to the right of the node and the ancestors of the node,
each with the siblings to its right.

A tour goes through the nodes below the one where it starts.  From each node it moves to the first
child; from a node without children it climbs until there is a next sibling.  The tree may go on
around the node where the tour started, so the tour counts how deep it is below that node, and it
ends when it is to climb above depth zero.

`Tour.ahead` lists what a tour has still to come to.  A move to the next node takes exactly that
node from the list (`Tour.ahead_eq`), which is why a tour ends.
-/

namespace WorkflowGraph.Go

/-- An ancestor of the node at which a cursor stands, and the siblings to its right. -/
structure Ancestor where
  node : Node
  after : List Node

/-- A place in a tree: a node, the siblings to its right, and the ancestors from the innermost one
on. -/
structure Cursor where
  node : Node
  after : List Node := []
  above : List Ancestor := []

namespace Cursor

/-- The place of the first child. -/
def firstChild? (cursor : Cursor) : Option Cursor :=
  match cursor.node.children with
  | [] => none
  | child :: others => some ⟨child, others, ⟨cursor.node, cursor.after⟩ :: cursor.above⟩

/-- The place of the sibling to the right. -/
def nextSibling? (cursor : Cursor) : Option Cursor :=
  match cursor.after with
  | [] => none
  | sibling :: others => some { cursor with node := sibling, after := others }

/-- The place of the parent. -/
def parent? (cursor : Cursor) : Option Cursor :=
  match cursor.above with
  | [] => none
  | parent :: above => some ⟨parent.node, parent.after, above⟩

end Cursor

/-- A stage of a tour: where the cursor stands, and how deep below the start. -/
structure Tour where
  cursor : Cursor
  depth : Nat := 0

namespace Tour

/-- A tour of a tree that stands on its own. -/
def start (root : Node) : Tour := { cursor := { node := root } }

/-- Climbs until there is a next sibling, and never above the start.  A cursor without a parent
stays where it is. -/
def climb (cursor : Cursor) : Nat → Option Tour
  | 0 => none
  | depth + 1 =>
    match cursor.nextSibling? with
    | some sibling => some ⟨sibling, depth + 1⟩
    | none => climb (cursor.parent?.getD cursor) depth

/-- The next stage of a tour, if it has not come to its end. -/
def next? (tour : Tour) : Option Tour :=
  match tour.cursor.firstChild? with
  | some child => some ⟨child, tour.depth + 1⟩
  | none => climb tour.cursor tour.depth

end Tour

/-! ## What lies ahead -/

mutual

/-- The places of a node and of all below it, parents before children and siblings from left to
right. -/
def Node.places (after : List Node) (above : List Ancestor) : Node → List Cursor
  | .mk label children =>
    ⟨.mk label children, after, above⟩ ::
      Node.placesAll (⟨.mk label children, after⟩ :: above) children

/-- The places below the nodes of a row, node by node. -/
def Node.placesAll (above : List Ancestor) : List Node → List Cursor
  | [] => []
  | node :: rest => Node.places rest above node ++ Node.placesAll above rest

end

namespace Tour

/-- The places that a tour comes to once it has left a node with all that is below it. -/
def beyond : Nat → List Node → List Ancestor → List Cursor
  | 0, _, _ => []
  | _ + 1, after, [] => Node.placesAll [] after
  | depth + 1, after, parent :: above =>
    Node.placesAll (parent :: above) after ++ beyond depth parent.after above

/-- The places that a tour has still to come to. -/
def ahead (tour : Tour) : List Cursor :=
  Node.placesAll (⟨tour.cursor.node, tour.cursor.after⟩ :: tour.cursor.above)
      tour.cursor.node.children ++
    beyond tour.depth tour.cursor.after tour.cursor.above

/-- The places of a tour from a stage on. -/
def onward : Option Tour → List Cursor
  | none => []
  | some tour => tour.cursor :: tour.ahead

theorem places_append_beyond (cursor : Cursor) (depth : Nat) :
    cursor.node.places cursor.after cursor.above ++ beyond depth cursor.after cursor.above =
      onward (some ⟨cursor, depth⟩) := by
  rcases cursor with ⟨⟨label, children⟩, after, above⟩
  rw [Node.places]
  rfl

theorem beyond_nil_nil (depth : Nat) : beyond depth [] [] = [] := by
  cases depth with
  | zero => rfl
  | succ depth => rw [beyond, Node.placesAll]

/-- To climb is to go on with the first place beyond. -/
theorem beyond_eq (cursor : Cursor) (depth : Nat) :
    beyond depth cursor.after cursor.above = onward (climb cursor depth) := by
  induction depth generalizing cursor with
  | zero => rfl
  | succ depth ih =>
      -- without a sibling the cursor climbs on, or has nothing to climb to; else it moves on
      rcases cursor with ⟨node, _ | ⟨sibling, others⟩, _ | ⟨parent, above⟩⟩
      · rw [beyond, Node.placesAll, ← beyond_nil_nil depth]
        exact ih ⟨node, [], []⟩
      · rw [beyond, Node.placesAll, List.nil_append]
        exact ih ⟨parent.node, parent.after, above⟩
      · rw [beyond, Node.placesAll]
        exact places_append_beyond ⟨sibling, others, []⟩ (depth + 1)
      · rw [beyond, Node.placesAll, List.append_assoc]
        exact places_append_beyond ⟨sibling, others, parent :: above⟩ (depth + 1)

/-- **One move of a tour.**  The next stage is at the first of the places ahead and has the others
ahead; there is none if nothing is ahead. -/
theorem ahead_eq (tour : Tour) : tour.ahead = onward tour.next? := by
  rcases tour with ⟨⟨⟨label, _ | ⟨child, others⟩⟩, after, above⟩, depth⟩
  · rw [ahead, Node.children, Node.placesAll, List.nil_append]
    exact beyond_eq ⟨.mk label [], after, above⟩ depth
  · rw [ahead, Node.children, Node.placesAll, List.append_assoc]
    exact places_append_beyond ⟨child, others, ⟨.mk label (child :: others), after⟩ :: above⟩
      (depth + 1)

theorem length_ahead_lt {tour later : Tour} (h : tour.next? = some later) :
    later.ahead.length < tour.ahead.length := by
  rw [tour.ahead_eq, h, onward, List.length_cons]
  exact Nat.lt_succ_self _

end Tour

end WorkflowGraph.Go
