import WorkflowGraph.Proofs.Visits

/-!
# Trees with their parts in order

Some of what the queries on a tree take for granted is a matter of the order of children.  What a call
calls is its first child, and so is what a selector selects from; punctuation and comments have no
children.  `Node.Orderly` says that this holds in a whole tree.

A node is told from the others by its number.  `Node.nodup_ids_number` says that a tree in which the
nodes are numbered has no number twice, and `Node.orderly_number` that numbering leaves the order of
children alone.
-/

namespace WorkflowGraph.Go

/-! ## Orderly trees -/

/-- The first of the children, if there are any, plays the part. -/
def LedBy (part : Field) (children : List Node) : Prop :=
  ∀ first, children.head? = some first → first.label.field = some part

/-- The children that a node may have.  The one call that does not start with what it calls, for comments
may come before it, is that of a plain word. -/
def Arranged : Kind → List Node → Prop
  | .token, children => children = []
  | .comment, children => children = []
  | .callExpression, children => LedBy .function children ∨
      ∀ child ∈ children, child.label.field = some .function → child.kind = .identifier
  | .selectorExpression, children => LedBy .operand children
  | _, _ => True

/-- The kinds of nodes that may have any children. -/
@[reducible] def Kind.isFree : Kind → Bool
  | .token => false
  | .comment => false
  | .callExpression => false
  | .selectorExpression => false
  | _ => true

/-- The kinds of nodes that may have any children after a first one that plays the part. -/
@[reducible] def Kind.isFreeAfter : Kind → Field → Bool
  | .callExpression, .function => true
  | .selectorExpression, .operand => true
  | kind, _ => kind.isFree

theorem arranged_nil (kind : Kind) : Arranged kind [] := by
  cases kind <;> simp [Arranged, LedBy]

theorem arranged_of_isFree {kind : Kind} (h : kind.isFree = true) (children : List Node) :
    Arranged kind children := by
  cases kind <;> trivial

theorem arranged_of_isFreeAfter {kind : Kind} {part : Field} (h : kind.isFreeAfter part = true)
    {first : Node} (hfirst : first.label.field = some part) (others : List Node) :
    Arranged kind (first :: others) := by
  have hled : LedBy part (first :: others) := by
    intro other hother
    exact Option.some.inj hother ▸ hfirst
  unfold Kind.isFreeAfter at h
  split at h
  · exact Or.inl hled
  · exact hled
  · exact arranged_of_isFree h _

namespace Node

/-- In the whole tree children are arranged as they should be. -/
def Orderly (node : Node) : Prop := ∀ part ∈ node.preorder, Arranged part.kind part.children

theorem mem_preorderAll_iff {node : Node} {nodes : List Node} :
    node ∈ preorderAll nodes ↔ ∃ root ∈ nodes, node ∈ root.preorder := by
  induction nodes with
  | nil => simp [preorderAll]
  | cons first rest ih => simp [preorderAll, ih]

theorem orderly_mk_iff {label : Label} {children : List Node} :
    (mk label children).Orderly ↔
      Arranged label.kind children ∧ ∀ child ∈ children, child.Orderly := by
  rw [Orderly, preorder, List.forall_mem_cons]
  refine and_congr Iff.rfl ⟨?_, ?_⟩
  · intro h child hchild part hpart
    exact h part (mem_preorderAll_iff.mpr ⟨child, hchild, hpart⟩)
  · intro h part hpart
    obtain ⟨child, hchild, hmem⟩ := mem_preorderAll_iff.mp hpart
    exact h child hchild part hmem

/-- The parts of an orderly tree are orderly. -/
theorem Orderly.part {node part : Node} (h : node.Orderly) (hpart : part ∈ node.preorder) :
    part.Orderly :=
  fun inner hinner => h inner (mem_preorder_trans hinner node hpart)

/-- The part that a node plays is no matter of its own tree. -/
theorem orderly_playing {label : Label} {children : List Node} (part : Option Field)
    (h : (mk label children).Orderly) : (mk { label with field := part } children).Orderly := by
  obtain ⟨harranged, hchildren⟩ := orderly_mk_iff.mp h
  exact orderly_mk_iff.mpr ⟨harranged, hchildren⟩

/-! ## Numbered trees -/

/-- What a parent sees of a node, its number apart. -/
def front (node : Node) : Kind × Option Field := (node.kind, node.label.field)

theorem front_numberFrom (next : Nat) (node : Node) : (numberFrom next node).1.front = node.front := by
  cases node
  rfl

mutual

/-- The numbers of a tree are consecutive. -/
theorem map_id_numberFrom (next : Nat) : ∀ node : Node,
    (numberFrom next node).1.preorder.map id = List.range' next node.preorder.length ∧
      (numberFrom next node).2 = next + node.preorder.length
  | mk label children => by
      obtain ⟨hids, hafter⟩ := map_id_numberAllFrom (next + 1) children
      rw [numberFrom, preorder, preorder, List.map_cons, hids, hafter, List.length_cons,
        List.range'_succ]
      exact ⟨rfl, by omega⟩

theorem map_id_numberAllFrom (next : Nat) : ∀ nodes : List Node,
    (preorderAll (numberAllFrom next nodes).1).map id =
        List.range' next (preorderAll nodes).length ∧
      (numberAllFrom next nodes).2 = next + (preorderAll nodes).length
  | [] => ⟨rfl, rfl⟩
  | node :: rest => by
      obtain ⟨hids, hafter⟩ := map_id_numberFrom next node
      obtain ⟨hrest, hend⟩ := map_id_numberAllFrom (numberFrom next node).2 rest
      rw [numberAllFrom, preorderAll, preorderAll, List.map_append, hids, hrest, hend, hafter,
        List.length_append]
      exact ⟨List.range'_append_1, by omega⟩

end

/-- No two nodes of a numbered tree have one number. -/
theorem nodup_ids_number (root : Node) : (root.number.preorder.map id).Nodup := by
  rw [number, (map_id_numberFrom 0 root).1]
  exact List.nodup_range'

theorem map_front_numberAllFrom (next : Nat) (nodes : List Node) :
    (numberAllFrom next nodes).1.map front = nodes.map front := by
  induction nodes generalizing next with
  | nil => rfl
  | cons node rest ih =>
      rw [numberAllFrom, List.map_cons, List.map_cons, front_numberFrom, ih]

theorem ledBy_iff_front {part : Field} {children : List Node} : LedBy part children ↔
    ∀ seen, (children.map front).head? = some seen → seen.2 = some part := by
  cases children <;> simp [LedBy, front]

/-- How children are arranged is seen from their fronts. -/
theorem arranged_congr {kind : Kind} {children others : List Node}
    (hfronts : others.map front = children.map front) (h : Arranged kind children) :
    Arranged kind others := by
  have hnil : children = [] → others = [] := by
    rintro rfl
    exact List.map_eq_nil_iff.mp hfronts
  have hled : ∀ part, LedBy part children → LedBy part others := by
    intro part hpart
    rw [ledBy_iff_front, hfronts, ← ledBy_iff_front]
    exact hpart
  cases kind with
  | token => exact hnil h
  | comment => exact hnil h
  | callExpression =>
      refine Or.imp (hled .function) ?_ h
      intro hwords other hother hfield
      have hseen : other.front ∈ children.map front := hfronts ▸ List.mem_map_of_mem hother
      obtain ⟨child, hchild, heq⟩ := List.mem_map.mp hseen
      obtain ⟨hkind, hpart⟩ := Prod.mk.inj heq
      exact hkind ▸ hwords child hchild (hpart.trans hfield)
  | selectorExpression => exact hled .operand h
  | _ => trivial

mutual

/-- Numbering leaves the order of children alone. -/
theorem orderly_numberFrom (next : Nat) : ∀ node : Node, node.Orderly →
    (numberFrom next node).1.Orderly
  | mk label children, h => by
      obtain ⟨harranged, hchildren⟩ := orderly_mk_iff.mp h
      rw [numberFrom, orderly_mk_iff]
      exact ⟨arranged_congr (map_front_numberAllFrom _ children) harranged,
        orderly_numberAllFrom (next + 1) children hchildren⟩

theorem orderly_numberAllFrom (next : Nat) : ∀ nodes : List Node, (∀ node ∈ nodes, node.Orderly) →
    ∀ node ∈ (numberAllFrom next nodes).1, node.Orderly
  | [], _ => by simp [numberAllFrom]
  | node :: rest, h => by
      obtain ⟨hnode, hrest⟩ := List.forall_mem_cons.mp h
      rw [numberAllFrom]
      exact List.forall_mem_cons.mpr
        ⟨orderly_numberFrom next node hnode, orderly_numberAllFrom _ rest hrest⟩

end

theorem orderly_number {root : Node} (h : root.Orderly) : root.number.Orderly :=
  orderly_numberFrom 0 root h

end Node

end WorkflowGraph.Go
