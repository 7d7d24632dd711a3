import WorkflowGraph.Go.Visit
import WorkflowGraph.Proofs.Runs

/-!
# A visit is a fold over the tree in pre-order

A visit is a loop that moves a cursor through a tree and carries what was gathered beside the
failure that may have ended the visit.  Seen from outside it is simpler than that: `Node.placed` lists
the nodes of a tree in pre-order, each with the innermost function around it, the loop advances by
this list (`visit_eq_advanceAll`), and `visitCalls_eq_fold` says that a visit of the calls is the fold
over it.  With it a statement about a visit is one about a list.

For steps that only a stop can end, `visitCalls_computes` goes on to the calls alone.  What the
queries on a node answer with stands below the node (`mem_preorder_of_composite?` and the lemmas
around it).
-/

namespace WorkflowGraph.Go

namespace Node

mutual

/-- The nodes of a tree in pre-order, each with the innermost function around it. -/
def placed (scope : Option Node) : Node → List (Node × Option Node)
  | mk label children =>
    (mk label children, scope) :: placedAll (innerScope (mk label children) scope) children

/-- The nodes of a row of trees, tree by tree. -/
def placedAll (scope : Option Node) : List Node → List (Node × Option Node)
  | [] => []
  | node :: rest => placed scope node ++ placedAll scope rest

end

mutual

/-- Apart from the functions around them, the placed nodes are the nodes. -/
theorem map_fst_placed (scope : Option Node) :
    ∀ node : Node, (node.placed scope).map Prod.fst = node.preorder
  | mk label children => by
      rw [placed, preorder, List.map_cons, map_fst_placedAll]

theorem map_fst_placedAll (scope : Option Node) :
    ∀ nodes : List Node, (placedAll scope nodes).map Prod.fst = preorderAll nodes
  | [] => by rw [placedAll, preorderAll, List.map_nil]
  | node :: rest => by
      rw [placedAll, preorderAll, List.map_append, map_fst_placed, map_fst_placedAll]

end

theorem self_mem_preorder (node : Node) : node ∈ node.preorder := by
  cases node
  rw [preorder]
  exact List.mem_cons_self

mutual

/-- The nodes of a subtree are nodes of the tree. -/
theorem mem_preorder_trans {inner middle : Node} (hinner : inner ∈ middle.preorder) :
    ∀ outer : Node, middle ∈ outer.preorder → inner ∈ outer.preorder
  | mk label children, hmiddle => by
      rw [preorder, List.mem_cons] at hmiddle
      rcases hmiddle with rfl | hbelow
      · exact hinner
      · rw [preorder]
        exact List.mem_cons_of_mem _ (mem_preorderAll_trans hinner children hbelow)

theorem mem_preorderAll_trans {inner middle : Node} (hinner : inner ∈ middle.preorder) :
    ∀ nodes : List Node, middle ∈ preorderAll nodes → inner ∈ preorderAll nodes
  | [], hmiddle => by
      rw [preorderAll] at hmiddle
      cases hmiddle
  | node :: rest, hmiddle => by
      rw [preorderAll, List.mem_append] at hmiddle ⊢
      exact hmiddle.imp (mem_preorder_trans hinner node) (mem_preorderAll_trans hinner rest)

end

theorem mem_preorderAll_of_mem {node : Node} {nodes : List Node} (h : node ∈ nodes) :
    node ∈ preorderAll nodes := by
  induction nodes with
  | nil => cases h
  | cons first rest ih =>
      rw [preorderAll, List.mem_append]
      rcases List.mem_cons.mp h with rfl | hrest
      · exact Or.inl (self_mem_preorder node)
      · exact Or.inr (ih hrest)

theorem mem_preorder_of_mem_children {node child : Node} (h : child ∈ node.children) :
    child ∈ node.preorder := by
  cases node
  rw [preorder]
  exact List.mem_cons_of_mem _ (mem_preorderAll_of_mem h)

theorem mem_preorder_of_field? {node child : Node} {part : Field}
    (h : node.field? part = some child) : child ∈ node.preorder :=
  mem_preorder_of_mem_children (List.mem_of_find?_eq_some h)

theorem mem_preorder_of_mem_phrases {node child : Node} (h : child ∈ node.phrases) :
    child ∈ node.preorder :=
  mem_preorder_of_mem_children (List.mem_filter.mp h).1

theorem mem_preorder_of_mem_arguments {call argument : Node} (h : argument ∈ call.arguments) :
    argument ∈ call.preorder := by
  unfold arguments at h
  split at h
  · cases h
  · next list hlist =>
      exact mem_preorder_trans (mem_preorder_of_mem_phrases h) call (mem_preorder_of_field? hlist)

theorem mem_preorder_of_addressedLiteral? {node literal : Node}
    (h : node.addressedLiteral? = some literal) : literal ∈ node.preorder := by
  unfold addressedLiteral? at h
  split at h
  · split at h
    · cases h
    · next operand hoperand =>
        split at h
        · obtain rfl := Option.some.inj h
          exact mem_preorder_of_field? hoperand
        · cases h
  · cases h

mutual

/-- The composite literal behind an expression stands below it. -/
theorem mem_preorder_of_composite? {composite : Node} :
    ∀ node : Node, node.composite? = some composite → composite ∈ node.preorder
  | mk label children, h => by
      rw [composite?] at h
      split at h
      · obtain rfl := Option.some.inj h
        exact self_mem_preorder _
      · exact mem_preorder_of_addressedLiteral? h
      · rw [preorder]
        exact List.mem_cons_of_mem _ (mem_preorderAll_of_firstComposite? children h)
      · cases h

theorem mem_preorderAll_of_firstComposite? {composite : Node} :
    ∀ nodes : List Node, firstComposite? nodes = some composite → composite ∈ preorderAll nodes
  | [], h => by
      rw [firstComposite?] at h
      cases h
  | node :: rest, h => by
      rw [firstComposite?] at h
      rw [preorderAll, List.mem_append]
      split at h
      · exact Or.inl (mem_preorder_of_composite? node h)
      · exact Or.inr (mem_preorderAll_of_firstComposite? rest h)

end

theorem unwrapped_mem_preorder (node : Node) : node.unwrapped ∈ node.preorder := by
  unfold unwrapped
  split
  · cases hhead : node.phrases.head? with
    | none => exact self_mem_preorder node
    | some inner => exact mem_preorder_of_mem_phrases (List.mem_of_head? hhead)
  · exact self_mem_preorder node

/-- The values of a composite literal stand below it. -/
theorem mem_preorder_of_mem_keyedElements {composite : Node} {element : Node × Node}
    (h : element ∈ composite.keyedElements) : element.2 ∈ composite.preorder := by
  unfold keyedElements at h
  split at h
  · cases h
  · next body hbody =>
      obtain ⟨keyed, hkeyed, hparts⟩ := List.mem_filterMap.mp h
      have hbelow : keyed ∈ composite.preorder :=
        mem_preorder_trans (mem_preorder_of_mem_phrases (List.mem_filter.mp hkeyed).1) composite
          (mem_preorder_of_field? hbody)
      split at hparts
      · next key value others hphrases =>
          obtain rfl := Option.some.inj hparts
          have hvalue : value ∈ keyed.phrases := by simp [hphrases]
          refine mem_preorder_trans (unwrapped_mem_preorder value) composite ?_
          exact mem_preorder_trans (mem_preorder_of_mem_phrases hvalue) composite hbelow
      · cases hparts

/-- The calls of a tree in the order of a visit. -/
def calls (scope : Option Node) (root : Node) : List PlacedCall :=
  ((root.placed scope).filter fun place => place.1.kind = .callExpression).map fun place =>
    ⟨place.1, place.2⟩

/-- The calls of a tree are its call expressions in pre-order. -/
theorem map_call_calls (scope : Option Node) (root : Node) :
    (root.calls scope).map PlacedCall.call =
      root.preorder.filter fun node => node.kind = .callExpression := by
  rw [calls, List.map_map, ← map_fst_placed scope root, List.filter_map]
  rfl

/-- A place as what a visit makes of it: the node, and the innermost function around it. -/
def ofCursor (outer : Option Node) (cursor : Cursor) : Node × Option Node :=
  (cursor.node, scopeBelow outer cursor.above)

mutual

/-- The places below a node are the placed nodes. -/
theorem map_ofCursor_places (outer : Option Node) (after : List Node) (above : List Ancestor) :
    ∀ node : Node, (node.places after above).map (ofCursor outer) =
      node.placed (scopeBelow outer above)
  | mk label children => by
      rw [places, placed, List.map_cons, map_ofCursor_placesAll]
      rfl

theorem map_ofCursor_placesAll (outer : Option Node) (above : List Ancestor) :
    ∀ nodes : List Node, (placesAll above nodes).map (ofCursor outer) =
      placedAll (scopeBelow outer above) nodes
  | [] => by rw [placesAll, placedAll, List.map_nil]
  | node :: rest => by
      rw [placesAll, placedAll, List.map_append, map_ofCursor_places, map_ofCursor_placesAll]

end

end Node

/-- A tour that starts at a node comes to all places below it and to no other, whatever stands
around the node. -/
theorem Tour.onward_start (cursor : Cursor) :
    onward (some ⟨cursor, 0⟩) = cursor.node.places cursor.after cursor.above := by
  rw [← places_append_beyond, beyond, List.append_nil]

namespace Progress

variable {σ : Type}

/-- The progress so far as a run, which has no use for a session of its own. -/
def asRun (progress : Progress σ) : Run σ := fun _ => progress.outcome

/-- To advance is to go on with the step. -/
theorem asRun_advance (progress : Progress σ) (step : σ → Run σ) :
    (progress.advance step).asRun = progress.asRun >>= step := by
  funext session
  rw [Run.bind_apply]
  rcases progress with ⟨gathered, inner, _ | failure⟩
  -- a step that fails keeps what was gathered before it, which no outcome shows
  · show (Progress.advance _ step).outcome = step gathered inner
    unfold advance
    rcases step gathered inner with ⟨_ | _, _⟩ <;> rfl
  · rfl

theorem advance_of_failed {progress : Progress σ} (h : progress.failure.isSome = true)
    (step : σ → Run σ) : progress.advance step = progress := by
  rcases progress with ⟨gathered, session, _ | failure⟩
  · cases h
  · rfl

variable {α : Type} (step : σ → α → Run σ)

/-- Advances by one step for every item. -/
def advanceAll (progress : Progress σ) (items : List α) : Progress σ :=
  items.foldl (fun progress item => progress.advance fun gathered => step gathered item) progress

theorem advanceAll_of_failed {progress : Progress σ} (h : progress.failure.isSome = true)
    (items : List α) : progress.advanceAll step items = progress := by
  induction items with
  | nil => rfl
  | cons item others ih =>
      rw [advanceAll, List.foldl_cons, advance_of_failed h]
      exact ih

/-- To advance by all items is to go on with the fold over them. -/
theorem asRun_advanceAll (progress : Progress σ) (items : List α) :
    (progress.advanceAll step items).asRun =
      progress.asRun >>= fun gathered => Run.fold items gathered step := by
  induction items generalizing progress with
  | nil => exact (bind_pure progress.asRun).symm
  | cons item others ih =>
      rw [advanceAll, List.foldl_cons]
      refine (ih _).trans ?_
      rw [asRun_advance, bind_assoc]
      rfl

end Progress

namespace Node

variable {σ : Type} (step : σ → PlacedCall → Run σ)

/-- What a visit does at a placed node. -/
def visitPlace (gathered : σ) (place : Node × Option Node) : Run σ :=
  visitHere step place.2 place.1 gathered

/-- The loop of a visit advances by the places of its tour. -/
theorem visitFrom_eq_advanceAll (outer : Option Node) (progress : Progress σ) (tour : Tour) :
    visitFrom step outer progress tour =
      progress.advanceAll (visitPlace step)
        ((Tour.onward (some tour)).map (ofCursor outer)) := by
  -- the induction follows the loop; what lies ahead loses its first place in every round
  fun_induction visitFrom step outer progress tour with
  | case1 progress tour here hfailed =>
      exact (Progress.advanceAll_of_failed (visitPlace step) hfailed _).symm
  | case2 progress tour here _ hnone =>
      have hahead : tour.ahead = [] := by rw [tour.ahead_eq, hnone, Tour.onward]
      rw [Tour.onward, hahead]
      rfl
  | case3 progress tour here _ later hlater ih =>
      have hahead : tour.ahead = Tour.onward (some later) := hlater ▸ tour.ahead_eq
      rw [ih, ← hahead]
      rfl

theorem visit_eq_advanceAll (scope : Option Node) (progress : Progress σ) (root : Node) :
    root.visit step scope progress =
      progress.advanceAll (visitPlace step) (root.placed scope) := by
  rw [visit, visitFrom_eq_advanceAll, Tour.start, Tour.onward_start, map_ofCursor_places]
  rfl

/-- **A visit is a fold over the tree in pre-order.** -/
theorem visitCalls_eq_fold (root : Node) (scope : Option Node) (start : σ) :
    root.visitCalls scope start step = Run.fold (root.placed scope) start (visitPlace step) := by
  funext session
  rw [visitCalls, visit_eq_advanceAll]
  exact congrFun (Progress.asRun_advanceAll (visitPlace step) _ (root.placed scope)) session

variable {step}

/-- A visit whose steps compute a function computes the fold of that function over the calls. -/
theorem visitCalls_computes {next : σ → PlacedCall → σ}
    (hstep : ∀ gathered placed, (step gathered placed).Computes (next gathered placed))
    (root : Node) (scope : Option Node) (start : σ) :
    (root.visitCalls scope start step).Computes ((root.calls scope).foldl next start) := by
  have hplace : ∀ gathered place, (visitPlace step gathered place).Computes
      (if place.1.kind = .callExpression then next gathered ⟨place.1, place.2⟩ else gathered) := by
    intro gathered place
    refine Run.Computes.after_poll ?_
    by_cases hcall : place.1.kind = .callExpression
    · rw [if_pos hcall, if_pos hcall]
      exact hstep gathered ⟨place.1, place.2⟩
    · rw [if_neg hcall, if_neg hcall]
      exact Run.computes_pure gathered
  have hfold := Run.computes_fold hplace (root.placed scope) start
  rw [visitCalls_eq_fold, calls, List.foldl_map, List.foldl_filter]
  simpa using hfold

end Node

end WorkflowGraph.Go
