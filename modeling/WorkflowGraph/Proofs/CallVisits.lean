import WorkflowGraph.Proofs.Tours

/-!
# A visit comes to the calls in pre-order

A visitor is handed the calls of a tree one after the other until it fails or gives the order to stop
(`Node.Handed`).  The order is noticed at the next node of the tour and not at the next call, so an
order that is given at the last node of all comes too late.

`Node.advanceAll_of_handed` follows a visit as long as nothing disturbs it.  What ends it is read off
the place where that happens: `Node.visit_of_trip` for an order to stop, `Node.visit_of_failure` for a
failure.  `Node.callsUntil_cuts` says it for the visitor that notes the calls.

Main statement: `Node.visits_come_to_calls_in_preorder`.
-/

namespace WorkflowGraph.Go

/-! ## Visitors -/

namespace Progress

variable {σ α : Type} {step : σ → α → Run σ} {gathered next : σ} {session after : Session} {item : α}

/-- A step that succeeds goes on from what it gives. -/
theorem advanceAll_cons_of_ok (h : step gathered item session = (.ok next, after))
    (others : List α) :
    advanceAll step ⟨gathered, session, none⟩ (item :: others) =
      advanceAll step ⟨next, after, none⟩ others := by
  rw [advanceAll, List.foldl_cons]
  simp only [advance, h]
  rfl

/-- A step that fails is the last one. -/
theorem advanceAll_cons_of_error {failure : Failure}
    (h : step gathered item session = (.error failure, after)) (others : List α) :
    advanceAll step ⟨gathered, session, none⟩ (item :: others) =
      ⟨gathered, after, some failure⟩ := by
  rw [advanceAll, List.foldl_cons]
  simp only [advance, h]
  exact advanceAll_of_failed step rfl others

theorem advanceAll_append (progress : Progress σ) (items others : List α) :
    progress.advanceAll step (items ++ others) =
      (progress.advanceAll step items).advanceAll step others :=
  List.foldl_append

end Progress

namespace Node

variable {σ : Type} (step : σ → PlacedCall → Run σ)

/-- The calls among placed nodes. -/
def callsAmong (places : List (Node × Option Node)) : List PlacedCall :=
  (places.filter fun place => place.1.kind = .callExpression).map fun place => ⟨place.1, place.2⟩

theorem map_call_callsAmong (places : List (Node × Option Node)) :
    (callsAmong places).map PlacedCall.call =
      (places.map Prod.fst).filter fun node => node.kind = .callExpression := by
  rw [callsAmong, List.map_map, List.filter_map]
  rfl

theorem callsAmong_append (places others : List (Node × Option Node)) :
    callsAmong (places ++ others) = callsAmong places ++ callsAmong others := by
  rw [callsAmong, List.filter_append, List.map_append]
  rfl

theorem callsAmong_cons_of_call {place : Node × Option Node}
    (hcall : place.1.kind = .callExpression) (others : List (Node × Option Node)) :
    callsAmong (place :: others) = ⟨place.1, place.2⟩ :: callsAmong others := by
  rw [callsAmong, List.filter_cons_of_pos (by simpa using hcall), List.map_cons]
  rfl

theorem callsAmong_cons_of_not_call {place : Node × Option Node}
    (hother : place.1.kind ≠ .callExpression) (others : List (Node × Option Node)) :
    callsAmong (place :: others) = callsAmong others := by
  rw [callsAmong, List.filter_cons_of_neg (by simpa using hother)]
  rfl

section Place

variable {gathered : σ} {session : Session} {place : Node × Option Node}

/-- A call is handed to the visitor if nobody has given the order to stop. -/
theorem visitPlace_of_call (hopen : session.patience = none)
    (hcall : place.1.kind = .callExpression) :
    visitPlace step gathered place session = step gathered ⟨place.1, place.2⟩ session := by
  obtain ⟨_, said⟩ := session
  cases hopen
  rw [visitPlace, visitHere, if_pos hcall]
  rfl

theorem visitPlace_of_not_call (hopen : session.patience = none)
    (hother : place.1.kind ≠ .callExpression) :
    visitPlace step gathered place session = (.ok gathered, session) := by
  obtain ⟨_, said⟩ := session
  cases hopen
  rw [visitPlace, visitHere, if_neg hother]
  rfl

theorem visitPlace_of_tripped (htripped : session.patience = some 0) :
    visitPlace step gathered place session = (.error .cancelled, session) := by
  obtain ⟨_, said⟩ := session
  cases htripped
  rfl

end Place

/-- The visitor is handed the calls one after the other.  Each of its steps succeeds, and nobody has
given the order to stop, neither before a step nor at the end. -/
inductive Handed : σ → Session → List PlacedCall → σ → Session → Prop
  | nothing {gathered : σ} {session : Session} (hopen : session.patience = none) :
      Handed gathered session [] gathered session
  | more {gathered next last : σ} {session middle after : Session} {placed : PlacedCall}
      {calls : List PlacedCall} (hopen : session.patience = none)
      (hstep : step gathered placed session = (.ok next, middle))
      (rest : Handed next middle calls last after) :
      Handed gathered session (placed :: calls) last after

variable {step}

theorem Handed.open_before {gathered last : σ} {session after : Session} {calls : List PlacedCall}
    (h : Handed step gathered session calls last after) : session.patience = none := by
  cases h with
  | nothing hopen => exact hopen
  | more hopen _ _ => exact hopen

theorem Handed.open_after {gathered last : σ} {session after : Session} {calls : List PlacedCall}
    (h : Handed step gathered session calls last after) : after.patience = none := by
  induction h with
  | nothing hopen => exact hopen
  | more _ _ _ ih => exact ih

/-- A visitor is handed all calls, or there is a first one at which it fails or after which the order
to stop is given. -/
theorem handed_or_disturbed (calls : List PlacedCall) (gathered : σ) {session : Session}
    (hopen : session.patience = none) :
    (∃ last after, Handed step gathered session calls last after) ∨
      ∃ first placed rest reached middle, calls = first ++ placed :: rest ∧
        Handed step gathered session first reached middle ∧
        ∀ next after, step reached placed middle = (.ok next, after) → after.patience ≠ none := by
  induction calls generalizing gathered session with
  | nil => exact Or.inl ⟨gathered, session, .nothing hopen⟩
  | cons placed calls ih =>
      by_cases hquiet : ∃ next after, step gathered placed session = (.ok next, after) ∧
          after.patience = none
      · obtain ⟨next, middle, hstep, hstays⟩ := hquiet
        rcases ih next hstays with ⟨last, after, hrest⟩ | ⟨first, other, rest, reached, later, rfl,
          hfirst, hdisturbs⟩
        · exact Or.inl ⟨last, after, .more hopen hstep hrest⟩
        · exact Or.inr ⟨placed :: first, other, rest, reached, later, rfl,
            .more hopen hstep hfirst, hdisturbs⟩
      · exact Or.inr ⟨[], placed, calls, gathered, session, rfl, .nothing hopen,
          fun next after hstep hstays => hquiet ⟨next, after, hstep, hstays⟩⟩

/-- As long as nothing disturbs it, a visit hands over the calls among the places. -/
theorem advanceAll_of_handed {gathered last : σ} {session after : Session}
    (places : List (Node × Option Node))
    (h : Handed step gathered session (callsAmong places) last after) :
    Progress.advanceAll (visitPlace step) ⟨gathered, session, none⟩ places =
      ⟨last, after, none⟩ := by
  induction places generalizing gathered session with
  | nil =>
      cases h
      rfl
  | cons place others ih =>
      by_cases hcall : place.1.kind = .callExpression
      · rw [callsAmong_cons_of_call hcall] at h
        cases h with
        | more hopen hstep hrest =>
            have hplace := (visitPlace_of_call step hopen hcall).trans hstep
            rw [Progress.advanceAll_cons_of_ok hplace]
            exact ih hrest
      · rw [callsAmong_cons_of_not_call hcall] at h
        have hplace : visitPlace step gathered place session = (.ok gathered, session) :=
          visitPlace_of_not_call step h.open_before hcall
        rw [Progress.advanceAll_cons_of_ok hplace]
        exact ih h

/-- Once the order to stop is given, a visit ends with the next place, if there is one. -/
theorem advanceAll_of_tripped {gathered : σ} {session : Session}
    (htripped : session.patience = some 0) (places : List (Node × Option Node)) :
    Progress.advanceAll (visitPlace step) ⟨gathered, session, none⟩ places =
      ⟨gathered, session, if places.isEmpty then none else some .cancelled⟩ := by
  cases places with
  | nil => rfl
  | cons place others =>
      exact Progress.advanceAll_cons_of_error (visitPlace_of_tripped step htripped) others

/-- A call of the pre-order is a placed call, with the same nodes before and after it. -/
theorem exists_placed_call (scope : Option Node) {root call : Node}
    {before following : List Node} (h : root.preorder = before ++ call :: following)
    (hcall : call.kind = .callExpression) :
    ∃ front around back, root.placed scope = front ++ (call, around) :: back ∧
      root.calls scope = callsAmong front ++ ⟨call, around⟩ :: callsAmong back ∧
      (callsAmong front).map PlacedCall.call =
        before.filter (fun node => node.kind = .callExpression) ∧
      back.isEmpty = following.isEmpty := by
  rw [← map_fst_placed scope root, List.map_eq_append_iff] at h
  obtain ⟨front, rest, hplaced, rfl, hrest⟩ := h
  obtain ⟨⟨node, around⟩, back, rfl, rfl, rfl⟩ := List.map_eq_cons_iff.mp hrest
  have hcalls : root.calls scope = callsAmong (root.placed scope) := rfl
  refine ⟨front, around, back, hplaced, ?_, map_call_callsAmong front, List.isEmpty_map.symm⟩
  rw [hcalls, hplaced, callsAmong_append, callsAmong_cons_of_call hcall]

section Visit

variable {root : Node} {scope : Option Node} {start gathered : σ} {session middle after : Session}

theorem visit_of_handed {last : σ} (h : Handed step start session (root.calls scope) last after) :
    root.visit step scope ⟨start, session, none⟩ = ⟨last, after, none⟩ := by
  rw [visit_eq_advanceAll]
  exact advanceAll_of_handed (root.placed scope) h

theorem visit_of_tripped (htripped : session.patience = some 0) :
    root.visit step scope ⟨start, session, none⟩ = ⟨start, session, some .cancelled⟩ := by
  rw [visit_eq_advanceAll, advanceAll_of_tripped htripped]
  cases root
  rw [placed]
  rfl

variable {call : Node} {around : Option Node} {front back : List (Node × Option Node)}

/-- After the calls before it, a visit comes to a call. -/
theorem visit_at_call (hplaced : root.placed scope = front ++ (call, around) :: back)
    (hfront : Handed step start session (callsAmong front) gathered middle) :
    root.visit step scope ⟨start, session, none⟩ =
      Progress.advanceAll (visitPlace step) ⟨gathered, middle, none⟩ ((call, around) :: back) := by
  rw [visit_eq_advanceAll, hplaced, Progress.advanceAll_append, advanceAll_of_handed front hfront]

/-- A call at which the visitor gives the order to stop is the last one, and the visit is cancelled
at the place after it. -/
theorem visit_of_trip {next : σ} (hplaced : root.placed scope = front ++ (call, around) :: back)
    (hcall : call.kind = .callExpression)
    (hfront : Handed step start session (callsAmong front) gathered middle)
    (hstep : step gathered ⟨call, around⟩ middle = (.ok next, after))
    (htripped : after.patience = some 0) :
    root.visit step scope ⟨start, session, none⟩ =
      ⟨next, after, if back.isEmpty then none else some .cancelled⟩ := by
  have hplace : visitPlace step gathered (call, around) middle = (.ok next, after) :=
    (visitPlace_of_call step hfront.open_after hcall).trans hstep
  rw [visit_at_call hplaced hfront, Progress.advanceAll_cons_of_ok hplace,
    advanceAll_of_tripped htripped]

/-- A call at which the visitor fails is the last one, and its failure is that of the visit. -/
theorem visit_of_failure {failure : Failure}
    (hplaced : root.placed scope = front ++ (call, around) :: back)
    (hcall : call.kind = .callExpression)
    (hfront : Handed step start session (callsAmong front) gathered middle)
    (hstep : step gathered ⟨call, around⟩ middle = (.error failure, after)) :
    root.visit step scope ⟨start, session, none⟩ = ⟨gathered, after, some failure⟩ := by
  have hplace : visitPlace step gathered (call, around) middle = (.error failure, after) :=
    (visitPlace_of_call step hfront.open_after hcall).trans hstep
  rw [visit_at_call hplaced hfront, Progress.advanceAll_cons_of_error hplace]

end Visit

/-! ## A visitor that notes the calls -/

theorem noteCall_apply (limit : Option Nat) (seen : List PlacedCall) (placed : PlacedCall)
    (session : Session) :
    noteCall limit seen placed session = (.ok (seen ++ [placed]),
      if limit = some (seen.length + 1) then { session with patience := some 0 } else session) := by
  have hlength : (seen ++ [placed]).length = seen.length + 1 := by simp
  rw [noteCall]
  simp only [hlength]
  split <;> rfl

/-- Calls that do not bring the notes to the limit are all noted. -/
theorem handed_noteCall {limit : Option Nat} {session : Session} (hopen : session.patience = none)
    (calls seen : List PlacedCall)
    (hlimit : ∀ n, seen.length < n → n ≤ seen.length + calls.length → limit ≠ some n) :
    Handed (noteCall limit) seen session calls (seen ++ calls) session := by
  induction calls generalizing seen with
  | nil =>
      rw [List.append_nil]
      exact .nothing hopen
  | cons placed calls ih =>
      have hbelow : limit ≠ some (seen.length + 1) :=
        hlimit _ (Nat.lt_succ_self _) (by simp)
      have hstep : noteCall limit seen placed session = (.ok (seen ++ [placed]), session) := by
        rw [noteCall_apply, if_neg hbelow]
      refine .more hopen hstep ?_
      rw [List.append_cons seen placed calls]
      refine ih (seen ++ [placed]) fun n hlow hhigh => hlimit n ?_ ?_
      · simp only [List.length_append, List.length_singleton] at hlow
        omega
      · simp only [List.length_append, List.length_singleton] at hhigh
        simp only [List.length_cons]
        omega

/-- What is noted of a visit that ends as said. -/
theorem callsUntil_of_visit {root : Node} {limit : Option Nat} {calls : List PlacedCall}
    {after : Session} {failure : Option Failure} (hlimit : limit ≠ some 0)
    (h : root.visit (noteCall limit) none ⟨[], {}, none⟩ = ⟨calls, after, failure⟩) :
    root.callsUntil limit = (calls, failure) := by
  rw [callsUntil, if_neg hlimit, h]

/-- **The calls that are noted.**  Without a limit, or with one that they do not come to, all calls of
a tree are noted.  A limit of zero is an order to stop beforehand.  Any other ends the notes with the
call that comes to it, and the visit is cancelled exactly if some node follows this call. -/
theorem callsUntil_cuts (root : Node) :
    (∀ limit, (∀ n, limit = some n → (root.calls none).length < n) →
      root.callsUntil limit = (root.calls none, none)) ∧
    root.callsUntil (some 0) = ([], some .cancelled) ∧
    ∀ before call following, root.preorder = before ++ call :: following →
      call.kind = .callExpression →
      ∃ first around rest, root.calls none = first ++ ⟨call, around⟩ :: rest ∧
        first.map PlacedCall.call = before.filter (fun node => node.kind = .callExpression) ∧
        root.callsUntil (some (first.length + 1)) = (first ++ [⟨call, around⟩],
          if following.isEmpty then none else some .cancelled) := by
  refine ⟨?_, ?_, ?_⟩
  · intro limit hlimit
    have hhanded : Handed (noteCall limit) [] {} (root.calls none) (root.calls none) {} := by
      refine handed_noteCall rfl (root.calls none) [] fun n _ hle hn => ?_
      have := hlimit n hn
      simp only [List.length_nil, Nat.zero_add] at hle
      omega
    refine callsUntil_of_visit ?_ (visit_of_handed hhanded)
    exact fun hzero => Nat.not_lt_zero _ (hlimit 0 hzero)
  · rw [callsUntil, if_pos rfl, visit_of_tripped rfl]
  · intro before call following hpreorder hcall
    obtain ⟨front, around, back, hplaced, hcalls, hfront, hback⟩ :=
      exists_placed_call none hpreorder hcall
    refine ⟨callsAmong front, around, callsAmong back, hcalls, hfront, ?_⟩
    have hhanded : Handed (noteCall (some ((callsAmong front).length + 1))) [] {}
        (callsAmong front) (callsAmong front) {} := by
      refine handed_noteCall rfl (callsAmong front) [] fun n _ hle hn => ?_
      obtain rfl := Option.some.inj hn
      simp only [List.length_nil, Nat.zero_add] at hle
      omega
    have hstep := noteCall_apply (some ((callsAmong front).length + 1)) (callsAmong front)
      ⟨call, around⟩ {}
    rw [if_pos rfl] at hstep
    rw [← hback]
    exact callsUntil_of_visit (by simp) (visit_of_trip hplaced hcall hhanded hstep rfl)

/-! ## The calls of a visit -/

/-- **A visit comes to the calls in pre-order.**  Take any tree and any visitor.

* The pre-order lists every node of the tree once, parents before children and siblings from left to
  right.
* Whatever stands around the tree, the tour of the visit comes to an end, stands at the nodes of the
  pre-order one after the other, and stays below its start, at the depth that it counts.
* If the visitor is handed all calls and nothing disturbs it, the visit ends with what it has
  gathered.  The calls are the call expressions of the pre-order.
* If the order to stop is given beforehand, the visit is cancelled and the visitor is handed nothing.
* If the visitor gives the order to stop at some call, it has been handed the calls up to this one and
  no other, and the visit is cancelled exactly if some node follows the call in the pre-order.
* If the visitor fails at some call, it has been handed the calls up to this one and no other, and the
  visit ends with this failure.

These are all cases: if the order to stop is not given beforehand, the visitor is handed all calls or
there is a first one that disturbs it. -/
theorem visits_come_to_calls_in_preorder {σ : Type} (root : Node) (scope : Option Node)
    (step : σ → PlacedCall → Run σ) (start : σ) :
    (∃ positions, root.Lists positions root.preorder) ∧
    (∀ after above, ∃ stages, Tour.Course ⟨⟨root, after, above⟩, 0⟩ stages ∧
      stages.map (·.cursor.node) = root.preorder ∧ ∀ stage ∈ stages, stage.Under above) ∧
    (root.calls scope).map PlacedCall.call =
      root.preorder.filter (fun node => node.kind = .callExpression) ∧
    (∀ session, root.visitCalls scope start step session =
      (root.visit step scope ⟨start, session, none⟩).outcome) ∧
    (∀ session gathered after, Handed step start session (root.calls scope) gathered after →
      root.visit step scope ⟨start, session, none⟩ = ⟨gathered, after, none⟩) ∧
    (∀ session, session.patience = some 0 →
      root.visit step scope ⟨start, session, none⟩ = ⟨start, session, some .cancelled⟩) ∧
    (∀ before call following, root.preorder = before ++ call :: following →
      call.kind = .callExpression →
      ∃ first around rest, root.calls scope = first ++ ⟨call, around⟩ :: rest ∧
        first.map PlacedCall.call = before.filter (fun node => node.kind = .callExpression) ∧
        ∀ session gathered middle, Handed step start session first gathered middle →
          (∀ next after, step gathered ⟨call, around⟩ middle = (.ok next, after) →
            after.patience = some 0 → root.visit step scope ⟨start, session, none⟩ =
              ⟨next, after, if following.isEmpty then none else some .cancelled⟩) ∧
          ∀ failure after, step gathered ⟨call, around⟩ middle = (.error failure, after) →
            root.visit step scope ⟨start, session, none⟩ = ⟨gathered, after, some failure⟩) ∧
    ∀ session, session.patience = none →
      (∃ gathered after, Handed step start session (root.calls scope) gathered after) ∨
        ∃ first placed rest gathered middle, root.calls scope = first ++ placed :: rest ∧
          Handed step start session first gathered middle ∧
          ∀ next after, step gathered placed middle = (.ok next, after) →
            after.patience ≠ none := by
  refine ⟨⟨root.positions, root.lists_preorder⟩, ?_, map_call_calls scope root,
    fun _ => rfl, fun _ _ _ => visit_of_handed, fun _ => visit_of_tripped, ?_,
    fun _ => handed_or_disturbed (root.calls scope) start⟩
  · intro after above
    obtain ⟨stages, hcourse, hplaces⟩ := Tour.exists_course ⟨⟨root, after, above⟩, 0⟩
    refine ⟨stages, hcourse, ?_, hcourse.under ⟨[], rfl, rfl⟩⟩
    rw [← map_node_places after above root, ← Tour.onward_start ⟨root, after, above⟩, ← hplaces,
      List.map_map]
    rfl
  · intro before call following hpreorder hcall
    obtain ⟨front, around, back, hplaced, hcalls, hfront, hback⟩ :=
      exists_placed_call scope hpreorder hcall
    refine ⟨callsAmong front, around, callsAmong back, hcalls, hfront, ?_⟩
    intro session gathered middle hhanded
    rw [← hback]
    exact ⟨fun next after => visit_of_trip hplaced hcall hhanded,
      fun failure after => visit_of_failure hplaced hcall hhanded⟩

section Nested

/-- The argument is the last node of the tree. -/
def nestedArgument : Node := .mk ⟨.callExpression, some .arguments, "g()", 0, 0, 2⟩ []

/-- A call around a call. -/
def nestedCall : Node := .mk ⟨.callExpression, none, "f(g())", 0, 0, 0⟩
  [.mk ⟨.identifier, some .function, "f", 0, 0, 1⟩ [], nestedArgument]

/-- An order to stop at the outer call cancels the visit; one at the inner call comes too late. -/
theorem nestedCall_visits :
    nestedCall.visit (noteCall (some 1)) none ⟨[], {}, none⟩ =
      ⟨[⟨nestedCall, none⟩], ⟨some 0, []⟩, some .cancelled⟩ ∧
    nestedCall.visit (noteCall (some 2)) none ⟨[], {}, none⟩ =
      ⟨[⟨nestedCall, none⟩, ⟨nestedArgument, none⟩], ⟨some 0, []⟩, none⟩ := by
  constructor
  · obtain ⟨_, _, _, _, _, _, hcall, _⟩ :=
      visits_come_to_calls_in_preorder nestedCall none (noteCall (some 1)) []
    obtain ⟨first, around, rest, hcalls, hfirst, hends⟩ := hcall [] nestedCall _ rfl rfl
    obtain rfl : first = [] := List.map_eq_nil_iff.mp hfirst
    obtain rfl : none = around := congrArg PlacedCall.scope (List.cons.inj hcalls).1
    exact (hends {} [] {} (.nothing rfl)).1 _ _ rfl rfl
  · obtain ⟨_, _, _, _, _, _, hcall, _⟩ :=
      visits_come_to_calls_in_preorder nestedCall none (noteCall (some 2)) []
    obtain ⟨first, around, rest, hcalls, hfirst, hends⟩ :=
      hcall [nestedCall, _] nestedArgument [] rfl rfl
    obtain ⟨placed, others, rfl, _, hothers⟩ := List.map_eq_cons_iff.mp hfirst
    obtain rfl : others = [] := List.map_eq_nil_iff.mp hothers
    obtain ⟨rfl, hrest⟩ := List.cons.inj hcalls
    obtain rfl : none = around := congrArg PlacedCall.scope (List.cons.inj hrest).1
    exact (hends {} [⟨nestedCall, none⟩] {} (.more rfl rfl (.nothing rfl))).1 _ _ rfl rfl

end Nested

end Node

end WorkflowGraph.Go
