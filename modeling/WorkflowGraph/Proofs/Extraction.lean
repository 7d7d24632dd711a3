import WorkflowGraph.Body.Extract
import WorkflowGraph.Proofs.Visits

/-!
# What an extraction counts

The extractor looks at the calls of a body one after the other.  What it makes of a call does not
depend on what it has seen before (`Finding`), but for one thing: a call that was counted when
the `Get` on it was visited is skipped when its own turn comes.

So the part of a body that has to do with the SDK is told by a list.  `countedCalls` lists the
calls of the SDK in the order in which they are counted, and `Body.sdkPart_extracted` says that the body
holds what these calls record and nothing else.  A counted call is a call of the body with an
action (`action_of_mem_countedIn`), and no call with an action is left out
(`exists_mem_countedIn`).
-/

namespace WorkflowGraph

/-- A call of the SDK as the extractor counts it. -/
structure CountedCall where
  call : Go.Node
  action : SdkAction
  /-- The type that a `Get` on the call reads its result into. -/
  resultType : Option String

namespace Body

/-- The body without the calls that the SDK has no part in. -/
def sdkPart (body : Body) : Body := { body with internalCalls := [] }

/-- Adds what a counted call records. -/
def count (imports : SdkImports) (body : Body) (counted : CountedCall) : Body :=
  match counted.action with
  | .execute role =>
    match callSite? imports role counted.call counted.resultType with
    | some site => body.addCallSite site
    | none => body
  | action => body.addMetadata imports action counted.call

theorem count_execute (imports : SdkImports) (body : Body) (call : Go.Node) (role : CallRole)
    (resultType : Option String) :
    body.count imports ⟨call, .execute role, resultType⟩ =
      match callSite? imports role call resultType with
      | some site => body.addCallSite site
      | none => body := rfl

theorem sdkPart_addInternalCall (body : Body) (target : String) (line : Nat) :
    (body.addInternalCall target line).sdkPart = body.sdkPart := by
  unfold addInternalCall
  split <;> rfl

theorem sdkPart_count (imports : SdkImports) (body : Body) (counted : CountedCall) :
    (body.count imports counted).sdkPart = body.sdkPart.count imports counted := by
  rcases counted with ⟨call, action, resultType⟩
  cases action with
  | execute role =>
      rw [count_execute, count_execute]
      cases callSite? imports role call resultType <;> rfl
  | _ => rfl

end Body

/-- What the extractor makes of a call. -/
inductive Finding where
  /-- A `Get` on a call that starts something. -/
  | started (counted : CountedCall)
  | counted (counted : CountedCall)
  | internal (target : String)
  | nothing

theorem SdkImports.action?_of_executeRole? {imports : SdkImports} {call : Go.Node}
    {role : CallRole} (h : imports.executeRole? call = some role) :
    imports.action? call = some (.execute role) := by
  unfold executeRole? at h
  split at h
  · next found haction =>
      obtain rfl := Option.some.inj h
      exact haction
  · cases h

namespace Extraction

/-- What the extractor makes of a call that it does not skip. -/
def finding (imports : SdkImports) (placed : Go.PlacedCall) : Finding :=
  match placed.call.callee? with
  | none => .nothing
  | some callee =>
    match startedBy? imports callee with
    | some (role, inner) =>
      .started ⟨inner, .execute role,
        placed.call.arguments[1]?.bind (Go.Node.resultType? placed.scope)⟩
    | none =>
      match imports.action? placed.call with
      | some action => .counted ⟨placed.call, action, none⟩
      | none =>
        match Body.internalTarget? imports callee with
        | some target => .internal target
        | none => .nothing

/-- The extraction after a call. -/
def after (imports : SdkImports) (extraction : Extraction) (placed : Go.PlacedCall) : Extraction :=
  if extraction.folded.contains placed.call.id then extraction
  else
    match finding imports placed with
    | .started counted =>
      { body := extraction.body.count imports counted
        folded := counted.call.id :: extraction.folded }
    | .counted counted => { extraction with body := extraction.body.count imports counted }
    | .internal target =>
      { extraction with body := extraction.body.addInternalCall target placed.call.line }
    | .nothing => extraction

theorem start_computes (imports : SdkImports) (extraction : Extraction) (role : CallRole)
    (call : Go.Node) (resultType : Option String) :
    (start imports extraction role call resultType).Computes
      { extraction with
        body := extraction.body.count imports ⟨call, .execute role, resultType⟩ } := by
  rw [Body.count_execute]
  unfold start
  cases Body.callSite? imports role call resultType with
  | some site => exact Run.computes_pure _
  | none => exact Run.Computes.after_say (Run.computes_pure _)

/-- One step of the extractor. -/
theorem step_computes (imports : SdkImports) (extraction : Extraction)
    (placed : Go.PlacedCall) :
    (step imports extraction placed).Computes (extraction.after imports placed) := by
  unfold step after finding
  by_cases hfolded : extraction.folded.contains placed.call.id = true
  · rw [if_pos hfolded, if_pos hfolded]
    exact Run.computes_pure _
  rw [if_neg hfolded, if_neg hfolded]
  cases placed.call.callee? with
  | none => exact Run.computes_pure _
  | some callee =>
      simp only [lookAt]
      cases startedBy? imports callee with
      | some started => exact start_computes _ _ _ _ _
      | none =>
          cases imports.action? placed.call with
          | some action =>
              cases action with
              | execute role => exact start_computes _ _ _ _ _
              | _ => exact Run.computes_pure _
          | none =>
              cases Body.internalTarget? imports callee <;> exact Run.computes_pure _

/-- The calls of the SDK in the order in which they are counted; those with a number in `folded`
are skipped. -/
def countedCalls (imports : SdkImports) (folded : List Nat) :
    List Go.PlacedCall → List CountedCall
  | [] => []
  | placed :: rest =>
    if folded.contains placed.call.id then countedCalls imports folded rest
    else
      match finding imports placed with
      | .started counted => counted :: countedCalls imports (counted.call.id :: folded) rest
      | .counted counted => counted :: countedCalls imports folded rest
      | _ => countedCalls imports folded rest

/-- What has been extracted for the SDK is what the counted calls record. -/
theorem sdkPart_foldl_after (imports : SdkImports) (placedCalls : List Go.PlacedCall)
    (extraction : Extraction) :
    (placedCalls.foldl (after imports) extraction).body.sdkPart =
      (countedCalls imports extraction.folded placedCalls).foldl (Body.count imports)
        extraction.body.sdkPart := by
  induction placedCalls generalizing extraction with
  | nil => rfl
  | cons placed rest ih =>
      rw [List.foldl_cons, ih, countedCalls, after]
      by_cases hfolded : extraction.folded.contains placed.call.id = true
      · rw [if_pos hfolded, if_pos hfolded]
      · rw [if_neg hfolded, if_neg hfolded]
        cases finding imports placed with
        | started counted => simp only [List.foldl_cons, Body.sdkPart_count]
        | counted counted => simp only [List.foldl_cons, Body.sdkPart_count]
        | internal target => simp only [Body.sdkPart_addInternalCall]
        | nothing => rfl

/-- A counted call comes from what was made of a call. -/
theorem exists_finding_of_mem_countedCalls {imports : SdkImports} {folded : List Nat}
    {placedCalls : List Go.PlacedCall} {counted : CountedCall}
    (h : counted ∈ countedCalls imports folded placedCalls) :
    ∃ placed ∈ placedCalls, finding imports placed = .started counted ∨
      finding imports placed = .counted counted := by
  induction placedCalls generalizing folded with
  | nil => cases h
  | cons placed rest ih =>
      have hlater : ∀ folded', counted ∈ countedCalls imports folded' rest →
          ∃ placed' ∈ placed :: rest, finding imports placed' = .started counted ∨
            finding imports placed' = .counted counted := by
        intro folded' hmem
        obtain ⟨placed', hplaced', hfinding⟩ := ih hmem
        exact ⟨placed', List.mem_cons_of_mem _ hplaced', hfinding⟩
      rw [countedCalls] at h
      by_cases hfolded : folded.contains placed.call.id = true
      · rw [if_pos hfolded] at h
        exact hlater _ h
      rw [if_neg hfolded] at h
      cases hfinding : finding imports placed with
      | started found =>
          simp only [hfinding, List.mem_cons] at h
          rcases h with rfl | hrest
          · exact ⟨placed, List.mem_cons_self, Or.inl hfinding⟩
          · exact hlater _ hrest
      | counted found =>
          simp only [hfinding, List.mem_cons] at h
          rcases h with rfl | hrest
          · exact ⟨placed, List.mem_cons_self, Or.inr hfinding⟩
          · exact hlater _ hrest
      | internal target =>
          simp only [hfinding] at h
          exact hlater _ h
      | nothing =>
          simp only [hfinding] at h
          exact hlater _ h

/-- The call on which another is a `Get`. -/
theorem eq_of_startedBy? {imports : SdkImports} {callee : Go.Callee} {role : CallRole}
    {inner : Go.Node} (h : startedBy? imports callee = some (role, inner)) :
    callee.operand = some inner ∧ inner.kind = .callExpression ∧
      imports.action? inner = some (.execute role) := by
  unfold startedBy? at h
  split at h
  · split at h
    · cases h
    · next operand hoperand =>
        split at h
        · next hkind =>
            obtain ⟨found, hfound, heq⟩ := Option.map_eq_some_iff.mp h
            obtain ⟨rfl, rfl⟩ := Prod.mk.inj heq
            exact ⟨hoperand, hkind, SdkImports.action?_of_executeRole? hfound⟩
        · cases h
  · cases h

/-- No `Get` on a started call is itself a call of the SDK. -/
theorem startedBy?_eq_none_of_action {imports : SdkImports} {call : Go.Node}
    {callee : Go.Callee} {action : SdkAction} (hcallee : call.callee? = some callee)
    (haction : imports.action? call = some action) : startedBy? imports callee = none := by
  unfold startedBy?
  split
  · next hget =>
      have hname : callee.name.text = "Get" := by simpa using hget
      have hget' : Sdk.action? "Get" = none := by decide
      simp [SdkImports.action?, hcallee, hname, hget'] at haction
  · rfl

/-- A call with an action is counted as such, unless it is skipped. -/
theorem finding_of_action {imports : SdkImports} {placed : Go.PlacedCall} {action : SdkAction}
    (haction : imports.action? placed.call = some action) :
    finding imports placed = .counted ⟨placed.call, action, none⟩ := by
  unfold finding
  cases hcallee : placed.call.callee? with
  | none => simp [SdkImports.action?, hcallee] at haction
  | some callee => simp only [startedBy?_eq_none_of_action hcallee haction, haction]

/-- A call that is not counted by itself has no action. -/
theorem action?_eq_none_of_finding {imports : SdkImports} {placed : Go.PlacedCall}
    (h : ∀ counted, finding imports placed ≠ .counted counted) :
    imports.action? placed.call = none := by
  cases haction : imports.action? placed.call with
  | none => rfl
  | some action => exact absurd (finding_of_action haction) (h _)

/-- No call with an action is left out: it is counted, here or when the `Get` on it was. -/
theorem exists_mem_countedCalls {imports : SdkImports} {folded : List Nat}
    {placedCalls : List Go.PlacedCall} {placed : Go.PlacedCall} {action : SdkAction}
    (hplaced : placed ∈ placedCalls) (haction : imports.action? placed.call = some action) :
    placed.call.id ∈ folded ∨
      ∃ counted ∈ countedCalls imports folded placedCalls, counted.call.id = placed.call.id := by
  -- a number comes into `folded` only with a call that is counted at that moment
  induction placedCalls generalizing folded with
  | nil => cases hplaced
  | cons first rest ih =>
      rw [countedCalls]
      rcases List.mem_cons.mp hplaced with rfl | hrest
      · by_cases hfolded : folded.contains placed.call.id = true
        · exact Or.inl (List.contains_iff_mem.mp hfolded)
        · rw [if_neg hfolded]
          simp only [finding_of_action haction]
          exact Or.inr ⟨_, List.mem_cons_self, rfl⟩
      by_cases hfolded : folded.contains first.call.id = true
      · rw [if_pos hfolded]
        exact ih hrest
      rw [if_neg hfolded]
      cases finding imports first with
      | started found =>
          rcases ih hrest with hmem | ⟨counted, hcounted, hid⟩
          · rcases List.mem_cons.mp hmem with hhere | hbefore
            · exact Or.inr ⟨found, List.mem_cons_self, hhere.symm⟩
            · exact Or.inl hbefore
          · exact Or.inr ⟨counted, List.mem_cons_of_mem _ hcounted, hid⟩
      | counted found =>
          rcases ih hrest with hmem | ⟨counted, hcounted, hid⟩
          · exact Or.inl hmem
          · exact Or.inr ⟨counted, List.mem_cons_of_mem _ hcounted, hid⟩
      | internal target => exact ih hrest
      | nothing => exact ih hrest

end Extraction

/-- What a call is selected on is a part of the call. -/
theorem Go.Node.operand_mem_preorder {call operand : Go.Node} {callee : Go.Callee}
    (hcallee : call.callee? = some callee) (hoperand : callee.operand = some operand) :
    operand ∈ call.preorder := by
  have hname : ∀ node : Go.Node, Go.Callee.ofName? node = some callee →
      operand ∈ node.preorder := by
    intro node hnode
    unfold Go.Callee.ofName? at hnode
    split at hnode
    · obtain rfl := Option.some.inj hnode
      cases hoperand
    · obtain ⟨name, _, rfl⟩ := Option.map_eq_some_iff.mp hnode
      exact mem_preorder_of_field? hoperand
    · cases hnode
  unfold callee? at hcallee
  cases hfunction : call.field? .function with
  | none =>
      simp only [hfunction] at hcallee
      cases hcallee
  | some function =>
      refine mem_preorder_trans ?_ call (mem_preorder_of_field? hfunction)
      simp only [hfunction] at hcallee
      by_cases hparenthesized : function.kind = .parenthesizedExpression
      · rw [if_pos hparenthesized] at hcallee
        obtain ⟨inner, hinner, hcallee⟩ := Option.bind_eq_some_iff.mp hcallee
        exact mem_preorder_trans (hname inner hcallee) function
          (mem_preorder_of_mem_phrases (List.mem_of_head? hinner))
      · rw [if_neg hparenthesized] at hcallee
        exact hname function hcallee

/-- The calls in the body of a function, at any depth. -/
def Go.Node.bodyCalls (function : Go.Node) : List Go.Node :=
  match function.field? .body with
  | none => []
  | some block => block.preorder.filter fun node => node.kind = .callExpression

theorem Go.Node.mem_preorder_of_mem_bodyCalls {function call : Go.Node}
    (h : call ∈ function.bodyCalls) : call ∈ function.preorder := by
  unfold bodyCalls at h
  split at h
  · cases h
  · next block hblock =>
      exact mem_preorder_trans (List.mem_filter.mp h).1 function (mem_preorder_of_field? hblock)

namespace Extraction

/-- A finding of the SDK is a call with an action, within the call that was looked at. -/
theorem action_of_finding {imports : SdkImports} {placed : Go.PlacedCall} {counted : CountedCall}
    (hcall : placed.call.kind = .callExpression)
    (h : finding imports placed = .started counted ∨ finding imports placed = .counted counted) :
    counted.call ∈ placed.call.preorder ∧ counted.call.kind = .callExpression ∧
      imports.action? counted.call = some counted.action := by
  unfold finding at h
  cases hcallee : placed.call.callee? with
  | none => simp [hcallee] at h
  | some callee =>
      simp only [hcallee] at h
      cases hstarted : startedBy? imports callee with
      | some started =>
          obtain ⟨role, inner⟩ := started
          simp only [hstarted, Finding.started.injEq, reduceCtorEq, or_false] at h
          subst h
          obtain ⟨hoperand, hkind, haction⟩ := eq_of_startedBy? hstarted
          exact ⟨Go.Node.operand_mem_preorder hcallee hoperand, hkind, haction⟩
      | none =>
          simp only [hstarted] at h
          cases haction : imports.action? placed.call with
          | some action =>
              simp only [haction, reduceCtorEq, Finding.counted.injEq, false_or] at h
              subst h
              exact ⟨Go.Node.self_mem_preorder _, hcall, haction⟩
          | none =>
              simp only [haction] at h
              cases htarget : Body.internalTarget? imports callee <;> simp [htarget] at h

end Extraction

/-- The calls of the SDK that are counted for a function. -/
def countedIn (imports : SdkImports) (function : Go.Node) : List CountedCall :=
  match function.field? .body with
  | none => []
  | some block => Extraction.countedCalls imports [] (block.calls (some function))

/-- The calls of a visit are the calls of the body. -/
theorem Go.Node.mem_calls_iff {block call : Go.Node} {scope : Option Go.Node} :
    (∃ placed ∈ block.calls scope, placed.call = call) ↔
      call ∈ block.preorder ∧ call.kind = .callExpression := by
  have hcalls : call ∈ (block.calls scope).map Go.PlacedCall.call ↔
      call ∈ block.preorder.filter fun node => node.kind = .callExpression := by
    rw [map_call_calls]
  simpa using hcalls

/-- A counted call is a call of the body, with the action that it is counted as. -/
theorem action_of_mem_countedIn {imports : SdkImports} {function : Go.Node}
    {counted : CountedCall} (h : counted ∈ countedIn imports function) :
    counted.call ∈ function.bodyCalls ∧ imports.action? counted.call = some counted.action := by
  unfold countedIn at h
  unfold Go.Node.bodyCalls
  cases hblock : function.field? .body with
  | none =>
      simp only [hblock] at h
      cases h
  | some block =>
      simp only [hblock] at h
      obtain ⟨placed, hplaced, hfinding⟩ := Extraction.exists_finding_of_mem_countedCalls h
      obtain ⟨hmem, hkind⟩ := Go.Node.mem_calls_iff.mp ⟨placed, hplaced, rfl⟩
      obtain ⟨hwithin, hcall, haction⟩ := Extraction.action_of_finding hkind hfinding
      refine ⟨List.mem_filter.mpr ⟨?_, by simpa using hcall⟩, haction⟩
      exact Go.Node.mem_preorder_trans hwithin block hmem

/-- Every call of the body with an action is counted. -/
theorem exists_mem_countedIn {imports : SdkImports} {function call : Go.Node}
    {action : SdkAction} (hcall : call ∈ function.bodyCalls)
    (haction : imports.action? call = some action) :
    ∃ counted ∈ countedIn imports function, counted.call.id = call.id := by
  unfold Go.Node.bodyCalls at hcall
  unfold countedIn
  cases hblock : function.field? .body with
  | none =>
      simp only [hblock] at hcall
      cases hcall
  | some block =>
      simp only [hblock] at hcall
      obtain ⟨hmem, hkind⟩ := List.mem_filter.mp hcall
      obtain ⟨placed, hplaced, rfl⟩ :=
        Go.Node.mem_calls_iff.mpr ⟨hmem, of_decide_eq_true hkind⟩
      exact (Extraction.exists_mem_countedCalls hplaced haction).resolve_left List.not_mem_nil

/-- The body that is extracted from a function. -/
def Body.extracted (imports : SdkImports) (function : Go.Node) : Body :=
  match function.field? .body with
  | none => {}
  | some block => ((block.calls (some function)).foldl (Extraction.after imports) {}).body

theorem Body.extract_computes (imports : SdkImports) (function : Go.Node) :
    (Body.extract imports function).Computes (Body.extracted imports function) := by
  unfold Body.extract Body.extracted
  cases function.field? .body with
  | none => exact Run.computes_pure _
  | some block =>
      have hvisit := Go.Node.visitCalls_computes (Extraction.step_computes imports) block
        (some function) {}
      exact hvisit.bind (Run.computes_pure _)

/-- **What an extraction holds for the SDK** is what the counted calls record, in order. -/
theorem Body.sdkPart_extracted (imports : SdkImports) (function : Go.Node) :
    (Body.extracted imports function).sdkPart =
      (countedIn imports function).foldl (Body.count imports) {} := by
  unfold Body.extracted countedIn
  cases function.field? .body with
  | none => rfl
  | some block => exact Extraction.sdkPart_foldl_after imports _ {}

end WorkflowGraph
