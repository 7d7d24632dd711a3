import Mathlib.Data.List.Nodup
import WorkflowGraph.Proofs.BodyRecords

/-!
# The calls of a body are partitioned

The extractor knows only what it has seen.  It skips the calls that a `Get` has read, and it knows
the targets of the internal calls that it has passed (`Seen`).  That is enough: from wherever it
stands, what it adds at the calls to come is what these calls leave (`Halfway.accounts`), because a
`Get` is followed by the call that it reads, because no other call is ever skipped, and because a
target is known exactly if some call before has it.

Hence `calls_are_partitioned`: the lists of a body hold the records of its calls in pre-order, and
no call has two.
-/

namespace WorkflowGraph

open Extraction

section Run

variable {imports : SdkImports} {all : List Go.PlacedCall} {extraction : Extraction}
  {placed : Go.PlacedCall} {before rest : List Go.PlacedCall}

/-- The targets of the internal calls in the body are those of the calls passed so far. -/
def Seen (imports : SdkImports) (extraction : Extraction) (before : List Go.PlacedCall) : Prop :=
  ∀ target, extraction.body.hasTarget target = true ↔
    ∃ earlier ∈ before, IsInternal imports earlier.call target

theorem Body.internalCalls_count (imports : SdkImports) (body : Body) (counted : CountedCall) :
    (body.count imports counted).internalCalls = body.internalCalls := by
  rcases counted with ⟨call, action, resultType⟩
  cases action with
  | execute role =>
      rw [count_execute]
      cases callSite? imports role call resultType <;> rfl
  | _ => rfl

theorem Body.hasTarget_count (imports : SdkImports) (body : Body) (counted : CountedCall) :
    (body.count imports counted).hasTarget = body.hasTarget := by
  funext target
  rw [hasTarget, hasTarget, internalCalls_count]

theorem Body.hasTarget_addInternalCall (body : Body) (target other : String) (line : Nat) :
    (body.addInternalCall target line).hasTarget other = true ↔
      body.hasTarget other = true ∨ target = other := by
  rw [addInternalCall_eq]
  by_cases hseen : body.hasTarget target = true
  · rw [if_pos hseen]
    refine ⟨Or.inl, fun h => h.elim id ?_⟩
    rintro rfl
    exact hseen
  · rw [if_neg hseen]
    simp [hasTarget, add]

/-- A call that is passed adds its target, and no other. -/
theorem Seen.after (h : Seen imports extraction before)
    (hskip : placed.call.id ∈ extraction.folded →
      ∀ target, ¬IsInternal imports placed.call target) :
    Seen imports (extraction.after imports placed) (before ++ [placed]) := by
  intro target
  have hmore : (∃ earlier ∈ before ++ [placed], IsInternal imports earlier.call target) ↔
      extraction.body.hasTarget target = true ∨ IsInternal imports placed.call target := by
    rw [h target]
    simp [or_and_right, exists_or]
  rw [hmore]
  unfold Extraction.after
  by_cases hfolded : extraction.folded.contains placed.call.id = true
  · rw [if_pos hfolded]
    exact (or_iff_left (hskip (List.contains_iff_mem.mp hfolded) target)).symm
  rw [if_neg hfolded]
  rw [← finding_eq_internal_iff]
  cases finding imports placed with
  | started counted => simp [Body.hasTarget_count]
  | counted counted => simp [Body.hasTarget_count]
  | internal found => simp [Body.hasTarget_addInternalCall]
  | nothing => simp

/-- Of the calls of a list, each is given what it leaves, and nothing is left over. -/
inductive Accounted (imports : SdkImports) (all : List Go.PlacedCall) :
    List Go.PlacedCall → List (Go.Node × BodyRecord) → Prop where
  | nil : Accounted imports all [] []
  | cons {placed : Go.PlacedCall} {rest : List Go.PlacedCall}
      {contributed : List (Go.Node × BodyRecord)} (record? : Option BodyRecord)
      (hleaves : ∀ record, Leaves imports all placed.call record ↔ record? = some record)
      (hrest : Accounted imports all rest contributed) :
      Accounted imports all (placed :: rest)
        ((record?.map (placed.call, ·)).toList ++ contributed)

namespace Accounted

variable {contributed : List (Go.Node × BodyRecord)}

/-- A call that leaves nothing is passed over. -/
theorem skip (hleaves : ∀ record, ¬Leaves imports all placed.call record)
    (hrest : Accounted imports all rest contributed) :
    Accounted imports all (placed :: rest) contributed :=
  .cons none (fun record => iff_of_false (hleaves record) (fun h => nomatch h)) hrest

/-- The records come in the order of the calls, and no call has two. -/
theorem sublist (h : Accounted imports all rest contributed) :
    (contributed.map Prod.fst).Sublist (rest.map Go.PlacedCall.call) := by
  induction h with
  | nil => exact .slnil
  | cons record? hleaves hrest ih =>
      cases record? with
      | none => exact ih.cons _
      | some record => exact ih.cons_cons _

/-- A call has the records that it leaves. -/
theorem mem_iff (h : Accounted imports all rest contributed)
    (hnodup : (rest.map Go.PlacedCall.call).Nodup) (hplaced : placed ∈ rest)
    (record : BodyRecord) :
    (placed.call, record) ∈ contributed ↔ Leaves imports all placed.call record := by
  induction h with
  | nil => cases hplaced
  | @cons first rest contributed record? hleaves hrest ih =>
      obtain ⟨hfirst, hothers⟩ := List.nodup_cons.mp hnodup
      have hhead : ∀ call, (call, record) ∈ (record?.map (first.call, ·)).toList ↔
          first.call = call ∧ record? = some record := by
        intro call
        cases record? <;> simp [eq_comm]
      rw [List.mem_append, hhead]
      rcases List.mem_cons.mp hplaced with rfl | hlater
      · rw [hleaves, eq_self, true_and, or_iff_left]
        intro hmem
        exact hfirst (hrest.sublist.subset (List.mem_map_of_mem hmem))
      · rw [ih hothers hlater, or_iff_right]
        rintro ⟨heq, _⟩
        exact hfirst (heq ▸ List.mem_map_of_mem hlater)

end Accounted

/-- Whether a call is the first with its target shows at its place. -/
theorem Lined.isFirstInternal_iff (hall : Lined all) (hsplit : all = before ++ placed :: rest)
    {target : String} :
    IsFirstInternal imports (all.map Go.PlacedCall.call) placed.call target ↔
      IsInternal imports placed.call target ∧
        ∀ earlier ∈ before, ¬IsInternal imports earlier.call target := by
  have hplace : all.map Go.PlacedCall.call =
      before.map Go.PlacedCall.call ++ placed.call :: rest.map Go.PlacedCall.call := by
    rw [hsplit, List.map_append, List.map_cons]
  have hnodup : ((all.map Go.PlacedCall.call).map Go.Node.id).Nodup := by
    rw [List.map_map]
    exact hall.nodup
  constructor
  · rintro ⟨front, back, hcalls, hinternal, hfirst⟩
    have hfront : front = before.map Go.PlacedCall.call :=
      split_unique Go.Node.id (hcalls ▸ hnodup) (hcalls.symm.trans hplace) rfl
    refine ⟨hinternal, fun earlier hearlier => hfirst _ ?_⟩
    rw [hfront]
    exact List.mem_map_of_mem hearlier
  · rintro ⟨hinternal, hfirst⟩
    refine ⟨_, _, hplace, hinternal, ?_⟩
    intro earlier hearlier
    obtain ⟨other, hother, rfl⟩ := List.mem_map.mp hearlier
    exact hfirst other hother

/-- An internal call leaves itself unless its target has been seen. -/
theorem Lined.leaves_internal_iff (hall : Lined all) (hsplit : all = before ++ placed :: rest)
    (hseen : Seen imports extraction before) {target : String}
    (hinternal : IsInternal imports placed.call target) (record : BodyRecord) :
    Leaves imports all placed.call record ↔
      (if extraction.body.hasTarget target then none
        else some (.internal ⟨target, placed.call.line⟩)) = some record := by
  have hfirst : (∀ earlier ∈ before, ¬IsInternal imports earlier.call target) ↔
      ¬extraction.body.hasTarget target = true := by
    rw [hseen target]
    simp
  rw [leaves_iff_of_none hinternal.action]
  constructor
  · rintro ⟨other, hother, rfl⟩
    obtain ⟨hown, hnone⟩ := (hall.isFirstInternal_iff hsplit).mp hother
    obtain rfl := hinternal.unique hown
    rw [if_neg (hfirst.mp hnone)]
  · intro h
    split at h
    · cases h
    · next hnone =>
        refine ⟨target, (hall.isFirstInternal_iff hsplit).mpr ⟨hinternal, hfirst.mpr hnone⟩, ?_⟩
        exact (Option.some.inj h).symm

/-- A call without an action that is not internal leaves nothing. -/
theorem not_leaves_of_not_isInternal (haction : imports.action? placed.call = none)
    (hnot : ∀ target, ¬IsInternal imports placed.call target) (record : BodyRecord) :
    ¬Leaves imports all placed.call record := by
  rw [leaves_iff_of_none haction]
  rintro ⟨target, ⟨_, _, _, hinternal, _⟩, _⟩
  exact hnot target hinternal

/-- A `Get` on a call that starts something leaves nothing: what it reads belongs to that call. -/
theorem not_leaves_of_reads {call : Go.Node} {role : CallRole}
    (hreads : ReadsResultOf placed.call call) (hkind : call.kind = .callExpression)
    (hexecute : imports.action? call = some (.execute role)) (record : BodyRecord) :
    ¬Leaves imports all placed.call record := by
  have haction : imports.action? placed.call = none :=
    action?_eq_none_of_finding (by simp [finding_of_reads hreads hkind hexecute])
  exact not_leaves_of_not_isInternal haction
    (fun target hinternal => hinternal.get call role hreads hkind hexecute) record

/-- A `Get` and the call that it reads are given the site of the latter. -/
theorem Halfway.accounts_both {get : Go.PlacedCall} {role : CallRole} (hall : Lined all)
    {contributed : List (Go.Node × BodyRecord)}
    (h : Halfway imports all extraction.folded before (get :: placed :: rest))
    (hreads : ReadsResultOf get.call placed.call)
    (haction : imports.action? placed.call = some (.execute role))
    (hrest : Accounted imports all rest contributed) :
    Accounted imports all (get :: placed :: rest)
      (((CountedCall.record? imports ⟨placed.call, .execute role, readType? get⟩).map
        (placed.call, ·)).toList ++ contributed) := by
  have hkind := hall.kind placed (by simp [h.split])
  refine .skip (not_leaves_of_reads hreads hkind haction) (.cons _ (fun record => ?_) hrest)
  rw [CountedCall.record?_execute]
  refine leaves_iff_callSite? haction ?_ ?_
  · intro other hother hreadsOther
    rw [h.eq_of_reads hall hother hreadsOther]
  · intro hnone
    exact absurd hreads (hnone get (by simp [h.split]))

/-- A call with an action that comes up by itself is given its record. -/
theorem Halfway.accounts_one {action : SdkAction} (hall : Lined all)
    {contributed : List (Go.Node × BodyRecord)}
    (h : Halfway imports all extraction.folded before (placed :: rest))
    (haction : imports.action? placed.call = some action)
    (hrest : Accounted imports all rest contributed) :
    Accounted imports all (placed :: rest)
      (((CountedCall.record? imports ⟨placed.call, action, none⟩).map (placed.call, ·)).toList ++
        contributed) := by
  refine .cons _ (fun record => ?_) hrest
  by_cases hexecute : ∃ role, action = .execute role
  · obtain ⟨role, rfl⟩ := hexecute
    have hnone := h.not_read hall haction
    rw [CountedCall.record?_execute]
    exact leaves_iff_callSite? haction (fun get hget hreads => absurd hreads (hnone get hget))
      fun _ => rfl
  · have hother : ∀ role, action ≠ .execute role := fun role heq => hexecute ⟨role, heq⟩
    rw [CountedCall.record?_of_action hother, leaves_iff_of_action haction hother]

/-- Passing a call that starts nothing leaves the calls to skip as they are. -/
theorem Halfway.after (hall : Lined all)
    (h : Halfway imports all extraction.folded before (placed :: rest))
    (hstarted : ∀ counted, finding imports placed ≠ .started counted) :
    Halfway imports all (extraction.after imports placed).folded (before ++ [placed]) rest := by
  have hfolded : (extraction.after imports placed).folded = extraction.folded := by
    unfold Extraction.after
    split
    · rfl
    · split
      · next counted hfinding => exact absurd hfinding (hstarted counted)
      · rfl
      · rfl
      · rfl
  rw [hfolded]
  exact h.pass_of_finding hall hstarted

/-- **Each call is given what it leaves.**  From wherever the extractor stands, what it adds at the
calls to come is what these calls leave, call by call. -/
theorem Halfway.accounts (hall : Lined all) :
    ∀ {rest before : List Go.PlacedCall} {extraction : Extraction},
      Halfway imports all extraction.folded before rest → Seen imports extraction before →
      Accounted imports all rest (contributions imports extraction rest)
  | [], _, _, _, _ => .nil
  | placed :: rest, before, extraction, h, hseen => by
      have hnew := h.fresh placed List.mem_cons_self
      have hfresh : ¬extraction.folded.contains placed.call.id = true := by simpa using hnew
      have hseenNext : Seen imports (extraction.after imports placed) (before ++ [placed]) :=
        hseen.after fun hskip => absurd hskip hnew
      rw [contributions, added, if_neg hfresh]
      cases hfinding : finding imports placed with
      | started counted =>
          obtain ⟨call, role, rfl, hreads, hcall, haction⟩ := reads_of_finding hfinding
          obtain ⟨read, later, rfl, rfl⟩ := hall.next h.split hreads hcall
          have hfolded : (extraction.after imports placed).folded =
              read.call.id :: extraction.folded := by
            rw [Extraction.after, if_neg hfresh, hfinding]
          have hskipped : read.call.id ∈ (extraction.after imports placed).folded := by
            simp [hfolded]
          have hhalfway := h.passBoth hall hreads haction
          rw [← hfolded] at hhalfway
          -- the call that was read is passed over when its turn comes
          have hseenBoth : Seen imports ((extraction.after imports placed).after imports read)
              (before ++ [placed] ++ [read]) := hseenNext.after fun _ target hinternal => by
            rw [hinternal.action] at haction
            cases haction
          rw [after_of_folded hskipped, List.append_assoc] at hseenBoth
          rw [contributions_of_folded later hskipped]
          exact h.accounts_both hall hreads haction (accounts hall hhalfway hseenBoth)
      | counted counted =>
          obtain ⟨action, rfl, haction⟩ := action_of_finding_counted hfinding
          exact h.accounts_one hall haction
            (accounts hall (h.after hall (by simp [hfinding])) hseenNext)
      | internal target =>
          have hrest := accounts hall (h.after hall (by simp [hfinding])) hseenNext
          have hinternal := finding_eq_internal_iff.mp hfinding
          have hleaves := hall.leaves_internal_iff h.split hseen hinternal
          have haccounted := Accounted.cons _ hleaves hrest
          simp only
          by_cases htarget : extraction.body.hasTarget target = true
          · rw [if_pos htarget] at haccounted ⊢
            exact haccounted
          · rw [if_neg htarget] at haccounted ⊢
            exact haccounted
      | nothing =>
          have hrest := accounts hall (h.after hall (by simp [hfinding])) hseenNext
          have haction : imports.action? placed.call = none :=
            action?_eq_none_of_finding (by simp [hfinding])
          refine .skip (not_leaves_of_not_isInternal haction fun target hinternal => ?_) hrest
          rw [finding_eq_internal_iff.mpr hinternal] at hfinding
          cases hfinding
termination_by rest => rest.length

/-! ## Internal calls -/

/-- No target is recorded twice. -/
theorem Body.nodup_addInternalCall {body : Body} (target : String) (line : Nat)
    (h : (body.internalCalls.map InternalCall.target).Nodup) :
    ((body.addInternalCall target line).internalCalls.map InternalCall.target).Nodup := by
  rw [addInternalCall_eq]
  split
  · exact h
  · next hnew =>
      rw [add, List.map_append, List.nodup_append]
      refine ⟨h, by simp, ?_⟩
      intro other hother _ hlast heq
      obtain rfl := List.mem_singleton.mp hlast
      obtain ⟨call, hcall, rfl⟩ := List.mem_map.mp hother
      exact hnew (List.any_eq_true.mpr ⟨call, hcall, by simpa using heq⟩)

theorem nodup_targets_foldl_after (placedCalls : List Go.PlacedCall)
    (h : (extraction.body.internalCalls.map InternalCall.target).Nodup) :
    ((placedCalls.foldl (Extraction.after imports) extraction).body.internalCalls.map
      InternalCall.target).Nodup := by
  induction placedCalls generalizing extraction with
  | nil => exact h
  | cons placed rest ih =>
      refine ih ?_
      unfold Extraction.after
      split
      · exact h
      · split
        · rwa [Body.internalCalls_count]
        · rwa [Body.internalCalls_count]
        · exact Body.nodup_addInternalCall _ _ h
        · exact h

/-- Where there is an internal call with a target, there is a first one. -/
theorem exists_isFirstInternal {calls : List Go.Node} {call : Go.Node} {target : String}
    (hcall : call ∈ calls) (h : IsInternal imports call target) :
    ∃ first, IsFirstInternal imports calls first target := by
  classical
  have hsome : (calls.find? fun call => IsInternal imports call target).isSome = true := by
    rw [List.find?_isSome]
    exact ⟨call, hcall, decide_eq_true h⟩
  obtain ⟨first, hfirst⟩ := Option.isSome_iff_exists.mp hsome
  obtain ⟨hinternal, before, after, hsplit, hbefore⟩ := List.find?_eq_some_iff_append.mp hfirst
  exact ⟨first, before, after, hsplit, of_decide_eq_true hinternal,
    fun earlier hearlier => by simpa using hbefore earlier hearlier⟩

/-- Only a first internal call leaves an internal call, with its own line. -/
theorem leaves_internal_iff_isFirstInternal {call : Go.Node} {internal : InternalCall} :
    Leaves imports all call (.internal internal) ↔
      IsFirstInternal imports (all.map Go.PlacedCall.call) call internal.target ∧
        internal.line = call.line := by
  constructor
  · intro h
    cases haction : imports.action? call with
    | none =>
        obtain ⟨target, hfirst, heq⟩ := (leaves_iff_of_none haction).mp h
        obtain rfl := BodyRecord.internal.inj heq
        exact ⟨hfirst, rfl⟩
    | some action =>
        -- the record of an action goes to another list
        unfold Leaves at h
        rw [haction] at h
        cases action with
        | execute role =>
            obtain ⟨_, _, hsite⟩ := h
            cases hsite
        | _ => cases h
  · rintro ⟨hfirst, hline⟩
    have haction : imports.action? call = none := by
      obtain ⟨_, _, _, hinternal, _⟩ := hfirst
      exact hinternal.action
    rw [leaves_iff_of_none haction]
    exact ⟨internal.target, hfirst, by rw [← hline]⟩

end Run

/-! ## The whole body -/

namespace Body

theorem extracted_eq_foldl (imports : SdkImports) (function : Go.Node) :
    extracted imports function =
      (function.placedCalls.foldl (Extraction.after imports) {}).body := by
  unfold extracted Go.Node.placedCalls
  cases function.field? .body <;> rfl

/-- The body that is extracted holds what was added at its calls. -/
theorem extracted_eq_ofRecords (imports : SdkImports) (function : Go.Node) :
    extracted imports function =
      ofRecords ((contributions imports {} function.placedCalls).map Prod.snd) := by
  rw [extracted_eq_foldl, body_foldl_after]
  rfl

end Body

section Lined

variable {imports : SdkImports} {function : Go.Node}

theorem Lined.accounted (hlined : Lined function.placedCalls) :
    Accounted imports function.placedCalls function.placedCalls
      (contributions imports {} function.placedCalls) := by
  have hstart : Halfway imports function.placedCalls ({} : Extraction).folded []
      function.placedCalls := ⟨rfl, by simp, by simp⟩
  exact hstart.accounts hlined fun target => by simp [Body.hasTarget]

theorem Lined.nodup_bodyCalls (hlined : Lined function.placedCalls) : function.bodyCalls.Nodup := by
  rw [← Go.Node.map_call_placedCalls]
  refine List.Nodup.of_map Go.Node.id ?_
  rw [List.map_map]
  exact hlined.nodup

theorem Lined.sublist_bodyCalls (hlined : Lined function.placedCalls) :
    ((contributions imports {} function.placedCalls).map Prod.fst).Sublist function.bodyCalls := by
  rw [← Go.Node.map_call_placedCalls]
  exact hlined.accounted.sublist

theorem Lined.mem_contributions_iff (hlined : Lined function.placedCalls) {call : Go.Node}
    (hcall : call ∈ function.bodyCalls) (record : BodyRecord) :
    (call, record) ∈ contributions imports {} function.placedCalls ↔
      Leaves imports function.placedCalls call record := by
  have honce := hlined.nodup_bodyCalls
  rw [← Go.Node.map_call_placedCalls] at hcall honce
  obtain ⟨placed, hplaced, rfl⟩ := List.mem_map.mp hcall
  exact hlined.accounted.mem_iff honce hplaced record

/-- The internal calls of a body are the first calls with their targets. -/
theorem Lined.mem_internalCalls_iff (hlined : Lined function.placedCalls)
    {internal : InternalCall} :
    internal ∈ (Body.extracted imports function).internalCalls ↔
      ∃ call, IsFirstInternal imports function.bodyCalls call internal.target ∧
        internal.line = call.line := by
  rw [Body.extracted_eq_ofRecords, Body.mem_internalCalls_ofRecords]
  simp only [← Go.Node.map_call_placedCalls, ← leaves_internal_iff_isFirstInternal]
  constructor
  · intro h
    obtain ⟨⟨call, record⟩, hmem, rfl⟩ := List.mem_map.mp h
    have hcall := hlined.sublist_bodyCalls.subset (List.mem_map_of_mem hmem)
    exact ⟨call, (hlined.mem_contributions_iff hcall _).mp hmem⟩
  · rintro ⟨call, hleaves⟩
    obtain ⟨⟨before, after, hsplit, _⟩, _⟩ := leaves_internal_iff_isFirstInternal.mp hleaves
    have hcall : call ∈ function.bodyCalls := by
      rw [← Go.Node.map_call_placedCalls, hsplit]
      simp
    exact List.mem_map.mpr ⟨_, (hlined.mem_contributions_iff hcall _).mpr hleaves, rfl⟩

/-- The targets of the internal calls of a body. -/
theorem Lined.mem_targets_iff (hlined : Lined function.placedCalls) {target : String} :
    target ∈ (Body.extracted imports function).internalCalls.map InternalCall.target ↔
      ∃ call ∈ function.bodyCalls, IsInternal imports call target := by
  constructor
  · intro h
    obtain ⟨internal, hmem, rfl⟩ := List.mem_map.mp h
    obtain ⟨call, ⟨before, after, hsplit, hinternal, _⟩, _⟩ := hlined.mem_internalCalls_iff.mp hmem
    exact ⟨call, by simp [hsplit], hinternal⟩
  · rintro ⟨call, hcall, hinternal⟩
    obtain ⟨first, hfirst⟩ := exists_isFirstInternal hcall hinternal
    refine List.mem_map.mpr ⟨⟨target, first.line⟩, ?_, rfl⟩
    exact hlined.mem_internalCalls_iff.mpr ⟨first, hfirst, rfl⟩

end Lined

/-- **The calls of a body are partitioned.**  For every orderly tree without equal numbers, every
function in it and all imports, the extraction succeeds, and every entry of the lists of the body
belongs to one call.
Taken together the entries come in the pre-order of their calls, and no call has two, so none has
entries in two lists.  A call has the entry that it leaves: a call with an action that starts
nothing has exactly one, in the list that the action is about, and coroutines have none.  The
internal calls have different targets; these are the targets of the calls that have no action and
are no `Get` on a call that starts something; and each has the line of the first such call.

The tree of every source is one of these trees, by `Go.parse?_orderly`. -/
theorem calls_are_partitioned {root function : Go.Node} (horderly : root.Orderly)
    (hnodup : (root.preorder.map Go.Node.id).Nodup) (hfunction : function ∈ root.preorder)
    (imports : SdkImports) :
    ∃ body, (Body.extract imports function).outcome = .ok body ∧
      (∃ contributed : List (Go.Node × BodyRecord),
        body = Body.ofRecords (contributed.map Prod.snd) ∧
        (contributed.map Prod.fst).Sublist function.bodyCalls ∧
        (contributed.map Prod.fst).Nodup ∧
        (∀ call ∈ function.bodyCalls, ∀ record,
          (call, record) ∈ contributed ↔ Leaves imports function.placedCalls call record) ∧
        ∀ call ∈ function.bodyCalls, ∀ action, imports.action? call = some action →
          (∀ role, action ≠ .execute role) →
            (action = .coroutine → ∀ record, (call, record) ∉ contributed) ∧
            (action ≠ .coroutine → ∃ record, action.metadata? imports call = some record ∧
              ∀ other, (call, other) ∈ contributed ↔ other = record)) ∧
      (body.internalCalls.map InternalCall.target).Nodup ∧
      (∀ target, target ∈ body.internalCalls.map InternalCall.target ↔
        ∃ call ∈ function.bodyCalls, IsInternal imports call target) ∧
      ∀ internal ∈ body.internalCalls, ∃ call,
        IsFirstInternal imports function.bodyCalls call internal.target ∧
          internal.line = call.line := by
  have hlined := Go.Node.lined_placedCalls horderly hnodup hfunction
  refine ⟨Body.extracted imports function, (Body.extract_computes imports function).outcome_eq,
    ⟨contributions imports {} function.placedCalls, Body.extracted_eq_ofRecords imports function,
      hlined.sublist_bodyCalls, hlined.nodup_bodyCalls.sublist hlined.sublist_bodyCalls,
      fun call hcall => hlined.mem_contributions_iff hcall, ?_⟩,
    ?_, fun target => hlined.mem_targets_iff, fun internal => hlined.mem_internalCalls_iff.mp⟩
  · intro call hcall action haction hexecute
    simp only [hlined.mem_contributions_iff hcall, leaves_iff_of_action haction hexecute]
    constructor
    · rintro rfl record hrecord
      cases hrecord
    · intro hcoroutine
      obtain ⟨record, hrecord⟩ :=
        Option.isSome_iff_exists.mp (SdkAction.isSome_metadata? hexecute hcoroutine)
      refine ⟨record, hrecord, fun other => ?_⟩
      rw [hrecord, Option.some.injEq, eq_comm]
  · rw [Body.extracted_eq_foldl]
    exact nodup_targets_foldl_after _ List.nodup_nil

/-- A function with a signal, a timer, a coroutine and a started activity, and with internal calls
in the arguments of all kinds of calls, one of them three times. -/
def dispatchSource : String :=
  "package depot\n\nfunc Dispatch(ctx workflow.Context) error \x7b\n" ++
    "\tworkflow.GetSignalChannel(ctx, \"stop\").Receive(ctx, nil)\n" ++
    "\tcheck(audit(ctx), check(ctx))\n" ++
    "\tworkflow.Sleep(ctx, wait(check(ctx)))\n" ++
    "\tworkflow.Await(ctx, ready)\n" ++
    "\treturn workflow.ExecuteActivity(ctx, pack(ctx)).Get(ctx, nil)\n\x7d\n"

/-- Its calls are told apart: one signal, one timer, one site, and four internal calls with the
lines on which they come first. -/
theorem dispatch_calls_are_partitioned :
    ∃ root, Go.parse? dispatchSource = some root ∧ ∃ function ∈ root.preorder,
      ∃ body, (Body.extract {} function).outcome = .ok body ∧
        (∃ contributed : List (Go.Node × BodyRecord),
          body = Body.ofRecords (contributed.map Prod.snd) ∧
          (contributed.map Prod.fst).Sublist function.bodyCalls ∧
          (contributed.map Prod.fst).Nodup) ∧
        (body.signals.map Signal.line, body.timers.map Timer.line,
          body.callSites.map CallSite.line) = ([4], [6], [8]) ∧
        body.internalCalls = [⟨"check", 5⟩, ⟨"audit", 5⟩, ⟨"wait", 6⟩, ⟨"pack", 8⟩] := by
  have hsource : ∃ root ∈ Go.parse? dispatchSource, ∃ function ∈ root.preorder,
      ((Body.extracted {} function).signals.map Signal.line,
        (Body.extracted {} function).timers.map Timer.line,
        (Body.extracted {} function).callSites.map CallSite.line) = ([4], [6], [8]) ∧
      (Body.extracted {} function).internalCalls =
        [⟨"check", 5⟩, ⟨"audit", 5⟩, ⟨"wait", 6⟩, ⟨"pack", 8⟩] := by
    decide +kernel
  obtain ⟨root, hroot, function, hfunction, hlists, hinternal⟩ := hsource
  obtain ⟨horderly, hnodup⟩ := Go.parse?_orderly hroot
  obtain ⟨body, hbody, ⟨contributed, hrecords, horder, honce, _⟩, _⟩ :=
    calls_are_partitioned horderly hnodup hfunction {}
  have hextracted : body = Body.extracted {} function :=
    (Body.extract_computes {} function).eq_of_outcome hbody
  refine ⟨root, hroot, function, hfunction, body, hbody, ⟨contributed, hrecords, horder, honce⟩, ?_⟩
  rw [hextracted]
  exact ⟨hlists, hinternal⟩

end WorkflowGraph
