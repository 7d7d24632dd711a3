import WorkflowGraph.Proofs.ExecuteCalls

/-!
# What each call leaves in a body

A body has nine lists, and one pass over the calls fills them all.  Seen from a call it is simple: a
call leaves one record or none, and which it is can be said of the call and its place alone
(`Leaves`).  A call of the SDK leaves the record of its action; a call that starts something leaves
its site; any other call leaves an internal call, if it is the first one with its target.

The pass itself is told step by step.  `Extraction.added` is what it adds at a call, and
`Extraction.contributions` lists this for a whole run, every record with the call that it is about.
So a body is made of these records (`Extraction.body_foldl_after`).  Whether they are what the calls
leave is another question, since the pass knows only what it has seen.
-/

namespace WorkflowGraph

open Extraction

/-- What a call can leave in a body: an entry for one of the lists. -/
inductive BodyRecord where
  | site (site : CallSite)
  | internal (call : InternalCall)
  | signal (signal : Signal)
  | query (query : Query)
  | update (update : Update)
  | timer (timer : Timer)
  | searchAttribute (names : SearchAttribute)
  | version (version : Version)
  | continueAsNew (marker : ContinueAsNew)

namespace Body

/-- Puts a record at the end of the list of its kind. -/
def add (body : Body) : BodyRecord → Body
  | .site site => { body with callSites := body.callSites ++ [site] }
  | .internal call => { body with internalCalls := body.internalCalls ++ [call] }
  | .signal signal => { body with signals := body.signals ++ [signal] }
  | .query query => { body with queries := body.queries ++ [query] }
  | .update update => { body with updates := body.updates ++ [update] }
  | .timer timer => { body with timers := body.timers ++ [timer] }
  | .searchAttribute names =>
    { body with searchAttributes := body.searchAttributes ++ [names] }
  | .version version => { body with versions := body.versions ++ [version] }
  | .continueAsNew marker => { body with continueAsNew := body.continueAsNew ++ [marker] }

/-- The body whose lists hold the given records, each list in their order. -/
def ofRecords (records : List BodyRecord) : Body := records.foldl add {}

/-- The records of one kind make up the list of the kind. -/
theorem mem_ofRecords {α : Type} {list : Body → List α} {toRecord : α → BodyRecord}
    (hadd : ∀ body record item,
      item ∈ list (add body record) ↔ item ∈ list body ∨ toRecord item = record)
    (hempty : list {} = []) {item : α} (records : List BodyRecord) :
    item ∈ list (ofRecords records) ↔ toRecord item ∈ records := by
  have hfold : ∀ body, item ∈ list (records.foldl add body) ↔
      item ∈ list body ∨ toRecord item ∈ records := by
    induction records with
    | nil => simp
    | cons record records ih =>
        intro body
        rw [List.foldl_cons, ih, hadd, List.mem_cons, or_assoc]
  rw [ofRecords, hfold, hempty]
  simp

theorem mem_internalCalls_ofRecords {internal : InternalCall} {records : List BodyRecord} :
    internal ∈ (ofRecords records).internalCalls ↔ .internal internal ∈ records :=
  mem_ofRecords (fun _ record _ => by cases record <;> simp [add]) rfl records

theorem mem_versions_ofRecords {version : Version} {records : List BodyRecord} :
    version ∈ (ofRecords records).versions ↔ .version version ∈ records :=
  mem_ofRecords (fun _ record _ => by cases record <;> simp [add]) rfl records

theorem mem_callSites_ofRecords {site : CallSite} {records : List BodyRecord} :
    site ∈ (ofRecords records).callSites ↔ .site site ∈ records :=
  mem_ofRecords (fun _ record _ => by cases record <;> simp [add]) rfl records

end Body

/-! ## What a call leaves -/

/-- The record of a call with an action, in the list that the action is about.  Calls that start
something have none here, and coroutines have none at all. -/
def SdkAction.metadata? (imports : SdkImports) (call : Go.Node) : SdkAction → Option BodyRecord
  | .execute _ => none
  | .setSignalHandler =>
    some (.signal
      { name := Go.Node.nameOf call.arguments[1]?
        handler := call.arguments[2]?.bind Go.Node.handlerName?
        line := call.line
        channel := false })
  | .getSignalChannel =>
    some (.signal
      { name := Go.Node.nameOf call.arguments[1]?
        handler := none
        line := call.line
        channel := true })
  | .setQueryHandler =>
    some (.query
      { name := Go.Node.nameOf call.arguments[1]?
        handler := call.arguments[2]?.bind Go.Node.handlerName?
        line := call.line })
  | .setUpdateHandler withOptions =>
    some (.update
      { name := Go.Node.nameOf call.arguments[1]?
        handler := call.arguments[2]?.bind Go.Node.handlerName?
        line := call.line
        hasValidator := withOptions && WorkflowGraph.hasValidator call.arguments[3]? })
  | .sleep => some (.timer ⟨(call.arguments[1]?.map Go.Node.text).getD "", true, call.line⟩)
  | .newTimer => some (.timer ⟨(call.arguments[1]?.map Go.Node.text).getD "", false, call.line⟩)
  | .getVersion =>
    some (.version
      { changeId := Go.Node.nameOf call.arguments[1]?
        minVersion := call.arguments[2]?.bind (Body.versionValue? imports)
        maxVersion := call.arguments[3]?.bind (Body.versionValue? imports)
        line := call.line })
  | .upsertSearchAttributes =>
    some (.searchAttribute ⟨Body.attributeNames call.arguments[1]?, call.line⟩)
  | .upsertTypedSearchAttributes => some (.searchAttribute ⟨dynamicAttribute, call.line⟩)
  | .continueAsNew =>
    some (.continueAsNew ⟨call.arguments[1]?.map Go.Node.targetName, call.line⟩)
  | .coroutine => none

/-- All actions leave a record but those that start something and coroutines. -/
theorem SdkAction.isSome_metadata? {imports : SdkImports} {call : Go.Node} {action : SdkAction}
    (hexecute : ∀ role, action ≠ .execute role) (hcoroutine : action ≠ .coroutine) :
    (action.metadata? imports call).isSome = true := by
  cases action with
  | execute role => exact absurd rfl (hexecute role)
  | coroutine => exact absurd rfl hcoroutine
  | _ => rfl

/-- The call is one that the SDK has no part in, and its target is of interest: it has no action and
is no `Get` on a call that starts something. -/
structure IsInternal (imports : SdkImports) (call : Go.Node) (target : String) : Prop where
  action : imports.action? call = none
  get : ∀ inner role, ReadsResultOf call inner → inner.kind = .callExpression →
    imports.action? inner ≠ some (.execute role)
  target : ∃ callee, call.callee? = some callee ∧ Body.internalTarget? imports callee = some target

/-- The call is the first internal one with its target. -/
def IsFirstInternal (imports : SdkImports) (calls : List Go.Node) (call : Go.Node)
    (target : String) : Prop :=
  ∃ before after, calls = before ++ call :: after ∧ IsInternal imports call target ∧
    ∀ earlier ∈ before, ¬IsInternal imports earlier target

/-- What a call among all calls of a body leaves. -/
def Leaves (imports : SdkImports) (all : List Go.PlacedCall) (call : Go.Node)
    (record : BodyRecord) : Prop :=
  match imports.action? call with
  | some (.execute _) => ∃ site, IsSiteOf imports all call site ∧ record = .site site
  | some action => action.metadata? imports call = some record
  | none =>
    ∃ target, IsFirstInternal imports (all.map Go.PlacedCall.call) call target ∧
      record = .internal ⟨target, call.line⟩

section Leaves

variable {imports : SdkImports} {all : List Go.PlacedCall} {call : Go.Node} {record : BodyRecord}

theorem leaves_iff_of_execute {role : CallRole}
    (haction : imports.action? call = some (.execute role)) :
    Leaves imports all call record ↔
      ∃ site, IsSiteOf imports all call site ∧ record = .site site := by
  simp only [Leaves, haction]

theorem leaves_iff_of_action {action : SdkAction} (haction : imports.action? call = some action)
    (hexecute : ∀ role, action ≠ .execute role) :
    Leaves imports all call record ↔ action.metadata? imports call = some record := by
  unfold Leaves
  rw [haction]
  cases action with
  | execute role => exact absurd rfl (hexecute role)
  | _ => exact Iff.rfl

theorem leaves_iff_of_none (haction : imports.action? call = none) :
    Leaves imports all call record ↔
      ∃ target, IsFirstInternal imports (all.map Go.PlacedCall.call) call target ∧
        record = .internal ⟨target, call.line⟩ := by
  simp only [Leaves, haction]

theorem IsInternal.unique {target other : String} (h : IsInternal imports call target)
    (h' : IsInternal imports call other) : target = other := by
  obtain ⟨callee, hcallee, htarget⟩ := h.target
  obtain ⟨callee', hcallee', htarget'⟩ := h'.target
  obtain rfl := Option.some.inj (hcallee.symm.trans hcallee')
  exact Option.some.inj (htarget.symm.trans htarget')

/-- What the extractor takes for an internal call is one. -/
theorem Extraction.finding_eq_internal_iff {placed : Go.PlacedCall} {target : String} :
    finding imports placed = .internal target ↔ IsInternal imports placed.call target := by
  constructor
  · intro h
    have hget : ∀ inner role, ReadsResultOf placed.call inner → inner.kind = .callExpression →
        imports.action? inner ≠ some (.execute role) := by
      intro inner role hreads hkind hexecute
      rw [finding_of_reads hreads hkind hexecute] at h
      cases h
    have haction : imports.action? placed.call = none :=
      action?_eq_none_of_finding (by simp [h])
    refine ⟨haction, hget, ?_⟩
    unfold finding at h
    split at h
    · cases h
    · next callee hcallee =>
        refine ⟨callee, hcallee, ?_⟩
        split at h
        · cases h
        · rw [haction] at h
          simp only at h
          split at h
          · next found hfound => rw [hfound, Finding.internal.inj h]
          · cases h
  · intro h
    obtain ⟨callee, hcallee, htarget⟩ := h.target
    have hstarted : startedBy? imports callee = none := by
      cases hstarted : startedBy? imports callee with
      | none => rfl
      | some started =>
          obtain ⟨role, inner⟩ := started
          obtain ⟨_, hkind, hexecute⟩ := eq_of_startedBy? hstarted
          have hfinding : finding imports placed =
              .started ⟨inner, .execute role, readType? placed⟩ := by
            simp only [finding, hcallee, hstarted]
            rfl
          obtain ⟨_, _, heq, hreads, _⟩ := reads_of_finding hfinding
          rw [(CountedCall.mk.inj heq).1] at hexecute hkind
          exact absurd hexecute (h.get _ role hreads hkind)
    simp only [finding, hcallee, hstarted, h.action, htarget]

/-- A call has one site at most. -/
theorem IsSiteOf.unique {site other : CallSite} (h : IsSiteOf imports all call site)
    (h' : IsSiteOf imports all call other) : site = other := by
  have hrole : site.targetRole = other.targetRole := by
    have hsame := Option.some.inj (h.role.symm.trans h'.role)
    exact SdkAction.execute.inj hsame
  have htarget : site.targetName = other.targetName :=
    Option.some.inj (h.target.symm.trans h'.target)
  have hresult : site.resultType = other.resultType := by
    by_cases hread : ∃ get ∈ all, ReadsResultOf get.call call
    · obtain ⟨get, hget, hreads⟩ := hread
      rw [h.read get hget hreads, h'.read get hget hreads]
    · have hnone : ∀ get ∈ all, ¬ReadsResultOf get.call call :=
        fun get hget hreads => hread ⟨get, hget, hreads⟩
      rw [h.unread hnone, h'.unread hnone]
  cases site
  cases other
  simp only [CallSite.mk.injEq]
  exact ⟨htarget, hrole, h.line.trans h'.line.symm, h.options.trans h'.options.symm,
    h.argumentCount.trans h'.argumentCount.symm, h.argumentTypes.trans h'.argumentTypes.symm,
    hresult, h.pending.trans h'.pending.symm⟩

/-- A call that starts something leaves the site that is made for it with the right result. -/
theorem leaves_iff_callSite? {role : CallRole} {resultType : Option String}
    (haction : imports.action? call = some (.execute role))
    (hread : ∀ get ∈ all, ReadsResultOf get.call call → resultType = readType? get)
    (hunread : (∀ get ∈ all, ¬ReadsResultOf get.call call) → resultType = none) :
    Leaves imports all call record ↔
      (Body.callSite? imports role call resultType).map BodyRecord.site = some record := by
  rw [leaves_iff_of_execute haction, Option.map_eq_some_iff]
  constructor
  · rintro ⟨site, hsite, rfl⟩
    obtain ⟨target, htarget, _⟩ := Option.map_eq_some_iff.mp hsite.target
    obtain ⟨harguments, _⟩ := List.getElem?_eq_some_iff.mp htarget
    have hsome : (Body.callSite? imports role call resultType).isSome = true := by
      rw [isSome_callSite?]
      exact decide_eq_true harguments
    obtain ⟨made, hmade⟩ := Option.isSome_iff_exists.mp hsome
    refine ⟨made, hmade, ?_⟩
    rw [(isSiteOf_of_callSite? hmade haction hread hunread).unique hsite]
  · rintro ⟨site, hsite, rfl⟩
    exact ⟨site, isSiteOf_of_callSite? hsite haction hread hunread, rfl⟩

end Leaves

/-! ## What a step adds -/

/-- The record of a counted call. -/
def CountedCall.record? (imports : SdkImports) (counted : CountedCall) : Option BodyRecord :=
  match counted.action with
  | .execute role =>
    (Body.callSite? imports role counted.call counted.resultType).map BodyRecord.site
  | action => action.metadata? imports counted.call

namespace CountedCall

variable {imports : SdkImports} {call : Go.Node} {resultType : Option String}

theorem record?_execute {role : CallRole} :
    record? imports ⟨call, .execute role, resultType⟩ =
      (Body.callSite? imports role call resultType).map BodyRecord.site := rfl

theorem record?_of_action {action : SdkAction} (hexecute : ∀ role, action ≠ .execute role) :
    record? imports ⟨call, action, resultType⟩ = action.metadata? imports call := by
  cases action with
  | execute role => exact absurd rfl (hexecute role)
  | _ => rfl

end CountedCall

theorem Body.count_eq_add (imports : SdkImports) (body : Body) (counted : CountedCall) :
    body.count imports counted = (counted.record? imports).elim body body.add := by
  rcases counted with ⟨call, action, resultType⟩
  cases action with
  | execute role =>
      rw [count_execute, CountedCall.record?_execute]
      cases callSite? imports role call resultType <;> rfl
  | _ => rfl

/-- Some internal call of the body has the target. -/
def Body.hasTarget (body : Body) (target : String) : Bool :=
  body.internalCalls.any fun call => call.target == target

theorem Body.addInternalCall_eq (body : Body) (target : String) (line : Nat) :
    body.addInternalCall target line =
      if body.hasTarget target then body else body.add (.internal ⟨target, line⟩) := rfl

namespace Extraction

/-- What the extractor adds at a call, with the call that it is about: this can be the call that a
`Get` reads. -/
def added (imports : SdkImports) (extraction : Extraction) (placed : Go.PlacedCall) :
    Option (Go.Node × BodyRecord) :=
  if extraction.folded.contains placed.call.id then none
  else
    match finding imports placed with
    | .started counted => (counted.record? imports).map (counted.call, ·)
    | .counted counted => (counted.record? imports).map (counted.call, ·)
    | .internal target =>
      if extraction.body.hasTarget target then none
      else some (placed.call, .internal ⟨target, placed.call.line⟩)
    | .nothing => none

/-- All that the extractor adds at the calls of a list. -/
def contributions (imports : SdkImports) :
    Extraction → List Go.PlacedCall → List (Go.Node × BodyRecord)
  | _, [] => []
  | extraction, placed :: rest =>
    (extraction.added imports placed).toList ++
      contributions imports (extraction.after imports placed) rest

/-- **What one step does to the body**: it puts what it adds into the list of its kind. -/
theorem body_after (imports : SdkImports) (extraction : Extraction) (placed : Go.PlacedCall) :
    (extraction.after imports placed).body =
      (extraction.added imports placed).elim extraction.body fun pair =>
        extraction.body.add pair.2 := by
  unfold after added
  by_cases hfolded : extraction.folded.contains placed.call.id = true
  · rw [if_pos hfolded, if_pos hfolded]
    rfl
  rw [if_neg hfolded, if_neg hfolded]
  cases finding imports placed with
  | started counted =>
      simp only [Body.count_eq_add]
      cases counted.record? imports <;> rfl
  | counted counted =>
      simp only [Body.count_eq_add]
      cases counted.record? imports <;> rfl
  | internal target =>
      simp only [Body.addInternalCall_eq]
      by_cases hseen : extraction.body.hasTarget target = true
      · rw [if_pos hseen, if_pos hseen]
        rfl
      · rw [if_neg hseen, if_neg hseen]
        rfl
  | nothing => rfl

/-- What a run does to the body. -/
theorem body_foldl_after (imports : SdkImports) (placedCalls : List Go.PlacedCall)
    (extraction : Extraction) :
    (placedCalls.foldl (after imports) extraction).body =
      ((contributions imports extraction placedCalls).map Prod.snd).foldl Body.add
        extraction.body := by
  induction placedCalls generalizing extraction with
  | nil => rfl
  | cons placed rest ih =>
      rw [List.foldl_cons, ih, body_after, contributions, List.map_append, List.foldl_append]
      cases extraction.added imports placed <;> rfl

section Skipped

variable {imports : SdkImports} {extraction : Extraction} {placed : Go.PlacedCall}

theorem after_of_folded (h : placed.call.id ∈ extraction.folded) :
    extraction.after imports placed = extraction := by
  rw [after, if_pos (List.contains_iff_mem.mpr h)]

/-- A call that is skipped adds nothing. -/
theorem contributions_of_folded (rest : List Go.PlacedCall)
    (h : placed.call.id ∈ extraction.folded) :
    contributions imports extraction (placed :: rest) = contributions imports extraction rest := by
  rw [contributions, after_of_folded h, added, if_pos (List.contains_iff_mem.mpr h)]
  rfl

end Skipped

end Extraction

end WorkflowGraph
