import Mathlib.Data.List.Forall2
import WorkflowGraph.Proofs.CallOrder
import WorkflowGraph.Proofs.OrderlyGrammar

/-!
# Every call that starts something is one call site

The extractor visits a `Get` before the call whose result it reads.  It records the call there and
then, with the type of the result, and passes over the call when it comes to it.  This keeps the
order of the calls only because nothing comes in between: in an orderly tree the call that a `Get` is
selected on is the next call after the `Get` (`Go.Node.next_call`).  And it passes over no other
call, because no two nodes have one number.

So the call sites of a body are its calls that start something, in pre-order and each of them once
(`execute_calls_are_sites`).
-/

namespace WorkflowGraph

namespace Extraction

variable {imports : SdkImports} {all : List Go.PlacedCall}

/-! ## What a `Get` reads -/

/-- A call of the name `Get` on another call. -/
def ReadsResultOf (get call : Go.Node) : Prop :=
  ∃ name, Calls get (some call) name ∧ name.text = "Get"

/-- The type that the second argument of a call is read into. -/
def readType? (get : Go.PlacedCall) : Option String :=
  get.call.arguments[1]?.bind (Go.Node.resultType? get.scope)

theorem finding_of_reads {get : Go.PlacedCall} {call : Go.Node} {role : CallRole}
    (hreads : ReadsResultOf get.call call) (hkind : call.kind = .callExpression)
    (haction : imports.action? call = some (.execute role)) :
    finding imports get = .started ⟨call, .execute role, readType? get⟩ := by
  obtain ⟨name, hcalls, hname⟩ := hreads
  have hrole : imports.executeRole? call = some role := by
    simp only [SdkImports.executeRole?, haction]
  have hstarted : startedBy? imports ⟨some call, name⟩ = some (role, call) := by
    simp [startedBy?, hname, hkind, hrole]
  simp only [finding, Go.Node.callee?_eq_some_iff.mpr hcalls, hstarted]
  rfl

theorem reads_of_finding {get : Go.PlacedCall} {counted : CountedCall}
    (h : finding imports get = .started counted) :
    ∃ call role, counted = ⟨call, .execute role, readType? get⟩ ∧ ReadsResultOf get.call call ∧
      call.kind = .callExpression ∧ imports.action? call = some (.execute role) := by
  unfold finding at h
  split at h
  · cases h
  · next callee hcallee =>
      split at h
      · next role inner hstarted =>
          obtain ⟨hoperand, hkind, haction⟩ := eq_of_startedBy? hstarted
          have hname : callee.name.text = "Get" := by
            by_contra hother
            simp [startedBy?, hother] at hstarted
          refine ⟨inner, role, (Finding.started.inj h).symm, ⟨callee.name, ?_, hname⟩, hkind, haction⟩
          rw [← Go.Node.callee?_eq_some_iff, ← hoperand]
          exact hcallee
      · split at h
        · cases h
        · split at h <;> cases h

/-- What is counted by itself is counted with its action. -/
theorem action_of_finding_counted {placed : Go.PlacedCall} {counted : CountedCall}
    (h : finding imports placed = .counted counted) :
    ∃ action, counted = ⟨placed.call, action, none⟩ ∧
      imports.action? placed.call = some action := by
  cases haction : imports.action? placed.call with
  | none =>
      unfold finding at h
      simp only [haction] at h
      repeat' split at h
      all_goals cases h
  | some action =>
      exact ⟨action, (Finding.counted.inj ((finding_of_action haction).symm.trans h)).symm, rfl⟩

/-- A call with an action reads nothing. -/
theorem not_reads_of_action {call other : Go.Node} {action : SdkAction}
    (haction : imports.action? call = some action) : ¬ReadsResultOf call other := by
  rintro ⟨name, hcalls, hname⟩
  have hget : Sdk.action? "Get" = none := by decide
  simp [SdkImports.action?, Go.Node.callee?_eq_some_iff.mpr hcalls, hname, hget] at haction

end Extraction

/-! ## The sites of counted calls -/

open Extraction

/-- A call site says of a call what the call itself says.  The type of the result is that of the `Get` on
the call, if there is one among all calls of the body. -/
structure IsSiteOf (imports : SdkImports) (all : List Go.PlacedCall) (call : Go.Node)
    (site : CallSite) : Prop where
  role : imports.action? call = some (.execute site.targetRole)
  line : site.line = call.line
  target : call.arguments[1]?.map Go.Node.targetName = some site.targetName
  options : site.options = call.arguments[0]?.bind (Body.contextOptions? imports)
  argumentCount : site.argumentCount = call.arguments.length - 2
  argumentTypes : site.argumentTypes = (call.arguments.drop 2).map Go.Node.typeTag
  read : ∀ get ∈ all, ReadsResultOf get.call call → site.resultType = readType? get
  unread : (∀ get ∈ all, ¬ReadsResultOf get.call call) → site.resultType = none
  pending : site.resolution = .pending

/-- Whether a call starts something that it names: it has a context and a target. -/
def SdkImports.startsTarget (imports : SdkImports) (call : Go.Node) : Bool :=
  (imports.executeRole? call).isSome && decide (2 ≤ call.arguments.length)

namespace Body

/-- The call site that a counted call records. -/
def siteOf? (imports : SdkImports) (counted : CountedCall) : Option CallSite :=
  match counted.action with
  | .execute role => callSite? imports role counted.call counted.resultType
  | _ => none

theorem siteOf?_execute (imports : SdkImports) (call : Go.Node) (role : CallRole)
    (resultType : Option String) :
    siteOf? imports ⟨call, .execute role, resultType⟩ =
      callSite? imports role call resultType := rfl

theorem callSites_count (imports : SdkImports) (body : Body) (counted : CountedCall) :
    (body.count imports counted).callSites =
      body.callSites ++ (siteOf? imports counted).toList := by
  rcases counted with ⟨call, action, resultType⟩
  cases action with
  | execute role =>
      rw [count_execute, siteOf?_execute]
      cases callSite? imports role call resultType with
      | none => exact (List.append_nil _).symm
      | some site => rfl
  | _ => exact (List.append_nil _).symm

/-- The call sites of a body are those of its counted calls. -/
theorem callSites_foldl_count (imports : SdkImports) (body : Body) (counted : List CountedCall) :
    (counted.foldl (count imports) body).callSites =
      body.callSites ++ counted.filterMap (siteOf? imports) := by
  induction counted generalizing body with
  | nil => exact (List.append_nil _).symm
  | cons first rest ih =>
      rw [List.foldl_cons, ih, callSites_count, List.append_assoc]
      cases hsite : siteOf? imports first with
      | none => rw [List.filterMap_cons_none hsite]; rfl
      | some site => rw [List.filterMap_cons_some hsite]; rfl

end Body

section Sites

variable {imports : SdkImports} {all : List Go.PlacedCall}

theorem isSiteOf_of_callSite? {call : Go.Node} {role : CallRole} {resultType : Option String}
    {site : CallSite} (hsite : Body.callSite? imports role call resultType = some site)
    (haction : imports.action? call = some (.execute role))
    (hread : ∀ get ∈ all, ReadsResultOf get.call call → resultType = readType? get)
    (hunread : (∀ get ∈ all, ¬ReadsResultOf get.call call) → resultType = none) :
    IsSiteOf imports all call site := by
  unfold Body.callSite? at hsite
  split at hsite
  · next context target payload harguments =>
      obtain rfl := Option.some.inj hsite
      exact
        { role := haction
          line := rfl
          target := by simp [harguments]
          options := by simp [harguments]
          argumentCount := by simp [harguments]
          argumentTypes := by simp [harguments]
          read := hread
          unread := hunread
          pending := rfl }
  · cases hsite

theorem isSome_callSite? (role : CallRole) (call : Go.Node) (resultType : Option String) :
    (Body.callSite? imports role call resultType).isSome = decide (2 ≤ call.arguments.length) := by
  unfold Body.callSite?
  rcases call.arguments with _ | ⟨context, _ | ⟨target, payload⟩⟩ <;> simp

/-- The sites of the counted calls are those of the calls that start something, in their order. -/
def RecordsSites (imports : SdkImports) (all calls : List Go.PlacedCall)
    (counted : List CountedCall) : Prop :=
  List.Forall₂ (fun placed => IsSiteOf imports all placed.call)
    (calls.filter fun placed => imports.startsTarget placed.call)
    (counted.filterMap (Body.siteOf? imports))

variable {placed : Go.PlacedCall} {others : List Go.PlacedCall} {counted : List CountedCall}

/-- A call that starts something goes before the others, with its site if it has one. -/
theorem RecordsSites.cons (h : RecordsSites imports all others counted) {role : CallRole}
    {resultType : Option String} (haction : imports.action? placed.call = some (.execute role))
    (hread : ∀ get ∈ all, ReadsResultOf get.call placed.call → resultType = readType? get)
    (hunread : (∀ get ∈ all, ¬ReadsResultOf get.call placed.call) → resultType = none) :
    RecordsSites imports all (placed :: others)
      (⟨placed.call, .execute role, resultType⟩ :: counted) := by
  have hstarts : imports.startsTarget placed.call =
      (Body.siteOf? imports ⟨placed.call, .execute role, resultType⟩).isSome := by
    rw [Body.siteOf?_execute, isSome_callSite?]
    simp [SdkImports.startsTarget, SdkImports.executeRole?, haction]
  unfold RecordsSites
  cases hsite : Body.siteOf? imports ⟨placed.call, .execute role, resultType⟩ with
  | none =>
      rw [hsite] at hstarts
      rw [List.filter_cons_of_neg (by simp [hstarts]), List.filterMap_cons_none hsite]
      exact h
  | some site =>
      rw [hsite] at hstarts
      rw [List.filter_cons_of_pos (by simp [hstarts]), List.filterMap_cons_some hsite]
      exact .cons (isSiteOf_of_callSite? hsite haction hread hunread) h

/-- A call that starts nothing has no site. -/
theorem RecordsSites.skip (h : RecordsSites imports all others counted)
    (hnone : ∀ role, imports.action? placed.call ≠ some (.execute role)) :
    RecordsSites imports all (placed :: others) counted := by
  have hstarts : ¬imports.startsTarget placed.call = true := by
    intro hstarts
    obtain ⟨hsome, _⟩ := Bool.and_eq_true_iff.mp hstarts
    obtain ⟨role, hrole⟩ := Option.isSome_iff_exists.mp hsome
    exact hnone role (SdkImports.action?_of_executeRole? hrole)
  unfold RecordsSites
  rw [List.filter_cons_of_neg (by simpa using hstarts)]
  exact h

/-! ## The calls one after the other -/

/-- The calls of a body as they are visited: no number occurs twice, and after a call on another call
comes that other one. -/
structure Lined (all : List Go.PlacedCall) : Prop where
  kind : ∀ placed ∈ all, placed.call.kind = .callExpression
  nodup : (all.map fun placed => placed.call.id).Nodup
  next : ∀ {front more : List Go.PlacedCall} {get : Go.PlacedCall} {call : Go.Node},
    all = front ++ get :: more → ReadsResultOf get.call call → call.kind = .callExpression →
      ∃ read later, more = read :: later ∧ read.call = call

/-- A list without equal keys is split in one way at a key. -/
theorem split_unique {α : Type} (key : α → Nat) {front front' more more' : List α} {a b : α}
    (hnodup : ((front ++ a :: more).map key).Nodup) (heq : front ++ a :: more = front' ++ b :: more')
    (hkey : key a = key b) : front = front' := by
  induction front generalizing front' with
  | nil =>
      cases front' with
      | nil => rfl
      | cons first others =>
          obtain ⟨rfl, rfl⟩ := List.cons.inj heq
          simp [hkey] at hnodup
  | cons first others ih =>
      rw [List.cons_append, List.map_cons, List.nodup_cons] at hnodup
      cases front' with
      | nil =>
          obtain ⟨rfl, rfl⟩ := List.cons.inj heq
          exact absurd (by simp [hkey]) hnodup.1
      | cons first' others' =>
          obtain ⟨rfl, hrest⟩ := List.cons.inj heq
          rw [ih hnodup.2 hrest]

/-- The only call that reads another is the one right before it. -/
theorem Lined.getLast?_of_reads {before rest : List Go.PlacedCall} {placed get : Go.PlacedCall}
    (hall : Lined all) (hsplit : all = before ++ placed :: rest) (hget : get ∈ all)
    (hreads : ReadsResultOf get.call placed.call) : before.getLast? = some get := by
  have hkind := hall.kind placed (by simp [hsplit])
  obtain ⟨front, more, hplace⟩ := List.append_of_mem hget
  obtain ⟨read, later, rfl, hread⟩ := hall.next hplace hreads hkind
  have hafter : all = (front ++ [get]) ++ read :: later := by rw [hplace, List.append_assoc]; rfl
  have hbefore : before = front ++ [get] := by
    refine split_unique (fun placed => placed.call.id) ?_ (hsplit.symm.trans hafter) (by rw [hread])
    rw [← hsplit]
    exact hall.nodup
  rw [hbefore, List.getLast?_concat]

/-- Where the extractor stands between two calls.  Of the calls to come it has to skip none, and no call
that it has passed reads one of them. -/
structure Halfway (imports : SdkImports) (all : List Go.PlacedCall) (folded : List Nat)
    (before rest : List Go.PlacedCall) : Prop where
  split : all = before ++ rest
  fresh : ∀ placed ∈ rest, placed.call.id ∉ folded
  past : ∀ get ∈ before, ∀ placed ∈ rest, ∀ role,
    imports.action? placed.call = some (.execute role) → ¬ReadsResultOf get.call placed.call

variable {folded : List Nat} {before rest : List Go.PlacedCall}

/-- Passing a call that reads none of the rest. -/
theorem Halfway.pass (h : Halfway imports all folded before (placed :: rest))
    (hnone : ∀ other ∈ rest, ∀ role, imports.action? other.call = some (.execute role) →
      ¬ReadsResultOf placed.call other.call) :
    Halfway imports all folded (before ++ [placed]) rest where
  split := by rw [h.split, List.append_assoc]; rfl
  fresh other hother := h.fresh other (List.mem_cons_of_mem _ hother)
  past get hget other hother := by
    rcases List.mem_append.mp hget with hbefore | hlast
    · exact h.past get hbefore other (List.mem_cons_of_mem _ hother)
    · obtain rfl := List.mem_singleton.mp hlast
      exact hnone other hother

/-- Passing a call that is no `Get` on a call that starts something. -/
theorem Halfway.pass_of_finding (hall : Lined all)
    (h : Halfway imports all folded before (placed :: rest))
    (hstarted : ∀ counted, finding imports placed ≠ .started counted) :
    Halfway imports all folded (before ++ [placed]) rest := by
  refine h.pass fun other hother role haction hreads => ?_
  have hmem : other ∈ all := by simp [h.split, hother]
  exact hstarted _ (finding_of_reads hreads (hall.kind other hmem) haction)

/-- Passing a call together with the one that it reads, which follows it. -/
theorem Halfway.passBoth {get : Go.PlacedCall} (hall : Lined all)
    (h : Halfway imports all folded before (get :: placed :: rest))
    (hreads : ReadsResultOf get.call placed.call) {role : CallRole}
    (haction : imports.action? placed.call = some (.execute role)) :
    Halfway imports all (placed.call.id :: folded) (before ++ [get, placed]) rest := by
  have hother : ∀ other ∈ rest, other.call.id ≠ placed.call.id := by
    intro other hmem heq
    have hnodup := hall.nodup
    rw [h.split, List.map_append, List.map_cons, List.map_cons] at hnodup
    have htail := (List.nodup_cons.mp (List.nodup_cons.mp (List.nodup_append.mp hnodup).2.1).2).1
    exact htail (List.mem_map.mpr ⟨other, hmem, heq⟩)
  refine ⟨by rw [h.split, List.append_assoc]; rfl, ?_, ?_⟩
  · intro other hmem hfolded
    rcases List.mem_cons.mp hfolded with heq | hold
    · exact hother other hmem heq
    · exact h.fresh other (by simp [hmem]) hold
  · intro reader hreader other hmem otherRole hexecute hreadsOther
    rcases List.mem_append.mp hreader with hbefore | hpair
    · exact h.past reader hbefore other (by simp [hmem]) otherRole hexecute hreadsOther
    · rcases List.mem_pair.mp hpair with rfl | rfl
      · obtain ⟨name, hcalls, _⟩ := hreads
        obtain ⟨name', hcalls', _⟩ := hreadsOther
        have hsame := Option.some.inj (hcalls.unique hcalls').1
        exact hother other hmem (by rw [hsame])
      · exact not_reads_of_action haction hreadsOther

/-- A call that starts something and comes up by itself is read by none. -/
theorem Halfway.not_read (hall : Lined all) (h : Halfway imports all folded before (placed :: rest))
    {role : CallRole} (haction : imports.action? placed.call = some (.execute role)) :
    ∀ get ∈ all, ¬ReadsResultOf get.call placed.call := by
  intro get hget hreads
  have hlast := hall.getLast?_of_reads h.split hget hreads
  exact h.past get (List.mem_of_getLast? hlast) placed List.mem_cons_self role haction hreads

/-- Whatever reads a call right after its `Get` is that `Get`. -/
theorem Halfway.eq_of_reads {get other : Go.PlacedCall} (hall : Lined all)
    (h : Halfway imports all folded before (get :: placed :: rest)) (hother : other ∈ all)
    (hreads : ReadsResultOf other.call placed.call) : other = get := by
  have hafter : all = (before ++ [get]) ++ placed :: rest := by
    rw [h.split, List.append_assoc]
    rfl
  have hlast := hall.getLast?_of_reads hafter hother hreads
  rw [List.getLast?_concat] at hlast
  exact (Option.some.inj hlast).symm

/-- The site of a call that is read is recorded with the type that it is read into. -/
theorem Halfway.records_both {get : Go.PlacedCall} (hall : Lined all)
    (h : Halfway imports all folded before (get :: placed :: rest))
    (hreads : ReadsResultOf get.call placed.call) {role : CallRole}
    (haction : imports.action? placed.call = some (.execute role))
    (hrest : RecordsSites imports all rest counted) :
    RecordsSites imports all (get :: placed :: rest)
      (⟨placed.call, .execute role, readType? get⟩ :: counted) := by
  refine (hrest.cons haction ?_ ?_).skip fun _ hget => not_reads_of_action hget hreads
  · intro other hother hreadsOther
    rw [h.eq_of_reads hall hother hreadsOther]
  · intro hnone
    exact absurd hreads (hnone get (by simp [h.split]))

/-- The site of a call that comes up by itself is recorded without a type. -/
theorem Halfway.records_one (hall : Lined all)
    (h : Halfway imports all folded before (placed :: rest)) {action : SdkAction}
    (haction : imports.action? placed.call = some action)
    (hrest : RecordsSites imports all rest counted) :
    RecordsSites imports all (placed :: rest) (⟨placed.call, action, none⟩ :: counted) := by
  cases action with
  | execute role =>
      have hnone := h.not_read hall haction
      exact hrest.cons haction (fun get hget hreads => absurd hreads (hnone get hget)) fun _ => rfl
  | _ => exact hrest.skip (by simp [haction])

/-- **The sites of the calls to come.**  From wherever the extractor stands, the sites that it records are
those of the calls to come that start something, in their order. -/
theorem Halfway.records (hall : Lined all) :
    ∀ {rest before : List Go.PlacedCall} {folded : List Nat},
      Halfway imports all folded before rest →
      RecordsSites imports all rest (countedCalls imports folded rest)
  | [], _, _, _ => .nil
  | placed :: rest, before, folded, h => by
      have hfresh : ¬folded.contains placed.call.id = true := by
        simpa using h.fresh placed List.mem_cons_self
      -- a call that is neither started by a `Get` nor counted has no part in the sites
      have hquiet : (∀ counted, finding imports placed ≠ .started counted) →
          (∀ counted, finding imports placed ≠ .counted counted) →
          RecordsSites imports all (placed :: rest) (countedCalls imports folded rest) := by
        intro hstarted hcounted
        refine (records hall (h.pass_of_finding hall hstarted)).skip fun role => ?_
        rw [action?_eq_none_of_finding hcounted]
        exact fun h => nomatch h
      rw [countedCalls, if_neg hfresh]
      cases hfinding : finding imports placed with
      | started counted =>
          obtain ⟨call, role, rfl, hreads, hcall, haction⟩ := reads_of_finding hfinding
          obtain ⟨read, later, rfl, rfl⟩ := hall.next h.split hreads hcall
          simp only
          rw [countedCalls, if_pos (by simp)]
          exact h.records_both hall hreads haction
            (records hall (h.passBoth hall hreads haction))
      | counted counted =>
          obtain ⟨action, rfl, haction⟩ := action_of_finding_counted hfinding
          exact h.records_one hall haction
            (records hall (h.pass fun _ _ _ _ => not_reads_of_action haction))
      | internal target => exact hquiet (by simp [hfinding]) (by simp [hfinding])
      | nothing => exact hquiet (by simp [hfinding]) (by simp [hfinding])
termination_by rest => rest.length

end Sites

/-! ## The sites of a body -/

namespace Go.Node

/-- The calls in the body of a function, each with the innermost function around it. -/
def placedCalls (function : Node) : List PlacedCall :=
  match function.field? .body with
  | none => []
  | some block => block.calls (some function)

theorem map_call_placedCalls (function : Node) :
    function.placedCalls.map PlacedCall.call = function.bodyCalls := by
  unfold placedCalls bodyCalls
  cases function.field? .body with
  | none => rfl
  | some block => exact map_call_calls (some function) block

theorem lined_calls {block : Node} (horderly : block.Orderly)
    (hnodup : (block.preorder.map id).Nodup) (scope : Option Node) : Lined (block.calls scope) where
  kind placed hplaced := (mem_calls_iff.mp ⟨placed, hplaced, rfl⟩).2
  nodup := by
    have hids : ((block.calls scope).map fun placed => placed.call.id) =
        (block.preorder.filter fun node => node.kind = .callExpression).map id := by
      rw [← map_call_calls scope, List.map_map]
      rfl
    rw [hids]
    exact hnodup.sublist (List.filter_sublist.map id)
  next hsplit hreads hkind := by
    obtain ⟨name, hcalls, _⟩ := hreads
    have hnodes := map_call_calls scope block
    rw [hsplit, List.map_append, List.map_cons] at hnodes
    obtain ⟨later, hmore⟩ := next_call horderly hnodes.symm hcalls hkind
    obtain ⟨read, rest, rfl, hread, _⟩ := List.map_eq_cons_iff.mp hmore
    exact ⟨read, rest, rfl, hread⟩

/-- The calls of a function of a source are lined up. -/
theorem lined_placedCalls {root function : Node} (horderly : root.Orderly)
    (hnodup : (root.preorder.map id).Nodup) (hfunction : function ∈ root.preorder) :
    Lined function.placedCalls := by
  unfold placedCalls
  cases hblock : function.field? .body with
  | none => exact ⟨by simp, List.nodup_nil, fun h => by simp at h⟩
  | some block =>
      have hmem : block ∈ root.preorder :=
        mem_preorder_trans (mem_preorder_of_field? hblock) root hfunction
      exact lined_calls (horderly.part hmem)
        (hnodup.sublist ((preorder_within hmem).sublist.map id)) (some function)

end Go.Node

theorem Body.callSites_extracted (imports : SdkImports) (function : Go.Node) :
    (Body.extracted imports function).callSites =
      (countedCalls imports [] function.placedCalls).filterMap (siteOf? imports) := by
  have hcounted : countedIn imports function = countedCalls imports [] function.placedCalls := by
    unfold countedIn Go.Node.placedCalls
    cases function.field? .body <;> rfl
  have hpart := congrArg Body.callSites (Body.sdkPart_extracted imports function)
  rw [callSites_foldl_count, hcounted] at hpart
  exact hpart

/-- **Every call that starts something is one call site.**  For every orderly tree without equal
numbers, every function in it and all imports, the extraction succeeds, and the call sites of the body
stand one for one, in pre-order, for the calls of the body that start something and have at least two
arguments.  Each site has the role, line, target, options and arguments of its own call, and the type
of the result from the second argument of the `Get` on the call, or none if there is no such `Get`.

The tree of every source is one of these trees, by `Go.parse?_orderly`. -/
theorem execute_calls_are_sites {root function : Go.Node} (horderly : root.Orderly)
    (hnodup : (root.preorder.map Go.Node.id).Nodup) (hfunction : function ∈ root.preorder)
    (imports : SdkImports) :
    ∃ body, (Body.extract imports function).outcome = .ok body ∧
      List.Forall₂ (IsSiteOf imports function.placedCalls)
        (function.bodyCalls.filter imports.startsTarget) body.callSites := by
  have hlined := Go.Node.lined_placedCalls horderly hnodup hfunction
  have hstart : Halfway imports function.placedCalls [] [] function.placedCalls :=
    ⟨rfl, by simp, by simp⟩
  have hrecords := hstart.records hlined
  refine ⟨_, (Body.extract_computes imports function).outcome_eq, ?_⟩
  rw [Body.callSites_extracted, ← Go.Node.map_call_placedCalls, List.filter_map,
    List.forall₂_map_left_iff]
  exact hrecords

/-- A function with three calls that start something.  The result of the first one is read, the second one
is an argument of the first and has options, and the third is read in parentheses into nothing. -/
def fulfilSource : String :=
  "package depot\n\nfunc Fulfil(ctx workflow.Context) error \x7b\n\tvar parcel Parcel\n" ++
    "\tworkflow.ExecuteActivity(ctx, Pack, workflow.ExecuteActivity(" ++
    "workflow.WithActivityOptions(ctx, workflow.ActivityOptions\x7bTaskQueue: \"scales\"\x7d), " ++
    "Weigh, \"kg\", 2)).Get(ctx, &parcel)\n" ++
    "\treturn (workflow.ExecuteActivity(ctx, Ship, parcel).Get)(ctx)\n\x7d\n"

/-- Its sites, in the order in which the calls are written. -/
def fulfilSites : List CallSite :=
  [{ targetName := "Pack", targetRole := .activity, line := 5, options := none, argumentCount := 1
     argumentTypes := ["call:ExecuteActivity"], resultType := some "Parcel", resolution := .pending },
   { targetName := "Weigh", targetRole := .activity, line := 5
     options := some { taskQueue := some "scales" }, argumentCount := 2
     argumentTypes := ["string", "int"], resultType := none, resolution := .pending },
   { targetName := "Ship", targetRole := .activity, line := 6, options := none, argumentCount := 1
     argumentTypes := ["var"], resultType := none, resolution := .pending }]

/-- The three calls are three sites, each with its own options and the types of its own arguments. -/
theorem fulfil_calls_are_sites :
    ∃ root, Go.parse? fulfilSource = some root ∧ ∃ function ∈ root.preorder,
      ∃ body, (Body.extract {} function).outcome = .ok body ∧
        List.Forall₂ (IsSiteOf {} function.placedCalls)
          (function.bodyCalls.filter (SdkImports.startsTarget {})) body.callSites ∧
        body.callSites = fulfilSites := by
  have hsource : ∃ root ∈ Go.parse? fulfilSource, ∃ function ∈ root.preorder,
      (Body.extracted {} function).callSites = fulfilSites := by
    decide +kernel
  obtain ⟨root, hroot, function, hfunction, hsites⟩ := hsource
  obtain ⟨horderly, hnodup⟩ := Go.parse?_orderly hroot
  obtain ⟨body, hbody, hcalls⟩ := execute_calls_are_sites horderly hnodup hfunction {}
  have hextracted : body = Body.extracted {} function :=
    (Body.extract_computes {} function).eq_of_outcome hbody
  exact ⟨root, hroot, function, hfunction, body, hbody, hcalls, by rw [hextracted, hsites]⟩

end WorkflowGraph
