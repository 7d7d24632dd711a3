import WorkflowGraph.Declaration.Classify
import WorkflowGraph.Proofs.Extraction

/-!
# Which calls count as calls of the SDK

A call belongs to the workflow package if its name is selected on the identifier that the file
uses for the package, or stands alone where the package is imported without a qualifier.  What
counts as a call of the SDK is decided by the qualifier, which is the operand if that is a plain
identifier and is missing otherwise.  So two things look the same: a name that stands alone, and a
name that is selected on a field, on the result of a call, or on any other expression.

The difference shows in files that import the package without a qualifier.  There
`s.clock.Sleep(ctx, d)` counts as a call of the SDK (`SdkImports.SlipsIn`).  This is the only way in:
`counted_calls_belong_iff` says that what counts belongs to the package exactly if it does not
slip in, and that the signature rule and the extractor count the calls of either kind and no other.
-/

namespace WorkflowGraph

/-- An expression spells a callee: a bare name, or a name selected on an operand. -/
inductive Spells (node : Go.Node) : Option Go.Node → Go.Node → Prop where
  | bare (hkind : node.kind = .identifier) : Spells node none node
  | selected {name : Go.Node} (hkind : node.kind = .selectorExpression)
      (hname : node.field? .field = some name) : Spells node (node.field? .operand) name

/-- A call calls a name on an operand, through one pair of parentheses or directly. -/
inductive Calls (call : Go.Node) (operand : Option Go.Node) (name : Go.Node) : Prop where
  | direct {function : Go.Node} (hfunction : call.field? .function = some function)
      (hspells : Spells function operand name)
  | parenthesized {function inner : Go.Node} (hfunction : call.field? .function = some function)
      (hkind : function.kind = .parenthesizedExpression)
      (hinner : function.phrases.head? = some inner) (hspells : Spells inner operand name)

theorem Go.Callee.ofName?_eq_some_iff {node name : Go.Node} {operand : Option Go.Node} :
    Go.Callee.ofName? node = some ⟨operand, name⟩ ↔ Spells node operand name := by
  constructor
  · intro h
    unfold Go.Callee.ofName? at h
    split at h
    · next hkind =>
        cases h
        exact .bare hkind
    · next hkind =>
        obtain ⟨found, hfound, heq⟩ := Option.map_eq_some_iff.mp h
        cases heq
        exact .selected hkind hfound
    · cases h
  · rintro (hkind | ⟨hkind, hname⟩)
    · simp [Go.Callee.ofName?, hkind]
    · simp [Go.Callee.ofName?, hkind, hname]

theorem Spells.kind_ne {node name : Go.Node} {operand : Option Go.Node}
    (h : Spells node operand name) : node.kind ≠ .parenthesizedExpression := by
  rcases h with hkind | ⟨hkind, _⟩ <;> simp [hkind]

/-- The callee of a call is what the call calls. -/
theorem Go.Node.callee?_eq_some_iff {call name : Go.Node} {operand : Option Go.Node} :
    call.callee? = some ⟨operand, name⟩ ↔ Calls call operand name := by
  unfold callee?
  constructor
  · intro h
    split at h
    · cases h
    · next function hfunction =>
        split at h
        · next hkind =>
            obtain ⟨inner, hinner, hcallee⟩ := Option.bind_eq_some_iff.mp h
            exact .parenthesized hfunction hkind hinner (Go.Callee.ofName?_eq_some_iff.mp hcallee)
        · exact .direct hfunction (Go.Callee.ofName?_eq_some_iff.mp h)
  · rintro (⟨hfunction, hspells⟩ | ⟨hfunction, hkind, hinner, hspells⟩)
    · simp only [hfunction, if_neg hspells.kind_ne]
      exact Go.Callee.ofName?_eq_some_iff.mpr hspells
    · simp only [hfunction, if_pos hkind, hinner, Option.bind_some]
      exact Go.Callee.ofName?_eq_some_iff.mpr hspells

/-- A call calls one name on one operand. -/
theorem Calls.unique {call name other : Go.Node} {operand operand' : Option Go.Node}
    (h : Calls call operand name) (h' : Calls call operand' other) :
    operand = operand' ∧ name = other := by
  have heq := (Go.Node.callee?_eq_some_iff.mpr h).symm.trans (Go.Node.callee?_eq_some_iff.mpr h')
  cases heq
  exact ⟨rfl, rfl⟩

namespace SdkImports

variable {imports : SdkImports} {call : Go.Node} {action other : SdkAction}

/-- A name on this operand belongs to the workflow package: the operand is the identifier that the
file uses for the package, or there is none and none is needed. -/
def Selects (imports : SdkImports) : Option Go.Node → Prop
  | some qualifier => qualifier.kind = .identifier ∧ qualifier.text = imports.workflow
  | none => imports.workflowUnqualified = true

/-- The operand is there but is not seen, and none is needed. -/
def Overlooks (imports : SdkImports) : Option Go.Node → Prop
  | some expression => expression.kind ≠ .identifier ∧ imports.workflowUnqualified = true
  | none => False

instance (imports : SdkImports) : DecidablePred imports.Overlooks
  | some _ => inferInstanceAs (Decidable (_ ∧ _))
  | none => inferInstanceAs (Decidable False)

/-- The call is one of the workflow package that does something. -/
def CallsWorkflow (imports : SdkImports) (call : Go.Node) (action : SdkAction) : Prop :=
  ∃ operand name, Calls call operand name ∧ imports.Selects operand ∧
    Sdk.action? name.text = some action

/-- The call is taken for one of the workflow package because its operand is overlooked. -/
def SlipsIn (imports : SdkImports) (call : Go.Node) (action : SdkAction) : Prop :=
  ∃ operand name, Calls call operand name ∧ imports.Overlooks operand ∧
    Sdk.action? name.text = some action

/-- The qualifier is right about a name that stands alone or on an identifier, and takes any other
operand for none. -/
theorem isWorkflowQualifier_iff (imports : SdkImports) (callee : Go.Callee) :
    imports.isWorkflowQualifier callee.qualifier? = true ↔
      imports.Selects callee.operand ∨ imports.Overlooks callee.operand := by
  rcases callee with ⟨_ | operand, name⟩
  · simp [Go.Callee.qualifier?, isWorkflowQualifier, Selects, Overlooks]
  · by_cases hkind : operand.kind = .identifier
    · simp [Go.Callee.qualifier?, isWorkflowQualifier, Selects, Overlooks, hkind]
    · simp [Go.Callee.qualifier?, isWorkflowQualifier, Selects, Overlooks, hkind]

/-- What counts as a call of the SDK belongs to the workflow package or slips in. -/
theorem action?_eq_some_iff : imports.action? call = some action ↔
    imports.CallsWorkflow call action ∨ imports.SlipsIn call action := by
  unfold action?
  constructor
  · intro h
    split at h
    · cases h
    · next callee hcallee =>
        have hcalls := Go.Node.callee?_eq_some_iff.mp hcallee
        split at h
        · next hqualifier =>
            exact ((isWorkflowQualifier_iff imports callee).mp hqualifier).imp
              (fun hselects => ⟨_, _, hcalls, hselects, h⟩)
              (fun hoverlooks => ⟨_, _, hcalls, hoverlooks, h⟩)
        · cases h
  · intro h
    obtain ⟨operand, name, hcalls, hqualifier, hname⟩ : ∃ operand name,
        Calls call operand name ∧ (imports.Selects operand ∨ imports.Overlooks operand) ∧
          Sdk.action? name.text = some action := by
      rcases h with ⟨operand, name, hcalls, hselects, hname⟩ |
        ⟨operand, name, hcalls, hoverlooks, hname⟩
      · exact ⟨operand, name, hcalls, Or.inl hselects, hname⟩
      · exact ⟨operand, name, hcalls, Or.inr hoverlooks, hname⟩
    rw [Go.Node.callee?_eq_some_iff.mpr hcalls]
    simp only [(isWorkflowQualifier_iff imports ⟨operand, name⟩).mpr hqualifier, if_true, hname]

theorem slipsIn_iff : imports.SlipsIn call action ↔ ∃ callee ∈ call.callee?,
    imports.Overlooks callee.operand ∧ Sdk.action? callee.name.text = some action := by
  constructor
  · rintro ⟨operand, name, hcalls, hrest⟩
    exact ⟨⟨operand, name⟩, Go.Node.callee?_eq_some_iff.mpr hcalls, hrest⟩
  · rintro ⟨callee, hcallee, hrest⟩
    exact ⟨callee.operand, callee.name, Go.Node.callee?_eq_some_iff.mp hcallee, hrest⟩

instance : Decidable (imports.SlipsIn call action) := decidable_of_iff' _ slipsIn_iff

/-- A call that slips in does not belong to the workflow package. -/
theorem SlipsIn.not_callsWorkflow (h : imports.SlipsIn call action) :
    ¬imports.CallsWorkflow call other := by
  rintro ⟨operand, name, hcalls, hselects, _⟩
  obtain ⟨operand', name', hcalls', hoverlooks, _⟩ := h
  obtain ⟨rfl, rfl⟩ := hcalls.unique hcalls'
  cases operand with
  | none => exact hoverlooks
  | some expression => exact hoverlooks.1 hselects.1

end SdkImports

/-- A flag that is raised on the way is up at the end if it was up or was raised. -/
theorem foldl_or_isSome {α β : Type} (answer? : α → Option β) (items : List α) (found : Bool) :
    items.foldl (fun found item => found || (answer? item).isSome) found =
      (found || items.any fun item => (answer? item).isSome) := by
  induction items generalizing found with
  | nil => rw [List.foldl_nil, List.any_nil, Bool.or_false]
  | cons item others ih => rw [List.foldl_cons, ih, List.any_cons, Bool.or_assoc]

namespace Candidate

/-- Whether the body has a call that counts. -/
def hasSdkCall (candidate : Candidate) : Bool :=
  candidate.function.bodyCalls.any fun call => (candidate.imports.action? call).isSome

theorem usesSdk_computes (candidate : Candidate) :
    candidate.usesSdk.Computes candidate.hasSdkCall := by
  unfold usesSdk hasSdkCall Go.Node.bodyCalls
  cases candidate.function.field? .body with
  | none => exact Run.computes_pure _
  | some block =>
      have hvisit := Go.Node.visitCalls_computes
        (fun found placed => Run.computes_pure
          (found || (candidate.imports.action? placed.call).isSome))
        block (some candidate.function) false
      have hcalls : ((block.calls (some candidate.function)).any fun placed =>
          (candidate.imports.action? placed.call).isSome) =
          (block.preorder.filter fun node => node.kind = .callExpression).any fun call =>
            (candidate.imports.action? call).isSome := by
        rw [← Go.Node.map_call_calls (some candidate.function), List.any_map]
        rfl
      rw [foldl_or_isSome, Bool.false_or, hcalls] at hvisit
      exact hvisit

theorem hasSdkCall_iff (candidate : Candidate) :
    candidate.hasSdkCall = true ↔ ∃ call ∈ candidate.function.bodyCalls, ∃ action,
      candidate.imports.CallsWorkflow call action ∨ candidate.imports.SlipsIn call action := by
  unfold hasSdkCall
  simp only [List.any_eq_true, Option.isSome_iff_exists, SdkImports.action?_eq_some_iff]

/-- The signature rule makes a workflow of what takes a context and has a call that counts. -/
theorem ask_workflowSignature_computes (registry : Registry) (candidate : Candidate) :
    (Rule.workflowSignature.ask registry candidate).Computes
      (if candidate.takesContext && candidate.hasSdkCall then some .workflow else none) := by
  unfold Rule.ask
  cases candidate.takesContext with
  | false => exact Run.computes_pure _
  | true =>
      rw [if_pos rfl, Bool.true_and]
      exact candidate.usesSdk_computes.bind (Run.computes_pure _)

end Candidate

/-- **What counts as a call of the SDK.**  What counts belongs to the workflow package, with the
one exception of the calls that slip in.  The signature rule answers a candidate that takes a
context by whether its body has a call of either kind, and what the extractor records for the SDK
comes from the calls of either kind in the body, none of which it leaves out. -/
theorem counted_calls_belong_iff (imports : SdkImports) :
    (∀ call, (∀ action, imports.action? call = some action → imports.CallsWorkflow call action) ↔
      ∀ action, ¬imports.SlipsIn call action) ∧
    (∀ (registry : Registry) (candidate : Candidate), candidate.imports = imports →
      ∃ role, (Rule.workflowSignature.ask registry candidate).outcome = .ok role ∧
        (role = some .workflow ↔ candidate.takesContext = true ∧
          ∃ call ∈ candidate.function.bodyCalls, ∃ action,
            imports.CallsWorkflow call action ∨ imports.SlipsIn call action)) ∧
    ∀ function, ∃ (body : Body) (counted : List CountedCall),
      (Body.extract imports function).outcome = .ok body ∧
      body.sdkPart = counted.foldl (Body.count imports) {} ∧
      (∀ found ∈ counted, found.call ∈ function.bodyCalls ∧
        (imports.CallsWorkflow found.call found.action ∨
          imports.SlipsIn found.call found.action)) ∧
      ∀ call ∈ function.bodyCalls, ∀ action,
        imports.CallsWorkflow call action ∨ imports.SlipsIn call action →
          ∃ found ∈ counted, found.call.id = call.id := by
  refine ⟨fun call => ⟨?_, ?_⟩, ?_, fun function => ?_⟩
  · intro hbelongs action hslips
    have haction := SdkImports.action?_eq_some_iff.mpr (Or.inr hslips)
    exact hslips.not_callsWorkflow (hbelongs action haction)
  · intro hnone action haction
    exact (SdkImports.action?_eq_some_iff.mp haction).resolve_right (hnone action)
  · rintro registry candidate rfl
    refine ⟨_, (candidate.ask_workflowSignature_computes registry).outcome_eq, ?_⟩
    rw [← candidate.hasSdkCall_iff]
    simp
  · refine ⟨_, countedIn imports function, (Body.extract_computes imports function).outcome_eq,
      Body.sdkPart_extracted imports function, ?_, ?_⟩
    · intro found hfound
      obtain ⟨hcall, haction⟩ := action_of_mem_countedIn hfound
      exact ⟨hcall, SdkImports.action?_eq_some_iff.mp haction⟩
    · intro call hcall action hcounts
      exact exists_mem_countedIn hcall (SdkImports.action?_eq_some_iff.mpr hcounts)

/-- A file that imports the workflow package without a qualifier and asks a clock of its own to
sleep. -/
def clockSource : String :=
  "package orders\n\nimport . \"go.temporal.io/sdk/workflow\"\n\n" ++
    "func Poll(ctx Context, s *Service) { s.clock.Sleep(ctx, 1) }\n"

/-- The function becomes a workflow although no call in it is one of the workflow package. -/
theorem clock_call_slips_in :
    ∃ file, SourceFile.ofText "clock.go" clockSource = .ok file ∧
      ∃ function ∈ file.functions, ∃ candidate,
        Candidate.ofFunction? file function = some candidate ∧
        (Rule.workflowSignature.ask {} candidate).outcome = .ok (some .workflow) ∧
        (∃ call ∈ function.bodyCalls, file.imports.action? call = some .sleep) ∧
        ∀ call ∈ function.bodyCalls, ∀ action, ¬file.imports.CallsWorkflow call action := by
  have hslips : ∃ file ∈ (SourceFile.ofText "clock.go" clockSource).toOption,
      ∃ function ∈ file.functions, ∃ candidate ∈ Candidate.ofFunction? file function,
        (candidate.takesContext && candidate.hasSdkCall) = true ∧
        (∃ call ∈ function.bodyCalls, file.imports.SlipsIn call .sleep) ∧
        ∀ call ∈ function.bodyCalls, file.imports.SlipsIn call .sleep := by
    decide +kernel
  obtain ⟨file, hfile, function, hfunction, candidate, hcandidate, hcounts, hsome, hall⟩ := hslips
  have hread : SourceFile.ofText "clock.go" clockSource = .ok file := by
    cases hresult : SourceFile.ofText "clock.go" clockSource with
    | error failure =>
        rw [hresult] at hfile
        cases hfile
    | ok found =>
        rw [hresult] at hfile
        cases hfile
        rfl
  refine ⟨file, hread, function, hfunction, candidate, hcandidate, ?_, ?_, ?_⟩
  · rw [(candidate.ask_workflowSignature_computes {}).outcome_eq, if_pos hcounts]
  · obtain ⟨call, hcall, hslips⟩ := hsome
    exact ⟨call, hcall, SdkImports.action?_eq_some_iff.mpr (Or.inr hslips)⟩
  · exact fun call hcall action => (hall call hcall).not_callsWorkflow

end WorkflowGraph
