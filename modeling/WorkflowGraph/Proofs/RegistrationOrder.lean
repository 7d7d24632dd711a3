import WorkflowGraph.Declaration.Classify
import WorkflowGraph.Proofs.Registries

/-!
# Roles and the order of registrations

One thing may be registered as a workflow in one place and as an activity in another.  For a
function it does not matter which comes first: workflows and activities are kept apart, a table of
them only grows, and the rules ask for workflows before they ask for activities.  A function that
is registered both ways is a workflow.

A type has one role, which is the role of its first registration (`Registry.types_ofList`).  So
there is one case in which the order decides: an exported method, not registered as a workflow by
a name of its own, of a type that is registered both ways (`Contested`).  Such a method is a
workflow in one order and an activity in another, as the first registration of its type says, and
nothing else depends on the order (`role_independent_of_order_iff`).
-/

namespace WorkflowGraph

/-! ## What a list of registrations says, in any order -/

/-- A type of this name is registered under a role. -/
def TypeKnownAs (registrations : List Registration) (role : RegisteredRole) (type : String) :
    Prop :=
  ∃ registration ∈ registrations, registration.typeRole? type = some role

/-- The spelling of a type under which it is looked up: as it is written if a type is registered
so, and by its base name otherwise. -/
def spelling (registrations : List Registration) (type : String) : String :=
  if registrations.any fun registration => registration.owningType = some type then type
  else Go.TypeName.baseName type

/-- The role of the first registration of a type. -/
def firstRole? (registrations : List Registration) (type : String) : Option RegisteredRole :=
  registrations.findSome? (·.typeRole? (spelling registrations type))

section Orders

variable {registrations order : List Registration} {role : RegisteredRole} {type name : String}

theorem knownAs_iff_of_perm (h : order.Perm registrations) :
    KnownAs order role name ↔ KnownAs registrations role name := by
  simp only [KnownAs, h.mem_iff]

theorem typeKnownAs_iff_of_perm (h : order.Perm registrations) :
    TypeKnownAs order role type ↔ TypeKnownAs registrations role type := by
  simp only [TypeKnownAs, h.mem_iff]

theorem spelling_eq_of_perm (h : order.Perm registrations) (type : String) :
    spelling order type = spelling registrations type := by
  rw [spelling, spelling, h.any_eq]

/-- A registry answers for a type with the role of its first registration. -/
theorem typeRole?_ofList (registrations : List Registration) (type : String) :
    (Registry.ofList registrations).typeRole? type = firstRole? registrations type := by
  unfold Registry.typeRole? firstRole? spelling
  rw [Registry.types_ofList, Registry.types_ofList]
  cases hfirst : registrations.findSome? (·.typeRole? type) with
  | some role =>
      obtain ⟨registration, hmem, hrole⟩ := List.exists_of_findSome?_eq_some hfirst
      have hany : (registrations.any fun registration => registration.owningType = some type) :=
        List.any_eq_true.mpr ⟨registration, hmem, by
          simpa using (Registration.typeRole?_eq_some_iff.mp hrole).1⟩
      simp only [hany, if_true, hfirst]
  | none =>
      have hnone : (registrations.any fun registration => registration.owningType = some type) =
          false := by
        rw [List.any_eq_false]
        intro registration hmem
        have hrole := List.findSome?_eq_none_iff.mp hfirst registration hmem
        simpa [Registration.typeRole?] using hrole
      simp only [hnone, Bool.false_eq_true, if_false]

theorem TypeKnownAs.isSome_firstRole?
    (h : TypeKnownAs registrations role (spelling registrations type)) :
    (firstRole? registrations type).isSome = true := by
  obtain ⟨registration, hmem, hrole⟩ := h
  rw [firstRole?, List.isSome_findSome?]
  exact List.any_eq_true.mpr ⟨registration, hmem, by rw [hrole]; rfl⟩

/-- The role of the first registration is a role of the type, and the only one if it has no
second. -/
theorem firstRole?_eq_some_iff
    (hone : ∃ other, ¬TypeKnownAs registrations other (spelling registrations type)) :
    firstRole? registrations type = some role ↔
      TypeKnownAs registrations role (spelling registrations type) := by
  have hsound : ∀ {found}, firstRole? registrations type = some found →
      TypeKnownAs registrations found (spelling registrations type) :=
    List.exists_of_findSome?_eq_some
  constructor
  · exact hsound
  · intro hknown
    obtain ⟨found, hfirst⟩ := Option.isSome_iff_exists.mp hknown.isSome_firstRole?
    have hfound := hsound hfirst
    obtain ⟨other, hother⟩ := hone
    cases role <;> cases found <;> cases other <;> first | exact hfirst | contradiction

/-- A type that is registered under one role at most has it in every order. -/
theorem typeRole?_ofList_eq_of_perm (h : order.Perm registrations)
    (hone : ∃ role, ¬TypeKnownAs registrations role (spelling registrations type)) :
    (Registry.ofList order).typeRole? type = (Registry.ofList registrations).typeRole? type := by
  have hone' : ∃ role, ¬TypeKnownAs order role (spelling order type) := by
    simpa only [spelling_eq_of_perm h, typeKnownAs_iff_of_perm h] using hone
  rw [typeRole?_ofList, typeRole?_ofList]
  apply Option.ext
  intro role
  rw [firstRole?_eq_some_iff hone', firstRole?_eq_some_iff hone, spelling_eq_of_perm h,
    typeKnownAs_iff_of_perm h]

/-- Any registration of a type can come first. -/
theorem exists_perm_typeRole?
    (hknown : TypeKnownAs registrations role (spelling registrations type)) :
    ∃ order, order.Perm registrations ∧
      (Registry.ofList order).typeRole? type = some role := by
  obtain ⟨registration, hmem, hrole⟩ := hknown
  have hperm : (registration :: registrations.erase registration).Perm registrations :=
    (List.perm_cons_erase hmem).symm
  refine ⟨_, hperm, ?_⟩
  rw [typeRole?_ofList, firstRole?, spelling_eq_of_perm hperm, List.findSome?_cons, hrole]

end Orders

/-! ## Candidates -/

/-- The role of a function that is registered so. -/
def RegisteredRole.nodeRole : RegisteredRole → NodeRole
  | .workflow => .workflow
  | .activity => .activity

/-- The candidate is registered by a name of its own. -/
def NamedAs (registrations : List Registration) (role : RegisteredRole) (candidate : Candidate) :
    Prop :=
  KnownAs registrations role candidate.name ∨ KnownAs registrations role candidate.qualifiedName

/-- The registrations disagree about the candidate: it inherits the role of a type that is
registered both ways, and no name of its own makes it a workflow. -/
structure Contested (registrations : List Registration) (candidate : Candidate) : Prop where
  exported : candidate.isExported = true
  typeKnown : ∃ type, candidate.receiver = some type ∧
    ∀ role, TypeKnownAs registrations role (spelling registrations type)
  unnamed : ¬NamedAs registrations .workflow candidate

section Candidates

variable {registry : Registry} {registrations order : List Registration} {candidate : Candidate}

theorem isRegisteredWorkflow_ofList :
    candidate.isRegisteredWorkflow (.ofList registrations) = true ↔
      NamedAs registrations .workflow candidate ∨
        candidate.inheritedRole? (.ofList registrations) = some .workflow := by
  simp only [Candidate.isRegisteredWorkflow, Bool.or_eq_true, Registry.isWorkflow_ofList, beq_iff_eq,
    NamedAs]

theorem isActivity_ofList_eq_of_perm (h : order.Perm registrations) (name : String) :
    (Registry.ofList order).isActivity name = (Registry.ofList registrations).isActivity name := by
  rw [Bool.eq_iff_iff, Registry.isActivity_ofList, Registry.isActivity_ofList, knownAs_iff_of_perm h]

theorem namedAs_iff_of_perm {role : RegisteredRole} (h : order.Perm registrations) :
    NamedAs order role candidate ↔ NamedAs registrations role candidate := by
  rw [NamedAs, NamedAs, knownAs_iff_of_perm h, knownAs_iff_of_perm h]

/-- The first rule decides for what is registered as a workflow. -/
theorem classify_of_isRegisteredWorkflow (h : candidate.isRegisteredWorkflow registry = true) :
    classify Rule.standard registry candidate = pure (some .workflow) := by
  unfold Rule.standard classify Rule.ask
  rw [if_pos h]
  rfl

/-- The second rule decides for what is registered as an activity and not as a workflow. -/
theorem classify_of_isRegisteredActivity (hnot : candidate.isRegisteredWorkflow registry = false)
    (h : candidate.isRegisteredActivity registry = true) :
    classify Rule.standard registry candidate = pure (some .activity) := by
  unfold Rule.standard classify Rule.ask
  rw [hnot, if_neg Bool.false_ne_true]
  unfold classify Rule.ask
  rw [if_pos h]
  rfl

/-- The rules see of a registry only what it says about the candidate. -/
theorem classify_congr {other : Registry} (rules : List Rule)
    (hworkflow : candidate.isRegisteredWorkflow registry = candidate.isRegisteredWorkflow other)
    (hactivity : candidate.isRegisteredActivity registry = candidate.isRegisteredActivity other) :
    classify rules registry candidate = classify rules other candidate := by
  induction rules with
  | nil => rfl
  | cons rule rules ih =>
      have hask : rule.ask registry candidate = rule.ask other candidate := by
        cases rule <;> simp only [Rule.ask, hworkflow, hactivity]
      rw [classify, classify, hask, ih]

/-- A candidate that is registered as a workflow by name is one, whatever else is registered. -/
theorem classify_of_namedAs (h : NamedAs registrations .workflow candidate) :
    classify Rule.standard (.ofList registrations) candidate = pure (some .workflow) :=
  classify_of_isRegisteredWorkflow (isRegisteredWorkflow_ofList.mpr (Or.inl h))

/-- What a candidate inherits is settled unless its type is registered both ways. -/
theorem inheritedRole?_eq_of_perm (h : order.Perm registrations)
    (hnot : ¬Contested registrations candidate)
    (hunnamed : ¬NamedAs registrations .workflow candidate) :
    candidate.inheritedRole? (.ofList order) = candidate.inheritedRole? (.ofList registrations) := by
  unfold Candidate.inheritedRole?
  by_cases hexported : candidate.isExported = true
  · rw [if_pos hexported, if_pos hexported]
    cases hreceiver : candidate.receiver with
    | none => rfl
    | some type =>
        have hone : ∃ role, ¬TypeKnownAs registrations role (spelling registrations type) := by
          by_contra hboth
          exact hnot ⟨hexported, ⟨type, hreceiver, not_exists_not.mp hboth⟩, hunnamed⟩
        exact typeRole?_ofList_eq_of_perm h hone
  · rw [if_neg hexported, if_neg hexported]

theorem classify_eq_of_perm (h : order.Perm registrations)
    (hnot : ¬Contested registrations candidate) :
    classify Rule.standard (.ofList order) candidate =
      classify Rule.standard (.ofList registrations) candidate := by
  by_cases hnamed : NamedAs registrations .workflow candidate
  · rw [classify_of_namedAs hnamed, classify_of_namedAs ((namedAs_iff_of_perm h).mpr hnamed)]
  · have hrole := inheritedRole?_eq_of_perm h hnot hnamed
    apply classify_congr
    · rw [Bool.eq_iff_iff, isRegisteredWorkflow_ofList, isRegisteredWorkflow_ofList, hrole,
        namedAs_iff_of_perm h]
    · simp only [Candidate.isRegisteredActivity, Candidate.receiverIsActivity, hrole,
        isActivity_ofList_eq_of_perm h]

/-- A contested candidate inherits either role, in some order. -/
theorem Contested.exists_perm (h : Contested registrations candidate) (role : RegisteredRole) :
    ∃ order, order.Perm registrations ∧
      candidate.inheritedRole? (.ofList order) = some role := by
  obtain ⟨type, hreceiver, hboth⟩ := h.typeKnown
  obtain ⟨order, hperm, hrole⟩ := exists_perm_typeRole? (hboth role)
  refine ⟨order, hperm, ?_⟩
  rw [Candidate.inheritedRole?, if_pos h.exported, hreceiver, Option.bind_some, hrole]

/-- A candidate without a name of its own among the workflows has the role that it inherits. -/
theorem classify_of_inheritedRole? {role : RegisteredRole}
    (hunnamed : ¬NamedAs registrations .workflow candidate)
    (hrole : candidate.inheritedRole? (.ofList registrations) = some role) :
    classify Rule.standard (.ofList registrations) candidate = pure (some role.nodeRole) := by
  cases role with
  | workflow => exact classify_of_isRegisteredWorkflow (isRegisteredWorkflow_ofList.mpr (.inr hrole))
  | activity =>
      have hnot : candidate.isRegisteredWorkflow (.ofList registrations) = false := by
        rw [← Bool.not_eq_true, isRegisteredWorkflow_ofList, hrole]
        simp [hunnamed]
      have hactivity : candidate.isRegisteredActivity (.ofList registrations) = true := by
        simp [Candidate.isRegisteredActivity, hrole]
      exact classify_of_isRegisteredActivity hnot hactivity

/-- A contested candidate has either role, in some order. -/
theorem Contested.exists_classify_eq (h : Contested registrations candidate)
    (role : RegisteredRole) : ∃ order, order.Perm registrations ∧
      classify Rule.standard (.ofList order) candidate = pure (some role.nodeRole) := by
  obtain ⟨order, hperm, hrole⟩ := h.exists_perm role
  have hunnamed : ¬NamedAs order .workflow candidate :=
    fun hnamed => h.unnamed ((namedAs_iff_of_perm hperm).mp hnamed)
  exact ⟨order, hperm, classify_of_inheritedRole? hunnamed hrole⟩

/-- A contested candidate has the role of the first registration of its type. -/
theorem Contested.classify_eq {type : String} (h : Contested registrations candidate)
    (hreceiver : candidate.receiver = some type) :
    classify Rule.standard (.ofList registrations) candidate =
      pure ((firstRole? registrations type).map RegisteredRole.nodeRole) := by
  obtain ⟨owner, howner, hboth⟩ := h.typeKnown
  obtain rfl : owner = type := Option.some.inj (howner.symm.trans hreceiver)
  obtain ⟨role, hfirst⟩ := Option.isSome_iff_exists.mp (hboth .workflow).isSome_firstRole?
  have hrole : candidate.inheritedRole? (.ofList registrations) = some role := by
    rw [Candidate.inheritedRole?, if_pos h.exported, hreceiver, Option.bind_some,
      typeRole?_ofList, hfirst]
  rw [classify_of_inheritedRole? h.unnamed hrole, hfirst, Option.map_some]

end Candidates

/-- **Where the order of registrations decides.**  Whatever is registered, the rules give a
candidate the same role in every order of the registrations, unless the candidate is contested.
Then the first registration of its type decides, and each role comes out in some order.  A
candidate that is registered as a workflow by a name of its own is a workflow in every order,
registered as an activity or not. -/
theorem role_independent_of_order_iff (registrations : List Registration) (candidate : Candidate) :
    ((∀ order, order.Perm registrations →
        (classify Rule.standard (.ofList order) candidate).outcome =
          (classify Rule.standard (.ofList registrations) candidate).outcome) ↔
      ¬Contested registrations candidate) ∧
    (Contested registrations candidate → ∀ type, candidate.receiver = some type →
      (classify Rule.standard (.ofList registrations) candidate).outcome =
        .ok ((firstRole? registrations type).map RegisteredRole.nodeRole)) ∧
    (Contested registrations candidate → ∀ role : RegisteredRole, ∃ order,
      order.Perm registrations ∧
        (classify Rule.standard (.ofList order) candidate).outcome = .ok (some role.nodeRole)) ∧
    (NamedAs registrations .workflow candidate → ∀ order, order.Perm registrations →
      (classify Rule.standard (.ofList order) candidate).outcome = .ok (some .workflow)) := by
  refine ⟨⟨fun hsame hcontested => ?_, fun hnot order hperm => ?_⟩,
    fun hcontested type hreceiver => ?_, fun hcontested role => ?_, fun hnamed order hperm => ?_⟩
  · -- Both roles come out of one order, which they cannot.
    obtain ⟨first, hfirst, hworkflow⟩ := hcontested.exists_classify_eq .workflow
    obtain ⟨second, hsecond, hactivity⟩ := hcontested.exists_classify_eq .activity
    have heq := (hsame first hfirst).trans (hsame second hsecond).symm
    rw [hworkflow, hactivity] at heq
    cases heq
  · rw [classify_eq_of_perm hperm hnot]
  · rw [hcontested.classify_eq hreceiver]
    rfl
  · obtain ⟨order, hperm, hrole⟩ := hcontested.exists_classify_eq role
    exact ⟨order, hperm, by rw [hrole]; rfl⟩
  · rw [classify_of_namedAs ((namedAs_iff_of_perm hperm).mpr hnamed)]
    rfl

/-- A file with one method of a type. -/
def ordersSource : String :=
  "package orders\n\ntype Orders struct\x7b\x7d\n\nfunc (o *Orders) Ship() \x7b\x7d\n"

/-- The registration of that type. -/
def ordersAs (role : RegisteredRole) : Registration :=
  { name := "Orders", role, owningType := some "Orders", filePath := "main.go", line := 1 }

/-- The method is an activity or a workflow, whichever is registered first. -/
theorem orders_method_follows_the_order :
    ∃ file ∈ (SourceFile.ofText "orders.go" ordersSource).toOption,
      ∃ function ∈ file.functions, ∃ candidate ∈ Candidate.ofFunction? file function,
        (classify Rule.standard (.ofList [ordersAs .activity, ordersAs .workflow])
          candidate).outcome = .ok (some .activity) ∧
        (classify Rule.standard (.ofList [ordersAs .workflow, ordersAs .activity])
          candidate).outcome = .ok (some .workflow) := by
  have horders : ∃ file ∈ (SourceFile.ofText "orders.go" ordersSource).toOption,
      ∃ function ∈ file.functions, ∃ candidate ∈ Candidate.ofFunction? file function,
        let first := Registry.ofList [ordersAs .activity, ordersAs .workflow]
        let second := Registry.ofList [ordersAs .workflow, ordersAs .activity]
        candidate.isRegisteredWorkflow first = false ∧
          candidate.isRegisteredActivity first = true ∧
          candidate.isRegisteredWorkflow second = true := by
    decide +kernel
  obtain ⟨file, hfile, function, hfunction, candidate, hcandidate, hnot, hactivity, hworkflow⟩ :=
    horders
  refine ⟨file, hfile, function, hfunction, candidate, hcandidate, ?_, ?_⟩
  · rw [classify_of_isRegisteredActivity hnot hactivity]
    rfl
  · rw [classify_of_isRegisteredWorkflow hworkflow]
    rfl

end WorkflowGraph
