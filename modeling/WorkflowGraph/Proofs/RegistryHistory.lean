import WorkflowGraph.Proofs.Names
import WorkflowGraph.Proofs.Registries

/-!
# What a registry remembers

A registry answers from tables, and a registration enters a table only where nothing stands yet.
Names of functions collide in it: the full name of one can be the last part of another.  This never
shows, because a question about a function asks only whether the name is there, and a name that is
not there is entered.  For a type the answer is a role, so the first registration decides, and a
type that is not known as it is written is looked up by its base name.

`registry_tells_its_history` says what every answer is in terms of the registrations alone, and that
no answer is lost by what is registered later.
-/

namespace WorkflowGraph

/-- The part is what stands after the last point of the name. -/
def AfterLastPoint (part name : String) : Prop :=
  '.' ∉ part.toList ∧ ∃ before, name = before ++ "." ++ part

theorem afterLastPoint_iff {part name : String} :
    AfterLastPoint part name ↔
      ∃ before, Text.cutLast '.' name.toList = some (before, part.toList) := by
  unfold AfterLastPoint
  constructor
  · rintro ⟨hfree, before, rfl⟩
    exact ⟨before.toList, Text.cutLast_eq_some_iff.mpr ⟨by simp, hfree⟩⟩
  · rintro ⟨before, hcut⟩
    obtain ⟨hjoin, hfree⟩ := Text.cutLast_eq_some_iff.mp hcut
    exact ⟨hfree, String.ofList before, by rw [← String.toList_inj, hjoin]; simp⟩

/-- A function is found by its full name and by what stands after the last point of it. -/
theorem eq_or_eq_lastSegment_iff {name full : String} :
    (name = full ∨ name = Text.lastSegment full) ↔ name = full ∨ AfterLastPoint name full := by
  rw [afterLastPoint_iff, Text.lastSegment, Text.afterLast]
  cases hcut : Text.cutLast '.' full.toList with
  | none => simp
  | some parts =>
      obtain ⟨before, after⟩ := parts
      have hpart : name = String.ofList after ↔ after = name.toList := by
        rw [← String.toList_inj, String.toList_ofList, eq_comm]
      simp [hpart]

/-- Some function was registered under a role, and by this name: its full name or what stands after
the last point of it. -/
def FunctionRegistered (history : List Registration) (role : RegisteredRole) (name : String) :
    Prop :=
  ∃ registration ∈ history, registration.owningType = none ∧ registration.role = role ∧
    (name = registration.name ∨ AfterLastPoint name registration.name)

/-- Some registration is of a whole type with this name. -/
def TypeRegistered (history : List Registration) (type : String) : Prop :=
  ∃ registration ∈ history, registration.owningType = some type

/-- The earliest registration of the type is under the role. -/
def EarliestRole (history : List Registration) (type : String) (role : RegisteredRole) : Prop :=
  ∃ before registration after, history = before ++ registration :: after ∧
    registration.owningType = some type ∧ registration.role = role ∧ ¬TypeRegistered before type

theorem knownAs_iff_functionRegistered {history : List Registration} {role : RegisteredRole}
    {name : String} : KnownAs history role name ↔ FunctionRegistered history role name := by
  simp only [KnownAs, FunctionRegistered, Registration.NamesFunction, eq_or_eq_lastSegment_iff]

section Types

variable {history : List Registration} {type : String}

theorem findSome?_typeRole?_eq_none_iff :
    history.findSome? (·.typeRole? type) = none ↔ ¬TypeRegistered history type := by
  rw [List.findSome?_eq_none_iff]
  simp [TypeRegistered, Registration.typeRole?]

theorem findSome?_typeRole?_eq_some_iff {role : RegisteredRole} :
    history.findSome? (·.typeRole? type) = some role ↔ EarliestRole history type role := by
  simp only [List.findSome?_eq_some_iff, EarliestRole, ← findSome?_typeRole?_eq_none_iff,
    List.findSome?_eq_none_iff, Registration.typeRole?_eq_some_iff, and_assoc]

/-- A type has the role of its earliest registration, by its base name if there is none by the name
as it is written. -/
theorem Registry.typeRole?_eq_some_iff {role : RegisteredRole} :
    (ofList history).typeRole? type = some role ↔
      EarliestRole history type role ∨
        ¬TypeRegistered history type ∧ EarliestRole history (Go.TypeName.baseName type) role := by
  unfold typeRole?
  rw [types_ofList, types_ofList, ← findSome?_typeRole?_eq_none_iff,
    ← findSome?_typeRole?_eq_some_iff, ← findSome?_typeRole?_eq_some_iff]
  cases history.findSome? (·.typeRole? type) <;> simp

theorem Registry.typeRole?_eq_none_iff :
    (ofList history).typeRole? type = none ↔
      ¬TypeRegistered history type ∧ ¬TypeRegistered history (Go.TypeName.baseName type) := by
  unfold typeRole?
  rw [types_ofList, types_ofList, ← findSome?_typeRole?_eq_none_iff,
    ← findSome?_typeRole?_eq_none_iff]
  cases history.findSome? (·.typeRole? type) <;> simp

end Types

/-- What holds of some registration still does when more are recorded. -/
theorem exists_mem_append_of_exists {history more : List Registration}
    {condition : Registration → Prop} (h : ∃ registration ∈ history, condition registration) :
    ∃ registration ∈ history ++ more, condition registration := by
  obtain ⟨registration, hmem, hholds⟩ := h
  exact ⟨registration, List.mem_append_left more hmem, hholds⟩

/-- **A registry tells its history.**  Take the registry after any sequence of registrations.  It
knows a name as a workflow exactly if some function was registered as a workflow with this name, or
with this text after the last point of its name; so for activities.  A type has the role of its
earliest registration; if it was never registered as it is written, that of the earliest
registration of its base name; and none if there is none of either.  All registrations are kept in
order.  Whatever is recorded later, what was found before is still found. -/
theorem registry_tells_its_history (history : List Registration) :
    (∀ name, (Registry.ofList history).isWorkflow name = true ↔
      FunctionRegistered history .workflow name) ∧
    (∀ name, (Registry.ofList history).isActivity name = true ↔
      FunctionRegistered history .activity name) ∧
    (∀ type role, (Registry.ofList history).typeRole? type = some role ↔
      EarliestRole history type role ∨
        ¬TypeRegistered history type ∧ EarliestRole history (Go.TypeName.baseName type) role) ∧
    (∀ type, (Registry.ofList history).typeRole? type = none ↔
      ¬TypeRegistered history type ∧ ¬TypeRegistered history (Go.TypeName.baseName type)) ∧
    (Registry.ofList history).registrations = history ∧
    ∀ more,
      (∀ name, (Registry.ofList history).isWorkflow name = true →
        (Registry.ofList (history ++ more)).isWorkflow name = true) ∧
      (∀ name, (Registry.ofList history).isActivity name = true →
        (Registry.ofList (history ++ more)).isActivity name = true) ∧
      ∀ type, (Registry.ofList history).typeRole? type ≠ none →
        (Registry.ofList (history ++ more)).typeRole? type ≠ none := by
  have hworkflow : ∀ sequence name, (Registry.ofList sequence).isWorkflow name = true ↔
      FunctionRegistered sequence .workflow name := fun sequence name =>
    (Registry.isWorkflow_ofList sequence name).trans knownAs_iff_functionRegistered
  have hactivity : ∀ sequence name, (Registry.ofList sequence).isActivity name = true ↔
      FunctionRegistered sequence .activity name := fun sequence name =>
    (Registry.isActivity_ofList sequence name).trans knownAs_iff_functionRegistered
  refine ⟨hworkflow history, hactivity history, fun type role => Registry.typeRole?_eq_some_iff,
    fun type => Registry.typeRole?_eq_none_iff, Registry.registrations_ofList history, ?_⟩
  intro more
  refine ⟨?_, ?_, ?_⟩
  · intro name
    rw [hworkflow, hworkflow]
    exact exists_mem_append_of_exists
  · intro name
    rw [hactivity, hactivity]
    exact exists_mem_append_of_exists
  · intro type
    rw [Ne, Ne, Registry.typeRole?_eq_none_iff, Registry.typeRole?_eq_none_iff]
    refine mt fun ⟨hown, hbase⟩ => ⟨?_, ?_⟩
    · exact mt exists_mem_append_of_exists hown
    · exact mt exists_mem_append_of_exists hbase

/-- What is found for a type can change, though: it is the role of the base name only as long as the
type is not registered as it is written. -/
example :
    (Registry.ofList [⟨"Orders", .activity, some "Orders", "main.go", 3⟩]).typeRole? "*Orders" =
      some .activity ∧
    (Registry.ofList [⟨"Orders", .activity, some "Orders", "main.go", 3⟩,
      ⟨"*Orders", .workflow, some "*Orders", "main.go", 9⟩]).typeRole? "*Orders" =
      some .workflow := by
  decide

end WorkflowGraph
