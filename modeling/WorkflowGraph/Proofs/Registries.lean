import WorkflowGraph.Proofs.Tables
import WorkflowGraph.Registry.Basic

/-!
# What a registry knows

A registry is filled by one registration after the other.  What each of them adds is said once for
every part of the registry: the names of functions, one table for each role
(`contains_functions_record`), the roles of types (`types_record`), and the list of all
registrations (`registrations_record`).  By induction, the registry of a list knows a function by a name if some
registration makes it known (`contains_functions_ofList`), and a type has the role of its first
registration (`types_ofList`).
-/

namespace WorkflowGraph

namespace Registration

/-- The registration makes a function known by this name. -/
def NamesFunction (registration : Registration) (role : RegisteredRole) (name : String) : Prop :=
  registration.owningType = none ∧ registration.role = role ∧
    (name = registration.name ∨ name = Text.lastSegment registration.name)

/-- The role that the registration gives to a type. -/
def typeRole? (registration : Registration) (type : String) : Option RegisteredRole :=
  if registration.owningType = some type then some registration.role else none

theorem typeRole?_eq_some_iff {registration : Registration} {type : String}
    {role : RegisteredRole} : registration.typeRole? type = some role ↔
      registration.owningType = some type ∧ registration.role = role := by
  simp [typeRole?]

end Registration

/-- A function is registered under a role by this name. -/
def KnownAs (registrations : List Registration) (role : RegisteredRole) (name : String) : Prop :=
  ∃ registration ∈ registrations, registration.NamesFunction role name

namespace Registry

/-- The functions that are registered under a role. -/
def functions (registry : Registry) : RegisteredRole → Table Registration
  | .workflow => registry.workflows
  | .activity => registry.activities

theorem contains_index {table : Table Registration} {registration : Registration}
    {name : String} : (index table registration).contains name = true ↔
      table.contains name = true ∨
        (name = registration.name ∨ name = Text.lastSegment registration.name) := by
  rw [index, Table.contains_insertNew, Table.contains_insertNew, or_assoc]

/-- One registration adds the names of its own function, under its own role. -/
theorem contains_functions_record {registry : Registry} {registration : Registration}
    {role : RegisteredRole} {name : String} :
    ((registry.record registration).functions role).contains name = true ↔
      (registry.functions role).contains name = true ∨ registration.NamesFunction role name := by
  rcases registration with ⟨full, own, _ | type, path, line⟩
  · cases own <;> cases role <;> simp [record, functions, Registration.NamesFunction, contains_index]
  · cases own <;> cases role <;> simp [record, functions, Registration.NamesFunction]

/-- A type keeps the role that it has. -/
theorem types_record (registry : Registry) (registration : Registration) (type : String) :
    (registry.record registration).types.get? type =
      (registry.types.get? type).or (registration.typeRole? type) := by
  rcases registration with ⟨full, own, _ | owner, path, line⟩
  · cases own <;> simp [record, Registration.typeRole?]
  · simp [record, Registration.typeRole?, Table.get?_insertNew, eq_comm]

theorem registrations_record (registry : Registry) (registration : Registration) :
    (registry.record registration).registrations =
      registry.registrations ++ [registration] := by
  rcases registration with ⟨full, _ | _, _ | owner, path, line⟩ <;> rfl

/-- A function is known by a name if some registration makes it known. -/
theorem contains_functions_ofList (registrations : List Registration) (role : RegisteredRole)
    (name : String) : ((ofList registrations).functions role).contains name = true ↔
      KnownAs registrations role name := by
  have hrun : ∀ registry : Registry,
      ((registrations.foldl record registry).functions role).contains name = true ↔
        (registry.functions role).contains name = true ∨ KnownAs registrations role name := by
    induction registrations with
    | nil => simp [KnownAs]
    | cons first others ih =>
        intro registry
        rw [List.foldl_cons, ih, contains_functions_record, or_assoc, KnownAs, KnownAs,
          List.exists_mem_cons_iff]
  have hempty : (({} : Registry).functions role).contains name = false := by
    cases role <;> rfl
  rw [ofList, hrun, hempty]
  simp

theorem isWorkflow_ofList (registrations : List Registration) (name : String) :
    (ofList registrations).isWorkflow name = true ↔ KnownAs registrations .workflow name :=
  contains_functions_ofList registrations .workflow name

theorem isActivity_ofList (registrations : List Registration) (name : String) :
    (ofList registrations).isActivity name = true ↔ KnownAs registrations .activity name :=
  contains_functions_ofList registrations .activity name

/-- The role of a type is the role of its first registration. -/
theorem types_ofList (registrations : List Registration) (type : String) :
    (ofList registrations).types.get? type = registrations.findSome? (·.typeRole? type) := by
  have hrun : ∀ registry : Registry, (registrations.foldl record registry).types.get? type =
      (registry.types.get? type).or (registrations.findSome? (·.typeRole? type)) := by
    induction registrations with
    | nil => simp
    | cons first others ih =>
        intro registry
        rw [List.foldl_cons, ih, types_record, List.findSome?_cons, Option.or_assoc]
        cases first.typeRole? type <;> rfl
  exact hrun {}

/-- All registrations are kept. -/
theorem registrations_ofList (registrations : List Registration) :
    (ofList registrations).registrations = registrations := by
  have hrun : ∀ registry : Registry, (registrations.foldl record registry).registrations =
      registry.registrations ++ registrations := by
    induction registrations with
    | nil => simp
    | cons first others ih =>
        intro registry
        rw [List.foldl_cons, ih, registrations_record, List.append_assoc, List.singleton_append]
  exact hrun {}

end Registry

end WorkflowGraph
