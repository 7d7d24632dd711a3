import WorkflowGraph.Go.TypeName
import WorkflowGraph.Table

/-!
# What a worker has registered

A worker registers functions by name, or all methods of a type at once.  A function is found by
its full name and by the last part of it; a type by its name as written or without pointer,
package and type arguments.  The first registration of a name or type counts.
-/

namespace WorkflowGraph

/-- What something is registered as. -/
inductive RegisteredRole where
  | workflow
  | activity
deriving DecidableEq, Repr

/-- The name of a registered role in messages. -/
def RegisteredRole.title : RegisteredRole → String
  | .workflow => "Workflow"
  | .activity => "Activity"

/-- One registration. -/
structure Registration where
  /-- The function as written, or the name of the type. -/
  name : String
  role : RegisteredRole
  /-- The type, if all methods of a type are registered. -/
  owningType : Option String
  filePath : String
  line : Nat
deriving DecidableEq, Repr

/-- All registrations, with the names by which functions and types are found. -/
structure Registry where
  workflows : Table Registration := .empty
  activities : Table Registration := .empty
  /-- The role that the methods of a type inherit. -/
  types : Table RegisteredRole := .empty
  registrations : List Registration := []

namespace Registry

instance : Inhabited Registry := ⟨{}⟩

/-- Makes a registration known by its full name and by the last part of it. -/
def index (table : Table Registration) (registration : Registration) : Table Registration :=
  (table.insertNew registration.name registration).insertNew
    (Text.lastSegment registration.name) registration

/-- Adds a registration. -/
def record (registry : Registry) (registration : Registration) : Registry :=
  let registry :=
    match registration.owningType, registration.role with
    | some type, role => { registry with types := registry.types.insertNew type role }
    | none, .workflow => { registry with workflows := index registry.workflows registration }
    | none, .activity => { registry with activities := index registry.activities registration }
  { registry with registrations := registry.registrations ++ [registration] }

/-- The registry of a list of registrations. -/
def ofList (registrations : List Registration) : Registry := registrations.foldl record {}

def isWorkflow (registry : Registry) (name : String) : Bool := registry.workflows.contains name

def isActivity (registry : Registry) (name : String) : Bool := registry.activities.contains name

/-- The role that the methods of a type inherit. -/
def typeRole? (registry : Registry) (type : String) : Option RegisteredRole :=
  match registry.types.get? type with
  | some role => some role
  | none => registry.types.get? (Go.TypeName.baseName type)

def isEmpty (registry : Registry) : Bool := registry.registrations.isEmpty

end Registry

end WorkflowGraph
