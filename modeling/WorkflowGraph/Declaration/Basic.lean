import WorkflowGraph.Declaration.Classify
import WorkflowGraph.Graph.Basic

/-!
# Declarations

A declaration is a function or method with its role and all that is known of it.
-/

namespace WorkflowGraph

/-- A function or method that plays a role. -/
structure Declaration where
  /-- The bare name. -/
  name : String
  receiverType : Option String := none
  package : String := ""
  filePath : String := ""
  line : Nat := 0
  role : NodeRole
  description : Option String := none
  parameters : List Parameter := []
  returnTypes : List String := []
  body : Body := {}
deriving DecidableEq, Repr

/-- `Type.Method` for a method, the bare name otherwise. -/
def Declaration.qualifiedName (declaration : Declaration) : String :=
  WorkflowGraph.qualifiedName declaration.receiverType declaration.name

end WorkflowGraph
