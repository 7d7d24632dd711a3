import WorkflowGraph.Go.Query

/-!
# Types of local names

A name is bound by `var x T`, `var x = T{…}`, `x := T{…}`, `x := &T{…}` or `x := new(T)`.  The
first binding in pre-order that spells out a type gives the name its type.
-/

namespace WorkflowGraph.Go.Node

/-- The place of a name in a row of nodes. -/
def position? (names : List Node) (name : String) : Option Nat :=
  names.findIdx? fun node => node.text == name

/-- The type that a variable declaration gives to a name. -/
def varType? (spec : Node) (name : String) : Option String :=
  match position? (spec.fields .name) name with
  | none => none
  | some position =>
    match spec.field? .type with
    | some type => some type.text
    | none =>
      match spec.field? .value with
      | none => none
      | some values => (values.phrases[position]?).bind initializerType?

/-- The type that a short variable declaration gives to a name. -/
def shortVarType? (declaration : Node) (name : String) : Option String :=
  match declaration.field? .left, declaration.field? .right with
  | some left, some right =>
    match position? left.phrases name with
    | none => none
    | some position => (right.phrases[position]?).bind initializerType?
  | _, _ => none

/-- The type that a node gives to a name, if it binds the name. -/
def boundType? (name : String) (node : Node) : Option String :=
  match node.kind with
  | .varSpec => node.varType? name
  | .shortVarDeclaration => node.shortVarType? name
  | _ => none

/-- The type of a name within a scope. -/
def localType? (scope : Node) (name : String) : Option String :=
  scope.preorder.findSome? (boundType? name)

end WorkflowGraph.Go.Node
