import WorkflowGraph.Go.Locals
import WorkflowGraph.Go.Visit

/-!
# Arguments of SDK calls

What can be said of an argument from its form alone: a tag for its type, the name of a target
or handler, and the type that a result is read into.
-/

namespace WorkflowGraph.Go.Node

/-- The text of the type of a composite literal. -/
def literalType? (composite : Node) : Option String := (composite.field? .type).map text

/-- The tag of an address: the pointer type of a literal, or just that it is a pointer. -/
def addressTag (argument : Node) : String :=
  match argument.composite?.bind literalType? with
  | some type => "*" ++ type
  | none => "pointer"

/-- The tag of a call: the name that is called. -/
def callTag (argument : Node) : String :=
  match argument.callee? with
  | some callee => "call:" ++ callee.name.text
  | none => "call"

mutual

/-- A tag for the type of an argument. -/
def typeTag : Node → String
  | mk label children =>
    match label.kind with
    | .interpretedStringLiteral => "string"
    | .rawStringLiteral => "string"
    | .intLiteral => "int"
    | .floatLiteral => "float"
    | .imaginaryLiteral => "complex"
    | .runeLiteral => "rune"
    | .trueLiteral => "bool"
    | .falseLiteral => "bool"
    | .nilLiteral => "nil"
    | .identifier => "var"
    | .selectorExpression => "selector"
    | .funcLiteral => "func"
    | .compositeLiteral => (literalType? (mk label children)).getD "composite"
    | .unaryExpression =>
      if (mk label children).isAddressOf then addressTag (mk label children) else "expr"
    | .callExpression => callTag (mk label children)
    | .parenthesizedExpression => firstTypeTag children
    | _ => "expr"

/-- The tag of the first phrase among several nodes. -/
def firstTypeTag : List Node → String
  | [] => "expr"
  | node :: rest => if node.isPhrase then typeTag node else firstTypeTag rest

end

/-- The target that stands for a function literal. -/
def anonymousTarget : String := "<anonymous>"

/-- The name of a target. -/
def targetName (target : Node) : String :=
  if target.kind = .funcLiteral then anonymousTarget else target.stringOrText

/-- The name of a handler; a function literal has none. -/
def handlerName? (handler : Node) : Option String :=
  if handler.kind = .identifier || handler.kind = .selectorExpression then some handler.text
  else none

/-- The type of a variable whose address is taken: what it points to if it is a pointer. -/
def variableResultType (scope : Option Node) (name : String) : String :=
  match scope.bind fun function => function.localType? name with
  | some type => String.ofList (type.toList.dropWhile (· == '*'))
  | none => "var:" ++ name

/-- The type of the value that an address leads to. -/
def addressedType? (scope : Option Node) (result : Node) : Option String :=
  match result.composite? with
  | some composite => composite.literalType?
  | none =>
    match result.field? .operand with
    | none => none
    | some operand =>
      some (if operand.kind = .identifier then variableResultType scope operand.text
        else "*" ++ operand.text)

/-- The type that a result is read into; `scope` is the function around it. -/
def resultType? (scope : Option Node) (result : Node) : Option String :=
  match result.newType? with
  | some type => some type
  | none => if result.isAddressOf then addressedType? scope result else none

/-- An argument that names something: the value of a string literal, or the text of any other
expression; nothing if the argument is missing. -/
def nameOf (argument : Option Node) : String := (argument.map stringOrText).getD ""

end WorkflowGraph.Go.Node
