import WorkflowGraph.Go.Node
import WorkflowGraph.Go.Quoted

/-!
# Questions to a syntax tree

What a call calls and with which arguments, what a literal holds, and which type an expression
spells out.
-/

namespace WorkflowGraph.Go

namespace Node

/-- The value of a string literal. -/
def stringValue? (node : Node) : Option String :=
  if node.kind = .interpretedStringLiteral || node.kind = .rawStringLiteral then
    some (Quoted.value node.text)
  else none

/-- The value of a string literal, or the text of any other expression. -/
def stringOrText (node : Node) : String := node.stringValue?.getD node.text

/-- The arguments of a call. -/
def arguments (call : Node) : List Node :=
  match call.field? .arguments with
  | none => []
  | some list => list.phrases

end Node

/-- What a call calls: a name, and what the name is selected on. -/
structure Callee where
  operand : Option Node
  name : Node

namespace Callee

/-- The operand, if it is a plain identifier. -/
def qualifier? (callee : Callee) : Option String :=
  match callee.operand with
  | none => none
  | some operand => if operand.kind = .identifier then some operand.text else none

/-- A callee spelled by an identifier or a selector. -/
def ofName? (node : Node) : Option Callee :=
  match node.kind with
  | .identifier => some ⟨none, node⟩
  | .selectorExpression => (node.field? .field).map fun name => ⟨node.field? .operand, name⟩
  | _ => none

end Callee

namespace Node

/-- The callee of a call.  One pair of parentheses around it is looked through. -/
def callee? (call : Node) : Option Callee :=
  match call.field? .function with
  | none => none
  | some function =>
    if function.kind = .parenthesizedExpression then
      function.phrases.head?.bind Callee.ofName?
    else Callee.ofName? function

/-- Whether the node takes the address of something. -/
def isAddressOf (node : Node) : Bool :=
  node.kind = .unaryExpression &&
    match node.field? .operator with
    | none => false
    | some operator => operator.text == "&"

/-- The operand of `&T{…}`, if it is a composite literal. -/
def addressedLiteral? (node : Node) : Option Node :=
  if node.isAddressOf then
    match node.field? .operand with
    | none => none
    | some operand => if operand.kind = .compositeLiteral then some operand else none
  else none

mutual

/-- The composite literal behind `T{…}`, `&T{…}` and parentheses around them. -/
def composite? : Node → Option Node
  | mk label children =>
    match label.kind with
    | .compositeLiteral => some (mk label children)
    | .unaryExpression => addressedLiteral? (mk label children)
    | .parenthesizedExpression => firstComposite? children
    | _ => none

/-- The composite literal behind the first phrase among several nodes. -/
def firstComposite? : List Node → Option Node
  | [] => none
  | node :: rest => if node.isPhrase then composite? node else firstComposite? rest

end

/-- The expression inside a literal element. -/
def unwrapped (node : Node) : Node :=
  if node.kind = .literalElement then node.phrases.head?.getD node else node

/-- The keys of a composite literal with their values. -/
def keyedElements (composite : Node) : List (Node × Node) :=
  match composite.field? .body with
  | none => []
  | some body =>
    (body.phrases.filter fun element => element.kind = .keyedElement).filterMap fun element =>
      match element.phrases with
      | key :: value :: _ => some (key.unwrapped, value.unwrapped)
      | _ => none

/-- The type argument of a call `new(T)`. -/
def newType? (node : Node) : Option String :=
  if node.kind = .callExpression then
    match node.callee? with
    | some ⟨none, name⟩ => if name.text == "new" then node.arguments.head?.map text else none
    | _ => none
  else none

/-- The type that an initializer spells out: that of a literal, or of `new(T)`. -/
def initializerType? (expression : Node) : Option String :=
  match expression.composite? with
  | some composite => (composite.field? .type).map text
  | none => expression.newType?

/-- Whether the node declares a function or a method. -/
def isFunction (node : Node) : Bool :=
  node.kind = .functionDeclaration || node.kind = .methodDeclaration

/-- Whether the node is a function, a method or a function literal. -/
def hasOwnScope (node : Node) : Bool := node.isFunction || node.kind = .funcLiteral

end Node

end WorkflowGraph.Go
