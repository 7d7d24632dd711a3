/-!
# Syntax trees of Go sources

A syntax tree is a tree of labelled nodes.  A label says what the node is (`Kind`), which
part of its parent it plays (`Field`), and which stretch of the source it covers: its text and
the rows, counted from zero, where it starts and ends.  Punctuation and keywords are nodes of
kind `token`; comments are nodes too, at the place where they stand.

Two nodes of one tree may carry the same text, so a node is told from the others by its
number: `Node.number` numbers a tree in the order of `Node.preorder`, parents before children
and siblings from left to right.
-/

namespace WorkflowGraph.Go

/-- What a node of the tree is. -/
inductive Kind where
  | sourceFile | packageClause | importDeclaration | importSpec | importSpecList
  | dot | blankIdentifier
  | constDeclaration | constSpec | varDeclaration | varSpec | varSpecList
  | functionDeclaration | methodDeclaration
  | typeParameterList | typeParameterDeclaration | typeConstraint
  | parameterList | parameterDeclaration | variadicParameterDeclaration
  | typeDeclaration | typeSpec | typeAlias
  | expressionList
  | parenthesizedType | typeIdentifier | genericType | typeArguments | typeElem | qualifiedType
  | pointerType | structType | fieldDeclarationList | fieldDeclaration
  | interfaceType | methodElem | arrayType | implicitLengthArrayType | sliceType
  | mapType | channelType | functionType | negatedType
  | block | expressionStatement | sendStatement | receiveStatement
  | incStatement | decStatement | assignmentStatement | shortVarDeclaration
  | labeledStatement | emptyStatement | fallthroughStatement | breakStatement
  | continueStatement | gotoStatement | returnStatement | goStatement | deferStatement
  | ifStatement | forStatement | forClause | rangeClause
  | expressionSwitchStatement | expressionCase | defaultCase
  | typeSwitchStatement | typeCase | selectStatement | communicationCase
  | unaryExpression | binaryExpression | selectorExpression | indexExpression
  | sliceExpression | callExpression | typeAssertionExpression | typeConversionExpression
  | typeInstantiationExpression | parenthesizedExpression
  | argumentList | variadicArgument
  | compositeLiteral | literalValue | literalElement | keyedElement | funcLiteral
  | interpretedStringLiteral | rawStringLiteral | intLiteral | floatLiteral
  | imaginaryLiteral | runeLiteral | nilLiteral | trueLiteral | falseLiteral | iota
  | identifier | fieldIdentifier | packageIdentifier | labelName
  | comment | token
deriving DecidableEq, Repr

/-- The part that a node plays in its parent. -/
inductive Field where
  | name | path | receiver | parameters | result | body | type | typeParameters | typeArguments
  | value | left | right | operator | operand | field | function | arguments
  | index | start | stop | capacity | length | element | key | channel | label | tag
  | initializer | condition | consequence | alternative | update | alias | communication
  | package
deriving DecidableEq, Repr

/-- What is known of a node apart from its children. -/
structure Label where
  kind : Kind
  field : Option Field
  /-- The stretch of the source that the node covers. -/
  text : String
  /-- The row of the first character. -/
  firstRow : Nat
  /-- The row after the last character. -/
  lastRow : Nat
  /-- The number that tells the node from the others of its tree. -/
  id : Nat
deriving DecidableEq, Repr

/-- A syntax tree. -/
inductive Node where
  | mk (label : Label) (children : List Node)
deriving Repr

namespace Node

def label : Node → Label
  | mk label _ => label

def children : Node → List Node
  | mk _ children => children

def kind (node : Node) : Kind := node.label.kind

def text (node : Node) : String := node.label.text

def id (node : Node) : Nat := node.label.id

/-- The line of the node's first character, counted from one. -/
def line (node : Node) : Nat := node.label.firstRow + 1

/-- Whether the node is a phrase of the grammar and neither punctuation nor a comment. -/
def isPhrase (node : Node) : Bool :=
  node.kind != .token && node.kind != .comment

/-- The children that are phrases. -/
def phrases (node : Node) : List Node :=
  node.children.filter isPhrase

/-- The children that play the given part, in order. -/
def fields (node : Node) (part : Field) : List Node :=
  node.children.filter fun child => child.label.field == some part

/-- The first child that plays the given part. -/
def field? (node : Node) (part : Field) : Option Node :=
  node.children.find? fun child => child.label.field == some part

mutual

/-- The nodes of a tree, parents before children and siblings from left to right. -/
def preorder : Node → List Node
  | mk label children => mk label children :: preorderAll children

/-- The nodes of a row of trees, tree by tree. -/
def preorderAll : List Node → List Node
  | [] => []
  | node :: rest => preorder node ++ preorderAll rest

end

mutual

/-- Numbers a tree in pre-order from `next`, and gives the first number not used. -/
def numberFrom (next : Nat) : Node → Node × Nat
  | mk label children =>
    let (children, after) := numberAllFrom (next + 1) children
    (mk { label with id := next } children, after)

/-- Numbers a row of trees, tree by tree. -/
def numberAllFrom (next : Nat) : List Node → List Node × Nat
  | [] => ([], next)
  | node :: rest =>
    let (node, next) := numberFrom next node
    let (rest, after) := numberAllFrom next rest
    (node :: rest, after)

end

/-- The tree with its nodes numbered from zero in pre-order. -/
def number (root : Node) : Node := (numberFrom 0 root).1

end Node

end WorkflowGraph.Go
