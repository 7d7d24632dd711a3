import WorkflowGraph.Go.Grammar.Types

/-!
# Expressions

An expression is a chain of binary operators over unary expressions, and a unary expression
ends in an operand followed by selectors, indices, calls and type assertions.

Two readings of one text are told apart here.  `E[items](x)` is a conversion to the generic
type `E[items]` when `E` can name a type, every item can be read as a type and there is exactly
one plain argument; otherwise it is a call, of `E` with type arguments when every item can be
read as a type and of the indexed `E` when not.  And a parenthesised operand is an expression if
it can be read as one; before a single argument it is a type if it holds type arguments.
-/

namespace WorkflowGraph.Go.Grammar

variable (self : Goal → Parser)

/-- The binary operators with how tightly they bind; an operator stands before its prefixes. -/
def operators : List (String × Nat) :=
  [("&&", 2), ("||", 1), ("&^", 5), ("==", 3), ("!=", 3), ("<=", 3), (">=", 3), ("<<", 5),
    (">>", 5), ("<", 3), (">", 3), ("+", 4), ("-", 4), ("|", 4), ("^", 4), ("*", 5), ("/", 5),
    ("%", 5), ("&", 5)]

/-- The operators that assign. -/
def assignmentOperators : List String :=
  ["<<=", ">>=", "&^=", "+=", "-=", "*=", "/=", "%=", "&=", "|=", "^=", "="]

/-- The binary operator that goes on from an expression.  Where an assignment may follow, what
could also start one does. -/
def nextOperator? (follow : Follow) (s : State) : Option (String × Nat) :=
  if follow.ended s then none
  else if follow.assignment &&
      (["<<=", ">>=", "&^=", "+=", "-=", "*=", "/=", "%=", "&=", "|=", "^=", "++", "--", "<-"].any
        s.at) then none
  else operators.find? fun (text, _) => s.at text

/-- The value between two braces of a literal: an expression or a further literal value. -/
def literalElement : Parser :=
  phrase .literalElement none
    (fun s => if s.at openBrace then self .literalValue s else self (.expression .inside 0) s)

/-- An element of a literal, with its key or without. -/
def literalEntry : Parser := onLevel fun first s =>
  match literalElement self s with
  | none => none
  | some later =>
    match sequence [symbol ":" none, literalElement self] later with
    | none => some later
    | some keyed => some (keyed.enclose first .keyedElement none)

/-- The braces of a composite literal and what they hold. -/
def literalValue : Parser :=
  phrase .literalValue (some .body) (bracketed openBrace closeBrace (literalEntry self))

/-- The parenthesised operand of a conversion. -/
def conversionOperand : Parser :=
  sequence [symbol "(" none, playing .operand (self (.expression .inside 0)),
    optional (symbol "," none), symbol ")" none]

/-- The argument list of a call. -/
def argumentList : Parser :=
  phrase .argumentList (some .arguments) (bracketedItems "(" ")" (onLevel fun first s =>
    match self (.expression .inside 0) s with
    | none => none
    | some later =>
      match symbol "..." none later with
      | none => some later
      | some variadic => some (variadic.enclose first .variadicArgument none)))

/-- The arguments of `new` and `make`: a type, then expressions. -/
def typedArgumentList : Parser :=
  phrase .argumentList (some .arguments) (sequence [symbol "(" none,
    optional (sequence [self (.type .inside),
      many (sequence [symbol "," none, self (.expression .inside 0)]),
      optional (symbol "," none)]),
    symbol ")" none])

/-- The field of a selector, as the name of a type. -/
def typeOfField : Node → Node
  | .mk label children =>
    if label.kind = .fieldIdentifier then
      .mk { label with kind := .typeIdentifier, field := some .name } children
    else .mk label children

/-- A name of a type, read from the expression that spells it. -/
def typeOfName? : Node → Option Node
  | .mk label children =>
    match label.kind, children with
    | .identifier, _ =>
      some (.mk { label with kind := .typeIdentifier, field := some .type } children)
    | .selectorExpression, .mk operand inner :: others =>
      if operand.kind = .identifier then
        let package := Node.mk
          { operand with kind := .packageIdentifier, field := some .package } inner
        some (.mk { label with kind := .qualifiedType, field := some .type }
          (package :: others.map typeOfField))
      else none
    | _, _ => none

/-- Reads the only node of the level as the name of a type. -/
def asTypeName : Parser := fun s =>
  match s.finished with
  | [node] => (typeOfName? node).map fun named => { s with finished := [named] }
  | _ => none

/-- Whether what comes next could go on with an expression, rather than start a statement or end
a block. -/
def goesOn (s : State) : Bool :=
  !s.ahead.isEmpty && !s.at closeBrace && s.word?.isNone

/-- Whether an expression that ends in a literal may stand here. -/
def braceAllows (follow : Follow) (bare : Bool) (s : State) : Bool :=
  match follow.brace with
  | .literal => true
  | .body => false
  | .either => !bare && goesOn s

/-- A literal of the type just read: the level holds the name of the type. -/
def namedLiteral (follow : Follow) (first : State) (bare : Bool) : Parser := fun s =>
  if follow.brace == .body then none
  else match self .literalValue s with
    | none => none
    | some later =>
      if braceAllows follow bare later then some (later.enclose first .compositeLiteral none)
      else none

/-- Type arguments where an expression could stand as well: an item must not be a word that
stands for a value. -/
def expressionTypeArguments : Parser :=
  phrase .typeArguments (some .typeArguments) (sequence [symbol "[" none,
    commaList .inside (sequence [
      when (fun s => !valueWords.contains (s.word?.getD "")),
      typeUnion self .typeElem none .inside]),
    optional (symbol "," none), symbol "]" none])

/-- The level holds the name of a type and its arguments: they form one generic type. -/
def asGenericType (first : State) : Parser := fun s =>
  match s.finished with
  | arguments :: rest =>
    (asTypeName { s with finished := rest }).map fun named =>
      ({ named with finished := arguments :: named.finished }).enclose first .genericType
        (some .type)
  | [] => none

/-- What follows type arguments: a conversion, a call or a literal. -/
def afterTypeArguments (follow : Follow) (first : State) : Parser := fun s =>
  if s.at "(" then
    firstOf [
      fun s => (sequence [asGenericType first, conversionOperand self] s).map
        (·.enclose first .typeConversionExpression none),
      fun s => (argumentList self s).map (·.encloseAs first .callExpression .function)] s
  else if s.at openBrace then
    sequence [asGenericType first, namedLiteral self follow first false] s
  else none

/-- A bound of a slice. -/
def sliceBound (part : Field) : Parser := playing part (self (.expression .inside 0))

/-- An index or a slice.  A slice with a capacity has an end. -/
def indexOrSlice (first : State) : Parser := fun s =>
  firstOf [
    fun s => (sequence [symbol "[" none, sliceBound self .index,
      symbol "]" none] s).map (·.encloseAs first .indexExpression .operand),
    fun s => (sequence [symbol "[" none, optional (sliceBound self .start), symbol ":" none,
      optional (sequence [sliceBound self .stop,
        optional (sequence [symbol ":" none, sliceBound self .capacity])]),
      symbol "]" none] s).map (·.encloseAs first .sliceExpression .operand)] s

/-- What follows an opening bracket after an operand. -/
def bracketStep (follow : Follow) (first : State) : Parser :=
  firstOf [
    sequence [expressionTypeArguments self, afterTypeArguments self follow first],
    indexOrSlice self first,
    fun s => (expressionTypeArguments self s).map
      (·.encloseAs first .typeInstantiationExpression .type)]

/-- Whether the mark of a type switch comes next. -/
def atTypeGuard (s : State) : Bool :=
  match (sequence [symbol "." none, symbol "(" none, keyword "type", symbol ")" none] s) with
  | some _ => true
  | none => false

/-- What follows a point after an operand: a field or an asserted type. -/
def pointStep (follow : Follow) (first : State) : Parser := fun s =>
  if s.at "..." || (follow.guard && atTypeGuard s) then none
  else firstOf [
    fun s => (sequence [symbol "." none, symbol "(" none, playing .type (self (.type .inside)),
      symbol ")" none] s).map (·.encloseAs first .typeAssertionExpression .operand),
    fun s => (sequence [symbol "." none, name .fieldIdentifier (some .field) []] s).map
      (·.encloseAs first .selectorExpression .operand)] s

/-- A brace after an operand: a literal, if the operand names a type.  A newline before the brace
ends the operand, unless its name is qualified. -/
def braceStep (follow : Follow) (first : State) : Parser := fun s =>
  match s.finished with
  | [node] =>
    let bare := node.kind == .identifier
    if bare && (follow.ended s || follow.brace != .literal) then none
    else sequence [asTypeName, namedLiteral self follow first bare] s
  | _ => none

/-- One step from an operand to a larger one. -/
def operandStep (follow : Follow) (first : State) : Parser := fun s =>
  if s.at openBrace then braceStep self follow first s
  else if follow.ended s then none
  else if s.at "." then pointStep self follow first s
  else if s.at "[" then bracketStep self follow first s
  else if s.at "(" then
    (argumentList self s).map (·.encloseAs first .callExpression .function)
  else none

/-- The kinds of type that a literal may have without a name. -/
def isLiteralType (kind : Kind) : Bool :=
  [Kind.mapType, .sliceType, .arrayType, .implicitLengthArrayType, .structType].contains kind

/-- An operand that starts with a type other than a name: a literal or a conversion. -/
def typedOperand : Parser := onLevel fun first s =>
  match playing .type (firstOf [
      phrase .implicitLengthArrayType none (sequence [symbol "[" none, symbol "..." none,
        symbol "]" none, playing .element (self (.type .inside))]),
      self (.simpleType .inside)]) s with
  | none => none
  | some later =>
    let literal : Bool := match later.finished with
      | node :: _ => isLiteralType node.kind
      | [] => false
    if literal && later.at openBrace then
      (self .literalValue later).map (·.enclose first .compositeLiteral none)
    else
      (conversionOperand self later).map (·.enclose first .typeConversionExpression none)

/-- A function literal, or a conversion to a function type. -/
def functionOperand : Parser :=
  firstOf [
    phrase .funcLiteral none (sequence [keyword "func", parameterList self .parameters,
      result self .inside, playing .body (self .block)]),
    typedOperand self]

mutual

/-- Whether a tree holds type arguments. -/
def holdsTypeArguments : Node → Bool
  | .mk label children => label.kind == .typeArguments || someHoldsTypeArguments children

/-- Whether one of several trees holds type arguments. -/
def someHoldsTypeArguments : List Node → Bool
  | [] => false
  | node :: rest => holdsTypeArguments node || someHoldsTypeArguments rest

end

/-- A conversion to a type in parentheses; `generic` asks for one that holds type arguments. -/
def parenthesizedConversion (generic : Bool) : Parser := onLevel fun first s =>
  match playing .type (parenthesizedType self) s with
  | none => none
  | some later =>
    if !generic || later.finished.any holdsTypeArguments then
      (conversionOperand self later).map (·.enclose first .typeConversionExpression none)
    else none

/-- An operand in parentheses. -/
def parenthesized : Parser :=
  firstOf [
    parenthesizedConversion self true,
    phrase .parenthesizedExpression none
      (sequence [symbol "(" none, self (.expression .inside 0), symbol ")" none]),
    parenthesizedConversion self false]

/-- A call of `new` or `make`, or the bare word. -/
def allocation (follow : Follow) : Parser := fun s =>
  let word := name .identifier none []
  match word s with
  | none => none
  | some later =>
    if later.at "(" && !follow.ended later then
      phrase .callExpression none
        (sequence [playing .function word, typedArgumentList self]) s
    else some later

/-- What a chain of selectors, indices and calls starts with. -/
def operandStart (follow : Follow) : Parser := fun s =>
  match s.word? with
  | some "func" => functionOperand self s
  | some "nil" => name .nilLiteral none [] s
  | some "true" => name .trueLiteral none [] s
  | some "false" => name .falseLiteral none [] s
  | some "iota" => name .iota none [] s
  | some word =>
    if typeWords.contains word then typedOperand self s
    else if valueWords.contains word then allocation self follow s
    else name .identifier none [] s
  | none =>
    firstOf [parenthesized self, stringLiteral none, numberLiteral, runeLiteral,
      typedOperand self] s

/-- An operand with all that is selected from it, called on it or indexed in it. -/
def operand (follow : Follow) : Parser := onLevel fun first s =>
  match operandStart self follow s with
  | none => none
  | some later => many (operandStep self follow first) later

/-- The operators before an operand. -/
def unaryOperators : List String := ["<-", "+", "-", "!", "^", "*", "&"]

/-- A unary expression. -/
def unary (follow : Follow) : Parser := fun s =>
  match unaryOperators.find? s.at with
  | some sign =>
    firstOf [
      phrase .unaryExpression none
        (sequence [symbol sign (some .operator), playing .operand (self (.unary follow))]),
      if sign == "<-" then typedOperand self else fun _ => none] s
  | none => operand self follow s

/-- One binary operator and its right operand, applied to what the level holds. -/
def operatorStep (follow : Follow) (least : Nat) (first : State) : Parser := fun s =>
  match nextOperator? follow s with
  | none => none
  | some (text, binds) =>
    if binds < least then none
    else (sequence [symbol text (some .operator),
      playing .right (self (.expression follow (binds + 1)))] s).map
        (·.encloseAs first .binaryExpression .left)

/-- A binary expression all of whose operators bind at least as tightly as `least`. -/
def expression (follow : Follow) (least : Nat) : Parser := onLevel fun first s =>
  match unary self follow s with
  | none => none
  | some later => many (operatorStep self follow least first) later

end WorkflowGraph.Go.Grammar
