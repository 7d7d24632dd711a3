import WorkflowGraph.Go.Grammar.Basic

/-!
# Types

Type names, plain (`T`), qualified (`p.T`) and with type arguments (`T[A, B]`), and the types
built from others.  Parameter lists stand here too, since function types hold them.
-/

namespace WorkflowGraph.Go.Grammar

variable (self : Goal → Parser)

/-- A union of types, as in a constraint or a type argument. -/
def typeUnion (kind : Kind) (part : Option Field) (follow : Follow) : Parser :=
  phrase kind part (sequence [self (.type follow),
    many (sequence [follow.unlessEnded (symbol "|" none), self (.type follow)])])

/-- The bracketed arguments of a generic type. -/
def typeArguments : Parser :=
  phrase .typeArguments (some .typeArguments) (sequence [symbol "[" none,
    commaList .inside (typeUnion self .typeElem none .inside), optional (symbol "," none),
    symbol "]" none])

/-- A type name with its package. -/
def qualifiedType (follow : Follow) : Parser :=
  phrase .qualifiedType none (sequence [name .packageIdentifier (some .package) typeWords,
    follow.unlessEnded (symbol "." none), name .typeIdentifier (some .name) []])

/-- A plain or qualified type name. -/
def plainTypeName (follow : Follow) : Parser :=
  firstOf [qualifiedType follow, name .typeIdentifier none typeWords]

/-- A type name, with type arguments or without. -/
def typeName (follow : Follow) : Parser :=
  firstOf [
    phrase .genericType none (sequence [playing .type (plainTypeName follow),
      follow.unlessEnded (typeArguments self)]),
    plainTypeName follow]

/-- Names, with commas between them, that are none of the words that start a type. -/
def nameList : Parser := fun s =>
  sequence [name .identifier (some .name) typeWords,
    many (sequence [symbol "," none, name .identifier (some .name) typeWords])] s

/-- One entry of a parameter list: names with a type, a variadic parameter, or a type alone. -/
def parameter : Parser :=
  firstOf [
    phrase .variadicParameterDeclaration none (sequence [
      optional (name .identifier (some .name) typeWords), symbol "..." none,
      playing .type (self (.type .inside))]),
    phrase .parameterDeclaration none (sequence [nameList, playing .type (self (.type .inside))]),
    phrase .parameterDeclaration none (playing .type (self (.type .inside)))]

/-- A parameter list. -/
def parameterList (part : Field) : Parser :=
  phrase .parameterList (some part) (bracketed "(" ")" (parameter self))

/-- What a function gives back: a parameter list, a type, or nothing. -/
def result (follow : Follow) : Parser :=
  optional (follow.unlessEnded
    (firstOf [parameterList self .result, playing .result (self (.simpleType follow))]))

def functionType (follow : Follow) : Parser :=
  phrase .functionType none
    (sequence [keyword "func", parameterList self .parameters, result self follow])

/-- Whether a field of a struct ends here. -/
def fieldEnds (s : State) : Bool :=
  s.atLineEnd || s.ahead.isEmpty || s.at ";" || s.at closeBrace

/-- One field of a struct: an embedded type, or names with a type; a tag may follow. -/
def fieldDeclaration : Parser :=
  let follow : Follow := { newline := true }
  let tag := optional (follow.unlessEnded (stringLiteral (some .tag)))
  firstOf [
    phrase .fieldDeclaration none (sequence [optional (symbol "*" none),
      playing .type (typeName self follow), tag, when fieldEnds]),
    phrase .fieldDeclaration none (sequence [
      name .fieldIdentifier (some .name) [],
      many (sequence [symbol "," none, name .fieldIdentifier (some .name) []]),
      playing .type (self (.type follow)), tag])]

def structType : Parser :=
  phrase .structType none (sequence [keyword "struct",
    phrase .fieldDeclarationList none (sequence [symbol openBrace none,
      terminated (fieldDeclaration self), symbol closeBrace none])])

/-- One element of an interface: a method or a union of types. -/
def interfaceElement : Parser :=
  let follow : Follow := { newline := true }
  firstOf [
    phrase .methodElem none (sequence [name .fieldIdentifier (some .name) [],
      follow.unlessEnded (parameterList self .parameters), result self follow]),
    typeUnion self .typeElem none follow]

def interfaceType : Parser :=
  phrase .interfaceType none (sequence [keyword "interface", symbol openBrace none,
    terminated (interfaceElement self), symbol closeBrace none])

def mapType (follow : Follow) : Parser :=
  phrase .mapType none (sequence [keyword "map", symbol "[" none,
    playing .key (self (.type .inside)), symbol "]" none, playing .value (self (.type follow))])

def channelType (follow : Follow) : Parser :=
  phrase .channelType none (sequence [
    firstOf [
      sequence [symbol "<-" none, keyword "chan"],
      sequence [keyword "chan", symbol "<-" none],
      keyword "chan"],
    playing .value (self (.type follow))])

def sliceType (follow : Follow) : Parser :=
  phrase .sliceType none (sequence [symbol "[" none, symbol "]" none,
    playing .element (self (.type follow))])

def arrayType (follow : Follow) : Parser :=
  phrase .arrayType none (sequence [symbol "[" none,
    playing .length (self (.expression .inside 0)), symbol "]" none,
    playing .element (self (.type follow))])

def pointerType (follow : Follow) : Parser :=
  phrase .pointerType none (sequence [symbol "*" none, self (.type follow)])

def negatedType (follow : Follow) : Parser :=
  phrase .negatedType none (sequence [symbol "~" none, self (.type follow)])

def parenthesizedType : Parser :=
  phrase .parenthesizedType none
    (sequence [symbol "(" none, self (.type .inside), symbol ")" none])

/-- A type that is not in parentheses. -/
def simpleType (follow : Follow) : Parser := fun s =>
  match s.word? with
  | some "func" => functionType self follow s
  | some "struct" => structType self s
  | some "interface" => interfaceType self s
  | some "map" => mapType self follow s
  | some "chan" => channelType self follow s
  | some _ => typeName self follow s
  | none =>
    firstOf [pointerType self follow, sliceType self follow, arrayType self follow,
      channelType self follow, negatedType self follow] s

/-- Any type. -/
def type (follow : Follow) : Parser :=
  firstOf [parenthesizedType self, simpleType self follow]

/-- The type parameters of a declaration. -/
def typeParameterList : Parser :=
  phrase .typeParameterList (some .typeParameters) (sequence [symbol "[" none,
    commaList .inside (phrase .typeParameterDeclaration none (sequence [nameList,
      typeUnion self .typeConstraint (some .type) .inside])),
    optional (symbol "," none), symbol "]" none])

end WorkflowGraph.Go.Grammar
