import WorkflowGraph.Go.Grammar.Expressions

/-!
# Statements and declarations inside them

Statements end at a terminator.  A newline ends a statement only where the statement can end;
elsewhere it is white space, so no semicolon is ever inserted.

A word is a keyword only where the grammar has a place for it: `else` at the start of a line is
a name like any other.
-/

namespace WorkflowGraph.Go.Grammar

variable (self : Goal → Parser)

/-- Expressions with commas between them, as one node. -/
def expressionList (part : Option Field) (follow : Follow) : Parser :=
  phrase .expressionList part (commaList follow (self (.expression follow 0)))

/-- Makes the expressions on the level one list on the left of a statement. -/
def asLeftSide (first s : State) : State := s.enclose first .expressionList (some .left)

/-- Goes on from the expressions on the level to a simple statement.  `right` says what may
follow the right side of an assignment. -/
def simpleFrom (follow right : Follow) (first : State) : Parser := fun s =>
  let single : Bool := (s.finished.filter Node.isPhrase).length == 1
  if follow.ended s then
    if single then some (s.enclose first .expressionStatement none) else none
  else if s.at ":=" then
    (sequence [symbol ":=" none, expressionList self (some .right) right] (asLeftSide first s)).map
      (·.enclose first .shortVarDeclaration none)
  else match assignmentOperators.find? s.at with
    | some text =>
      if s.at "==" then
        if single then some (s.enclose first .expressionStatement none) else none
      else (sequence [symbol text (some .operator), expressionList self (some .right) right]
        (asLeftSide first s)).map (·.enclose first .assignmentStatement none)
    | none =>
      if !single then none
      else if s.at "++" then
        (symbol "++" none s).map (·.enclose first .incStatement none)
      else if s.at "--" then
        (symbol "--" none s).map (·.enclose first .decStatement none)
      else if s.at "<-" then
        (sequence [symbol "<-" none, playing .value (self (.expression right 0))] s).map
          (·.encloseAs first .sendStatement .channel)
      else some (s.enclose first .expressionStatement none)

/-- An expression, an assignment, a declaration of variables, an increment or a send. -/
def simpleStatement (part : Option Field) (follow right : Follow) : Parser := fun s =>
  let left := { follow with assignment := true }
  (onLevel (fun first s =>
    match commaList left (self (.expression left 0)) s with
    | none => none
    | some later => simpleFrom self left right first later) s).map fun later =>
      match later.finished with
      | .mk label children :: before =>
        { later with finished := .mk { label with field := part } children :: before }
      | [] => later

/-! ## Declarations -/

/-- Names that a declaration introduces. -/
def declaredNames (follow : Follow) : Parser :=
  commaList follow (name .identifier (some .name) [])

/-- A keyword followed by one specification or by several in parentheses, each with its
terminator. -/
def declaration (kind : Kind) (word : String) (one : Follow → Parser) (follow : Follow)
    (group : Parser → Parser) : Parser :=
  phrase kind none (sequence [keyword word,
    firstOf [
      group (sequence [symbol "(" none,
        many (sequence [one { newline := true }, terminator]), symbol ")" none]),
      one follow]])

def constSpec (follow : Follow) : Parser :=
  phrase .constSpec none (sequence [declaredNames follow,
    optional (follow.unlessEnded (sequence [
      optional (playing .type (self (.type follow))), symbol "=" none,
      expressionList self (some .value) follow]))])

def varSpec (follow : Follow) : Parser :=
  let values := sequence [symbol "=" none, expressionList self (some .value) follow]
  phrase .varSpec none (sequence [declaredNames follow,
    firstOf [
      sequence [playing .type (self (.type follow)), optional (follow.unlessEnded values)],
      values]])

def typeSpec (follow : Follow) : Parser :=
  firstOf [
    phrase .typeAlias none (sequence [name .typeIdentifier (some .name) [], symbol "=" none,
      playing .type (self (.type follow))]),
    phrase .typeSpec none (sequence [name .typeIdentifier (some .name) [],
      typeParameterList self, playing .type (self (.type follow))]),
    phrase .typeSpec none (sequence [name .typeIdentifier (some .name) [],
      playing .type (self (.type follow))])]

def constDeclaration (follow : Follow) : Parser :=
  declaration .constDeclaration "const" (constSpec self) follow fun group => group

def varDeclaration (follow : Follow) : Parser :=
  declaration .varDeclaration "var" (varSpec self) follow (phrase .varSpecList none)

def typeDeclaration (follow : Follow) : Parser :=
  declaration .typeDeclaration "type" (typeSpec self) follow fun group => group

/-! ## Lists of statements -/

/-- The words that start the next clause of a `switch` or `select`. -/
def atClause (s : State) : Bool := s.atWord "case" || s.atWord "default"

/-- Statements with terminators between them. -/
def statementList (clause : Bool) : Parser :=
  terminated (sequence [when (fun s => !(clause && atClause s)),
    self (.statement (.statement clause))])

def block : Parser :=
  phrase .block none (sequence [symbol openBrace none, statementList self false, symbol closeBrace none])

/-- Whether a statement may end here. -/
def statementEnds (follow : Follow) (s : State) : Bool :=
  s.atLineEnd || s.ahead.isEmpty || s.at ";" || s.at closeBrace || (follow.clause && atClause s)

/-- A header and what stands after it.  The first brace after the header opens the body; where
the whole cannot be read so, braces inside the header may open literals. -/
def headed (header : Brace → Parser) (body : Parser) : Parser := fun s =>
  match header .body s with
  | none => ((header .either s).bind body)
  | some plain =>
    match body plain with
    | some later => some later
    | none =>
      match header .either s with
      | none => none
      | some other => if other.offset == plain.offset then none else body other

/-- The statement before the condition of a header, with its semicolon. -/
def headerInitializer (brace : Brace) : Parser :=
  sequence [simpleStatement self (some .initializer) (.header brace) .inside, symbol ";" none]

/-- A condition, or another expression that a body follows. -/
def headerExpression (part : Field) (brace : Brace) : Parser :=
  playing part (self (.expression (.header brace) 0))

/-- An initializer or none, then the given rest of a header. -/
def initialized (brace : Brace) (rest : Parser) : Parser :=
  firstOf [sequence [headerInitializer self brace, rest], rest]

def ifStatement (follow : Follow) : Parser :=
  phrase .ifStatement none (sequence [keyword "if",
    headed (fun brace => initialized self brace (headerExpression self .condition brace))
      (sequence [playing .consequence (self .block),
        optional (follow.unlessEnded (sequence [keyword "else",
          playing .alternative
            (firstOf [self (.ifStatement follow), self .block])])),
        when (statementEnds follow)])])

/-- The part of a `for` statement that ranges over something. -/
def rangeClause (brace : Brace) : Parser :=
  let left : Follow := { brace, assignment := true }
  phrase .rangeClause none (sequence [
    optional (sequence [expressionList self (some .left) left,
      firstOf [symbol ":=" none, symbol "=" none]]),
    keyword "range", headerExpression self .right brace])

/-- The three parts of a counting `for` statement. -/
def forClause (brace : Brace) : Parser :=
  phrase .forClause none (sequence [
    optional (simpleStatement self (some .initializer) (.header brace) .inside),
    symbol ";" none,
    optional (playing .condition (self (.expression .inside 0))),
    symbol ";" none,
    optional (simpleStatement self (some .update) (.header brace) (.header brace))])

def forStatement (follow : Follow) : Parser :=
  phrase .forStatement none (sequence [keyword "for",
    headed
      (fun brace => firstOf [
        when (·.at openBrace),
        rangeClause self brace,
        forClause self brace,
        self (.expression (.header brace) 0)])
      (sequence [playing .body (self .block), when (statementEnds follow)])])

def defaultCase : Parser :=
  phrase .defaultCase none
    (sequence [keyword "default", symbol ":" none, statementList self true])

/-- The clauses of a `switch` or `select`, in braces. -/
def clauses (clause : Parser) : Parser :=
  sequence [symbol openBrace none, many (firstOf [clause, defaultCase self]), symbol closeBrace none]

def expressionCase : Parser :=
  phrase .expressionCase none (sequence [keyword "case", expressionList self (some .value) .inside,
    symbol ":" none, statementList self true])

def typeCase : Parser :=
  phrase .typeCase none (sequence [keyword "case",
    commaList .inside (playing .type (self (.type .inside))),
    symbol ":" none, statementList self true])

/-- The value of a type switch with its mark, and the name that it may be given. -/
def typeGuard : Parser :=
  sequence [
    optional (sequence [expressionList self (some .alias) { assignment := true },
      symbol ":=" none]),
    playing .value (operand self { guard := true }),
    symbol "." none, symbol "(" none, keyword "type", symbol ")" none]

def typeSwitch : Parser :=
  phrase .typeSwitchStatement none (sequence [keyword "switch",
    initialized self .body (typeGuard self), clauses self (typeCase self)])

def expressionSwitch (follow : Follow) : Parser :=
  phrase .expressionSwitchStatement none (sequence [keyword "switch",
    headed
      (fun brace => initialized self brace
        (firstOf [when (·.at openBrace), headerExpression self .value brace]))
      (sequence [clauses self (expressionCase self), when (statementEnds follow)])])

/-- A send or a receive, as a clause of `select` waits for it. -/
def communication : Parser :=
  let left : Follow := { assignment := true }
  onLevel fun first s =>
    match commaList left (self (.expression left 0)) s with
    | none => none
    | some later =>
      if later.at ":=" || (later.at "=" && !later.at "==") then
        (sequence [firstOf [symbol ":=" none, symbol "=" none],
          playing .right (self (.expression .inside 0))] (asLeftSide first later)).map
            (·.enclose first .receiveStatement (some .communication))
      else if later.at "<-" then
        (sequence [symbol "<-" none, playing .value (self (.expression .inside 0))] later).map
          fun s => (s.encloseAs first .sendStatement .channel)
      else if (later.finished.filter Node.isPhrase).length == 1 then
        some (later.enclose first .receiveStatement (some .communication))
      else none

def communicationCase : Parser :=
  phrase .communicationCase none (sequence [keyword "case",
    playing .communication (communication self), symbol ":" none, statementList self true])

def selectStatement : Parser :=
  phrase .selectStatement none
    (sequence [keyword "select", clauses self (communicationCase self)])

/-! ## Jumps, labels and the rest -/

/-- A keyword and what may follow it on the same line. -/
def jump (kind : Kind) (word : String) (follow : Follow) (target : Parser) : Parser :=
  phrase kind none (sequence [keyword word,
    optional (follow.unlessEnded (sequence [
      when (fun s => !(follow.clause && atClause s)), target]))])

/-- Whether a label with nothing after it may end a list of statements here. -/
def listEnds (follow : Follow) (s : State) : Bool :=
  s.at closeBrace || (follow.clause && atClause s)

/-- A statement with a label, or at the end of a list a label alone. -/
def labeledStatement (follow : Follow) : Parser :=
  phrase .labeledStatement none (sequence [name .labelName (some .label) [],
    when (fun s => !s.at ":="), symbol ":" none,
    firstOf [when (listEnds follow), self (.statement follow)]])

/-- Any statement. -/
def statement (follow : Follow) : Parser := fun s =>
  match s.word? with
  | some "const" => constDeclaration self follow s
  | some "var" => varDeclaration self follow s
  | some "type" => typeDeclaration self follow s
  | some "return" =>
    jump .returnStatement "return" follow (expressionList self none follow) s
  | some "go" =>
    phrase .goStatement none (sequence [keyword "go", self (.expression follow 0)]) s
  | some "defer" =>
    phrase .deferStatement none (sequence [keyword "defer", self (.expression follow 0)]) s
  | some "if" => self (.ifStatement follow) s
  | some "for" => forStatement self follow s
  | some "switch" => firstOf [typeSwitch self, expressionSwitch self follow] s
  | some "select" => selectStatement self s
  | some "fallthrough" => phrase .fallthroughStatement none (keyword "fallthrough") s
  | some "break" => jump .breakStatement "break" follow (name .labelName none []) s
  | some "continue" => jump .continueStatement "continue" follow (name .labelName none []) s
  | some "goto" =>
    phrase .gotoStatement none (sequence [keyword "goto", name .labelName none []]) s
  | some word =>
    if typeWords.contains word || valueWords.contains word then
      simpleStatement self none follow follow s
    else firstOf [labeledStatement self follow, simpleStatement self none follow follow] s
  | none =>
    if s.at openBrace then self .block s
    else if s.at ";" then phrase .emptyStatement none (symbol ";" none) s
    else simpleStatement self none follow follow s

end WorkflowGraph.Go.Grammar
