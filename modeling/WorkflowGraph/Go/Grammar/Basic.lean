import WorkflowGraph.Go.Scan

/-!
# What the productions of the grammar share

The same phrase reads differently by what may come after it: a newline ends a statement but
not an argument, and the brace in `if x {` opens a body while the one in `f(x{})` opens a
literal.  `Follow` says what may come after a phrase, and every production hands it on to the
phrases that stand at its own end.

The productions refer to one another in circles.  Each is therefore a function of `self`, the
parser of every `Goal`, and is itself not recursive; the circle is closed once, in the module
that parses whole sources.
-/

namespace WorkflowGraph.Go

/-- What an opening brace means after a phrase that could name a type. -/
inductive Brace where
  /-- It opens a literal of that type. -/
  | literal
  /-- It opens a body. -/
  | body
  /-- It opens a body after a bare name; after a qualified or generic one it may open a literal,
  when something that goes on with the expression follows. -/
  | either
deriving DecidableEq, Repr

/-- What may come right after a phrase. -/
structure Follow where
  /-- A newline may end the phrase. -/
  newline : Bool := false
  brace : Brace := .literal
  /-- An assignment, an increment or a send may go on from the phrase. -/
  assignment : Bool := false
  /-- The next clause of a `switch` or `select` may start. -/
  clause : Bool := false
  /-- The mark `.(type)` of a type switch may follow. -/
  guard : Bool := false
deriving DecidableEq, Repr

/-- Inside brackets only the closing bracket and separators follow. -/
def Follow.inside : Follow := {}

/-- At the end of a statement. -/
def Follow.statement (clause : Bool) : Follow := { newline := true, clause }

/-- In front of the body of an `if`, `for` or `switch`. -/
def Follow.header (brace : Brace) : Follow := { brace }

/-- Whether the phrase ends here because of a newline. -/
def Follow.ended (follow : Follow) (s : State) : Bool := follow.newline && s.atLineEnd

/-- Goes on with a phrase unless a newline has ended it. -/
def Follow.unlessEnded (follow : Follow) (body : Parser) : Parser := fun s =>
  if follow.ended s then none else body s

/-- The phrases that the grammar reaches in circles. -/
inductive Goal where
  | type (follow : Follow)
  | simpleType (follow : Follow)
  /-- A binary expression all of whose operators bind at least as tightly as `least`. -/
  | expression (follow : Follow) (least : Nat)
  | unary (follow : Follow)
  | literalValue
  | block
  | statement (follow : Follow)
  | ifStatement (follow : Follow)
deriving DecidableEq, Repr

/-- Reads items with commas between them. -/
def commaList (follow : Follow) (item : Parser) : Parser :=
  sequence [item, many (sequence [follow.unlessEnded (symbol "," none), item])]

/-- Reads items with commas between them inside brackets.  There may be none, and a comma may stand
before the closing bracket, even alone. -/
def bracketed (opening closing : String) (item : Parser) : Parser :=
  sequence [symbol opening none, optional (commaList .inside item), optional (symbol "," none),
    symbol closing none]

/-- As `bracketed`, where a comma stands only after an item. -/
def bracketedItems (opening closing : String) (item : Parser) : Parser :=
  sequence [symbol opening none,
    optional (sequence [commaList .inside item, optional (symbol "," none)]),
    symbol closing none]

/-- The words that start a type. -/
def typeWords : List String := ["func", "struct", "map", "chan", "interface"]

/-- The words that stand for a value. -/
def valueWords : List String := ["nil", "true", "false", "iota", "new", "make"]

end WorkflowGraph.Go
