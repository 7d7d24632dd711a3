import WorkflowGraph.Go.Grammar.Statements

/-!
# Parsing whole sources

A source is a list of items: a package clause, imports, functions, methods, and any statement.
Package clause and imports may stand anywhere and may be missing.

The productions of the grammar are functions of the parser of every goal.  `parseGoal` closes
the circle with a bound on the depth of the recursion, which `parse?` derives from the length of
the source: every production but a bounded number reads a character before it recurs.
-/

namespace WorkflowGraph.Go

open Grammar

/-- One layer of the grammar, over the parser of the phrases inside. -/
def goalStep (self : Goal → Parser) : Goal → Parser
  | .type follow => type self follow
  | .simpleType follow => simpleType self follow
  | .expression follow least => expression self follow least
  | .unary follow => unary self follow
  | .literalValue => literalValue self
  | .block => block self
  | .statement follow => statement self follow
  | .ifStatement follow => ifStatement self follow

/-- Reads a phrase that is nested at most `depth` deep. -/
def parseGoal : Nat → Goal → Parser
  | 0, _ => fun _ => none
  | depth + 1, goal => goalStep (parseGoal depth) goal

namespace Grammar

variable (self : Goal → Parser)

def packageClause : Parser :=
  phrase .packageClause none
    (sequence [keyword "package", name .packageIdentifier none []])

/-- An imported package with the name that it may be given. -/
def importSpec : Parser :=
  phrase .importSpec none (sequence [
    optional (firstOf [
      fun s => if s.at "." then some (s.skip.leaf .dot (some .name) 1) else none,
      fun s => if s.atWord "_" then some (s.skip.leaf .blankIdentifier (some .name) 1) else none,
      name .packageIdentifier (some .name) []]),
    stringLiteral (some .path)])

def importDeclaration : Parser :=
  phrase .importDeclaration none (sequence [keyword "import",
    firstOf [
      phrase .importSpecList none
        (sequence [symbol "(" none, terminated importSpec, symbol ")" none]),
      importSpec]])

/-- Parameters, result and body of a function that has a name; the body may be missing. -/
def functionTail : Parser :=
  let follow : Follow := .statement false
  sequence [parameterList self .parameters, result self follow,
    optional (follow.unlessEnded (playing .body (self .block)))]

def functionDeclaration : Parser :=
  phrase .functionDeclaration none (sequence [keyword "func", name .identifier (some .name) [],
    optional (typeParameterList self), functionTail self])

def methodDeclaration : Parser :=
  phrase .methodDeclaration none (sequence [keyword "func", parameterList self .receiver,
    name .fieldIdentifier (some .name) [], functionTail self])

/-- One item of a source. -/
def item : Parser := fun s =>
  match s.word? with
  | some "package" => packageClause s
  | some "import" => importDeclaration s
  | some "func" =>
    firstOf [functionDeclaration self, methodDeclaration self,
      self (.statement (.statement false))] s
  | _ => self (.statement (.statement false)) s

/-- A whole source: items with their terminators, up to the end. -/
def sourceFile (start : State) : Option Node :=
  let last := (atMost (sequence [item self, terminator]) (start.rest.length + 1) start).skip
  if last.rest.isEmpty then
    some (start.nodeUpTo last .sourceFile none last.finished.reverse)
  else none

end Grammar

/-- The syntax tree of a source, or `none` if the source does not follow the grammar. -/
def parse? (source : String) : Option Node :=
  let start := State.start source
  (sourceFile (parseGoal (8 * start.rest.length + 32)) start).map Node.number

end WorkflowGraph.Go
