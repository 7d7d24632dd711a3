import WorkflowGraph.Go.Literal
import WorkflowGraph.Go.Node
import WorkflowGraph.Text.Identifier

/-!
# Reading a source from left to right

A `State` is a place in a source together with the nodes finished so far on the level that is
being read, newest first.  A `Parser` moves forward and adds nodes, or fails.

White space and comments stand between tokens.  `State.skip` passes over both and keeps the
comments as nodes; `State.atLineEnd` tells whether a newline comes before the next token, which
matters where a statement may end.
-/

namespace WorkflowGraph.Go

/-- A place in a source and the nodes finished so far, newest first. -/
structure State where
  rest : List Char
  offset : Nat
  row : Nat
  finished : List Node
deriving Repr

/-- Reads something at the current place, or fails. -/
abbrev Parser := State → Option State

/-- The start of a source.  A byte-order mark in front is passed over. -/
def State.start (source : String) : State :=
  match source.toList with
  | '\uFEFF' :: rest => ⟨rest, 1, 0, []⟩
  | rest => ⟨rest, 0, 0, []⟩

/-- White space of a source. -/
def isSpace (c : Char) : Bool :=
  ('\t' ≤ c && c ≤ '\r') || c == ' '

/-- Moves over one character, which leaves `rest`. -/
def State.step (s : State) (c : Char) (rest : List Char) : State :=
  { s with rest, offset := s.offset + 1, row := if c == '\n' then s.row + 1 else s.row }

/-- Moves over `count` characters, or to the end. -/
def State.advance (s : State) : Nat → State
  | 0 => s
  | count + 1 => match s.rest with
    | [] => s
    | c :: rest => (s.step c rest).advance count

/-- The text between two places. -/
def State.textUpTo (s later : State) : String :=
  String.ofList (s.rest.take (later.offset - s.offset))

/-- A node that covers the text between two places. -/
def State.nodeUpTo (s later : State) (kind : Kind) (part : Option Field)
    (children : List Node) : Node :=
  .mk ⟨kind, part, s.textUpTo later, s.row, later.row, 0⟩ children

/-- Reads the next `length` characters as one node without children. -/
def State.leaf (s : State) (kind : Kind) (part : Option Field) (length : Nat) : State :=
  let later := s.advance length
  { later with finished := s.nodeUpTo later kind part [] :: s.finished }

/-- Passes over white space and comments, character by character.  `inside` counts the
characters left of the comment that is being passed, and `newlines` says whether newlines are
white space here. -/
def State.skipFrom (newlines : Bool) (inside : Nat) (s : State) : List Char → State
  | [] => s
  | c :: rest =>
    if inside > 0 then skipFrom newlines (inside - 1) (s.step c rest) rest
    else if isSpace c && (newlines || c != '\n') then skipFrom newlines 0 (s.step c rest) rest
    else match Literal.comment (c :: rest) with
      | none => s
      | some length =>
        let node := s.nodeUpTo (s.advance length) .comment none []
        skipFrom newlines (length - 1)
          ({ s with finished := node :: s.finished }.step c rest) rest

/-- Passes over white space, newlines included, and comments. -/
def State.skip (s : State) : State := s.skipFrom true 0 s.rest

/-- Passes over white space and comments up to the end of the line. -/
def State.skipInLine (s : State) : State := s.skipFrom false 0 s.rest

/-- Whether a newline comes before the next token.  A newline inside a comment does not count. -/
def State.atLineEnd (s : State) : Bool :=
  s.skipInLine.rest.head? == some '\n'

/-- What stands after white space and comments. -/
def State.ahead (s : State) : List Char := s.skip.rest

/-- The brace that opens a body or a literal. -/
def openBrace : String := "\x7b"

/-- The brace that closes a body or a literal. -/
def closeBrace : String := "\x7d"

/-- The length of the word at the start of a text: an identifier or a keyword. -/
def wordLength : List Char → Nat
  | [] => 0
  | c :: rest =>
    if Text.isIdentifierStart c then (rest.takeWhile Text.isIdentifierContinue).length + 1 else 0

/-- The next word, if a word comes next. -/
def State.word? (s : State) : Option String :=
  match wordLength s.ahead with
  | 0 => none
  | length => some (String.ofList (s.ahead.take length))

/-- Whether the next word is the given one. -/
def State.atWord (s : State) (word : String) : Bool := s.word? == some word

/-- Whether the given symbol comes next. -/
def State.at (s : State) (symbol : String) : Bool := symbol.toList.isPrefixOf s.ahead

/-- Reads a symbol. -/
def symbol (text : String) (part : Option Field) : Parser := fun s =>
  if s.at text then some (s.skip.leaf .token part text.length) else none

/-- Reads a keyword. -/
def keyword (text : String) : Parser := fun s =>
  if s.atWord text then some (s.skip.leaf .token none text.length) else none

/-- Reads a word that is none of the `reserved` ones, as a node of the given kind. -/
def name (kind : Kind) (part : Option Field) (reserved : List String) : Parser := fun s =>
  match s.word? with
  | none => none
  | some word => if reserved.contains word then none else some (s.skip.leaf kind part word.length)

/-- Reads a phrase: what `body` reads becomes the children of one node. -/
def phrase (kind : Kind) (part : Option Field) (body : Parser) : Parser := fun s =>
  let first := s.skip
  match body { first with finished := [] } with
  | none => none
  | some later =>
    let node := first.nodeUpTo later kind part later.finished.reverse
    some { later with finished := node :: first.finished }

/-- Makes the node read last play a part of the phrase around it. -/
def playing (part : Field) (body : Parser) : Parser := fun s =>
  match body s with
  | none => none
  | some later => match later.finished with
    | .mk label children :: before =>
      some { later with finished := .mk { label with field := some part } children :: before }
    | [] => some later

/-- Reads one thing after the other. -/
def sequence : List Parser → Parser
  | [] => some
  | first :: others => fun s => (first s).bind (sequence others)

/-- Reads what the first parser that succeeds reads. -/
def firstOf : List Parser → Parser
  | [] => fun _ => none
  | first :: others => fun s => (first s).or (firstOf others s)

/-- Reads something or nothing. -/
def optional (body : Parser) : Parser := fun s => some ((body s).getD s)

/-- Reads as many as there are, at most `count`. -/
def atMost (body : Parser) : Nat → State → State
  | 0, s => s
  | count + 1, s => match body s with
    | none => s
    | some later => if later.offset ≤ s.offset then s else atMost body count later

/-- Reads as many as there are. -/
def many (body : Parser) : Parser := fun s => some (atMost body (s.rest.length + 1) s)

/-- Goes on only where `condition` holds. -/
def when (condition : State → Bool) : Parser := fun s => if condition s then some s else none

/-- Reads with a fresh level, on which `first` is the place where it starts. -/
def onLevel (body : State → Parser) : Parser := fun s =>
  let first := s.skip
  match body first { first with finished := [] } with
  | none => none
  | some later => some { later with finished := later.finished ++ first.finished }

/-- Makes all nodes of the level the children of one node that starts at `first`. -/
def State.enclose (s first : State) (kind : Kind) (part : Option Field) : State :=
  { s with finished := [first.nodeUpTo s kind part s.finished.reverse] }

/-- As `State.enclose`, where the oldest of the nodes plays a part in the new one. -/
def State.encloseAs (s first : State) (kind : Kind) (part : Field) : State :=
  match s.finished.reverse with
  | .mk label children :: others =>
    let oldest := Node.mk { label with field := some part } children
    { s with finished := [first.nodeUpTo s kind none (oldest :: others)] }
  | [] => s

/-- The end of a statement or of an item of a list: a newline, a semicolon, a zero character
or the end of the source. -/
def terminator : Parser := fun s =>
  let s := s.skipInLine
  match s.rest with
  | [] => some (s.leaf .token none 0)
  | c :: _ => if c == '\n' || c == ';' || c == '\x00' then some (s.leaf .token none 1) else none

/-- Reads a list whose items terminators divide; the last one need not have its own. -/
def terminated (item : Parser) : Parser :=
  optional (sequence [item, many (sequence [terminator, item]), optional terminator])

/-- Reads a string literal. -/
def stringLiteral (part : Option Field) : Parser := fun s =>
  match Literal.raw s.ahead, Literal.interpreted s.ahead with
  | some length, _ => some (s.skip.leaf .rawStringLiteral part length)
  | _, some length => some (s.skip.leaf .interpretedStringLiteral part length)
  | none, none => none

/-- Reads a number: of an integer, a float and an imaginary number the longest. -/
def numberLiteral : Parser := fun s =>
  let s := s.skip
  let int := Literal.int s.rest
  let float := Literal.float s.rest
  let imaginary := Literal.imaginary s.rest
  if imaginary > int && imaginary > float then some (s.leaf .imaginaryLiteral none imaginary)
  else if float > int then some (s.leaf .floatLiteral none float)
  else if int > 0 then some (s.leaf .intLiteral none int)
  else none

/-- Reads a rune. -/
def runeLiteral : Parser := fun s =>
  (Literal.rune s.ahead).map (s.skip.leaf .runeLiteral none)

end WorkflowGraph.Go
