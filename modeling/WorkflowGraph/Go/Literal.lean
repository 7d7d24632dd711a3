/-!
# Literals of Go

Each function here measures a literal at the start of a text: how many characters belong to
it, or `none` (for digits: zero) when the text does not start with one.  A literal always
extends as far as it can.
-/

namespace WorkflowGraph.Go.Literal

/-- The digits of one base. -/
def isHexDigit (c : Char) : Bool :=
  c.isDigit || ('a' ≤ c && c ≤ 'f') || ('A' ≤ c && c ≤ 'F')

def isOctalDigit (c : Char) : Bool := '0' ≤ c && c ≤ '7'

def isBinaryDigit (c : Char) : Bool := c == '0' || c == '1'

/-- More digits, each of which a single underscore may precede. -/
def moreDigits (isDigit : Char → Bool) : List Char → Nat
  | '_' :: c :: rest => if isDigit c then moreDigits isDigit rest + 2 else 0
  | c :: rest => if isDigit c then moreDigits isDigit rest + 1 else 0
  | [] => 0

/-- A run of digits with single underscores between them. -/
def digits (isDigit : Char → Bool) : List Char → Nat
  | c :: rest => if isDigit c then moreDigits isDigit rest + 1 else 0
  | [] => 0

/-- Digits that a single underscore may precede, as after a base mark. -/
def markedDigits (isDigit : Char → Bool) : List Char → Nat
  | '_' :: rest => match digits isDigit rest with
    | 0 => 0
    | n => n + 1
  | rest => digits isDigit rest

/-- An integer: decimal without a leading zero, or `0` alone, or after a base mark
(`0x`, `0o`, `0b`, and a bare `0` for octal). -/
def int : List Char → Nat
  | '0' :: mark :: rest =>
    let isDigit :=
      if mark == 'x' || mark == 'X' then isHexDigit
      else if mark == 'b' || mark == 'B' then isBinaryDigit
      else isOctalDigit
    let marked := mark == 'x' || mark == 'X' || mark == 'b' || mark == 'B' ||
      mark == 'o' || mark == 'O'
    if marked then
      match markedDigits isDigit rest with
      | 0 => 1
      | n => n + 2
    else markedDigits isDigit (mark :: rest) + 1
  | c :: rest => if c.isDigit then moreDigits Char.isDigit rest + 1 else 0
  | [] => 0

/-- An exponent: a mark, a sign that may be missing, decimal digits. -/
def exponent (isMark : Char → Bool) : List Char → Nat
  | mark :: rest =>
    if isMark mark then
      let (sign, rest) := match rest with
        | '+' :: rest => (1, rest)
        | '-' :: rest => (1, rest)
        | rest => (0, rest)
      match digits Char.isDigit rest with
      | 0 => 0
      | n => n + sign + 1
    else 0
  | [] => 0

def isDecimalMark (c : Char) : Bool := c == 'e' || c == 'E'

def isHexMark (c : Char) : Bool := c == 'p' || c == 'P'

/-- A decimal float: a point with digits on one side at least, or an exponent. -/
def decimalFloat (text : List Char) : Nat :=
  match digits Char.isDigit text, text.drop (digits Char.isDigit text) with
  | 0, '.' :: rest =>
    match digits Char.isDigit rest with
    | 0 => 0
    | n => 1 + n + exponent isDecimalMark (rest.drop n)
  | 0, _ => 0
  | whole, '.' :: rest =>
    let fraction := digits Char.isDigit rest
    whole + 1 + fraction + exponent isDecimalMark (rest.drop fraction)
  | whole, rest =>
    match exponent isDecimalMark rest with
    | 0 => 0
    | n => whole + n

/-- A hexadecimal float; it needs its exponent. -/
def hexFloat : List Char → Nat
  | '0' :: mark :: rest =>
    if mark == 'x' || mark == 'X' then
      let whole := markedDigits isHexDigit rest
      let mantissa := match rest.drop whole with
        | '.' :: rest =>
          let fraction := digits isHexDigit rest
          if whole == 0 && fraction == 0 then 0 else whole + 1 + fraction
        | _ => whole
      match mantissa, exponent isHexMark (rest.drop mantissa) with
      | 0, _ => 0
      | _, 0 => 0
      | m, e => 2 + m + e
    else 0
  | _ => 0

def float (text : List Char) : Nat := max (decimalFloat text) (hexFloat text)

/-- A number followed by `i`; digits with a leading zero count as decimal here. -/
def imaginary (text : List Char) : Nat :=
  [digits Char.isDigit text, int text, float text].foldl
    (fun best n => if n != 0 && (text.drop n).head? == some 'i' then max best (n + 1) else best) 0

/-- What follows the opening quote of an interpreted string, closing quote included.  A
backslash may precede any character, but `\x`, `\u` and `\U` need their digits. -/
def interpretedTail : List Char → Option Nat
  | '"' :: _ => some 1
  | '\n' :: _ => none
  | '\\' :: 'x' :: a :: b :: rest =>
    if isHexDigit a && isHexDigit b then (interpretedTail rest).map (· + 4) else none
  | '\\' :: 'u' :: a :: b :: c :: d :: rest =>
    if [a, b, c, d].all isHexDigit then (interpretedTail rest).map (· + 6) else none
  | '\\' :: 'U' :: a :: b :: c :: d :: e :: f :: g :: h :: rest =>
    if [a, b, c, d, e, f, g, h].all isHexDigit then (interpretedTail rest).map (· + 10)
    else none
  | '\\' :: c :: rest =>
    if c == 'x' || c == 'u' || c == 'U' then none else (interpretedTail rest).map (· + 2)
  | '\\' :: [] => none
  | _ :: rest => (interpretedTail rest).map (· + 1)
  | [] => none

/-- An interpreted string, quotes included. -/
def interpreted : List Char → Option Nat
  | '"' :: rest => (interpretedTail rest).map (· + 1)
  | _ => none

/-- A raw string, back quotes included. -/
def raw : List Char → Option Nat
  | '\x60' :: rest =>
    let inner := (rest.takeWhile (· != '\x60')).length
    if (rest.drop inner).isEmpty then none else some (inner + 2)
  | _ => none

/-- The characters that a backslash turns into another one inside a rune. -/
def isSimpleEscape (c : Char) : Bool :=
  ['a', 'b', 'f', 'n', 'r', 't', 'v', '\\', '\'', '"'].contains c

/-- A rune: one character or one escape between apostrophes. -/
def rune : List Char → Option Nat
  | '\'' :: '\\' :: 'x' :: a :: b :: '\'' :: _ => if [a, b].all isHexDigit then some 6 else none
  | '\'' :: '\\' :: 'u' :: a :: b :: c :: d :: '\'' :: _ =>
    if [a, b, c, d].all isHexDigit then some 8 else none
  | '\'' :: '\\' :: 'U' :: a :: b :: c :: d :: e :: f :: g :: h :: '\'' :: _ =>
    if [a, b, c, d, e, f, g, h].all isHexDigit then some 12 else none
  | '\'' :: '\\' :: c :: '\'' :: _ => if isSimpleEscape c then some 4 else none
  | '\'' :: '\\' :: a :: b :: c :: '\'' :: _ =>
    if [a, b, c].all isOctalDigit then some 6 else none
  | '\'' :: c :: '\'' :: _ => if c != '\'' && c != '\\' then some 3 else none
  | _ => none

/-- What follows the opening of a block comment, its end included. -/
def blockCommentTail : List Char → Option Nat
  | '*' :: '/' :: _ => some 2
  | _ :: rest => (blockCommentTail rest).map (· + 1)
  | [] => none

/-- A comment: up to the end of the line after `//`, or a closed block.  A block that is never
closed is no comment. -/
def comment : List Char → Option Nat
  | '/' :: '/' :: rest => some ((rest.takeWhile (· != '\n')).length + 2)
  | '/' :: '*' :: rest => (blockCommentTail rest).map (· + 2)
  | _ => none

end WorkflowGraph.Go.Literal
