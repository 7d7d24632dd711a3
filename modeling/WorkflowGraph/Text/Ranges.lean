/-!
# Sets of characters written as ranges of code points

A Unicode property is a set of characters that is long to list and short to describe as
ranges.  A table of this library is a text of hexadecimal ranges, with blanks or newlines
between them, such as `41-5a 61-7a aa`: two ranges and a single code point.  `Ranges.ofText` reads it and
`Ranges.contains` asks whether a character belongs to it.
-/

namespace WorkflowGraph.Text

/-- A set of code points, as closed ranges. -/
structure Ranges where
  bounds : List (Nat × Nat)
deriving Repr, DecidableEq

/-- The value of a lower-case hexadecimal digit. -/
def hexValue (c : Char) : Nat :=
  if c.isDigit then c.toNat - '0'.toNat else c.toNat - 'a'.toNat + 10

/-- The number that lower-case hexadecimal digits spell. -/
def ofHex (digits : List Char) : Nat :=
  digits.foldl (fun n c => 16 * n + hexValue c) 0

/-- One entry of a table: `41-5a`, or `aa` for a single code point. -/
def Ranges.entry (chars : List Char) : Nat × Nat :=
  match chars.span (· != '-') with
  | (low, []) => (ofHex low, ofHex low)
  | (low, _ :: high) => (ofHex low, ofHex high)

/-- The pieces of a text between marks. -/
def pieces (isMark : Char → Bool) : List Char → List (List Char)
  | [] => []
  | c :: rest =>
    if isMark c then [] :: pieces isMark rest
    else match pieces isMark rest with
      | [] => [[c]]
      | piece :: others => (c :: piece) :: others

/-- The words of a text, which blanks and newlines divide. -/
def words (text : List Char) : List (List Char) :=
  (pieces (fun c => c == ' ' || c == '\n') text).filter (· ≠ [])

/-- Reads a table, entry by entry. -/
def Ranges.ofText (text : String) : Ranges := ⟨(words text.toList).map Ranges.entry⟩

/-- Membership of a character. -/
def Ranges.contains (table : Ranges) (c : Char) : Bool :=
  table.bounds.any fun (low, high) => low ≤ c.toNat && c.toNat ≤ high

end WorkflowGraph.Text
