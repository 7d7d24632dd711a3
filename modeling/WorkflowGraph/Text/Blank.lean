/-!
# Blank characters and trimming

A blank is a character of the Unicode property `White_Space`.
-/

namespace WorkflowGraph.Text

/-- The property `White_Space`. -/
def isBlank (c : Char) : Bool :=
  let n := c.toNat
  (0x9 ≤ n && n ≤ 0xd) || n == 0x20 || n == 0x85 || n == 0xa0 || n == 0x1680 ||
    (0x2000 ≤ n && n ≤ 0x200a) || n == 0x2028 || n == 0x2029 || n == 0x202f ||
    n == 0x205f || n == 0x3000

/-- The text without the leading characters that satisfy `p`. -/
def dropStart (p : Char → Bool) (text : List Char) : List Char :=
  text.dropWhile p

/-- The text without the trailing characters that satisfy `p`. -/
def dropEnd (p : Char → Bool) (text : List Char) : List Char :=
  (text.reverse.dropWhile p).reverse

/-- The text without blanks at either end. -/
def trim (text : List Char) : List Char :=
  dropEnd isBlank (dropStart isBlank text)

end WorkflowGraph.Text
