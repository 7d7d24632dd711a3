import WorkflowGraph.Number.Digits
import WorkflowGraph.Text.Category
import WorkflowGraph.Text.Property

/-!
# Texts in quotes

How a text is shown in a message: between quotes, with everything that cannot be seen written as
an escape.
-/

namespace WorkflowGraph.Text

/-- The code points that cannot be seen: controls, formats, private and unassigned ones, and all
separators. -/
def hiddenRanges : Ranges := categoriesOf ["cc", "cf", "co", "zl", "zp", "zs"]

/-- Characters that attach to the one before them. -/
def attaches (c : Char) : Bool :=
  ((property? "graphemeextend").map fun isMember => isMember c).getD false

/-- Whether a character is shown as it is. -/
def isVisible (c : Char) : Bool :=
  if c.toNat < 128 then ' ' ≤ c && c ≤ '~'
  else !hiddenRanges.contains c && assigned.contains c && !attaches c

/-- A character as it is shown between the given quotes. -/
def shown (quotes : List Char) (c : Char) : String :=
  if c = '\t' then "\\t"
  else if c = '\n' then "\\n"
  else if c = '\r' then "\\r"
  else if c = '\x00' then "\\0"
  else if c = '\\' || quotes.contains c then "\\" ++ String.singleton c
  else if isVisible c then String.singleton c
  else "\\u\x7b" ++ String.ofList (Nat.toDigits 16 c.toNat) ++ "\x7d"

/-- A text between double quotes. -/
def quoted (text : String) : String :=
  "\"" ++ String.join (text.toList.map (shown ['"'])) ++ "\""

/-- A path between double quotes; single quotes are escaped as well. -/
def quotedPath (path : String) : String :=
  "\"" ++ String.join (path.toList.map (shown ['"', '\''])) ++ "\""

end WorkflowGraph.Text
