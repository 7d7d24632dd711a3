import WorkflowGraph.Number.Digits
import WorkflowGraph.Text.Split
import WorkflowGraph.Toml.Value

/-!
# Writing TOML

There are four notations for a string: in double quotes, where a backslash starts an escape, or in
single quotes, where nothing is special; and each of them on one line or, with three quotes, on
several.  A string is written in the first notation in which it needs no escape, and with escapes
if there is none.
-/

namespace WorkflowGraph.Toml

/-! ## Strings -/

/-- The longest row of a character in a text, given the length of the row that goes on and the
longest one so far. -/
def longestRowFrom (mark : Char) : Nat → Nat → List Char → Nat
  | _, longest, [] => longest
  | row, longest, c :: rest =>
    if c = mark then longestRowFrom mark (row + 1) (max longest (row + 1)) rest
    else longestRowFrom mark 0 longest rest

/-- The longest row of a character in a text. -/
def longestRow (mark : Char) (text : List Char) : Nat := longestRowFrom mark 0 0 text

/-- Whether a character can only be written as an escape. -/
def needsEscape (c : Char) : Bool := (c < ' ' && c != '\t' && c != '\n') || c = '\x7f'

/-- The ways to write a string. -/
inductive Quoting where
  | basic
  | literal
  | basicLines
  | literalLines
deriving DecidableEq, Repr

/-- The notation in which a text is written. -/
def quotingOf (text : List Char) : Quoting :=
  let escapes := text.any needsEscape
  let backslash := text.contains '\\'
  let newline := text.contains '\n'
  let doubles := longestRow '"' text
  let singles := longestRow '\'' text
  if !escapes && !backslash && doubles = 0 && !newline then .basic
  else if !escapes && singles = 0 && !newline then .literal
  else if !escapes && !backslash && doubles ≤ 2 then .basicLines
  else if !escapes && singles ≤ 2 then .literalLines
  else if newline then .basicLines
  else .basic

/-- A hexadecimal digit in upper case. -/
def upperHex (n : Nat) : Char := (Nat.digitChar n).toUpper

/-- An escape for a control character. -/
def controlEscape (c : Char) : List Char :=
  if c = '\x08' then ['\\', 'b']
  else if c = '\t' then ['\\', 't']
  else if c = '\n' then ['\\', 'n']
  else if c = '\x0c' then ['\\', 'f']
  else if c = '\r' then ['\\', 'r']
  else ['\\', 'u', '0', '0', upperHex (c.toNat / 16), upperHex (c.toNat % 16)]

/-- A text with escapes.  On several lines a line end stands for itself, and so do two quotes in
a row; `row` counts the quotes since the last other character or escape. -/
def escaped (lines : Bool) : Nat → List Char → List Char
  | _, [] => []
  | row, c :: rest =>
    if c = '"' then
      if lines && row < 2 then '"' :: escaped lines (row + 1) rest
      else '\\' :: '"' :: escaped lines 0 rest
    else if c = '\\' then '\\' :: '\\' :: escaped lines 0 rest
    else if c = '\n' && lines then '\n' :: escaped lines 0 rest
    else if c < ' ' || c = '\x7f' then controlEscape c ++ escaped lines 0 rest
    else c :: escaped lines 0 rest

/-- The line end after the opening quotes of a string with several lines. -/
def leadingNewline (text : List Char) : List Char := if text.contains '\n' then ['\n'] else []

/-- A string in the notation chosen for it. -/
def stringChars (text : List Char) : List Char :=
  match quotingOf text with
  | .basic => ['"'] ++ escaped false 0 text ++ ['"']
  | .literal => ['\''] ++ text ++ ['\'']
  | .basicLines =>
    ['"', '"', '"'] ++ leadingNewline text ++ escaped true 0 text ++ ['"', '"', '"']
  | .literalLines => ['\'', '\'', '\''] ++ leadingNewline text ++ text ++ ['\'', '\'', '\'']

def stringText (text : String) : String := String.ofList (stringChars text.toList)

/-! ## Sections -/

/-- A value of an entry: what settings are made of. -/
inductive Setting where
  | text (value : String)
  | natural (value : Nat)
  | flag (value : Bool)
  | texts (values : List String)
deriving DecidableEq, Repr

/-- The text of a value.  Two or more items stand on lines of their own. -/
def Setting.render : Setting → String
  | text value => stringText value
  | natural value => Number.natText value
  | flag value => if value then "true" else "false"
  | texts [] => "[]"
  | texts [value] => "[" ++ stringText value ++ "]"
  | texts values =>
    "[\n" ++ String.join (values.map fun value => "    " ++ stringText value ++ ",\n") ++ "]"

/-- Whether a value can be written: integers are limited to 63 bits. -/
def Setting.isWritable : Setting → Bool
  | natural value => Number.fitsSigned value
  | _ => true

/-- A section: a header and the entries of its table. -/
structure Section where
  name : String
  entries : List (String × Setting)
deriving DecidableEq, Repr

/-- The text of a section. -/
def Section.render (block : Section) : String :=
  "[" ++ block.name ++ "]\n" ++
    String.join (block.entries.map fun (key, value) => key ++ " = " ++ value.render ++ "\n")

/-- The text of a document: its sections with an empty line between them.  There is none if some
value cannot be written. -/
def render? (sections : List Section) : Option String :=
  if sections.all fun block => block.entries.all fun entry => entry.2.isWritable then
    some (Text.joinWith "\n" (sections.map Section.render))
  else none

end WorkflowGraph.Toml
