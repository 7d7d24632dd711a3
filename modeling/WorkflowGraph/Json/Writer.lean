import WorkflowGraph.Json.Value

/-!
# Writing JSON

A value is written in one line without blanks, or with every item of an array or object on a
line of its own, two blanks deeper than the bracket around it.
-/

namespace WorkflowGraph.Json

/-- How a document is laid out. -/
inductive Style where
  | compact
  | pretty
deriving DecidableEq, Repr

/-- The hexadecimal digit of a number below sixteen. -/
def hexDigit (n : Nat) : Char :=
  if n < 10 then Char.ofNat ('0'.toNat + n) else Char.ofNat ('a'.toNat + (n - 10))

/-- A character inside a string. -/
def escaped (c : Char) : List Char :=
  if c = '"' then ['\\', '"']
  else if c = '\\' then ['\\', '\\']
  else if c = '\n' then ['\\', 'n']
  else if c = '\r' then ['\\', 'r']
  else if c = '\t' then ['\\', 't']
  else if c = '\x08' then ['\\', 'b']
  else if c = '\x0c' then ['\\', 'f']
  else if c.toNat < 0x20 then
    ['\\', 'u', '0', '0', hexDigit (c.toNat / 16), hexDigit (c.toNat % 16)]
  else [c]

/-- A string between quotes. -/
def quoted (text : String) : List Char := '"' :: text.toList.flatMap escaped ++ ['"']

/-- The end of a line and the blanks before the next item. -/
def lineBreak (style : Style) (depth : Nat) : List Char :=
  match style with
  | .compact => []
  | .pretty => '\n' :: List.replicate (2 * depth) ' '

/-- What stands between a key and its value. -/
def colon : Style → List Char
  | .compact => [':']
  | .pretty => [':', ' ']

mutual

/-- The text of a value inside `depth` brackets. -/
def charsAt (style : Style) (depth : Nat) : Json → List Char
  | null => ['n', 'u', 'l', 'l']
  | bool true => ['t', 'r', 'u', 'e']
  | bool false => ['f', 'a', 'l', 's', 'e']
  | integer n => (Number.intText n).toList
  | decimal x => ((x.text? decimalLayout).getD "null").toList
  | text value => quoted (value.getD "")
  | array [] => ['[', ']']
  | array (item :: items) =>
    '[' :: lineBreak style (depth + 1) ++ charsAt style (depth + 1) item ++
      itemsAt style (depth + 1) items ++ lineBreak style depth ++ [']']
  | object [] => ['\x7b', '\x7d']
  | object ((key, value) :: entries) =>
    '\x7b' :: lineBreak style (depth + 1) ++ quoted (key.getD "") ++ colon style ++
      charsAt style (depth + 1) value ++
      entriesAt style (depth + 1) entries ++ lineBreak style depth ++ ['\x7d']

/-- The items of an array after the first one. -/
def itemsAt (style : Style) (depth : Nat) : List Json → List Char
  | [] => []
  | item :: items =>
    ',' :: lineBreak style depth ++ charsAt style depth item ++ itemsAt style depth items

/-- The entries of an object after the first one. -/
def entriesAt (style : Style) (depth : Nat) : List (Option String × Json) → List Char
  | [] => []
  | (key, value) :: entries =>
    ',' :: lineBreak style depth ++ quoted (key.getD "") ++ colon style ++
      charsAt style depth value ++ entriesAt style depth entries

end

/-- The text of a document. -/
def render (style : Style) (json : Json) : String := String.ofList (charsAt style 0 json)

end WorkflowGraph.Json
