/-!
# Cutting and joining texts

Cuts at the first or last occurrence of a character, and joins with a separator.
-/

namespace WorkflowGraph.Text

/-- The part before the first occurrence of `mark` and the part after it, if there is one. -/
def cutFirst (mark : Char) (text : List Char) : Option (List Char × List Char) :=
  match text.span (· != mark) with
  | (_, []) => none
  | (before, _ :: after) => some (before, after)

/-- The part before the last occurrence of `mark` and the part after it, if there is one. -/
def cutLast (mark : Char) (text : List Char) : Option (List Char × List Char) :=
  (cutFirst mark text.reverse).map fun (after, before) => (before.reverse, after.reverse)

/-- What stands after the last occurrence of `mark`: the whole text if there is none. -/
def afterLast (mark : Char) (text : List Char) : List Char :=
  match cutLast mark text with
  | none => text
  | some (_, after) => after

/-- What stands before the first occurrence of `mark`: the whole text if there is none. -/
def beforeFirst (mark : Char) (text : List Char) : List Char :=
  text.takeWhile (· != mark)

/-- The text after the last point of a dotted name. -/
def lastSegment (name : String) : String := String.ofList (afterLast '.' name.toList)

/-- The texts one after the other with a separator between them. -/
def joinWith (separator : String) : List String → String
  | [] => ""
  | [text] => text
  | text :: others => text ++ separator ++ joinWith separator others

/-- Drops a prefix as often as the text starts with it; the prefix must not be empty for
anything to be dropped. -/
def dropPrefixes (start : List Char) (text : List Char) : List Char :=
  go text.length text
where
  go : Nat → List Char → List Char
    | 0, text => text
    | count + 1, text =>
      if start.isPrefixOf text && !start.isEmpty then go count (text.drop start.length) else text

/-- Drops a suffix as often as the text ends with it. -/
def dropSuffixes (ending : List Char) (text : List Char) : List Char :=
  (dropPrefixes ending.reverse text.reverse).reverse

/-- Whether the text ends with another one. -/
def endsWith (ending text : String) : Bool := ending.toList.isSuffixOf text.toList

/-- Whether the text starts with another one. -/
def startsWith (start text : String) : Bool := start.toList.isPrefixOf text.toList

end WorkflowGraph.Text
