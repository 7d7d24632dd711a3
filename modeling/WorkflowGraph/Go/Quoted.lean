/-!
# Values of quoted texts

A Go string literal between back quotes stands for its inside, character by character.  Between
double quotes the four escapes `\n`, `\t`, `\"` and `\\` stand for one character each; any other
escape is kept as it is written, backslash included.
-/

namespace WorkflowGraph.Go.Quoted

/-- Undoes the four escapes. -/
def decode : List Char → List Char
  | '\\' :: 'n' :: rest => '\n' :: decode rest
  | '\\' :: 't' :: rest => '\t' :: decode rest
  | '\\' :: '"' :: rest => '"' :: decode rest
  | '\\' :: '\\' :: rest => '\\' :: decode rest
  | '\\' :: c :: rest => '\\' :: c :: decode rest
  | c :: rest => c :: decode rest
  | [] => []

/-- The inside of a text that starts and ends with the same quote. -/
def inside? (quote : Char) : List Char → Option (List Char)
  | c :: rest =>
    if c = quote && rest.getLast? == some quote then some rest.dropLast else none
  | [] => none

/-- The value of a string literal; a text without quotes is its own value. -/
def value (text : String) : String :=
  match inside? '\x60' text.toList with
  | some inner => String.ofList inner
  | none =>
    match inside? '"' text.toList with
    | some inner => String.ofList (decode inner)
    | none => text

end WorkflowGraph.Go.Quoted
