import WorkflowGraph.Text.Split

/-!
# Paths

A path is a text whose parts are divided by slashes.  It is kept as it was written: joining and
taking the parent do not look at any file, and they change no part that they need not touch.
-/

namespace WorkflowGraph.Path

/-- The parts of a text between slashes. -/
def split : List Char → List (List Char)
  | [] => [[]]
  | c :: rest =>
    if c = '/' then [] :: split rest
    else
      match split rest with
      | [] => [[c]]
      | part :: parts => (c :: part) :: parts

/-- The parts of a path between slashes; a slash at the end leaves an empty last part. -/
def parts (path : String) : List String := (split path.toList).map String.ofList

/-- Whether a path starts at the root. -/
def isAbsolute (path : String) : Bool := Text.startsWith "/" path

/-- A path below another one.  An absolute path stands alone. -/
def join (base path : String) : String :=
  if isAbsolute path || base.isEmpty then path
  else if Text.endsWith "/" base then base ++ path
  else base ++ "/" ++ path

/-- Whether a part leads nowhere: it is empty or a single dot. -/
def isIdle (part : String) : Bool := part.isEmpty || part == "."

/-- The parts without those at the end that lead nowhere. -/
def dropIdleEnd (parts : List String) : List String :=
  (parts.reverse.dropWhile isIdle).reverse

/-- What a path starts with that is not part of its body: the root, or a dot for the working
directory; and the body. -/
def headAndBody (path : String) : String × String :=
  if isAbsolute path then ("/", String.ofList (path.toList.drop 1))
  else if path == "." || Text.startsWith "./" path then (".", String.ofList (path.toList.drop 1))
  else ("", path)

/-- The path without its last part; the root and the empty path have no parent. -/
def parent? (path : String) : Option String :=
  let (head, body) := headAndBody path
  match (dropIdleEnd (parts body)).reverse with
  | [] => if head == "." then some "" else none
  | _ :: before => some (head ++ Text.joinWith "/" (dropIdleEnd before.reverse))

end WorkflowGraph.Path
