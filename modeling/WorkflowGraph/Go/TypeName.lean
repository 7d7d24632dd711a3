import WorkflowGraph.Text.Blank
import WorkflowGraph.Text.Split

/-!
# Names of types

A type is written with decorations: blanks around it, stars of a pointer, type arguments in
brackets.  `undecorated` takes them off, and `baseName` leaves the package out as well.
-/

namespace WorkflowGraph.Go.TypeName

/-- The type without blanks, stars, ampersands after them, and all that follows a bracket:
`*pkg.Type[T]` becomes `pkg.Type`. -/
def undecorated (type : String) : String :=
  let bare := ((Text.trim type.toList).dropWhile (· == '*')).dropWhile (· == '&')
  String.ofList (Text.beforeFirst '[' bare)

/-- The undecorated type without its package: `*pkg.Type[T]` becomes `Type`. -/
def baseName (type : String) : String := Text.lastSegment (undecorated type)

end WorkflowGraph.Go.TypeName
