import WorkflowGraph.Number.Digits

/-!
# What can go wrong

A failure is a cause; its wording stands in one function.
-/

namespace WorkflowGraph

/-- Why a file or directory could not be used. -/
inductive FileFault where
  | notFound
  | notADirectory
  | isADirectory
  | alreadyExists
  /-- What is neither a file nor a directory cannot be opened. -/
  | noDevice
  | notText
deriving DecidableEq, Repr

/-- The wording of a file fault, with the number that the operating system gives it. -/
def FileFault.message : FileFault → String
  | .notFound => "No such file or directory (os error 2)"
  | .notADirectory => "Not a directory (os error 20)"
  | .isADirectory => "Is a directory (os error 21)"
  | .alreadyExists => "File exists (os error 17)"
  | .noDevice => "No such device or address (os error 6)"
  | .notText => "stream did not contain valid UTF-8"

/-- Why an operation of this library fails. -/
inductive Failure where
  /-- Settings that cannot be read or written. -/
  | settings (reason : String)
  /-- A source that does not follow the grammar. -/
  | syntaxErrors (path : String)
  | file (fault : FileFault)
  /-- A document that is not a graph. -/
  | document (reason : String)
  /-- A root that cannot be walked. -/
  | cannotWalk (root : String) (fault : FileFault)
  /-- A root that is not a directory. -/
  | rootIsNoDirectory (root : String)
  | cancelled
  /-- Validation found errors. -/
  | structuralErrors (count : Nat)
  /-- Strict validation found warnings. -/
  | strictWarnings (count : Nat)
deriving DecidableEq, Repr

/-- The wording of a failure. -/
def Failure.message : Failure → String
  | .settings reason => "Configuration error: " ++ reason
  | .syntaxErrors path => "Parser error: Syntax errors in " ++ path
  | .file fault => "IO error: " ++ fault.message
  | .document reason => "Serialization error: " ++ reason
  | .cannotWalk root fault => "File system error: Cannot walk " ++ root ++ ": " ++ fault.message
  | .rootIsNoDirectory root => "File system error: " ++ root ++ " is not a directory"
  | .cancelled => "Analysis cancelled"
  | .structuralErrors count =>
    "Graph validation failed: " ++ Number.natText count ++ " structural errors"
  | .strictWarnings count =>
    "Graph validation failed: " ++ Number.natText count ++ " warnings in strict mode"

end WorkflowGraph
