import WorkflowGraph.Failure
import WorkflowGraph.Go.Parse
import WorkflowGraph.Source.Imports

/-!
# Source files

A source file is a path with the syntax tree of its text, the name of its package and its
imports of the SDK.  A text that does not follow the grammar is no source file.
-/

namespace WorkflowGraph

/-- A Go file that follows the grammar. -/
structure SourceFile where
  path : String
  /-- The name in the first package clause; empty if there is none. -/
  package : String
  root : Go.Node
  imports : SdkImports

namespace SourceFile

/-- The name in the first package clause of a tree. -/
def packageName (root : Go.Node) : String :=
  match root.phrases.find? fun child => child.kind = .packageClause with
  | none => ""
  | some clause => (clause.phrases.head?.map Go.Node.text).getD ""

/-- Reads a file with the given path and text. -/
def ofText (path text : String) : Except Failure SourceFile :=
  match Go.parse? text with
  | none => .error (.syntaxErrors path)
  | some root => .ok { path, package := packageName root, root, imports := .ofTree root }

/-- The functions and methods that a file declares. -/
def functions (file : SourceFile) : List Go.Node := file.root.phrases.filter Go.Node.isFunction

end SourceFile

end WorkflowGraph
