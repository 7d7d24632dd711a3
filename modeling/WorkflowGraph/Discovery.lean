import WorkflowGraph.Files.Basic
import WorkflowGraph.Run
import WorkflowGraph.Settings.Basic

/-!
# Discovery

Which files below a root take part in an analysis: Go files, test files only if they are asked
for, and nothing below a directory with an excluded name.  The root itself is never left out.

Both are said of names that are texts.  A file whose name is not a text takes no part, and a
directory whose name is not a text is never left out.
-/

namespace WorkflowGraph

/-- Whether the file with this name takes part. -/
def isSourceName (includeTests : Bool) (name : FileName) : Bool :=
  match name.text? with
  | some text => Text.endsWith ".go" text && (includeTests || !Text.endsWith "_test.go" text)
  | none => false

/-- Whether a directory with this name is left out. -/
def AnalysisSettings.excludes (settings : AnalysisSettings) (name : FileName) : Bool :=
  match name.text? with
  | some text => settings.excludeDirs.contains text
  | none => false

/-- A file that takes part: the names that lead to it from the root, its path as it is shown, and
its bytes. -/
@[ext] structure FoundFile where
  names : List FileName
  path : String
  content : ByteArray

/-- The path of an entry below a root, as it is shown. -/
def entryPath (root : String) (names : List FileName) : String :=
  names.foldl (fun path name => Path.join path name.shown) root

/-- The file that an entry stands for, if it takes part. -/
def FoundFile.ofEntry? (settings : AnalysisSettings) (entry : FileEntry) : Option FoundFile :=
  match entry.content, entry.names.getLast? with
  | some content, some name =>
    if isSourceName settings.includeTests name then
      some ⟨entry.names, entryPath settings.rootDir entry.names, content⟩
    else none
  | _, _ => none

/-- The tree below the root of an analysis. -/
def sourceTree (files : Files) (root : String) : Except Failure FileTree :=
  match files.lookup root with
  | .error fault => .error (.cannotWalk root fault)
  | .ok tree => if tree.isDirectory then .ok tree else .error (.rootIsNoDirectory root)

/-- The files that take part in an analysis, in the order of the walk. -/
def discover (files : Files) (settings : AnalysisSettings) : Run (List FoundFile) := do
  let root := settings.rootDir
  let tree ← Run.ofExcept (sourceTree files root)
  let entries := tree.entries settings.excludes
  Run.each entries fun _ => Run.poll
  let found := entries.filterMap (FoundFile.ofEntry? settings)
  Run.debug ("Discovered " ++ Number.natText found.length ++ " Go files under " ++ root)
  pure found

end WorkflowGraph
