import WorkflowGraph.Files.Name

/-!
# File trees

A file tree is a file with its bytes, a directory with a tree for every name in it, or something
special that has a place in a directory too: a pipe, a device, or a link, which is not followed.

`FileTree.entries` lists all that is below a directory, every directory before what it holds and
siblings by name.
-/

namespace WorkflowGraph

/-- What can stand in a directory. -/
inductive FileTree where
  | file (content : ByteArray)
  | directory (children : List (FileName × FileTree))
  /-- What is neither a file nor a directory. -/
  | special

/-- What stands at some place below a directory: the names that lead to it, and its bytes if it
is a file. -/
structure FileEntry where
  names : List FileName
  content : Option ByteArray

namespace FileTree

def isDirectory : FileTree → Bool
  | file _ => false
  | directory _ => true
  | special => false

/-- What stands in a directory; nothing stands in anything else. -/
def children : FileTree → List (FileName × FileTree)
  | file _ => []
  | directory children => children
  | special => []

/-- The tree that a name leads to. -/
def child? (name : FileName) (tree : FileTree) : Option FileTree := tree.children.lookup name

/-- The tree that names lead to, one after the other. -/
def get? : List FileName → FileTree → Option FileTree
  | [], tree => some tree
  | name :: names, tree => (tree.child? name).bind (get? names)

/-- The children with another tree under a name; a new name comes last. -/
def setChild (name : FileName) (value : FileTree) :
    List (FileName × FileTree) → List (FileName × FileTree)
  | [] => [(name, value)]
  | (other, tree) :: children =>
    if other = name then (name, value) :: children
    else (other, tree) :: setChild name value children

/-- The tree with another one where the names lead to.  Directories on the way that are missing
are made. -/
def put (value : FileTree) : List FileName → FileTree → FileTree
  | [], _ => value
  | name :: names, tree =>
    let inner := (tree.child? name).getD (directory [])
    directory (setChild name (put value names inner) tree.children)

/-- Orders what belongs to names by the names. -/
def byName {α : Type} (items : List (FileName × α)) : List (FileName × α) :=
  items.mergeSort fun a b => a.1.precedes b.1

mutual

/-- The entry of a tree and all entries below it, with directories of skipped names left out.
Names lead from the tree on. -/
def entries (skip : FileName → Bool) : FileTree → List FileEntry
  | file content => [⟨[], some content⟩]
  | directory children =>
    ⟨[], none⟩ ::
      (byName (childEntries skip children)).flatMap fun (name, below) =>
        below.map fun entry => { entry with names := name :: entry.names }
  | special => [⟨[], none⟩]

/-- The entries of every child. -/
def childEntries (skip : FileName → Bool) :
    List (FileName × FileTree) → List (FileName × List FileEntry)
  | [] => []
  | (name, tree) :: children =>
    if tree.isDirectory && skip name then childEntries skip children
    else (name, entries skip tree) :: childEntries skip children

end

end FileTree

end WorkflowGraph
