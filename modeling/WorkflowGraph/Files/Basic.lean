import WorkflowGraph.Failure
import WorkflowGraph.Files.Path
import WorkflowGraph.Files.Tree

/-!
# Files

All files of a machine, and the directory in which its commands run.  A path is a text and is
followed part by part; every part but the last must lead to a directory.

Reading and writing fail with the fault that the operating system would report.  Something that is
neither a file nor a directory can be neither read nor written, and no path leads through it.
-/

namespace WorkflowGraph

/-- The files of a machine, and the names that lead to the working directory, which are texts. -/
structure Files where
  root : FileTree := .directory []
  workingDirectory : List String := []

namespace Files

/-- Files that consist of an empty working directory. -/
def ofDirectory (names : List String) : Files where
  root := FileTree.put (.directory []) (names.map FileName.ofText) (.directory [])
  workingDirectory := names

/-- The working directory as a path. -/
def workingPath (files : Files) : String :=
  "/" ++ Text.joinWith "/" files.workingDirectory

/-- Follows one part of a path from a place that exists. -/
def step (files : Files) (place : List FileName) (part : String) :
    Except FileFault (List FileName) :=
  match files.root.get? place with
  | some (.directory children) =>
    if Path.isIdle part then .ok place
    else if part = ".." then .ok place.dropLast
    else if (children.lookup (.ofText part)).isSome then .ok (place ++ [.ofText part])
    else .error .notFound
  | some _ => .error .notADirectory
  | none => .error .notFound

/-- Follows the parts of a path. -/
def follow (files : Files) : List FileName → List String → Except FileFault (List FileName)
  | place, [] => .ok place
  | place, part :: parts =>
    match files.step place part with
    | .error fault => .error fault
    | .ok place => follow files place parts

/-- Where a path starts. -/
def start (files : Files) (path : String) : List FileName :=
  if Path.isAbsolute path then [] else files.workingDirectory.map FileName.ofText

/-- Where a path leads to by its parts alone, whether anything is there or not. -/
def placeOf (files : Files) (path : String) : List FileName :=
  (Path.parts path).foldl
    (fun place part =>
      if Path.isIdle part then place
      else if part = ".." then place.dropLast
      else place ++ [.ofText part])
    (files.start path)

/-- The place that a path leads to. -/
def locate (files : Files) (path : String) : Except FileFault (List FileName) :=
  if path.isEmpty then .error .notFound
  else files.follow (files.start path) (Path.parts path)

/-- What a path leads to. -/
def lookup (files : Files) (path : String) : Except FileFault FileTree :=
  match files.locate path with
  | .error fault => .error fault
  | .ok place =>
    match files.root.get? place with
    | some tree => .ok tree
    | none => .error .notFound

/-- Whether a path leads somewhere. -/
def «exists» (files : Files) (path : String) : Bool := (files.lookup path).isOk

/-- Whether a path leads to a directory. -/
def isDirectory (files : Files) (path : String) : Bool :=
  match files.lookup path with
  | .ok tree => tree.isDirectory
  | .error _ => false

/-- The text of bytes. -/
def text? (content : ByteArray) : Except FileFault String :=
  match String.fromUTF8? content with
  | some text => .ok text
  | none => .error .notText

/-- The text of a file. -/
def read (files : Files) (path : String) : Except FileFault String :=
  match files.lookup path with
  | .error fault => .error fault
  | .ok (.directory _) => .error .isADirectory
  | .ok .special => .error .noDevice
  | .ok (.file content) => text? content

/-- The directory that should hold the last part of a path, and that part.  Parts at the end that
lead nowhere say that the path means a directory. -/
def target (files : Files) (path : String) : Except FileFault (List FileName × Option String) :=
  match (Path.parts path).reverse.dropWhile (·.isEmpty) with
  | [] => if path.isEmpty then .error .notFound else .ok ([], none)
  | last :: before =>
    match files.follow (files.start path) before.reverse with
    | .error fault => .error fault
    | .ok place =>
      match files.root.get? place with
      | some (.directory _) =>
        if last = "." || last = ".." then .ok (place, none) else .ok (place, some last)
      | some _ => .error .notADirectory
      | none => .error .notFound

/-- Puts a tree at a place. -/
def putAt (files : Files) (place : List FileName) (value : FileTree) : Files :=
  { files with root := value.put place files.root }

/-- Writes bytes to a file, which is made if it is not there. -/
def writeBytes (files : Files) (path : String) (content : ByteArray) : Except FileFault Files :=
  match files.target path with
  | .error fault => .error fault
  | .ok (_, none) => .error .isADirectory
  | .ok (place, some name) =>
    if Text.endsWith "/" path then .error .isADirectory
    else
      match files.root.get? (place ++ [.ofText name]) with
      | some (.directory _) => .error .isADirectory
      | some .special => .error .noDevice
      | _ => .ok (files.putAt (place ++ [.ofText name]) (.file content))

/-- Writes a text to a file, which is made if it is not there. -/
def write (files : Files) (path text : String) : Except FileFault Files :=
  files.writeBytes path text.toUTF8

/-- Makes a directory, which must not be there yet, in one that is. -/
def makeDirectory (files : Files) (path : String) : Except FileFault Files :=
  match files.target path with
  | .error fault => .error fault
  | .ok (_, none) => .error .alreadyExists
  | .ok (place, some name) =>
    match files.root.get? (place ++ [.ofText name]) with
    | some _ => .error .alreadyExists
    | none => .ok (files.putAt (place ++ [.ofText name]) (.directory []))

/-- Makes a directory and all directories on the way to it; `fuel` bounds their number.  What was
made before a fault stays. -/
def makeDirectoriesWithin : Nat → Files → String → Except FileFault Unit × Files
  | 0, files, _ => (.error .notFound, files)
  | fuel + 1, files, path =>
    if path.isEmpty then (.ok (), files)
    else
      match files.makeDirectory path with
      | .ok files => (.ok (), files)
      | .error .notFound =>
        match Path.parent? path with
        | none => (.error .notFound, files)
        | some parent =>
          match makeDirectoriesWithin fuel files parent with
          | (.error fault, files) => (.error fault, files)
          | (.ok (), files) =>
            match files.makeDirectory path with
            | .ok files => (.ok (), files)
            | .error fault => (if files.isDirectory path then .ok () else .error fault, files)
      | .error fault => (if files.isDirectory path then .ok () else .error fault, files)

/-- Makes a directory and all directories on the way to it.  Nothing happens if it is there. -/
def makeDirectories (files : Files) (path : String) : Except FileFault Unit × Files :=
  makeDirectoriesWithin (path.length + 1) files path

end Files

end WorkflowGraph
