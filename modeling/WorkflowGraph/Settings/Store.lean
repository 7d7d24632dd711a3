import WorkflowGraph.Settings.Document
import WorkflowGraph.Shell

/-!
# Settings in files

Settings are saved as a document in a file and loaded from one.  Where no file is named, the
first one with a customary name counts; where there is none, everything has its default.
-/

namespace WorkflowGraph.Settings

/-- Saves settings. -/
def save (settings : Settings) (path : String) : Shell Unit :=
  match settings.render? with
  | none => Shell.fail (.failure (.settings "a limit is out of range"))
  | some text => Shell.write fun files => files.write path text

/-- Loads settings. -/
def load (path : String) : Shell Settings := do
  let text ← Shell.read fun files => files.read path
  match parse? text with
  | none => Shell.fail (.failure (.settings "the text does not hold settings"))
  | some settings => pure settings

/-- The name of the file in which settings are kept. -/
def fileName : String := "temporal-analyzer.toml"

/-- The customary names of files with settings. -/
def fileNames : List String := [fileName, "TemporalAnalyzer.toml", ".temporal-analyzer.toml"]

/-- Loads settings from the named file or from the first one with a customary name, if it
exists. -/
def loadOrDefault (path : Option String) : Shell Settings := do
  let files ← Shell.files
  let names := match path with
    | some path => [path]
    | none => fileNames
  match names.find? files.exists with
  | some name => load name
  | none => pure {}

end WorkflowGraph.Settings
