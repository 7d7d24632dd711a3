import WorkflowGraph.Number.Digits
import WorkflowGraph.Settings.Basic
import WorkflowGraph.Text.Shown
import WorkflowGraph.Text.Split

/-!
# Settings in messages

How settings are shown in one line: every record by its name with all of its fields.
-/

namespace WorkflowGraph

/-- A record with its fields. -/
def shownRecord (name : String) (fields : List (String × String)) : String :=
  name ++ " \x7b " ++
    Text.joinWith ", " (fields.map fun (field, value) => field ++ ": " ++ value) ++ " \x7d"

def shownBool (value : Bool) : String := if value then "true" else "false"

def shownOption (value : Option String) : String :=
  match value with
  | none => "None"
  | some text => "Some(" ++ Text.quoted text ++ ")"

def shownList (values : List String) : String :=
  "[" ++ Text.joinWith ", " (values.map Text.quoted) ++ "]"

def AnalysisSettings.shown (settings : AnalysisSettings) : String :=
  shownRecord "AnalysisConfig"
    [("root_dir", Text.quotedPath settings.rootDir),
     ("include_tests", shownBool settings.includeTests),
     ("filter_package", shownOption settings.filterPackage),
     ("filter_name", shownOption settings.filterName),
     ("exclude_dirs", shownList settings.excludeDirs)]

def ValidationSettings.shown (settings : ValidationSettings) : String :=
  shownRecord "ValidationConfig"
    [("max_depth", Number.natText settings.maxDepth),
     ("max_fan_out", Number.natText settings.maxFanOut),
     ("check_signatures", shownBool settings.checkSignatures)]

def OutputSettings.shown (settings : OutputSettings) : String :=
  shownRecord "OutputConfig"
    [("graph_file", Text.quotedPath settings.graphFile), ("pretty", shownBool settings.pretty)]

def Settings.shown (settings : Settings) : String :=
  shownRecord "Config"
    [("analysis", settings.analysis.shown), ("validation", settings.validation.shown),
     ("output", settings.output.shown)]

end WorkflowGraph
