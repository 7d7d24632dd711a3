import WorkflowGraph.Settings.Basic
import WorkflowGraph.Toml.Reader
import WorkflowGraph.Toml.Writer

/-!
# Settings as documents

Settings are written as a TOML document with three sections, and read from one.  A filter may be
left out, every other entry must be there, and further entries do not matter.
-/

namespace WorkflowGraph.Settings

/-! ## Writing -/

/-- An entry that is left out without a value. -/
def optionalEntry (key : String) (value : Option String) : List (String × Toml.Setting) :=
  match value with
  | none => []
  | some value => [(key, .text value)]

/-- The sections of a document for the settings. -/
def sections (settings : Settings) : List Toml.Section :=
  [{ name := "analysis"
     entries :=
       [("root_dir", .text settings.analysis.rootDir),
        ("include_tests", .flag settings.analysis.includeTests)] ++
       optionalEntry "filter_package" settings.analysis.filterPackage ++
       optionalEntry "filter_name" settings.analysis.filterName ++
       [("exclude_dirs", .texts settings.analysis.excludeDirs)] },
   { name := "validation"
     entries :=
       [("max_depth", .natural settings.validation.maxDepth),
        ("max_fan_out", .natural settings.validation.maxFanOut),
        ("check_signatures", .flag settings.validation.checkSignatures)] },
   { name := "output"
     entries :=
       [("graph_file", .text settings.output.graphFile),
        ("pretty", .flag settings.output.pretty)] }]

/-- The text of the settings; none if a limit is too large to be written. -/
def render? (settings : Settings) : Option String := Toml.render? settings.sections

/-! ## Reading -/

/-- The fields of a record: the value of every name that has one. -/
def Fields : Type := String → Option Toml

/-- The fields of a table, or of an array that lists the values of all fields in order. -/
def fields? (names : List String) : Toml → Option Fields
  | .table _ entries => some fun name => entries.lookup name
  | .array items =>
    if names.length ≤ items.length then some fun name => (names.zip items).lookup name else none
  | _ => none

def text? : Toml → Option String
  | .text value => some value
  | _ => none

def bool? : Toml → Option Bool
  | .bool value => some value
  | _ => none

def nat? : Toml → Option Nat
  | .integer value => if 0 ≤ value then some value.toNat else none
  | _ => none

def texts? : Toml → Option (List String)
  | .array items => items.mapM text?
  | _ => none

/-- A field that must be there. -/
def Fields.required {α : Type} (fields : Fields) (name : String) (decode : Toml → Option α) :
    Option α :=
  (fields name).bind decode

/-- A field that may be missing. -/
def Fields.optional {α : Type} (fields : Fields) (name : String) (decode : Toml → Option α) :
    Option (Option α) :=
  match fields name with
  | none => some none
  | some value => (decode value).map some

def analysis? (value : Toml) : Option AnalysisSettings := do
  let fields ← fields?
    ["root_dir", "include_tests", "filter_package", "filter_name", "exclude_dirs"] value
  some
    { rootDir := ← fields.required "root_dir" text?
      includeTests := ← fields.required "include_tests" bool?
      filterPackage := ← fields.optional "filter_package" text?
      filterName := ← fields.optional "filter_name" text?
      excludeDirs := ← fields.required "exclude_dirs" texts? }

def validation? (value : Toml) : Option ValidationSettings := do
  let fields ← fields? ["max_depth", "max_fan_out", "check_signatures"] value
  some
    { maxDepth := ← fields.required "max_depth" nat?
      maxFanOut := ← fields.required "max_fan_out" nat?
      checkSignatures := ← fields.required "check_signatures" bool? }

def output? (value : Toml) : Option OutputSettings := do
  let fields ← fields? ["graph_file", "pretty"] value
  some
    { graphFile := ← fields.required "graph_file" text?
      pretty := ← fields.required "pretty" bool? }

/-- The settings of a document. -/
def parse? (text : String) : Option Settings := do
  let entries ← Toml.parse? text
  let fields : Fields := fun name => entries.lookup name
  some
    { analysis := ← fields.required "analysis" analysis?
      validation := ← fields.required "validation" validation?
      output := ← fields.required "output" output? }

end WorkflowGraph.Settings
