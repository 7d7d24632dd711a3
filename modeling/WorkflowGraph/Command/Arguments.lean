import WorkflowGraph.Command.Basic
import WorkflowGraph.Text.Split

/-!
# Command lines

A command line is a list of words: options for all commands, the name of a command, and options
of that command.  An option is written with one hyphen and a letter or with two hyphens and a
name; letters of flags can be put together, and a value can be attached to its option.

The options for all commands may stand before or after the name; if one of them stands on both
sides, the one after the name counts.  Otherwise an option may be given once, except for those
that collect values.
-/

namespace WorkflowGraph

/-- Why a command line is not carried out. -/
inductive UsageFault where
  /-- Help was asked for. -/
  | help
  /-- The version was asked for. -/
  | version
  /-- There is nothing on the command line. -/
  | nothingGiven
  /-- There are options but no command. -/
  | missingCommand
  | unknownCommand
  | unknownOption
  /-- A value is missing or is not allowed. -/
  | badValue
  /-- A value for an option that takes none. -/
  | unexpectedValue
  /-- An option needs another one. -/
  | missingOption
  /-- Two options that exclude each other, or one that was given twice. -/
  | conflict
deriving DecidableEq, Repr

/-- The status with which the program ends. -/
def UsageFault.exitStatus : UsageFault → Nat
  | help => 0
  | version => 0
  | _ => 2

/-- What an option does. -/
inductive OptionKind where
  /-- Takes a path, which must not be empty. -/
  | path
  /-- Takes a text. -/
  | text
  /-- Takes a text, as often as it is given. -/
  | texts
  | flag
  | help
  | version
deriving DecidableEq, Repr

/-- Whether an option has a value. -/
def OptionKind.takesValue : OptionKind → Bool
  | path => true
  | text => true
  | texts => true
  | _ => false

/-- An option: its name, its letter, and what it does. -/
structure OptionSpec where
  name : String
  letter : Option Char := none
  kind : OptionKind
deriving DecidableEq, Repr

namespace Arguments

/-! ## The options of every command -/

def configOption : OptionSpec := { name := "config", letter := some 'c', kind := .path }

def verboseOption : OptionSpec := { name := "verbose", letter := some 'v', kind := .flag }

def helpOption : OptionSpec := { name := "help", letter := some 'h', kind := .help }

def versionOption : OptionSpec := { name := "version", letter := some 'V', kind := .version }

/-- The options of every command. -/
def commonOptions : List OptionSpec := [configOption, verboseOption, helpOption]

def pathOption : OptionSpec := { name := "path", letter := some 'p', kind := .path }

def forceOption : OptionSpec := { name := "force", kind := .flag }

def sourceOption : OptionSpec := { name := "source", letter := some 's', kind := .path }

def outputOption : OptionSpec := { name := "output", letter := some 'o', kind := .path }

def testsOption : OptionSpec := { name := "include-tests", kind := .flag }

def packageOption : OptionSpec := { name := "filter-package", kind := .text }

def nameOption : OptionSpec := { name := "filter-name", kind := .text }

def excludeOption : OptionSpec := { name := "exclude", kind := .texts }

def validateOption : OptionSpec := { name := "validate", kind := .flag }

def strictOption : OptionSpec := { name := "strict", kind := .flag }

def graphOption : OptionSpec := { name := "graph", letter := some 'g', kind := .path }

/-- The names of the commands and their own options. -/
def commands : List (String × List OptionSpec) :=
  [("init", [pathOption, forceOption]),
   ("analyze",
    [sourceOption, outputOption, testsOption, packageOption, nameOption, excludeOption,
     validateOption, strictOption]),
   ("validate", [graphOption, sourceOption, strictOption]),
   ("stats", [graphOption])]

/-- The names of the commands; one of them tells how the others are used. -/
def commandNames : List String := commands.map Prod.fst ++ ["help"]

/-! ## Reading options -/

/-- The options that were given, with their values. -/
structure Given where
  found : List (OptionSpec × List String) := []
  /-- The option that was read last, if its value is not settled yet. -/
  pending : Option (OptionSpec × Option String) := none
  /-- Whether two hyphens have ended the options. -/
  ended : Bool := false
deriving DecidableEq, Repr

namespace Given

def has (given : Given) (spec : OptionSpec) : Bool :=
  given.found.any fun entry => entry.1 = spec

/-- The values of an option. -/
def values (given : Given) (spec : OptionSpec) : List String :=
  (given.found.lookup spec).getD []

def value? (given : Given) (spec : OptionSpec) : Option String := (given.values spec).head?

/-- Whether the next word is the value of an option. -/
def awaitsValue (given : Given) : Bool :=
  match given.pending with
  | some (_, none) => true
  | _ => false

/-- Adds a value of an option that may be given several times. -/
def collect (given : Given) (spec : OptionSpec) (value : String) : Given :=
  { given with
    found := given.found.filter (fun entry => entry.1 ≠ spec) ++
      [(spec, given.values spec ++ [value])] }

/-- Settles the value of an option. -/
def settleValue (given : Given) (spec : OptionSpec) (value : String) : Except UsageFault Given :=
  if spec.kind = .texts then .ok (given.collect spec value)
  else if given.has spec then .error .conflict
  else if spec.kind = .path && value.isEmpty then .error .badValue
  else .ok { given with found := given.found ++ [(spec, [value])] }

/-- Settles the option that was read last. -/
def settle (given : Given) : Except UsageFault Given :=
  match given.pending with
  | none => .ok given
  | some (_, none) => .error .badValue
  | some (spec, some value) => { given with pending := none }.settleValue spec value

/-- Takes an option without a value. -/
def takeFlag (given : Given) (spec : OptionSpec) : Except UsageFault Given := do
  let given ← given.settle
  match spec.kind with
  | .help => .error .help
  | .version => .error .version
  | _ =>
    if given.has spec then .error .conflict
    else .ok { given with found := given.found ++ [(spec, [])] }

/-- Takes an option with the value that is attached to it, or waits for its value. -/
def takeValue (given : Given) (spec : OptionSpec) (attached : Option String) :
    Except UsageFault Given := do
  let given ← given.settle
  match attached with
  | some value => given.settleValue spec value
  | none => .ok { given with pending := some (spec, none) }

end Given

/-- An option with two hyphens, without them. -/
def takeLong (options : List OptionSpec) (given : Given) (word : List Char) :
    Except UsageFault Given :=
  let (name, attached) := match Text.cutFirst '=' word with
    | none => (word, none)
    | some (name, value) => (name, some (String.ofList value))
  match options.find? fun spec => spec.name == String.ofList name with
  | none => .error .unknownOption
  | some spec =>
    if spec.kind.takesValue then given.takeValue spec attached
    else if attached.isSome then .error .unexpectedValue
    else given.takeFlag spec

/-- The value that is attached to the letter of an option. -/
def attachedValue : List Char → Option String
  | [] => none
  | '=' :: value => some (String.ofList value)
  | value => some (String.ofList value)

/-- Letters of options after one hyphen. -/
def takeLetters (options : List OptionSpec) (given : Given) : List Char → Except UsageFault Given
  | [] => .ok given
  | letter :: rest =>
    match options.find? fun spec => spec.letter == some letter with
    | none => .error .unknownOption
    | some spec =>
      if spec.kind.takesValue then given.takeValue spec (attachedValue rest)
      else
        match given.takeFlag spec with
        | .error fault => .error fault
        | .ok given => takeLetters options given rest

/-- What a word that is no option and no value means: the name of a command, or nothing. -/
def strayWord (names : List String) (given : Given) (word : String) : UsageFault :=
  if names.isEmpty then .unknownOption
  else if given.ended && names.contains word then .unknownOption
  else .unknownCommand

/-- Reads options up to the name of a command, or to the end: what was given, and the name with
the words after it. -/
def readOptions (options : List OptionSpec) (names : List String) :
    Given → List String → Except UsageFault (Given × Option (String × List String))
  | given, [] => .ok (given, none)
  | given, word :: words =>
    if given.ended then .error (strayWord names given word)
    else if !given.awaitsValue && names.contains word then .ok (given, some (word, words))
    else if word = "--" then readOptions options names { given with ended := true } words
    else
      match word.toList with
      | '-' :: '-' :: name =>
        match takeLong options given name with
        | .error fault => .error fault
        | .ok given => readOptions options names given words
      | '-' :: letter :: letters =>
        match takeLetters options given (letter :: letters) with
        | .error fault => .error fault
        | .ok given => readOptions options names given words
      | _ =>
        match given.pending with
        | some (spec, none) =>
          readOptions options names { given with pending := some (spec, some word) } words
        | _ => .error (strayWord names given word)

/-! ## Commands -/

/-- The command with the given name and options. -/
def command (name : String) (given : Given) : Command :=
  if name = "init" then .init (given.value? pathOption) (given.has forceOption)
  else if name = "analyze" then
    .analyze
      { source := given.value? sourceOption
        output := given.value? outputOption
        includeTests := given.has testsOption
        filterPackage := given.value? packageOption
        filterName := given.value? nameOption
        excludeDirs := given.values excludeOption
        validate := given.has validateOption
        strict := given.has strictOption }
  else if name = "validate" then
    .validate (given.value? graphOption) (given.value? sourceOption) (given.has strictOption)
  else .stats (given.value? graphOption)

/-- Options that exclude each other or need one another. -/
def checkTogether (name : String) (given : Given) : Except UsageFault Unit :=
  if name = "validate" && given.has graphOption && given.has sourceOption then .error .conflict
  else if name = "analyze" && given.has strictOption && !given.has validateOption then
    .error .missingOption
  else .ok ()

/-- The words after a command, all of which must belong to it. -/
def readCommand (name : String) (words : List String) : Except UsageFault Given := do
  let options := (commands.lookup name).getD [] ++ commonOptions
  let (given, _) ← readOptions options [] {} words
  let given ← given.settle
  checkTogether name given
  .ok given

/-- What help is asked for: all of it, or the help for one command. -/
def readHelp : List String → UsageFault
  | [] => .help
  | [name] => if commandNames.contains name then .help else .unknownCommand
  | _ => .unknownCommand

/-- Reads a command line, without the name of the program. -/
def parse (words : List String) : Except UsageFault Invocation := do
  let (given, found) ← readOptions (versionOption :: commonOptions) commandNames {} words
  match found with
  | none =>
    let given ← given.settle
    if given.found.isEmpty then .error .nothingGiven else .error .missingCommand
  | some (name, words) =>
    if name = "help" then .error (readHelp words)
    else
      let own ← readCommand name words
      let given ← given.settle
      .ok
        { config := (own.value? configOption).or (given.value? configOption)
          verbose := own.has verboseOption || given.has verboseOption
          command := command name own }

end Arguments

end WorkflowGraph
