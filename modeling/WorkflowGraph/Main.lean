import WorkflowGraph.Command.Arguments
import WorkflowGraph.Command.Execute

/-!
# The program

Reads the files that a command needs, carries the command out, and writes what it left.
-/

namespace WorkflowGraph.Main

/-- How the program is used. -/
def helpText : String :=
  Text.joinWith "\n"
    ["Static analysis of Temporal workflows and activities in Go code",
     "",
     "Usage: temporal-analyzer [OPTIONS] <COMMAND>",
     "",
     "Commands:",
     "  init      Write a default configuration file",
     "  analyze   Build the workflow graph of a Go source tree",
     "  validate  Check a graph for orphans, cycles, deep chains and high fan-out",
     "  stats     Print the statistics of a saved graph",
     "  help      Print this message or the help of the given subcommand(s)",
     "",
     "Options:",
     "  -c, --config <CONFIG>  Path to configuration file",
     "  -v, --verbose          Enable verbose logging",
     "  -h, --help             Print help",
     "  -V, --version          Print version"]

/-- What is wrong with a command line. -/
def faultText : UsageFault → String
  | .help => helpText
  | .version => "temporal-analyzer 0.1.0"
  | .nothingGiven => helpText
  | .missingCommand => "error: a command is required but none was provided"
  | .unknownCommand => "error: unrecognized command"
  | .unknownOption => "error: unexpected argument found"
  | .badValue => "error: a value is required but none was supplied"
  | .unexpectedValue => "error: unexpected value found; no more were expected"
  | .missingOption => "error: a required argument was not provided"
  | .conflict => "error: an argument cannot be used with another one or multiple times"

def levelText : Level → String
  | .debug => "DEBUG"
  | .info => " INFO"
  | .warn => " WARN"

/-- The tree at a place of the disk, with directories of skipped names left out. -/
partial def readTree (skip : FileName → Bool) (place : String) : IO (Option FileTree) := do
  let path := System.mkFilePath [place]
  if ← path.isDir then
    let mut children := []
    for entry in ← path.readDir do
      let name := FileName.ofText entry.fileName
      let kind := (← entry.path.symlinkMetadata).type
      if kind matches .dir && skip name then continue
      if kind matches .dir || kind matches .file then
        if let some tree ← readTree skip (place ++ "/" ++ entry.fileName) then
          children := children ++ [(name, tree)]
      else children := children ++ [(name, .special)]
    return some (.directory children)
  else if ← path.pathExists then return some (.file (← IO.FS.readBinFile path))
  else return none

/-- The path of a place. -/
def placePath (place : List FileName) : String :=
  "/" ++ Text.joinWith "/" (place.map FileName.shown)

/-- The files with what is on the disk where a path leads to, and with the directories on the
way. -/
def addPath (skip : FileName → Bool) (files : Files) (path : String) : IO Files := do
  let place := files.placeOf path
  let mut files := files
  for length in List.range place.length do
    let inner := place.take length
    let onDisk := System.mkFilePath [placePath inner]
    if (files.root.get? inner).isNone then
      if ← onDisk.isDir then files := files.putAt inner (.directory [])
      else if ← onDisk.pathExists then return files.putAt inner (.file .empty)
      else return files
  match ← readTree skip (placePath place) with
  | some tree => return files.putAt place tree
  | none => return files

/-- Writes to the disk what a command left where a path leads to. -/
def store (files : Files) (path : String) : IO Unit := do
  match files.lookup path with
  | .ok (.file content) =>
    let place := files.placeOf path
    IO.FS.createDirAll (placePath place.dropLast)
    IO.FS.writeBinFile (placePath place) content
  | _ => pure ()

/-- Shows a failure with all that led to it. -/
def showFailure (failure : CommandFailure) : IO Unit := do
  match failure.texts with
  | [] => pure ()
  | first :: others =>
    IO.eprintln ("Error: " ++ first)
    if !others.isEmpty then
      IO.eprintln "\nCaused by:"
      for text in others do
        IO.eprintln ("    " ++ text)

/-- Carries out a command and gives the status with which the program ends. -/
def perform (invocation : Invocation) : IO UInt32 := do
  let workingDirectory := (← IO.currentDir).toString
  let start := Files.ofDirectory ((Path.parts workingDirectory).filter fun part => !part.isEmpty)
  let keep := fun (_ : FileName) => false
  let names := match invocation.config with
    | some path => [path]
    | none => Settings.fileNames
  let addNames (files : Files) : IO Files := names.foldlM (addPath keep) files
  let known ← addNames start
  let settings := match (Settings.loadOrDefault invocation.config { files := known }).1 with
    | .ok settings => settings
    | .error _ => {}
  let mut files := start
  if let some path := invocation.command.source? settings then
    files ← addPath settings.analysis.excludes files path
  files ← addNames files
  let target := invocation.command.target? files settings
  if let some path := target then
    if !files.exists path then files ← addPath keep files path
  let (result, state) := invocation.run { files }
  IO.println " INFO Starting temporal-analyzer v0.1.0"
  for message in state.session.messages do
    if invocation.isShown message then
      IO.println (levelText message.level ++ " " ++ message.text)
  if let some path := target then
    store state.files path
  match result with
  | .ok () => return 0
  | .error failure =>
    showFailure failure
    return 1

end WorkflowGraph.Main

open WorkflowGraph in
/-- Reads the command line and carries out the command. -/
def main (words : List String) : IO UInt32 := do
  match Arguments.parse words with
  | .ok invocation => Main.perform invocation
  | .error fault =>
    let text := Main.faultText fault
    if fault.exitStatus = 0 then IO.println text else IO.eprintln text
    return fault.exitStatus.toUInt32
